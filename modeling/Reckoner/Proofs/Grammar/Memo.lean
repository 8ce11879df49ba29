import Reckoner.Proofs.Grammar.Calls

/-!
# The memo is right

The parser finds the longest match of every rule (`parseRule_yields`): whatever the memo holds when
a rule is called, if its notes below the level of the call are longest matches, then the result is
the longest match, and the notes below that level still are.  Notes at or above the level do not
matter and are not touched.  These are the notes of the rules that are still being tried, whose
seeds are not final: no rule that such a rule calls ever looks at them.

The same statement says when the parser gives up: never, if it may nest as deep as the calls go
(`parseRule_yields_of_reaches`), and so never if it may nest as deep as the level of the rule it
starts with.
-/

namespace Reckoner.Grammar

/-! ## Steps that keep the memo right -/

/-- The memo's notes below a level are longest matches, and from that level on it holds what it
held at the start. -/
structure Keeps (tokens : Array Token) (n : Nat) (start memo : Memo) : Prop where
  faithful : ∀ rule pos found, level tokens rule pos < n → memo[(pos, rule)]? = some found →
    found = longest tokens rule pos
  same : ∀ rule pos, n ≤ level tokens rule pos → memo[(pos, rule)]? = start[(pos, rule)]?

/-- The end of a step satisfies a condition.  There is no end only if the step may not nest deep
enough. -/
def Ends {α : Type} (enough : Prop) (post : α → Memo → Prop) : Option (α × Memo) → Prop
  | none => ¬enough
  | some (r, memo) => post r memo

/-- From a memo that is right below a level, a step comes to the given result and leaves such a
memo. -/
def Yields {α : Type} (tokens : Array Token) (n : Nat) (start : Memo) (enough : Prop)
    (step : Parse α) (result : α) : Prop :=
  ∀ memo, Keeps tokens n start memo →
    Ends enough (fun r memo' => r = result ∧ Keeps tokens n start memo') (step.run memo)

section
variable {α β : Type} {tokens : Array Token} {n : Nat} {start : Memo} {enough : Prop}

theorem Ends.imp {post post' : α → Memo → Prop} {out : Option (α × Memo)}
    (h : Ends enough post out) (himp : ∀ r memo, post r memo → post' r memo) :
    Ends enough post' out := by
  cases out with
  | none => exact h
  | some out => exact himp out.1 out.2 h

theorem Ends.mono {post : α → Memo → Prop} {out : Option (α × Memo)} {enough' : Prop}
    (himp : enough → enough') (h : Ends enough' post out) : Ends enough post out := by
  cases out with
  | none => exact fun he => h (himp he)
  | some out => exact h

theorem Ends.bind {post : α → Memo → Prop} {post' : β → Memo → Prop} {out : Option (α × Memo)}
    {next : α × Memo → Option (β × Memo)} (h : Ends enough post out)
    (h' : ∀ r memo, post r memo → Ends enough post' (next (r, memo))) :
    Ends enough post' (out.bind next) := by
  cases out with
  | none => exact h
  | some out => exact h' out.1 out.2 h

theorem Yields.pure (a : α) : Yields tokens n start enough (Pure.pure a) a := by
  intro memo hm
  exact ⟨rfl, hm⟩

theorem Yields.bind {first : Parse α} {next : α → Parse β} {a : α} {b : β}
    (h : Yields tokens n start enough first a) (h' : Yields tokens n start enough (next a) b) :
    Yields tokens n start enough (first >>= next) b := by
  intro memo hm
  rw [StateT.run_bind]
  refine (h memo hm).bind ?_
  rintro r memo' ⟨rfl, hm'⟩
  exact h' memo' hm'

theorem Yields.mono {step : Parse α} {a : α} {enough' : Prop} (himp : enough → enough')
    (h : Yields tokens n start enough' step a) : Yields tokens n start enough step a :=
  fun memo hm => (h memo hm).mono himp

/-- The second step matters only when the first finds nothing. -/
theorem Yields.orElse {first second : Parse (Option Found)} {a b : Option Found}
    (h : Yields tokens n start enough first a)
    (h' : a = none → Yields tokens n start enough second b) :
    Yields tokens n start enough (first.orElse second) (a.or b) := by
  unfold Parse.orElse
  refine h.bind ?_
  cases a with
  | none => exact h' rfl
  | some found => exact .pure _

end

/-! ## The bodies of the rules -/

section
variable {tokens : Array Token} {start : Memo} {enough : Prop} {n pos : Nat}
  {call : Rule → Nat → Parse (Option Found)}

theorem joined_yields {op : Operator} {left : Found} {rule : Rule}
    (h : Yields tokens n start enough (call rule (left.stop + 1))
      (longest tokens rule (left.stop + 1))) :
    Yields tokens n start enough (joined call op left rule)
      (operand? (longest tokens) op left rule) :=
  h.bind (.pure _)

theorem negationBody_yields
    (h : tokens[pos]? = some .minus →
      Yields tokens n start enough (call .term (pos + 1)) (longest tokens .term (pos + 1))) :
    Yields tokens n start enough (negationBody tokens call pos)
      (negation? tokens (longest tokens) pos) := by
  unfold negationBody negation?
  split
  · next hminus => exact (h hminus).bind (.pure _)
  · exact .pure _

theorem parenthesisBody_yields
    (h : tokens[pos]? = some .parenOpen → Yields tokens n start enough (call .expression (pos + 1))
      (longest tokens .expression (pos + 1))) :
    Yields tokens n start enough (parenthesisBody tokens call pos)
      (parenthesis? tokens (longest tokens) pos) := by
  unfold parenthesisBody parenthesis?
  split
  · next hopen =>
    refine (h hopen).bind ?_
    cases longest tokens .expression (pos + 1) with
    | none => exact .pure _
    | some inner => exact .pure _
  · exact .pure _

/-- A body comes to the continuation of the match noted for its own rule, or else to an opening,
if the rules it calls come to their longest matches and the rule itself to its note. -/
theorem body_yields {rule : Rule} (last : Option Found)
    (hcall : ∀ r p, Calls tokens rule pos r p →
      Yields tokens n start enough (call r p) (longest tokens r p))
    (hself : rule.isLeftRecursive → Yields tokens n start enough (call rule pos) last)
    (hright : rule.isLeftRecursive = false → last = none)
    (hlast : ∀ left ∈ last, Grown tokens rule pos left) :
    Yields tokens n start enough (body tokens call pos rule)
      ((last.bind (continuation? tokens (longest tokens) rule)).or
        (opening? tokens (longest tokens) rule pos)) := by
  cases rule with
  | expression =>
    refine .orElse ((hself rfl).bind ?_)
      fun _ => .orElse (negationBody_yields fun h => hcall _ _ (.negation h))
        fun h => hcall _ _ (.ofTerm h)
    cases last with
    | none => exact .pure _
    | some left =>
      simp only [Option.bind_some, continuation?]
      cases hop : additive? tokens[left.stop]? with
      | none => exact .pure _
      | some op => exact joined_yields (hcall _ _ (.sum (hlast left rfl) (by simp [hop])))
  | term =>
    refine .orElse ((hself rfl).bind ?_) fun _ => hcall _ _ .ofExponent
    cases last with
    | none => exact .pure _
    | some left =>
      simp only [Option.bind_some, continuation?]
      cases hop : multiplicative? tokens[left.stop]? with
      | none => exact .pure _
      | some op => exact joined_yields (hcall _ _ (.product (hlast left rfl) (by simp [hop])))
  | exponent =>
    rw [hright rfl]
    refine (hcall _ _ .ofAtom).bind ?_
    simp only [Option.bind_none, Option.none_or, opening?]
    cases hbase : longest tokens .atom pos with
    | none => exact .pure _
    | some base =>
      simp only [Option.bind_some, powerOf]
      split
      · next hcaret =>
        exact .orElse (joined_yields (hcall _ _ (.power hbase hcaret))) fun _ => .pure _
      · exact .pure _
  | atom =>
    rw [hright rfl]
    simp only [Option.bind_none, Option.none_or, opening?]
    exact .orElse (parenthesisBody_yields fun h => hcall _ _ (.parentheses h))
      fun _ => .orElse (hcall _ _ .ofMerge) fun _ => .pure _
  | merge => exact .orElse ((hself rfl).bind (.pure _)) fun _ => .pure _

end

/-! ## Growing a seed -/

section
variable {tokens : Array Token} {rule : Rule} {pos : Nat}

/-- A match from which the continuation of the opening goes on to the longest match.  The opening
is no longer than it, so trying the rule again without a continuation does not help. -/
structure Seed (tokens : Array Token) (rule : Rule) (pos : Nat) (left : Found) : Prop where
  within : left.Within tokens pos
  opened : ∃ first, opening? tokens (longest tokens) rule pos = some first ∧
    first.stop ≤ left.stop
  result : longest tokens rule pos =
    some (longestRun tokens.size (continuation? tokens (longest tokens) rule) left)

theorem Seed.of_opening {first : Found} (hpos : pos < tokens.size)
    (h : opening? tokens (longest tokens) rule pos = some first) :
    Seed tokens rule pos first where
  within := opening?_within (longest_bounds tokens) h
  opened := ⟨first, h, Nat.le_refl _⟩
  result := by rw [longest_eq rule hpos, h, Option.map_some]

theorem Seed.continued {left next : Found} (h : Seed tokens rule pos left)
    (hnext : continuation? tokens (longest tokens) rule left = some next) :
    left.stop < next.stop ∧ Seed tokens rule pos next := by
  have hw := continuation?_within (longest_bounds tokens) hnext
  obtain ⟨first, hfirst, hle⟩ := h.opened
  refine ⟨hw.1, hw.mono (Nat.le_of_lt h.within.1), ⟨first, hfirst, Nat.le_of_lt
    (Nat.lt_of_le_of_lt hle hw.1)⟩, ?_⟩
  rw [h.result, longestRun_of_some hnext hw.1 hw.2]

/-- What a rule has noted for itself is a seed. -/
theorem Grown.seed {left : Found} (h : Grown tokens rule pos left) (hpos : pos < tokens.size) :
    Seed tokens rule pos left := by
  induction h with
  | opening hfirst => exact .of_opening hpos hfirst
  | continued _ hnext ih => exact (ih.continued hnext).2

theorem Seed.longest_eq {left : Found} (h : Seed tokens rule pos left)
    (hnone : continuation? tokens (longest tokens) rule left = none) :
    longest tokens rule pos = some left := by
  rw [h.result, longestRun_of_none hnone]

/-- A rule that does not start with itself is its opening. -/
theorem longest_eq_opening? (hpos : pos < tokens.size) (h : rule.isLeftRecursive = false) :
    longest tokens rule pos = opening? tokens (longest tokens) rule pos := by
  rw [longest_eq rule hpos]
  cases opening? tokens (longest tokens) rule pos with
  | none => rfl
  | some first =>
    rw [Option.map_some, longestRun_of_none]
    cases rule <;> first | rfl | cases h

/-! ### Notes of the rule being tried -/

/-- A rule has come to its longest match.  The match is noted, no other note of the rule's level or
above has changed, and the notes below are right. -/
structure Settles (tokens : Array Token) (rule : Rule) (pos : Nat) (memo : Memo)
    (found : Option Found) (memo' : Memo) : Prop where
  result : found = longest tokens rule pos
  keeps : Keeps tokens (level tokens rule pos) (memo.insert (pos, rule) found) memo'

theorem key_ne {rule' : Rule} {pos' : Nat}
    (h : level tokens rule pos ≠ level tokens rule' pos') :
    ((pos, rule) == (pos', rule')) = false := by
  rw [beq_eq_false_iff_ne]
  rintro ⟨⟩
  exact h rfl

/-- A memo that is right below a level stays so when a rule of that level is noted. -/
theorem Keeps.note {start memo : Memo} (found : Option Found)
    (h : Keeps tokens (level tokens rule pos) start memo) :
    Keeps tokens (level tokens rule pos) (start.insert (pos, rule) found)
      (memo.insert (pos, rule) found) where
  faithful := by
    intro r p noted hlt hnoted
    rw [Std.HashMap.getElem?_insert, key_ne (Nat.ne_of_gt hlt)] at hnoted
    exact h.faithful r p noted hlt hnoted
  same := by
    intro r p hle
    rw [Std.HashMap.getElem?_insert, Std.HashMap.getElem?_insert, h.same r p hle]

/-- Noting what is noted already changes nothing. -/
theorem Keeps.noted {start memo : Memo} {last : Option Found}
    (h : Keeps tokens (level tokens rule pos) start memo)
    (hnoted : start[(pos, rule)]? = some last) :
    Keeps tokens (level tokens rule pos) (start.insert (pos, rule) last) memo where
  faithful := h.faithful
  same := by
    intro r p hle
    rw [h.same r p hle, Std.HashMap.getElem?_insert]
    split
    · next heq =>
      rw [← eq_of_beq heq]
      exact hnoted
    · rfl

/-- A rule that settles after a note of its own or after steps below its level settles. -/
theorem Settles.after {start memo memo' : Memo} {found noted : Option Found}
    (h : Keeps tokens (level tokens rule pos) start memo)
    (h' : Settles tokens rule pos (memo.insert (pos, rule) noted) found memo') :
    Settles tokens rule pos start found memo' where
  result := h'.result
  keeps :=
    { faithful := h'.keeps.faithful
      same := by
        intro r p hle
        rw [h'.keeps.same r p hle]
        simp only [Std.HashMap.getElem?_insert, h.same r p hle]
        split <;> rfl }

/-- Growing a seed settles the rule. -/
theorem grow_settles {step : Parse (Option Found)} {enough : Prop} (hpos : pos < tokens.size)
    (hstep : ∀ last start, start[(pos, rule)]? = some last →
      (∀ left ∈ last, Grown tokens rule pos left) →
      Yields tokens (level tokens rule pos) start enough step
        ((last.bind (continuation? tokens (longest tokens) rule)).or
          (opening? tokens (longest tokens) rule pos)))
    (tries : Nat) (last : Option Found) (memo : Memo)
    (hmemo : Keeps tokens (level tokens rule pos) memo memo)
    (hnoted : memo[(pos, rule)]? = some last)
    (hlast : ∀ left ∈ last, Grown tokens rule pos left)
    (htries : tokens.size < tries + last.elim 0 Found.stop) :
    Ends enough (Settles tokens rule pos memo) ((grow step (pos, rule) tries last).run memo) := by
  induction tries generalizing last memo with
  | zero =>
    -- a match ends within the tokens, so the tries have not run out
    cases last with
    | none => exact absurd htries (by simp)
    | some left =>
      have hle := (hlast left rfl).within.2
      simp only [Option.elim_some] at htries
      omega
  | succ tries ih =>
    rw [grow, StateT.run_bind]
    refine (hstep last memo hnoted hlast memo hmemo).bind ?_
    rintro found memo₁ ⟨rfl, hkeep⟩
    have hstop (hresult : last = longest tokens rule pos) :
        Settles tokens rule pos memo last memo₁ := ⟨hresult, hkeep.noted hnoted⟩
    have hgrow (next : Found) (hnext : Grown tokens rule pos next)
        (hlt : last.elim 0 Found.stop < next.stop) :
        Ends enough (Settles tokens rule pos memo) ((grow step (pos, rule) tries (some next)).run
          (memo₁.insert (pos, rule) (some next))) := by
      refine (ih (some next) _ ?_ Std.HashMap.getElem?_insert_self ?_ ?_).imp
        fun _ _ h => h.after hkeep
      · exact Keeps.note (some next) ⟨hkeep.faithful, fun _ _ _ => rfl⟩
      · rintro left ⟨⟩
        exact hnext
      · simp only [Option.elim_some]
        omega
    cases last with
    | none =>
      cases hopen : opening? tokens (longest tokens) rule pos with
      | none => exact hstop (by rw [longest_eq rule hpos, hopen, Option.map_none])
      | some first =>
        have hfirst : Grown tokens rule pos first := .opening hopen
        exact hgrow first hfirst (Nat.zero_lt_of_lt hfirst.within.1)
    | some left =>
      have hleft := (hlast left rfl).seed hpos
      cases hcont : continuation? tokens (longest tokens) rule left with
      | none =>
        obtain ⟨first, hfirst, hle⟩ := hleft.opened
        simp only [Option.bind_some, hcont, Option.none_or, hfirst, Option.any_some,
          decide_eq_true hle, if_true]
        exact hstop (hleft.longest_eq hcont).symm
      | some next =>
        obtain ⟨hlt, -⟩ := hleft.continued hcont
        simp only [Option.bind_some, hcont, Option.some_or, Option.any_some,
          decide_eq_false (Nat.not_le.2 hlt), Bool.false_eq_true, if_false]
        exact hgrow next (.continued (hlast left rfl) hcont) hlt

end

/-! ## Rules -/

section
variable {tokens : Array Token} {rule : Rule} {pos n : Nat} {start : Memo}

/-- A call of a rule: its note if there is one; else the body, tried until its match stops growing
or once. -/
theorem parseRule_run (depth : Nat) (hpos : pos < tokens.size) (memo : Memo) :
    (parseRule tokens (depth + 1) rule pos).run memo =
      match memo[(pos, rule)]? with
      | some noted => some (noted, memo)
      | none =>
        let step := body tokens (parseRule tokens depth) pos rule
        if rule.isLeftRecursive then
          (grow step (pos, rule) (tokens.size + 1) none).run (memo.insert (pos, rule) none)
        else (step.run memo).bind fun out => some (out.1, out.2.insert (pos, rule) out.1) := by
  rw [parseRule, if_neg (Nat.not_le.2 hpos), StateT.run_bind, StateT.run_get]
  simp only [pure, Option.bind_eq_bind, Option.bind_some]
  cases memo[(pos, rule)]? with
  | some noted => rfl
  | none =>
    simp only
    split
    · rfl
    · rfl

/-- A rule that is noted comes to its note. -/
theorem parseRule_noted {found : Option Found} (depth : Nat) (hpos : pos < tokens.size)
    (hn : n ≤ level tokens rule pos) (h : start[(pos, rule)]? = some found) :
    Yields tokens n start (0 < depth) (parseRule tokens depth rule pos) found := by
  intro memo hm
  cases depth with
  | zero => exact Nat.lt_irrefl 0
  | succ depth =>
    rw [parseRule_run depth hpos, hm.same rule pos hn, h]
    exact ⟨rfl, hm⟩

/-- A memo that is right below a level is right below any lower one. -/
theorem Keeps.lower {memo : Memo} (hn : level tokens rule pos < n) (h : Keeps tokens n start memo) :
    Keeps tokens (level tokens rule pos) memo memo where
  faithful := fun r p found hlt => h.faithful r p found (Nat.lt_trans hlt hn)
  same := fun _ _ _ => rfl

/-- When a rule settles, the memo is right below any higher level below which it was. -/
theorem Settles.keeps_above {memo memo' : Memo} {found : Option Found}
    (h : Settles tokens rule pos memo found memo') (hn : level tokens rule pos < n)
    (hm : Keeps tokens n start memo) : Keeps tokens n start memo' where
  faithful := by
    intro r p noted hlt hnoted
    rcases Nat.lt_or_ge (level tokens r p) (level tokens rule pos) with hbelow | habove
    · exact h.keeps.faithful r p noted hbelow hnoted
    · rw [h.keeps.same r p habove, Std.HashMap.getElem?_insert] at hnoted
      split at hnoted
      · next heq =>
        cases eq_of_beq heq
        rw [← Option.some.inj hnoted, h.result]
      · exact hm.faithful r p noted hlt hnoted
  same := by
    intro r p hle
    have hlt : level tokens rule pos < level tokens r p := Nat.lt_of_lt_of_le hn hle
    rw [h.keeps.same r p (Nat.le_of_lt hlt), Std.HashMap.getElem?_insert, key_ne (Nat.ne_of_lt hlt)]
    exact hm.same r p hle

/-- The parser finds the longest match of every rule, and gives up only if it may not nest as deep
as the calls of the rule go. -/
theorem parseRule_yields_of_reaches (depth : Nat) (hn : level tokens rule pos < n) :
    Yields tokens n start (Reaches tokens depth rule pos) (parseRule tokens depth rule pos)
      (longest tokens rule pos) := by
  induction depth generalizing rule pos n start with
  | zero =>
    intro memo _
    exact id
  | succ depth ih =>
    intro memo hm
    rcases Nat.lt_or_ge pos tokens.size with hpos | hsize
    case inr =>
      rw [parseRule, if_pos hsize]
      exact ⟨(longest_of_size_le rule hsize).symm, hm⟩
    rw [parseRule_run depth hpos]
    cases hnoted : memo[(pos, rule)]? with
    | some found => exact ⟨hm.faithful rule pos found hn hnoted, hm⟩
    | none =>
      have hbelow := hm.lower hn
      have hcall (start' : Memo) (r : Rule) (p : Nat) (h : Calls tokens rule pos r p) :
          Yields tokens (level tokens rule pos) start' (Reaches tokens (depth + 1) rule pos)
            (parseRule tokens depth r p) (longest tokens r p) :=
        (ih (h.level_lt hpos)).mono fun henough => (henough hpos).2 r p h
      suffices hsettles : Ends (Reaches tokens (depth + 1) rule pos)
          (Settles tokens rule pos memo) _ from
        hsettles.imp fun _ _ h => ⟨h.result, h.keeps_above hn hm⟩
      cases hrec : rule.isLeftRecursive with
      | true =>
        -- while the seed grows, the rule finds its own note and no other rule looks at it
        refine (grow_settles hpos ?_ (tokens.size + 1) none _ (hbelow.note none)
          Std.HashMap.getElem?_insert_self (fun _ h => by cases h) (Nat.lt_succ_self _)).imp
            fun _ _ h => h.after hbelow
        intro last start' hstart hlast
        refine body_yields last (hcall start') (fun _ => ?_) (fun h => ?_) hlast
        · exact (parseRule_noted depth hpos (Nat.le_refl _) hstart).mono fun henough =>
            (henough hpos).1 hrec
        · rw [hrec] at h
          cases h
      | false =>
        refine (body_yields none (hcall memo) (fun h => ?_) (fun _ => rfl)
          (fun _ h => by cases h) memo hbelow).bind ?_
        · rw [hrec] at h
          cases h
        · rintro found memo' ⟨rfl, hkeep⟩
          exact ⟨(longest_eq_opening? hpos hrec).symm, hkeep.note _⟩

/-- The parser finds the longest match of every rule, and gives up only if it may not nest as deep
as the level of the rule. -/
theorem parseRule_yields (depth : Nat) (hn : level tokens rule pos < n) :
    Yields tokens n start (level tokens rule pos < depth) (parseRule tokens depth rule pos)
      (longest tokens rule pos) :=
  (parseRule_yields_of_reaches depth hn).mono reaches_of_level_lt

end

/-! ## Whole texts -/

/-- A memo without notes is right. -/
theorem Keeps.empty (tokens : Array Token) (n : Nat) : Keeps tokens n {} {} :=
  ⟨fun _ _ _ _ h => by simp at h, fun _ _ _ => rfl⟩

/-- Parsing is finding the longest expression at the start.  It gives up only if the calls go deeper
than the limit. -/
theorem parseWithin_eq_or (limit : Nat) (tokens : Array Token) :
    (parseWithin limit tokens = .tooDeep ∧ ¬Reaches tokens limit .expression 0) ∨
      parseWithin limit tokens = outcomeOf tokens (longest tokens .expression 0) := by
  have hrule := parseRule_yields_of_reaches limit (Nat.lt_succ_self (level tokens .expression 0)) {}
    (Keeps.empty tokens _)
  unfold parseWithin
  cases hrun : (parseRule tokens limit .expression 0).run {} with
  | none =>
    rw [hrun] at hrule
    exact .inl ⟨rfl, hrule⟩
  | some out =>
    rw [hrun] at hrule
    refine .inr ?_
    rw [← hrule.1]

/-- Parsing is finding the longest expression at the start, unless the rules nest too deep. -/
theorem parseWithin_eq (limit : Nat) (tokens : Array Token) :
    (parseWithin limit tokens = .tooDeep ∧ limit ≤ level tokens .expression 0) ∨
      parseWithin limit tokens = outcomeOf tokens (longest tokens .expression 0) :=
  (parseWithin_eq_or limit tokens).imp_left fun ⟨hdeep, hreaches⟩ =>
    ⟨hdeep, Nat.not_lt.1 (mt reaches_of_level_lt hreaches)⟩

/-- Few tokens cannot make the rules nest too deep. -/
theorem parseWithin_eq_longest {limit : Nat} {tokens : Array Token}
    (h : level tokens .expression 0 < limit) :
    parseWithin limit tokens = outcomeOf tokens (longest tokens .expression 0) :=
  (parseWithin_eq limit tokens).resolve_left fun hdeep => Nat.not_lt.2 hdeep.2 h

end Reckoner.Grammar
