import Reckoner.Proofs.Grammar.Derivation

/-!
# The parser loses no derivation

A derivation is found (`longest_of_derives`) unless the token that follows is drawn into a part of
it.  How firmly a token is drawn to what stands before it is its *looseness*: units and numbers are
drawn to a number or a chain of quantities, a caret to an atom, and so on up to the signs of a sum,
which only an expression takes.  In a derivation every token is bound no tighter than the rule it
follows, so the order of the alternatives and the greed of the runs lose nothing, and tokens have at
most one tree.
-/

namespace Reckoner.Grammar

/-! ## What a token is drawn to -/

/-- How loosely a token is bound to what stands before it.  A rule's match may be followed by a
token that is bound no tighter than the rule, without the token being drawn into a part of it. -/
def followLooseness : Option Token → Nat
  | some (.integer _) | some (.float _) | some (.unit _) | some (.currency _) => 0
  | some .caret => 1
  | some .star | some .slash | some .to => 3
  | some .plus | some .minus => 4
  | _ => 5

theorem SumSign.followLooseness {t : Token} {op : Operator} (h : SumSign t op) :
    followLooseness (some t) = 4 := by
  cases h <;> rfl

theorem ProductSign.followLooseness {t : Token} {op : Operator} (h : ProductSign t op) :
    followLooseness (some t) = 3 := by
  cases h <;> rfl

theorem additive?_eq_none {t : Option Token} (h : 4 < followLooseness t) : additive? t = none := by
  unfold additive?
  split
  · exact absurd h (by decide)
  · exact absurd h (by decide)
  · rfl

theorem multiplicative?_eq_none {t : Option Token} (h : 3 < followLooseness t) :
    multiplicative? t = none := by
  unfold multiplicative?
  split
  · exact absurd h (by decide)
  · exact absurd h (by decide)
  · rfl

theorem ne_of_followLooseness {t : Option Token} {token : Token}
    (h : followLooseness (some token) < followLooseness t) : t ≠ some token := by
  rintro rfl
  exact Nat.lt_irrefl _ h

theorem number?_eq_none {t : Option Token} (h : 0 < followLooseness t) : number? t = none := by
  unfold number?
  split
  · exact absurd h (Nat.lt_irrefl 0)
  · exact absurd h (Nat.lt_irrefl 0)
  · rfl

theorem unit?_eq_none {t : Option Token} (h : 0 < followLooseness t) : unit? t = none := by
  unfold unit?
  split
  · exact absurd h (Nat.lt_irrefl 0)
  · exact absurd h (Nat.lt_irrefl 0)
  · rfl

theorem quantity?_eq_none {tokens : Array Token} {pos : Nat}
    (h : number? tokens[pos]? = none ∨ unit? tokens[pos + 1]? = none) :
    quantity? tokens pos = none := by
  rw [Option.eq_none_iff_forall_ne_some]
  intro q hq
  obtain ⟨x, u, hx, hu, _⟩ := quantity?_eq_some.1 hq
  rcases h with h | h
  · rw [h] at hx
    cases hx
  · rw [h] at hu
    cases hu

/-- A match is not continued by a token that is bound more loosely than its rule. -/
theorem continuation?_eq_none {tokens : Array Token} {table : Rule → Nat → Option Found}
    {rule : Rule} {left : Found} (h : rule.looseness < followLooseness tokens[left.stop]?) :
    continuation? tokens table rule left = none := by
  cases rule with
  | expression => simp only [continuation?, additive?_eq_none h, Option.bind_none]
  | term =>
    have hto : tokens[left.stop]? ≠ some .to := ne_of_followLooseness h
    simp only [continuation?, multiplicative?_eq_none h, if_neg hto]
  | merge => simp only [continuation?, extended?, quantity?_eq_none (.inl (number?_eq_none h))]
  | exponent => rfl
  | atom => rfl

/-! ## Positions -/

/-- From a position on, the tokens are the given ones. -/
def Ahead (tokens : Array Token) (pos : Nat) (ts : List Token) : Prop :=
  tokens.toList.drop pos = ts

section
variable {tokens : Array Token} {pos : Nat} {ts rest : List Token}

theorem Ahead.getElem? (h : Ahead tokens pos ts) (i : Nat) : tokens[pos + i]? = ts[i]? := by
  rw [← h, List.getElem?_drop, Array.getElem?_toList]

theorem Ahead.head? (h : Ahead tokens pos ts) : tokens[pos]? = ts.head? := by
  rw [List.head?_eq_getElem?]
  exact h.getElem? 0

theorem Ahead.append (h : Ahead tokens pos (ts ++ rest)) :
    Ahead tokens (pos + ts.length) rest := by
  unfold Ahead at h ⊢
  rw [← List.drop_drop, h, List.drop_left]

theorem Ahead.tail {t : Token} (h : Ahead tokens pos (t :: ts)) : Ahead tokens (pos + 1) ts :=
  Ahead.append (show Ahead tokens pos ([t] ++ ts) from h)

theorem Ahead.lt {t : Token} (h : Ahead tokens pos (t :: ts)) : pos < tokens.size :=
  getElem?_lt h.head?

/-- Where two parts with a sign between them end. -/
theorem add_length_joined (pos : Nat) (ts : List Token) (sign : Token) (ts' : List Token) :
    pos + (ts ++ sign :: ts').length = pos + ts.length + 1 + ts'.length := by
  rw [List.length_append, List.length_cons]
  omega

end

/-! ## Derivations are found -/

/-- The longest match of a rule goes through a match. -/
def Passes (tokens : Array Token) (rule : Rule) (pos : Nat) (left : Found) : Prop :=
  longest tokens rule pos =
    some (longestRun tokens.size (continuation? tokens (longest tokens) rule) left)

section
variable {tokens : Array Token} {rule : Rule} {pos : Nat} {left next : Found}

theorem Passes.of_opening (hpos : pos < tokens.size)
    (h : opening? tokens (longest tokens) rule pos = some left) : Passes tokens rule pos left := by
  unfold Passes
  rw [longest_eq rule hpos, h, Option.map_some]

theorem Passes.continued (h : Passes tokens rule pos left)
    (hnext : continuation? tokens (longest tokens) rule left = some next) :
    Passes tokens rule pos next := by
  have hw := continuation?_within (longest_bounds tokens) hnext
  unfold Passes at h ⊢
  rw [h, longestRun_of_some hnext hw.1 hw.2]

theorem Passes.longest_eq (h : Passes tokens rule pos left)
    (hnext : continuation? tokens (longest tokens) rule left = none) :
    longest tokens rule pos = some left := by
  rw [h, longestRun_of_none hnext]

end

theorem lt_size_of_longest {tokens : Array Token} {rule : Rule} {pos : Nat} {found : Found}
    (h : longest tokens rule pos = some found) : pos < tokens.size := by
  have hw := longest_bounds tokens _ _ _ h
  exact Nat.lt_of_lt_of_le hw.1 hw.2

/-- A match of a rule that is no expression does not start with a minus sign. -/
theorem Derives.head_ne_minus {rule : Rule} {ts : List Token} {e : Expr} (h : Derives rule ts e)
    (hrule : rule ≠ .expression) (rest : List Token) : (ts ++ rest).head? ≠ some .minus := by
  induction h generalizing rest with
  | sum _ _ _ _ _ => exact absurd rfl hrule
  | negation _ _ => exact absurd rfl hrule
  | ofTerm _ _ => exact absurd rfl hrule
  | product _ _ _ ih _ | conversion _ _ ih | power _ _ ih _ | merged _ _ _ _ _ ih =>
    rw [List.append_assoc]
    exact ih (by decide) _
  | ofExponent _ ih | ofAtom _ ih | ofMerge _ ih => exact ih (by decide) rest
  | parentheses _ _ => simp
  | quantity hx _ | number hx | single hx _ => cases hx <;> simp
  | unit hu => cases hu <;> simp

/-- A number and a unit start a chain of quantities. -/
theorem passes_merge {tokens : Array Token} {pos : Nat} {rest : List Token} {t t' : Token}
    {x : Number} {u : Measure} (hahead : Ahead tokens pos (t :: t' :: rest)) (hx : NumberToken t x)
    (hu : UnitToken t' u) : Passes tokens .merge pos ⟨.leaf ⟨x, some u⟩, pos + 2⟩ := by
  refine .of_opening hahead.lt ?_
  have hq : quantity? tokens pos = some ⟨x, some u⟩ :=
    quantity?_eq_some_iff.2 ⟨t, t', x, u, hahead.head?, hahead.tail.head?, hx, hu, rfl⟩
  simp only [opening?, hq, Option.map_some]

/-- A match of a chain is an atom, if no number follows. -/
theorem passes_atom_of_merge {tokens : Array Token} {pos : Nat} {left : Found}
    (hpos : pos < tokens.size) (h : Passes tokens .merge pos left)
    (hparen : tokens[pos]? ≠ some .parenOpen) (hnext : 0 < followLooseness tokens[left.stop]?) :
    Passes tokens .atom pos left := by
  refine .of_opening hpos ?_
  simp only [opening?, parenthesis?, if_neg hparen, Option.none_or,
    h.longest_eq (continuation?_eq_none hnext), Option.some_or]

/-- Without a quantity an atom that starts with no parenthesis is a leaf. -/
theorem passes_atom_of_leaf {tokens : Array Token} {pos : Nat} {left : Found}
    (hpos : pos < tokens.size) (hquantity : quantity? tokens pos = none)
    (hparen : tokens[pos]? ≠ some .parenOpen) (hleaf : leaf? tokens pos = some left) :
    Passes tokens .atom pos left := by
  have hmerge : longest tokens .merge pos = none := by
    rw [longest_eq .merge hpos]
    simp only [opening?, hquantity, Option.map_none]
  refine .of_opening hpos ?_
  simp only [opening?, parenthesis?, if_neg hparen, hmerge, Option.none_or, hleaf]

/-- A derivation is found, unless the token that follows is drawn into a part of it. -/
theorem longest_of_derives {tokens : Array Token} {rule : Rule} {ts : List Token} {e : Expr}
    (h : Derives rule ts e) {pos : Nat} {rest : List Token} (hahead : Ahead tokens pos (ts ++ rest))
    (hrest : rule.looseness ≤ followLooseness rest.head?) :
    Passes tokens rule pos ⟨e, pos + ts.length⟩ := by
  induction h generalizing pos rest with
  | @sum ts ts' l r sign op _ hsign _ ihl ihr =>
    rw [List.append_assoc] at hahead
    have hat : Ahead tokens (pos + ts.length) (sign :: (ts' ++ rest)) := hahead.append
    have hleft := ihl hahead (Nat.le_of_eq hsign.followLooseness.symm)
    have hright := (ihr hat.tail (Nat.le_of_lt hrest)).longest_eq
      (continuation?_eq_none (by rw [hat.tail.append.head?]; exact hrest))
    have hop := additive?_eq_some.2 ⟨sign, hat.head?, hsign⟩
    rw [add_length_joined]
    refine hleft.continued ?_
    simp only [continuation?, hop, Option.bind_some, operand?, hright, Option.map_some]
  | @negation ts e _ ih =>
    have hterm := (ih hahead.tail (Nat.le_of_lt hrest)).longest_eq
      (continuation?_eq_none (by rw [hahead.tail.append.head?]; exact hrest))
    have hlen : pos + (Token.minus :: ts).length = pos + 1 + ts.length := by
      rw [List.length_cons]
      omega
    have hminus : tokens[pos]? = some .minus := hahead.head?
    rw [hlen]
    refine .of_opening hahead.lt ?_
    simp only [opening?, negation?, if_pos hminus, hterm, Option.map_some, Option.some_or]
  | @ofTerm ts e ht ih =>
    have hterm := (ih hahead (Nat.le_of_lt hrest)).longest_eq
      (continuation?_eq_none (by rw [hahead.append.head?]; exact hrest))
    have hminus : tokens[pos]? ≠ some .minus := by
      rw [hahead.head?]
      exact ht.head_ne_minus (by decide) rest
    refine .of_opening (lt_size_of_longest hterm) ?_
    simp only [opening?, negation?, if_neg hminus, Option.none_or, hterm]
  | @product ts ts' l r sign op _ hsign _ ihl ihr =>
    rw [List.append_assoc] at hahead
    have hat : Ahead tokens (pos + ts.length) (sign :: (ts' ++ rest)) := hahead.append
    have hleft := ihl hahead (Nat.le_of_eq hsign.followLooseness.symm)
    have hright := (ihr hat.tail (Nat.le_of_lt hrest)).longest_eq rfl
    have hop := multiplicative?_eq_some.2 ⟨sign, hat.head?, hsign⟩
    rw [add_length_joined]
    refine hleft.continued ?_
    simp only [continuation?, hop, operand?, hright, Option.map_some]
  | @conversion ts e t u _ hu ih =>
    rw [List.append_assoc] at hahead
    have hat : Ahead tokens (pos + ts.length) (.to :: t :: rest) := hahead.append
    have hto : tokens[pos + ts.length]? = some .to := hat.head?
    have hleft := ih hahead (Nat.le_refl 3)
    have hunit := unit?_eq_some.2 ⟨t, hat.tail.head?, hu⟩
    rw [List.length_append]
    refine hleft.continued ?_
    simp only [continuation?, hto, multiplicative?, if_true, conversion?, hunit, Option.map_some]
    rfl
  | @ofExponent ts e _ ih =>
    have hexponent := (ih hahead (Nat.le_of_lt hrest)).longest_eq rfl
    exact .of_opening (lt_size_of_longest hexponent) hexponent
  | @power ts ts' b e _ _ ihb ihe =>
    rw [List.append_assoc] at hahead
    have hat : Ahead tokens (pos + ts.length) (.caret :: (ts' ++ rest)) := hahead.append
    have hcaret : tokens[pos + ts.length]? = some .caret := hat.head?
    have hbase := (ihb hahead (Nat.le_refl 1)).longest_eq rfl
    have hexponent := (ihe hat.tail hrest).longest_eq rfl
    rw [add_length_joined]
    refine .of_opening (lt_size_of_longest hbase) ?_
    simp only [opening?, hbase, Option.bind_some, powerOf, if_pos hcaret, operand?, hexponent,
      Option.map_some, Option.some_or]
  | @ofAtom ts e _ ih =>
    have hbase := (ih hahead (Nat.le_of_lt hrest)).longest_eq rfl
    have hcaret : tokens[pos + ts.length]? ≠ some .caret :=
      ne_of_followLooseness (by rw [hahead.append.head?]; exact hrest)
    refine .of_opening (lt_size_of_longest hbase) ?_
    simp only [opening?, hbase, Option.bind_some, powerOf, if_neg hcaret]
  | @parentheses ts e _ ih =>
    have hat : Ahead tokens (pos + 1) (ts ++ (.parenClose :: rest)) := by
      rw [List.cons_append, List.append_assoc] at hahead
      exact hahead.tail
    have hopen : tokens[pos]? = some .parenOpen := hahead.head?
    have hclose : tokens[pos + 1 + ts.length]? = some .parenClose := hat.append.head?
    have hinner := (ih hat (Nat.le_succ 4)).longest_eq
      (continuation?_eq_none (by rw [hclose]; exact Nat.lt_succ_self 4))
    have hlen : pos + (Token.parenOpen :: (ts ++ [Token.parenClose])).length =
        pos + 1 + ts.length + 1 := by
      rw [List.length_cons, List.length_append, List.length_singleton]
      omega
    rw [hlen]
    refine .of_opening hahead.lt ?_
    simp only [opening?, parenthesis?, if_pos hopen, hinner, Option.bind_some, if_pos hclose,
      Option.some_or]
  | @ofMerge ts e hm ih =>
    have hmerge := ih hahead (Nat.zero_le _)
    have hnext : 0 < followLooseness tokens[pos + ts.length]? := by
      rw [hahead.append.head?]
      exact hrest
    have hlongest := hmerge.longest_eq (continuation?_eq_none hnext)
    refine passes_atom_of_merge (lt_size_of_longest hlongest) hmerge ?_ hnext
    obtain ⟨first, second, _, x, _, rfl, hx, _, _⟩ := hm.merge_start rfl
    rw [hahead.head?]
    exact hx.ne_parenOpen
  | @quantity t t' x u hx hu =>
    have hnext : 0 < followLooseness tokens[pos + 2]? := by
      rw [hahead.tail.tail.head?]
      exact hrest
    refine passes_atom_of_merge hahead.lt (passes_merge hahead hx hu) ?_ hnext
    rw [hahead.head?]
    exact hx.ne_parenOpen
  | @number t x hx =>
    have hnumber := number?_eq_some.2 ⟨t, hahead.head?, hx⟩
    have hunit : unit? tokens[pos + 1]? = none :=
      unit?_eq_none (by rw [hahead.tail.head?]; exact hrest)
    have hquantity := quantity?_eq_none (.inr hunit)
    refine passes_atom_of_leaf hahead.lt hquantity ?_ ?_
    · rw [hahead.head?]
      exact hx.ne_parenOpen
    · simp only [leaf?, hquantity, hnumber]
      rfl
  | @unit t u hu =>
    have hunit := unit?_eq_some.2 ⟨t, hahead.head?, hu⟩
    have hnumber : number? tokens[pos]? = none := by
      rw [hahead.head?]
      exact hu.number?_eq_none
    have hquantity := quantity?_eq_none (.inl hnumber)
    refine passes_atom_of_leaf hahead.lt hquantity ?_ ?_
    · rw [hahead.head?]
      exact hu.ne_parenOpen
    · simp only [leaf?, hquantity, hnumber, hunit, Option.map_some]
      rfl
  | @merged first second t t' ts e x u v hm hu hx hv hcat ih =>
    rw [List.append_assoc] at hahead
    have hat : Ahead tokens (pos + (first :: second :: ts).length) (t :: t' :: rest) :=
      hahead.append
    have hchain := ih hahead (Nat.zero_le _)
    have hquantity := quantity?_eq_some_iff.2
      ⟨t, t', x, v, hat.head?, hat.tail.head?, hx, hv, rfl⟩
    have hcontinues : continues e ⟨x, some v⟩ = true := by
      obtain ⟨_, second', _, _, u', hts, _, hu', hlead⟩ := hm.merge_start rfl
      injection hts with _ hts
      injection hts with hsecond _
      subst hsecond
      simp only [continues, hlead, hu.unique hu' ▸ hcat, Measure.commonCategory?, if_true,
        Option.isSome_some]
    rw [List.length_append]
    refine hchain.continued ?_
    simp only [continuation?, extended?, hquantity, if_pos hcontinues]
    rfl
  | @single t t' x u hx hu => exact passes_merge hahead hx hu

/-! ## Whole texts -/

/-- The tokens are derived with a tree exactly when the longest expression at their start takes all
of them and has this tree. -/
theorem derives_iff_outcomeOf {tokens : Array Token} {e : Expr} :
    Derives .expression tokens.toList e ↔
      outcomeOf tokens (longest tokens .expression 0) = .tree e := by
  constructor
  · intro h
    have hahead : Ahead tokens 0 (tokens.toList ++ []) := by
      rw [List.append_nil]
      exact List.drop_zero
    have hend : followLooseness tokens[0 + tokens.toList.length]? = 5 := by
      rw [hahead.append.head?]
      rfl
    have hlongest := (longest_of_derives h hahead (Nat.le_succ 4)).longest_eq
      (continuation?_eq_none (by simp only [hend]; exact Nat.lt_succ_self 4))
    rw [hlongest, Nat.zero_add, Array.length_toList]
    exact if_pos rfl
  · intro h
    cases hlongest : longest tokens .expression 0 with
    | none =>
      rw [hlongest] at h
      cases h
    | some found =>
      rw [hlongest] at h
      simp only [outcomeOf] at h
      split at h
      · next hstop =>
        cases h
        have hderives := derives_of_longest hlongest
        rwa [hstop, between_size] at hderives
      · cases h

/-- Without a derivation there is no parse. -/
theorem outcomeOf_eq_noParse {tokens : Array Token}
    (h : ∀ e, ¬Derives .expression tokens.toList e) :
    outcomeOf tokens (longest tokens .expression 0) = .noParse := by
  cases hlongest : longest tokens .expression 0 with
  | none => rfl
  | some found =>
    refine if_neg fun hstop => h found.tree (derives_iff_outcomeOf.2 ?_)
    rw [hlongest]
    exact if_pos hstop

/-- The outcome of a parse that does not give up says whether and how the tokens are derived. -/
theorem outcomeOf_tree? {tokens : Array Token} {found : Option Found} {e : Expr} :
    (outcomeOf tokens found).tree? = some e ↔ outcomeOf tokens found = .tree e := by
  cases outcomeOf tokens found with
  | tree e' => exact ⟨fun h => by cases h; rfl, fun h => by cases h; rfl⟩
  | noParse => exact ⟨fun h => (by cases h), fun h => (by cases h)⟩
  | tooDeep => exact ⟨fun h => (by cases h), fun h => (by cases h)⟩

/-- A tree that is found has a derivation, whatever the limit. -/
theorem derives_of_parseWithin {limit : Nat} {tokens : Array Token} {e : Expr}
    (h : (parseWithin limit tokens).tree? = some e) : Derives .expression tokens.toList e := by
  rcases parseWithin_eq limit tokens with ⟨hdeep, _⟩ | heq
  · rw [hdeep] at h
    cases h
  · rw [heq, outcomeOf_tree?] at h
    exact derives_iff_outcomeOf.2 h

/-- Parsing decides the grammar.  Unless the rules nest too deep, the tree is the one that the
tokens have by a derivation, and there is none exactly when there is no derivation; a parse that
gives up has no tree.  Tokens have at most one tree, and a limit above five levels for each token is
never reached. -/
theorem parseWithin_tree?_iff (limit : Nat) (tokens : Array Token) :
    (parseWithin limit tokens ≠ .tooDeep →
      (∀ e, (parseWithin limit tokens).tree? = some e ↔ Derives .expression tokens.toList e) ∧
      ((parseWithin limit tokens).tree? = none ↔ ∀ e, ¬Derives .expression tokens.toList e)) ∧
    (parseWithin limit tokens = .tooDeep → (parseWithin limit tokens).tree? = none) ∧
    (∀ e e', Derives .expression tokens.toList e → Derives .expression tokens.toList e' → e = e') ∧
    (5 * tokens.size + 4 < limit → parseWithin limit tokens ≠ .tooDeep) := by
  refine ⟨fun hdeep => ?_, fun h => by rw [h]; rfl, fun e e' h h' => ?_, fun hlimit => ?_⟩
  · have heq : parseWithin limit tokens = outcomeOf tokens (longest tokens .expression 0) := by
      rcases parseWithin_eq limit tokens with ⟨h, _⟩ | h
      · exact absurd h hdeep
      · exact h
    have hiff : ∀ e, (parseWithin limit tokens).tree? = some e ↔
        Derives .expression tokens.toList e := by
      intro e
      rw [heq, outcomeOf_tree?, derives_iff_outcomeOf]
    refine ⟨hiff, ?_⟩
    rw [Option.eq_none_iff_forall_ne_some]
    exact forall_congr' fun e => not_congr (hiff e)
  · rw [derives_iff_outcomeOf] at h h'
    rw [h] at h'
    injection h'
  · rw [parseWithin_eq_longest hlimit]
    cases longest tokens .expression 0 with
    | none => exact fun h => by cases h
    | some found =>
      simp only [outcomeOf]
      split <;> exact fun h => by cases h

/-- Two feet and three inches, times minus four squared. -/
theorem parse_chain_times_parentheses :
    parseWithin nestingLimit #[.integer 2, .unit .foot, .integer 3, .unit .inch, .star, .parenOpen,
      .minus, .integer 4, .caret, .integer 2, .parenClose] ≠ .tooDeep ∧
    (parseWithin nestingLimit #[.integer 2, .unit .foot, .integer 3, .unit .inch, .star, .parenOpen,
      .minus, .integer 4, .caret, .integer 2, .parenClose]).tree? =
      some (.binary .multiply
        (.binary .add (.leaf ⟨.whole 2, some (.fixed .foot)⟩)
          (.leaf ⟨.whole 3, some (.fixed .inch)⟩))
        (.negate (.binary .power (.leaf ⟨.whole 4, none⟩) (.leaf ⟨.whole 2, none⟩)))) := by
  obtain ⟨hparse, -, -, hlimit⟩ := parseWithin_tree?_iff nestingLimit #[.integer 2, .unit .foot,
    .integer 3, .unit .inch, .star, .parenOpen, .minus, .integer 4, .caret, .integer 2, .parenClose]
  have hdeep := hlimit (by decide)
  have hchain : Derives .merge ([.integer 2, .unit .foot] ++ [.integer 3, .unit .inch]) _ :=
    .merged (.single (.integer 2) (.fixed .foot)) (.fixed .foot) (.integer 3) (.fixed .inch) rfl
  have hpower : Derives .exponent ([.integer 4] ++ [.caret, .integer 2]) _ :=
    .power (.number (.integer 4)) (.ofAtom (.number (.integer 2)))
  have hfactor : Derives .exponent (.parenOpen :: (.minus :: [.integer 4, .caret, .integer 2] ++
      [.parenClose])) _ :=
    .ofAtom (.parentheses (.negation (.ofExponent hpower)))
  exact ⟨hdeep, ((hparse hdeep).1 _).2 (.ofTerm
    (.product (.ofExponent (.ofAtom (.ofMerge hchain))) .star hfactor))⟩

end Reckoner.Grammar
