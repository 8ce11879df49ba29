import Reckoner.Proofs.Expr.Steady
import Reckoner.Proofs.Grammar.Completeness
import Reckoner.Proofs.Shell.Segmentation
import Reckoner.Proofs.Text.Trim
import Reckoner.Proofs.Token.Boundary

/-!
# Entries of the history

A session cuts each line into tokens as it is typed, and remembers the lines trimmed and joined by
blanks.  The entry has the same tokens as the lines.  For the lines of an expression hold no junk,
so trimming takes away only gaps (`scan_trim`), and no token reaches over the blanks between the
lines (`scan_intercalate`).

So the entry is the same expression, whoever reads it: a calculation, a run for one expression, or
another session, which remembers it under the same entry (`entry_replays`).
-/

namespace Reckoner

namespace Grammar

theorem NumberToken.isJunk {t : Token} {x : Number} (h : NumberToken t x) : t.isJunk = false := by
  cases h <;> rfl

theorem UnitToken.isJunk {t : Token} {u : Measure} (h : UnitToken t u) : t.isJunk = false := by
  cases h <;> rfl

theorem SumSign.isJunk {t : Token} {op : Operator} (h : SumSign t op) : t.isJunk = false := by
  cases h <;> rfl

theorem ProductSign.isJunk {t : Token} {op : Operator} (h : ProductSign t op) :
    t.isJunk = false := by
  cases h <;> rfl

/-- Junk is in no expression. -/
theorem Derives.isJunk {rule : Rule} {ts : List Token} {e : Expr} (h : Derives rule ts e) :
    ∀ t ∈ ts, t.isJunk = false := by
  induction h with
  | sum _ hsign _ ihl ihr =>
    exact List.forall_mem_append.2 ⟨ihl, List.forall_mem_cons.2 ⟨hsign.isJunk, ihr⟩⟩
  | negation _ ih => exact List.forall_mem_cons.2 ⟨rfl, ih⟩
  | ofTerm _ ih => exact ih
  | product _ hsign _ ihl ihr =>
    exact List.forall_mem_append.2 ⟨ihl, List.forall_mem_cons.2 ⟨hsign.isJunk, ihr⟩⟩
  | conversion _ hu ih =>
    exact List.forall_mem_append.2 ⟨ih, List.forall_mem_cons.2 ⟨rfl, by simp [hu.isJunk]⟩⟩
  | ofExponent _ ih => exact ih
  | power _ _ ihl ihr =>
    exact List.forall_mem_append.2 ⟨ihl, List.forall_mem_cons.2 ⟨rfl, ihr⟩⟩
  | ofAtom _ ih => exact ih
  | parentheses _ ih =>
    exact List.forall_mem_cons.2 ⟨rfl, List.forall_mem_append.2 ⟨ih, by simp [Token.isJunk]⟩⟩
  | ofMerge _ ih => exact ih
  | quantity hx hu => simp [hx.isJunk, hu.isJunk]
  | number hx => simp [hx.isJunk]
  | unit hu => simp [hu.isJunk]
  | merged _ _ hx hu _ ih => exact List.forall_mem_append.2 ⟨ih, by simp [hx.isJunk, hu.isJunk]⟩
  | single hx hu => simp [hx.isJunk, hu.isJunk]

end Grammar

namespace Session

open Calculation

/-! ## The text of an entry -/

section
variable {group : List String} {e : Expr}

theorem isJunk_of_tree (h : treeOf? group = some e) : ∀ t ∈ tokensOf group, t.isJunk = false := by
  have hderives := (Grammar.derives_of_parseWithin h).isJunk
  rwa [List.toList_toArray] at hderives

/-- The entry of an expression has the lexemes of its lines. -/
theorem scan_entryOf (h : treeOf? group = some e) :
    Lexeme.scan (entryOf group).toList = group.flatMap fun line => Lexeme.scan line.toList := by
  have hjunk := isJunk_of_tree h
  rw [entryOf, Lexeme.scan_intercalate, List.flatMap_map]
  refine List.flatMap_congr fun line hline => Lexeme.scan_trim fun t ht => ?_
  exact hjunk t (List.mem_flatMap.2 ⟨line, hline, ht⟩)

/-- The entry of an expression has the tokens of its lines. -/
theorem tokenize_entryOf (h : treeOf? group = some e)
    (hshort : ∀ line ∈ group, Token.excessIn? line.toList = none) :
    Token.tokenize (entryOf group) = .ok (tokensOf group) := by
  have hexcess : Token.excessIn? (entryOf group).toList = none := by
    rw [Token.excessIn?_eq_none_iff, scan_entryOf h]
    intro l hl
    obtain ⟨line, hline, hl⟩ := List.mem_flatMap.1 hl
    exact Token.excessIn?_eq_none_iff.1 (hshort line hline) l hl
  have htokens : Token.ofChars (entryOf group).toList = tokensOf group := by
    rw [Token.ofChars, scan_entryOf h, List.map_flatMap]
    rfl
  rw [Token.tokenize_of_excess_none hexcess, htokens]

/-- The entry of an expression is the expression. -/
theorem parseText_entryOf (h : treeOf? group = some e)
    (hshort : ∀ line ∈ group, Token.excessIn? line.toList = none) :
    parseText (entryOf group) = .ok (some e) := by
  rw [parseText_of_tokenize (tokenize_entryOf h hshort)]
  exact congrArg _ h

theorem tight_entryOf (hne : group ≠ [])
    (hsolid : ∀ line ∈ group, Text.isAllBlank line = false) :
    Text.Tight Text.isBlank (entryOf group).toList := by
  rw [entryOf, String.toList_intercalate, List.map_map]
  refine Text.tight_intercalate (by simpa using hne) (fun text htext => ?_) _
  obtain ⟨line, hline, rfl⟩ := List.mem_map.1 htext
  obtain ⟨c, hc, hblank⟩ := List.all_eq_false.1 (hsolid line hline)
  rw [Function.comp_apply, Text.trim, String.toList_ofList]
  exact Text.tight_dropAround ⟨c, hc, Bool.eq_false_iff.2 hblank⟩

theorem trim_entryOf (hne : group ≠ [])
    (hsolid : ∀ line ∈ group, Text.isAllBlank line = false) :
    Text.trim (entryOf group) = entryOf group := by
  rw [Text.trim, (tight_entryOf hne hsolid).dropAround_eq, String.ofList_toList]

theorem isAllBlank_entryOf (hne : group ≠ [])
    (hsolid : ∀ line ∈ group, Text.isAllBlank line = false) :
    Text.isAllBlank (entryOf group) = false := by
  obtain ⟨c, hc, hblank⟩ := (tight_entryOf hne hsolid).exists_mem
  exact List.all_eq_false.2 ⟨c, hc, by simp [hblank]⟩

end

/-! ## Turns with and without debugging -/

/-- The desk after the parser's report on a buffer, which is only made when debugging. -/
def reported (debug : Bool) (buffer : Grammar.Buffer) (desk : Desk) : Desk :=
  if debug then { desk with host := desk.host.print (buffer.run.2.report buffer.run.1) } else desk

/-- The desk after the report on the tokens of an expression. -/
def announced (debug : Bool) (count : Nat) (desk : Desk) : Desk :=
  if debug then { desk with host := desk.host.print s!"Parsed {count} tokens, ok\n" } else desk

/-- The desk after a tree and what it comes to are shown; the tree only when debugging. -/
def shown (debug : Bool) (e : Expr) (outcome : Except CalcError Quantity) (desk : Desk) : Desk :=
  printed (textOf (outcome.mapError .calculation)) (if debug then printed e.render desk else desk)

section
variable {source : Option (RateSource Desk)} {debug : Bool} {s s' joined : Session}
  {desk desk' : Desk} {group : List String} {text : String}

/-- A line that is not blank is parsed with those before it; a tree is shown and remembered. -/
theorem start_receive (hsolid : Text.isAllBlank text = false) (hjoined : s.extend text = .ok joined)
    (desk : Desk) :
    (s.receive source debug (.line text)).start desk =
      match joined.buffer.run.1.tree? with
      | none => (.ok (some { joined with buffer := joined.buffer.run.2 }),
          reported debug joined.buffer desk)
      | some e =>
        andThen ((Shell.showValue source debug e).start (reported debug joined.buffer desk))
          fun _ desk' => (.ok (some empty), remembered joined.entry desk') := by
  simp only [receive, hsolid, Bool.false_eq_true, if_false, hjoined, start_bind, start_ofExcept,
    andThen_ok]
  cases debug with
  | false =>
    simp only [Bool.false_eq_true, if_false, reported]
    cases joined.buffer.run.1.tree? with
    | none => rfl
    | some e =>
      simp only [start_bind]
      rfl
  | true =>
    simp only [if_true, reported, start_bind, start_modify, andThen_ok]
    cases joined.buffer.run.1.tree? with
    | none => rfl
    | some e =>
      simp only [start_bind]
      rfl

/-- A line without tokens is the end of the session. -/
theorem start_receive_error {fault : Fault} (hsolid : Text.isAllBlank text = false)
    (h : s.extend text = .error fault) (desk : Desk) :
    (s.receive source debug (.line text)).start desk = (.error fault, desk) := by
  simp only [receive, hsolid, Bool.false_eq_true, if_false, h]
  rfl

/-- A turn leaves a session that holds the lines of some group. -/
theorem Holds.of_turn (h : Holds s group) {typed : Typed}
    (hturn : (s.turn source debug typed).start desk = (.ok (some s'), desk')) :
    ∃ group', Holds s' group' := by
  have hinterrupt : (if s.buffer.isEmpty then none else some s.clear) = some s' →
      ∃ group', Holds s' group' := by
    intro hnext
    split at hnext
    next => cases hnext
    next =>
      cases hnext
      exact ⟨[], .clear s⟩
  rw [turn, start_bind, start_showPrompt h, andThen_ok] at hturn
  cases typed with
  | failure => cases hturn
  | interrupt => exact hinterrupt (Except.ok.inj (congrArg Prod.fst hturn))
  | endOfInput => exact hinterrupt (Except.ok.inj (congrArg Prod.fst hturn))
  | line text =>
    cases hsolid : Text.isAllBlank text with
    | true =>
      simp only [receive, hsolid, if_true] at hturn
      cases hturn
      exact ⟨group, h⟩
    | false =>
      cases hjoined : s.extend text with
      | error fault =>
        rw [start_receive_error hsolid hjoined] at hturn
        cases hturn
      | ok joined =>
        rw [start_receive hsolid hjoined] at hturn
        split at hturn
        next =>
          cases hturn
          exact ⟨_, (h.extend hsolid hjoined).parsed⟩
        next =>
          obtain ⟨_, _, _, hend⟩ := andThen_eq_ok hturn
          cases hend
          exact ⟨[], .empty⟩

/-- A session holds the lines of some group all along. -/
theorem Holds.of_after {script : List Typed} (h : Holds s group)
    (hrun : (s.after source debug script).start desk = (.ok (some s'), desk')) :
    ∃ group', Holds s' group' := by
  induction script generalizing s group desk with
  | nil =>
    cases hrun
    exact ⟨group, h⟩
  | cons typed rest ih =>
    rw [after, start_bind] at hrun
    obtain ⟨next, desk₁, hturn, hrest⟩ := andThen_eq_ok hrun
    cases next with
    | none => cases hrest
    | some s₁ =>
      obtain ⟨group₁, h₁⟩ := h.of_turn hturn
      exact ih h₁ hrest

end

/-! ## Steady rates -/

section
variable {rates : Option SteadyRates} {e : Expr} {outcome : Except CalcError Quantity}
  {s joined : Session} {group : List String} {text : String}

/-- With steady rates a value or a failure is shown; any other fault is not. -/
theorem start_showValue_steady (rates : Option SteadyRates) (debug : Bool) (e : Expr)
    (desk : Desk) :
    (Shell.showValue (rates.map SteadyRates.toSource) debug e).start desk =
      match e.outcome rates with
      | .ok q => (.ok true, shown debug e (.ok q) desk)
      | .error (.calculation why) => (.ok false, shown debug e (.error why) desk)
      | .error fault => (.error fault, if debug then printed e.render desk else desk) := by
  have hshow (desk : Desk) :
      (Shell.showValue (rates.map SteadyRates.toSource) false e).start desk =
        match e.outcome rates with
        | .ok q => (.ok true, printed q.text desk)
        | .error (.calculation why) => (.ok false, printed why.message desk)
        | .error fault => (.error fault, desk) := by
    simp only [Shell.showValue, Bool.false_eq_true, if_false, start_bind, start_get, andThen_ok,
      Expr.start_evaluate_steady]
    cases e.outcome rates with
    | ok q => rfl
    | error fault => cases fault <;> rfl
  cases debug with
  | false => exact hshow desk
  | true => exact hshow (printed e.render desk)

theorem start_showValue_outcome (h : e.outcome rates = outcome.mapError .calculation)
    (debug : Bool) (desk : Desk) :
    (Shell.showValue (rates.map SteadyRates.toSource) debug e).start desk =
      (.ok outcome.isOk, shown debug e outcome desk) := by
  rw [start_showValue_steady, h]
  cases outcome with
  | ok q => rfl
  | error why => rfl

/-- What is shown is a value or a failure. -/
theorem exists_outcome {debug b : Bool} {desk desk' : Desk}
    (h : (Shell.showValue (rates.map SteadyRates.toSource) debug e).start desk = (.ok b, desk')) :
    ∃ outcome : Except CalcError Quantity, e.outcome rates = outcome.mapError .calculation := by
  rw [start_showValue_steady] at h
  split at h
  next q hq => exact ⟨.ok q, hq⟩
  next why hwhy => exact ⟨.error why, hwhy⟩
  next => cases h

/-- The parser reports the number of tokens of an expression. -/
theorem reported_eq (h : Holds s group) (htree : treeOf? group = some e) (debug : Bool)
    (desk : Desk) : reported debug s.buffer desk =
      announced debug (tokensOf group).length desk := by
  have hrun := h.tree?_eq.trans htree
  unfold reported announced
  cases houtcome : s.buffer.run.1 with
  | tree e' =>
    rw [Grammar.Buffer.report, Grammar.Buffer.run_snd_tokens, ← Array.length_toList, h.tokens]
  | noParse =>
    rw [houtcome] at hrun
    cases hrun
  | tooDeep =>
    rw [houtcome] at hrun
    cases hrun

/-- The line that completes an expression has it shown and remembered. -/
theorem start_complete (h : Holds s group) (hsolid : Text.isAllBlank text = false)
    (hjoined : s.extend text = .ok joined) (htree : treeOf? (group ++ [text]) = some e)
    (houtcome : e.outcome rates = outcome.mapError .calculation) (debug : Bool) (desk : Desk) :
    (s.turn (rates.map SteadyRates.toSource) debug (.line text)).start desk =
      (.ok (some empty), remembered (entryOf (group ++ [text])) (shown debug e outcome
        (announced debug (tokensOf (group ++ [text])).length (prompted group desk)))) := by
  have hnext := h.extend hsolid hjoined
  rw [turn, start_bind, start_showPrompt h, andThen_ok, start_receive hsolid hjoined]
  simp only [hnext.tree?_eq, htree, reported_eq hnext htree, start_showValue_outcome houtcome,
    andThen_ok, hnext.entry_eq]

/-- The entry of an expression, typed as one line, has the expression shown, and is remembered as it
is. -/
theorem start_entry (hsolid : ∀ line ∈ group, Text.isAllBlank line = false)
    (hshort : ∀ line ∈ group, Token.excessIn? line.toList = none) (htree : treeOf? group = some e)
    (houtcome : e.outcome rates = outcome.mapError .calculation) (hne : group ≠ []) (debug : Bool)
    (desk : Desk) :
    (empty.turn (rates.map SteadyRates.toSource) debug (.line (entryOf group))).start desk =
      (.ok (some empty), remembered (entryOf group) (shown debug e outcome
        (announced debug (tokensOf group).length (prompted [] desk)))) := by
  have htokenize := tokenize_entryOf htree hshort
  have htokens : tokensOf ([] ++ [entryOf group]) = tokensOf group := by
    rw [List.nil_append, tokensOf, List.flatMap_singleton]
    exact (Token.tokenize_eq_ok_iff.1 htokenize).2.symm
  have hentry : entryOf ([] ++ [entryOf group]) = entryOf group := by
    rw [List.nil_append, entryOf, List.map_singleton, trim_entryOf hne hsolid]
    rfl
  have hagain : treeOf? ([] ++ [entryOf group]) = some e := by
    rw [treeOf?, htokens]
    exact htree
  rw [start_complete .empty (isAllBlank_entryOf hne hsolid) (extend_of_ok htokenize) hagain
    houtcome, hentry, htokens]

theorem start_calculate {σ : Type} (h : parseText text = .ok (some e)) (state : σ) :
    (calculate (rates.map SteadyRates.toSource) text).start state =
      ((e.outcome rates).map some, state) := by
  simp only [calculate, h, start_bind, start_ofExcept, andThen_ok, Expr.start_evaluate_steady]
  cases e.outcome rates with
  | ok q => rfl
  | error fault => rfl

theorem start_runOnce (h : parseText text = .ok (some e))
    (houtcome : e.outcome rates = outcome.mapError .calculation) (debug : Bool) (desk : Desk) :
    (Shell.runOnce (rates.map SteadyRates.toSource) debug text).start desk =
      (.ok (if outcome.isOk then 0 else 1), shown debug e outcome desk) := by
  simp only [Shell.runOnce, h, start_bind, start_ofExcept, start_showValue_outcome houtcome,
    andThen_ok]
  rfl

/-- The rates are steady.  A line is typed in a session that completes an expression, and the
session goes on.  Then what it shows of the expression is a value or a failure, and the entry under
which it remembers the lines comes to the same everywhere: a calculation of the entry has this
outcome; a run for the entry alone shows it and has the exit code 0 for a value and 1 for a
failure; and in another session the entry, typed as one line, has it shown and is remembered as it
is. -/
theorem entry_replays {debug : Bool} {script : List Typed} {next : Option Session}
    {desk before after : Desk}
    (hscript : (empty.after (rates.map SteadyRates.toSource) debug script).start desk =
      (.ok (some s), before))
    (hsolid : Text.isAllBlank text = false) (hjoined : s.extend text = .ok joined)
    (htree : joined.buffer.parse.tree? = some e)
    (hturn : (s.turn (rates.map SteadyRates.toSource) debug (.line text)).start before =
      (.ok next, after)) :
    let entry := joined.entry
    let count := joined.buffer.tokens.size
    ∃ (group : List String) (outcome : Except CalcError Quantity),
      (Holds s group ∧ entry = entryOf (group ++ [text])) ∧
      (next = some empty ∧
        after = remembered entry (shown debug e outcome
          (announced debug count (prompted group before)))) ∧
      (∀ {σ : Type} (state : σ), (calculate (rates.map SteadyRates.toSource) entry).start state =
        ((outcome.map some).mapError .calculation, state)) ∧
      (∀ debug desk, (Shell.runOnce (rates.map SteadyRates.toSource) debug entry).start desk =
        (.ok (if outcome.isOk then 0 else 1), shown debug e outcome desk)) ∧
      (∀ debug desk,
        (empty.turn (rates.map SteadyRates.toSource) debug (.line entry)).start desk =
          (.ok (some empty), remembered entry (shown debug e outcome
            (announced debug count (prompted [] desk))))) := by
  intro entry count
  obtain ⟨group, h⟩ := Holds.empty.of_after hscript
  have hnext := h.extend hsolid hjoined
  have hentry : entry = entryOf (group ++ [text]) := hnext.entry_eq
  have htree : treeOf? (group ++ [text]) = some e := hnext.tree?_eq.symm.trans htree
  have hcount : count = (tokensOf (group ++ [text])).length := by
    rw [← hnext.tokens, Array.length_toList]
  -- what was shown is a value or a failure, as the session went on
  obtain ⟨outcome, houtcome⟩ : ∃ outcome : Except CalcError Quantity,
      e.outcome rates = outcome.mapError .calculation := by
    rw [turn, start_bind, start_showPrompt h, andThen_ok, start_receive hsolid hjoined] at hturn
    simp only [hnext.tree?_eq, htree] at hturn
    obtain ⟨_, _, hshow, -⟩ := andThen_eq_ok hturn
    exact exists_outcome hshow
  have hparse := parseText_entryOf htree hnext.short
  refine ⟨group, outcome, ⟨h, hentry⟩, ?_⟩
  rw [hentry, hcount]
  refine ⟨?_, fun state => ?_, start_runOnce hparse houtcome,
    start_entry hnext.solid hnext.short htree houtcome (by simp)⟩
  · rw [start_complete h hsolid hjoined htree houtcome] at hturn
    cases hturn
    exact ⟨rfl, rfl⟩
  · rw [start_calculate hparse, houtcome]
    cases outcome with
    | ok q => rfl
    | error why => rfl

/-- Three and a half of any currency for one of any other. -/
def sevenHalves : SteadyRates := fun _ _ => .ok ⟨7, 2, by decide, by decide, by decide, by decide⟩

theorem eurosAndDollars_replay :
    ∃ (s joined : Session) (next : Option Session) (before after : Desk) (e : Expr),
      (empty.after (some sevenHalves.toSource) false [.line "1 eur +"]).start (Desk.bare []) =
        (.ok (some s), before) ∧
      Text.isAllBlank " 2 usd " = false ∧ s.extend " 2 usd " = .ok joined ∧
      joined.buffer.parse.tree? = some e ∧
      (s.turn (some sevenHalves.toSource) false (.line " 2 usd ")).start before =
        (.ok next, after) ∧
      after.host.terminal.history = ["1 eur + 2 usd"] ∧ after.host.printed = "8EUR\n" ∧
      (Shell.runOnce (some sevenHalves.toSource) false "1 eur + 2 usd").start (Desk.bare []) =
        (.ok 0, printed "8EUR" (Desk.bare [])) := by
  let sum : Expr := .binary .add (.leaf ⟨.whole 1, some (.currency "EUR")⟩)
    (.leaf ⟨.whole 2, some (.currency "USD")⟩)
  let words : List Token := [.integer 1, .currency "EUR", .plus, .integer 2, .currency "USD"]
  let eight : Quantity := ⟨.whole 8, some (.currency "EUR")⟩
  have hreports : Reports (some sevenHalves.toSource) :=
    reports_of_answers fun _ hsource _ _ _ _ _ h => by cases hsource; cases h
  have hsolid : Text.isAllBlank " 2 usd " = false := by decide
  have hlines : Typed.failure ∉ [Typed.line "1 eur +"] := by decide
  obtain ⟨result, hscript, hsettles⟩ := start_after hreports hlines Holds.empty (Desk.bare [])
  have hmove : move [] (.line "1 eur +") = .join "1 eur +" := by
    have htokens : Token.tokenize "1 eur +" = .ok [.integer 1, .currency "EUR", .plus] := by
      decide +kernel
    exact move_join [.integer 1, .currency "EUR", .plus] (by decide) htokens (by decide +kernel)
      (by decide) (by decide +kernel)
  have hpending : pendingAfter [] [.line "1 eur +"] = some ["1 eur +"] := by
    rw [pendingAfter, hmove]
    rfl
  have hcourse : course [] [.line "1 eur +"] = [⟨[], .join "1 eur +"⟩] := by
    rw [course, hmove]
    rfl
  have hfault : faultOf? [] [.line "1 eur +"] = none := by
    rw [faultOf?, hcourse]
    rfl
  rw [hpending, hfault] at hsettles
  cases hsettles with
  | @goesOn s _ h =>
    have htokens : Token.tokenize " 2 usd " = .ok [.integer 2, .currency "USD"] := by decide +kernel
    have hjoined := extend_of_ok (s := s) htokens
    have hnext := h.extend hsolid hjoined
    have hsum : treeOf? ["1 eur +", " 2 usd "] = some sum := by
      rw [treeOf?_eq_longest words (by decide +kernel) (by decide)]
      decide +kernel
    have htree := hnext.tree?_eq.trans hsum
    have hentry := hnext.entry_eq.trans
      (show entryOf ["1 eur +", " 2 usd "] = "1 eur + 2 usd" by decide)
    have hline : Typed.line " 2 usd " ≠ .failure := by decide
    obtain ⟨next, hturn, hnext⟩ := start_turn hreports h hline
      (play (some sevenHalves.toSource) [.line "1 eur +"] [] (Desk.bare []))
    rw [move_of_ok hsolid htokens, List.singleton_append, hsum] at hnext
    cases hnext with
    | @goesOn s' _ h' =>
      have hsession : (empty.after ((some sevenHalves).map SteadyRates.toSource) false
          [.line "1 eur +"]).start (Desk.bare []) = _ := hscript
      obtain ⟨group, outcome, -, ⟨-, hafter⟩, hcalculate, honce, -⟩ :=
        entry_replays hsession hsolid hjoined htree hturn
      have hwords : Token.tokenize "1 eur + 2 usd" = .ok words := by decide +kernel
      have hparse : parseText "1 eur + 2 usd" = .ok (some sum) := by
        rw [parseText_of_tokenize hwords, Grammar.parse, Grammar.parseWithin_eq_longest (by decide)]
        decide +kernel
      have hvalue : sum.outcome (some sevenHalves) = .ok eight := by
        rw [Expr.outcome, Expr.evaluate_eq_value]
        rfl
      have hshown (desk : Desk) : shown false sum (.ok eight) desk = printed "8EUR" desk := by
        have htext : eight.text = "8EUR" := by decide
        rw [← htext]
        rfl
      specialize hcalculate ()
      rw [hentry, start_calculate hparse, hvalue] at hcalculate
      cases outcome with
      | error why => cases hcalculate
      | ok q =>
        cases hcalculate
        refine ⟨s, _, some s', _, _, sum, hscript, hsolid, hjoined, htree, hturn, ?_, ?_, ?_⟩
        · rw [hafter, hentry, play, hcourse]
          rfl
        · rw [hafter, hshown, play, hcourse]
          rfl
        · rw [← hentry, ← hshown]
          exact honce false (Desk.bare [])

end

end Session

end Reckoner
