import Reckoner.Proofs.Expr.Frame
import Reckoner.Proofs.Expr.Units
import Reckoner.Proofs.Grammar.Buffer
import Reckoner.Proofs.Grammar.Memo
import Reckoner.Proofs.Rates.Service
import Reckoner.Proofs.Token.Excess
import Reckoner.Shell.Session

/-!
# A session in segments

What is typed falls into groups of lines.  Blank lines count for nothing; any other line joins the
pending group, and the group is complete as soon as its lines together are one expression.  Then the
value, or why there is none, is shown, the group becomes one entry of the history, and the next
group begins.  An interrupt drops a group, or ends the session when none is pending.  A line with
too long a numeral has no tokens, and the session breaks off with this fault.

`course` says this of a script alone, without a session, a buffer or a memo; `Turn.play` says what a
turn does at the terminal.  A session does just what its turns do (`run_eq_course`).
-/

namespace Reckoner.Session

open Calculation

/-! ## Groups of lines -/

/-- The tokens of some lines. -/
def tokensOf (group : List String) : List Token :=
  group.flatMap fun line => Token.ofChars line.toList

/-- The tree of some lines that are one expression together. -/
def treeOf? (group : List String) : Option Expr :=
  (Grammar.parse (tokensOf group).toArray).tree?

/-- The tree of lines with few tokens is the longest expression at their start. -/
theorem treeOf?_eq_longest {group : List String} (ts : List Token) (htokens : tokensOf group = ts)
    (hfew : Grammar.level ts.toArray .expression 0 < Grammar.nestingLimit) :
    treeOf? group =
      (Grammar.outcomeOf ts.toArray (Grammar.longest ts.toArray .expression 0)).tree? := by
  rw [treeOf?, htokens, Grammar.parse, Grammar.parseWithin_eq_longest hfew]

/-- The entry under which some lines are remembered. -/
def entryOf (group : List String) : String := " ".intercalate (group.map Text.trim)

/-- What the terminal shows before a line of a group is typed. -/
def promptOf (group : List String) : String := if group.isEmpty then ">> " else ".. "

/-! ## Turns -/

/-- What comes of something typed. -/
inductive Move where
  /-- Nothing; the line is blank. -/
  | blank
  /-- The line joins the group. -/
  | join (line : String)
  /-- The line joins the group, which is an expression now. -/
  | complete (line : String) (e : Expr)
  /-- The line has no tokens, which is the end of the session. -/
  | fail (line : String) (fault : Fault)
  /-- The group is dropped. -/
  | drop
  /-- The session ends. -/
  | quit

/-- What comes of something typed while a group is pending. -/
def move (group : List String) : Typed → Move
  | .line text =>
    if Text.isAllBlank text then .blank
    else
      match Token.tokenize text, treeOf? (group ++ [text]) with
      | .error fault, _ => .fail text fault
      | .ok _, none => .join text
      | .ok _, some e => .complete text e
  | .interrupt | .endOfInput | .failure => if group.isEmpty then .quit else .drop

theorem move_of_ok {group : List String} {text : String} {ts : List Token}
    (hsolid : Text.isAllBlank text = false) (h : Token.tokenize text = .ok ts) :
    move group (.line text) =
      match treeOf? (group ++ [text]) with
      | none => .join text
      | some e => .complete text e := by
  simp only [move, hsolid, h, Bool.false_eq_true, if_false]
  cases treeOf? (group ++ [text]) <;> rfl

/-- A line joins its group when the two, with few tokens, are no expression together. -/
theorem move_join {group : List String} {text : String} {ts : List Token} (all : List Token)
    (hsolid : Text.isAllBlank text = false) (h : Token.tokenize text = .ok ts)
    (htokens : tokensOf (group ++ [text]) = all)
    (hfew : Grammar.level all.toArray .expression 0 < Grammar.nestingLimit)
    (hnone : (Grammar.outcomeOf all.toArray
      (Grammar.longest all.toArray .expression 0)).tree? = none) :
    move group (.line text) = .join text := by
  rw [move_of_ok hsolid h, treeOf?_eq_longest all htokens hfew, hnone]

/-- A move while a group is pending. -/
structure Turn where
  group : List String
  move : Move

namespace Turn

/-- The group that is pending afterwards, as long as the session goes on. -/
def next (t : Turn) : Option (List String) :=
  match t.move with
  | .blank => some t.group
  | .join line => some (t.group ++ [line])
  | .complete _ _ | .drop => some []
  | .fail _ _ | .quit => none

/-- The fault with which the turn ends the session. -/
def fault? (t : Turn) : Option Fault :=
  match t.move with
  | .fail _ fault => some fault
  | _ => none

/-- The lines of the group that the turn closes. -/
def closed (t : Turn) : List String :=
  match t.move with
  | .complete line _ | .fail line _ => t.group ++ [line]
  | .drop => t.group
  | _ => []

end Turn

/-- The turns of a script, as long as the session goes on. -/
def course (group : List String) : List Typed → List Turn
  | [] => []
  | typed :: rest =>
    let turn : Turn := ⟨group, move group typed⟩
    turn :: match turn.next with
      | some group => course group rest
      | none => []

/-- The group that is pending after a script, if the session still goes on. -/
def pendingAfter (group : List String) : List Typed → Option (List String)
  | [] => some group
  | typed :: rest =>
    match Turn.next ⟨group, move group typed⟩ with
    | some group => pendingAfter group rest
    | none => none

/-- The fault with which a script ends the session. -/
def faultOf? (group : List String) (script : List Typed) : Option Fault :=
  (course group script).findSome? Turn.fault?

/-- The lines among what was typed that are not blank. -/
def linesOf (script : List Typed) : List String :=
  script.filterMap fun
    | .line text => if Text.isAllBlank text then none else some text
    | _ => none

/-! ## Turns at the terminal -/

/-- The line that an outcome is shown as. -/
def textOf : Except Fault Quantity → String
  | .ok q => q.text
  | .error fault => fault.message

/-- The desk after a prompt. -/
def prompted (group : List String) (desk : Desk) : Desk :=
  { desk with host := { desk.host with terminal :=
    { desk.host.terminal with prompts := desk.host.terminal.prompts ++ [promptOf group] } } }

/-- The desk after a line of output. -/
def printed (text : String) (desk : Desk) : Desk :=
  { desk with host := desk.host.printLine text }

/-- The desk after an entry of the history. -/
def remembered (entry : String) (desk : Desk) : Desk :=
  { desk with host := { desk.host with terminal :=
    { desk.host.terminal with history := desk.host.terminal.history ++ [entry] } } }

/-- What a turn does: it shows the prompt of its group.  If the group is complete, its tree is
evaluated, the outcome is shown in one line, and the group becomes one entry.  An interrupt begins a
new line. -/
def Turn.play (source : Option (RateSource Desk)) (desk : Desk) (t : Turn) : Desk :=
  match t.move with
  | .blank | .join _ | .fail _ _ => prompted t.group desk
  | .complete line e =>
    let (outcome, evaluated) := (e.evaluate source).start (prompted t.group desk)
    remembered (entryOf (t.group ++ [line])) (printed (textOf outcome) evaluated)
  | .drop | .quit => printed "" (prompted t.group desk)

/-- The line of output of a turn, if it has one. -/
def Turn.text? (source : Option (RateSource Desk)) (desk : Desk) (t : Turn) : Option String :=
  match t.move with
  | .blank | .join _ | .fail _ _ => none
  | .complete _ e => some (textOf ((e.evaluate source).start (prompted t.group desk)).1)
  | .drop | .quit => some ""

/-- What a script does. -/
def play (source : Option (RateSource Desk)) (script : List Typed) (group : List String)
    (desk : Desk) : Desk :=
  (course group script).foldl (Turn.play source) desk

/-- Evaluation fails only where an expression has no value. -/
def Reports (source : Option (RateSource Desk)) : Prop :=
  ∀ (e : Expr) (desk desk' : Desk) (fault : Fault),
    (e.evaluate source).start desk = (.error fault, desk') → ∃ why, fault = .calculation why

/-! ## Sessions and groups -/

/-- Questions for rates are not seen at the terminal. -/
def Quiet (source : Option (RateSource Desk)) : Prop :=
  ∀ rates ∈ source, rates.Leaves fun desk => (desk.host.terminal, desk.host.printed)

/-- A source that answers by rates or failed conversions is one with which evaluation reports. -/
theorem reports_of_answers {source : Option (RateSource Desk)}
    (hs : ∀ rates ∈ source, rates.Answers) : Reports source := by
  intro e desk desk' fault h
  have hagrees := Expr.value_agrees hs e desk
  rw [← Expr.evaluate_eq_value, h] at hagrees
  exact hagrees.1

theorem quiet_of_service {service : Service} (h : service.debug = false) :
    Quiet (some service.toSource) := by
  rintro rates ⟨⟩
  exact Service.toSource_leaves h

/-- The session holds the lines of a group: trimmed, and as tokens.  All of them have tokens. -/
structure Holds (s : Session) (group : List String) : Prop where
  lines : s.lines = group.map Text.trim
  tokens : s.buffer.tokens.toList = tokensOf group
  solid : ∀ line ∈ group, Text.isAllBlank line = false
  short : ∀ line ∈ group, Token.excessIn? line.toList = none

/-- What becomes of a session: it breaks off with a fault, it ends, or it goes on and holds a
group. -/
inductive Settles : Option Fault → Option (List String) → Except Fault (Option Session) → Prop where
  | fault (fault : Fault) : Settles (some fault) none (.error fault)
  | ended : Settles none none (.ok none)
  | goesOn {s : Session} {group : List String} :
    Holds s group → Settles none (some group) (.ok (some s))

section
variable {s : Session} {group : List String}

theorem Holds.empty : Holds Session.empty [] := ⟨rfl, rfl, nofun, nofun⟩

theorem Holds.clear (s : Session) : Holds s.clear [] := ⟨rfl, rfl, nofun, nofun⟩

/-- A line that is not blank has tokens, so there are tokens as soon as there are lines. -/
theorem Holds.isEmpty_iff (h : Holds s group) : s.buffer.isEmpty = true ↔ group = [] := by
  rw [Grammar.Buffer.isEmpty_iff, h.tokens, tokensOf, List.flatMap_eq_nil_iff]
  constructor
  · intro hnil
    refine List.eq_nil_iff_forall_not_mem.2 fun line hmem => ?_
    exact Token.ofChars_ne_nil (h.solid line hmem) (hnil line hmem)
  · rintro rfl line hmem
    cases hmem

theorem Holds.isEmpty_eq (h : Holds s group) : s.buffer.isEmpty = group.isEmpty := by
  rw [Bool.eq_iff_iff, h.isEmpty_iff, List.isEmpty_iff]

theorem Holds.prompt_eq (h : Holds s group) : s.prompt = promptOf group := by
  rw [prompt, promptOf, h.isEmpty_eq]

theorem extend_of_error {text : String} {fault : Fault} (h : Token.tokenize text = .error fault) :
    s.extend text = .error fault := by
  rw [Session.extend, h]
  rfl

theorem extend_of_ok {text : String} {ts : List Token} (h : Token.tokenize text = .ok ts) :
    s.extend text = .ok ⟨s.lines ++ [Text.trim text], s.buffer.extend ts⟩ := by
  rw [Session.extend, h]
  rfl

/-- A session with one more line, before or after it is parsed. -/
theorem Holds.extend (h : Holds s group) {text : String} (hsolid : Text.isAllBlank text = false)
    {joined : Session} (hjoined : s.extend text = .ok joined) : Holds joined (group ++ [text]) := by
  cases htokens : Token.tokenize text with
  | error fault => cases (extend_of_error htokens).symm.trans hjoined
  | ok ts =>
    cases (extend_of_ok htokens).symm.trans hjoined
    obtain ⟨hshort, rfl⟩ := Token.tokenize_eq_ok_iff.1 htokens
    exact {
      lines := by simp [h.lines]
      tokens := by simp [h.tokens, tokensOf, List.flatMap_append]
      solid := List.forall_mem_append.2 ⟨h.solid, List.forall_mem_singleton.2 hsolid⟩
      short := List.forall_mem_append.2 ⟨h.short, List.forall_mem_singleton.2 hshort⟩ }

theorem Holds.parsed (h : Holds s group) : Holds { s with buffer := s.buffer.run.2 } group where
  lines := h.lines
  tokens := by rw [← h.tokens, Grammar.Buffer.run_snd_tokens]
  solid := h.solid
  short := h.short

theorem Holds.tree?_eq (h : Holds s group) : s.buffer.run.1.tree? = treeOf? group := by
  rw [Grammar.Buffer.run_fst, treeOf?, ← h.tokens, Array.toArray_toList]

theorem Holds.entry_eq (h : Holds s group) : s.entry = entryOf group := by
  rw [entry, entryOf, h.lines]

end

/-! ## One turn -/

section
variable {source : Option (RateSource Desk)} {s : Session} {group : List String}

@[simp] theorem start_modify (f : Desk → Desk) (desk : Desk) :
    start (modify f : Calculation Desk Unit) desk = (.ok (), f desk) := rfl

theorem start_showPrompt (h : Holds s group) (desk : Desk) :
    start s.showPrompt desk = (.ok (), prompted group desk) := by
  rw [showPrompt, h.prompt_eq]
  rfl

theorem start_remember (entry : String) (desk : Desk) :
    start (remember entry) desk = (.ok (), remembered entry desk) := rfl

theorem start_get (desk : Desk) : start (get : Calculation Desk Desk) desk = (.ok desk, desk) := rfl

/-- The outcome of an evaluation is shown in one line. -/
theorem start_showValue (hs : Reports source) (e : Expr) (desk : Desk) :
    ∃ shown, start (Shell.showValue source false e) desk =
      (.ok shown, printed (textOf ((e.evaluate source).start desk).1)
        ((e.evaluate source).start desk).2) := by
  rw [Shell.showValue]
  simp only [Bool.false_eq_true, if_false, start_bind, start_get, andThen_ok]
  match heval : (e.evaluate source).start desk with
  | (.ok q, desk') => exact ⟨true, rfl⟩
  | (.error fault, desk') =>
    obtain ⟨why, rfl⟩ := hs e desk desk' fault heval
    exact ⟨false, rfl⟩

/-- An interrupt drops the group, or ends the session. -/
theorem start_interrupt (h : Holds s group) {typed : Typed}
    (htyped : typed = .interrupt ∨ typed = .endOfInput) (desk : Desk) :
    let t : Turn := ⟨group, move group typed⟩
    ∃ result, start (s.receive source false typed) (prompted group desk) =
        (result, t.play source desk) ∧ Settles t.fault? t.next result := by
  have hmove : move group typed = if group.isEmpty then .quit else .drop := by
    rcases htyped with rfl | rfl <;> rfl
  have hreceive : start (s.receive source false typed) (prompted group desk) =
      (.ok (if s.buffer.isEmpty then none else some s.clear),
        printed "" (prompted group desk)) := by
    rcases htyped with rfl | rfl <;> rfl
  rw [hmove, hreceive, h.isEmpty_eq]
  cases group with
  | nil => exact ⟨_, rfl, .ended⟩
  | cons line rest => exact ⟨_, rfl, .goesOn (Holds.clear s)⟩

/-- A line that is not blank joins the group and may complete it, or it has no tokens. -/
theorem start_line (hs : Reports source) (h : Holds s group) {text : String}
    (hsolid : Text.isAllBlank text = false) (desk : Desk) :
    let t : Turn := ⟨group, move group (.line text)⟩
    ∃ result, start (s.receive source false (.line text)) (prompted group desk) =
        (result, t.play source desk) ∧ Settles t.fault? t.next result := by
  cases htokens : Token.tokenize text with
  | error fault =>
    simp only [receive, move, hsolid, Bool.false_eq_true, if_false, extend_of_error htokens,
      htokens]
    exact ⟨_, rfl, .fault fault⟩
  | ok ts =>
    -- the lines are held before they are parsed, and after it when they are no expression yet
    have hnext := h.extend hsolid (extend_of_ok htokens)
    simp only [receive, move, hsolid, Bool.false_eq_true, if_false, extend_of_ok htokens, htokens,
      start_bind, start_ofExcept, andThen_ok, hnext.tree?_eq]
    cases treeOf? (group ++ [text]) with
    | none => exact ⟨_, rfl, .goesOn hnext.parsed⟩
    | some e =>
      obtain ⟨shown, hshown⟩ := start_showValue hs e (prompted group desk)
      simp only [start_bind, hshown, andThen_ok, start_remember, start_pure, hnext.parsed.entry_eq]
      exact ⟨_, rfl, .goesOn (Holds.clear _)⟩

/-- A turn of a session is the turn of the group that it holds. -/
theorem start_turn (hs : Reports source) (h : Holds s group) {typed : Typed}
    (htyped : typed ≠ .failure) (desk : Desk) :
    let t : Turn := ⟨group, move group typed⟩
    ∃ result, (s.turn source false typed).start desk = (result, t.play source desk) ∧
      Settles t.fault? t.next result := by
  rw [turn, start_bind, start_showPrompt h, andThen_ok]
  cases typed with
  | failure => exact absurd rfl htyped
  | interrupt => exact start_interrupt h (.inl rfl) desk
  | endOfInput => exact start_interrupt h (.inr rfl) desk
  | line text =>
    cases hsolid : Text.isAllBlank text with
    | true =>
      simp only [receive, move, hsolid, if_true]
      exact ⟨_, rfl, .goesOn h⟩
    | false => exact start_line hs h hsolid desk

/-! ## Whole scripts -/

/-- The session after some things are typed, if it still goes on. -/
def after (source : Option (RateSource Desk)) (debug : Bool) (s : Session) :
    List Typed → Calculation Desk (Option Session)
  | [] => pure (some s)
  | typed :: rest => do
    match ← s.turn source debug typed with
    | none => pure none
    | some next => next.after source debug rest

/-- The fault of a script is that of its first turn, or of the rest. -/
theorem faultOf?_cons (group : List String) (typed : Typed) (rest : List Typed) :
    faultOf? group (typed :: rest) =
      (Turn.fault? ⟨group, move group typed⟩).or
        ((Turn.next ⟨group, move group typed⟩).bind fun group => faultOf? group rest) := by
  rw [faultOf?, course, List.findSome?_cons]
  cases Turn.fault? ⟨group, move group typed⟩ with
  | some fault => rfl
  | none => cases Turn.next ⟨group, move group typed⟩ <;> rfl

/-- A session plays its turns, and holds the pending group all along. -/
theorem start_after (hs : Reports source) {script : List Typed} (hscript : .failure ∉ script)
    (h : Holds s group) (desk : Desk) :
    ∃ result, (s.after source false script).start desk = (result, play source script group desk) ∧
      Settles (faultOf? group script) (pendingAfter group script) result := by
  -- what the session holds after one turn is what the next turn starts from
  induction script generalizing s group desk with
  | nil => exact ⟨_, rfl, .goesOn h⟩
  | cons typed rest ih =>
    have htyped : typed ≠ .failure := fun heq => hscript (heq ▸ List.mem_cons_self)
    have hrest : Typed.failure ∉ rest := fun hmem => hscript (List.mem_cons_of_mem _ hmem)
    obtain ⟨result, hturn, hnext⟩ := start_turn hs h htyped desk
    rw [after, start_bind, hturn, faultOf?_cons]
    simp only [play, course, pendingAfter, List.foldl_cons]
    revert hnext
    generalize Turn.fault? ⟨group, move group typed⟩ = fault
    generalize Turn.next ⟨group, move group typed⟩ = next
    intro hnext
    cases hnext with
    | fault fault => exact ⟨_, rfl, .fault fault⟩
    | ended => exact ⟨_, rfl, .ended⟩
    | goesOn hholds => exact ih hrest hholds _

end

end Reckoner.Session
