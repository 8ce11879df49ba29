import Reckoner.Document.Count
import Reckoner.Document.Datum
import Reckoner.Fault.Document
import Reckoner.Number.Double

/-!
# Checking data

Data is checked against an expected shape.  A check gives the value or every issue it found, each
with the path to its place.  A part of a record goes by two names, of which the first is preferred;
the path shows the name that was found.
-/

namespace Reckoner

/-- A value, or the issues that stand in its way. -/
abbrev Checked (α : Type) := Except (List Issue) α

namespace Checked

variable {α β : Type}

/-- One issue right here. -/
def issue (kind : IssueKind) : Checked α := .error [⟨[], kind⟩]

/-- The same check, seen from one level further out. -/
def under (name : String) (c : Checked α) : Checked α := c.mapError (·.map (Issue.under name))

/-- Two checks, whose issues add up. -/
def both (a : Checked α) (b : Checked β) : Checked (α × β) :=
  match a, b with
  | .ok a, .ok b => .ok (a, b)
  | .error e, .ok _ => .error e
  | .ok _, .error e => .error e
  | .error e, .error f => .error (e ++ f)

/-- A check of every item of a list, whose issues add up. -/
def all (check : Datum → Checked α) : Nat → List Datum → Checked (List α)
  | _, [] => .ok []
  | i, d :: ds =>
    (both (under (toString i) (check d)) (all check (i + 1) ds)).map fun (a, as) => a :: as

end Checked

namespace Datum

variable {α : Type}

/-- The parts of a record. -/
def parts : Datum → Checked Datum.Parts
  | .record parts => .ok parts
  | _ => Checked.issue .notRecord

/-- A text. -/
def asText : Datum → Checked String
  | .text s => .ok s
  | _ => Checked.issue .notText

/-- An integer; a flag counts as one or zero, and a text is read. -/
def asInteger : Datum → Checked Int
  | .integer n => .ok n
  | .flag b => .ok (if b then 1 else 0)
  | .text s =>
    match Document.readCount s with
    | .ok n => .ok n
    | .error .malformed => Checked.issue .badInteger
    | .error (.tooLong _) => Checked.issue .longInteger
  | .real x =>
    if Double.isWhole x then .ok ((Double.truncate? x).getD 0) else Checked.issue .notInteger
  | _ => Checked.issue .notInteger

/-- A list whose items pass a check. -/
def asList (check : Datum → Checked α) : Datum → Checked (List α)
  | .list items => Checked.all check 0 items
  | _ => Checked.issue .notList

/-- The part of a record that goes by the first name or, failing that, by the second. -/
def part? (parts : Datum.Parts) (first second : String) : Option (String × Datum) :=
  match parts.lookup first with
  | some d => some (first, d)
  | none => (parts.lookup second).map fun d => (second, d)

/-- A part that may be absent. -/
def optional (parts : Datum.Parts) (first second : String) (default : α)
    (check : Datum → Checked α) : Checked α :=
  match part? parts first second with
  | some (name, d) => Checked.under name (check d)
  | none => .ok default

/-- A part that has to be there. -/
def required (parts : Datum.Parts) (first second : String) (check : Datum → Checked α) :
    Checked α :=
  match part? parts first second with
  | some (name, d) => Checked.under name (check d)
  | none => .error [⟨[first], .missing⟩]

/-- The datum of a record that holds what the document is about: the part of the given name or, when
there is only one part, that one.  Nothing counts as an empty record. -/
def body (tag : String) (d : Datum) : Datum :=
  let chosen := match d with
    | .record parts =>
      match parts.lookup tag, parts with
      | some b, _ => b
      | none, [(_, b)] => b
      | none, _ => d
    | _ => d
  match chosen with
  | .nothing => .record []
  | chosen => chosen

end Datum

namespace Issue

/-- Paths in order, name by name, a shorter path before those that go on from it. -/
def pathLe : List String → List String → Bool
  | [], _ => true
  | _ :: _, [] => false
  | a :: as, b :: bs => a < b || (a == b && pathLe as bs)

/-- Issues in the order of their paths. -/
def sort (issues : List Issue) : List Issue := issues.mergeSort fun a b => pathLe a.path b.path

end Issue

/-- The value of a check, or the fault of the document that it was made on. -/
def Checked.orFault {α : Type} (c : Checked α) (document : Option String) :
    Except DocumentFault α :=
  c.mapError fun issues => .of (.invalid (Issue.sort issues)) document

end Reckoner
