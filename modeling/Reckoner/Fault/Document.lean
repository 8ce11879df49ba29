/-!
# Faulty documents

Why a document that should hold exchange rates is refused.  A document with the right shape but
wrong contents is described by its issues: where each stands, as a path of names and list
positions, and what is wrong there.
-/

namespace Reckoner

/-- What is wrong at one place of a document. -/
inductive IssueKind where
  /-- A required part is absent. -/
  | missing
  /-- A text was expected. -/
  | notText
  /-- A text that should be an integer is none. -/
  | badInteger
  /-- A text that should be an integer is too long for one. -/
  | longInteger
  /-- An integer was expected. -/
  | notInteger
  /-- The value is of the right kind but not acceptable. -/
  | badValue
  /-- A rate was expected. -/
  | notRate
  /-- A record of named parts was expected. -/
  | notRecord
  /-- A list was expected. -/
  | notList
  deriving DecidableEq, Repr

/-- One thing that is wrong with a document's contents. -/
structure Issue where
  path : List String
  kind : IssueKind
  deriving DecidableEq, Repr

/-- The issue seen from one level further out. -/
def Issue.under (name : String) (issue : Issue) : Issue := { issue with path := name :: issue.path }

/-- What is wrong with a document as a whole. -/
inductive DocumentProblem where
  /-- The document is empty or blank. -/
  | blank
  /-- The document is not well formed. -/
  | malformed
  /-- The contents are not those of a rates document. -/
  | invalid (issues : List Issue)
  deriving DecidableEq, Repr

/-- A refused document, with the excerpt that the report shows. -/
structure DocumentFault where
  problem : DocumentProblem
  excerpt : Option String
  deriving DecidableEq, Repr

namespace DocumentFault

/-- A text cut after two hundred characters, with three dots where something was cut off. -/
def excerptOf (document : String) : String :=
  if 200 < document.length then String.ofList (document.toList.take 200) ++ "..." else document

/-- The fault of a given document. -/
def of (problem : DocumentProblem) (document : Option String) : DocumentFault :=
  ⟨problem, document.map excerptOf⟩

/-- A report of a faulty document: what is wrong, the excerpt and the cause.  An empty excerpt is
left out. -/
def report (message : String) (excerpt cause : Option String) : String :=
  let shown := match excerpt with
    | some text => if text.isEmpty then "" else " | XML: " ++ text
    | none => ""
  let because := match cause with
    | some text => " | Cause: " ++ text
    | none => ""
  message ++ shown ++ because

end DocumentFault

/-- The first words of the report on a faulty document. -/
def DocumentProblem.message : DocumentProblem → String
  | .blank => "XML string is empty or whitespace"
  | .malformed => "Invalid XML format"
  | .invalid _ => "Data validation failed"

end Reckoner
