import Reckoner.Document.Datum
import Reckoner.Fault

/-!
# Reading data from a document

A document is trimmed of blanks and read as data.  A fault shows the document as it was given,
blanks included.
-/

namespace Reckoner.Document

/-- How a document is turned into data. -/
structure Reading where
  /-- The names whose elements always come as a list. -/
  lists : List String
  /-- Short names for namespaces, when names are qualified. -/
  short : Option Xml.ShortNames

/-- The outermost element of a document, with its names as data shows them. -/
def root (reading : Reading) (document : String) : Except Xml.Refusal Xml.Node :=
  match reading.short with
  | none => Xml.readDocument .plain document
  | some short => do
    let node ← Xml.readDocument .qualified document
    match node.resolve short Xml.outermostScope with
    | some node => .ok node
    | none => .error .malformed

/-- The data of a document. -/
def read (reading : Reading) (document : String) : Except Fault Datum :=
  if Text.isAllBlank document then .error (.document ⟨.blank, none⟩)
  else
    match root reading (Text.trim document) with
    | .ok node => .ok (Datum.ofRoot reading.lists node)
    | .error .malformed => .error (.document (.of .malformed (some document)))
    | .error .entityDeclared => .error .entityDeclared

end Reckoner.Document
