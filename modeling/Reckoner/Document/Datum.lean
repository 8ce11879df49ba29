import Reckoner.Text.Blank
import Reckoner.Xml.Namespace
import Reckoner.Xml.Reader

/-!
# Data

Data without a fixed shape: nothing, flags, numbers, texts, lists, and records of named parts.  A
document becomes a record of its outermost element.  An element without attributes and elements
inside is its text, or nothing when it has none but blanks.  Any other element is a record: an
attribute's part is named with a leading `@`, the text's part `#text`, and an element's part by the
element; elements of one name become a list, and so does a single one whose name asks for it.
-/

namespace Reckoner

/-- Data without a fixed shape. -/
inductive Datum where
  | nothing
  | flag (b : Bool)
  | integer (n : Int)
  | real (x : Float)
  | text (s : String)
  | list (items : List Datum)
  | record (parts : List (String × Datum))
  deriving Inhabited

namespace Datum

/-- The parts of a record. -/
abbrev Parts := List (String × Datum)

/-- Sets a part, replacing the part of that name. -/
def set (parts : Parts) (name : String) (value : Datum) : Parts :=
  match parts with
  | [] => [(name, value)]
  | (n, v) :: rest => if n = name then (n, value) :: rest else (n, v) :: set rest name value

/-- A second value under one name makes a list of the two, and a further one extends it. -/
def joined (old new : Datum) : Datum :=
  match old with
  | .list items => .list (items ++ [new])
  | _ => .list [old, new]

/-- Adds a value under a name.  A first value becomes a list when its name is among `lists`. -/
def add (lists : List String) (parts : Parts) (name : String) (value : Datum) : Parts :=
  match parts.lookup name with
  | some old => set parts name (joined old value)
  | none => parts ++ [(name, if lists.contains name then .list [value] else value)]

/-- A text, or nothing when it is empty. -/
def ofText (s : String) : Datum := if s.isEmpty then .nothing else .text s

/-- The part of an element's namespace declarations. -/
def ofDeclarations (declared : List (String × Option String)) : Datum :=
  .record (declared.foldl
    (fun parts (label, uri) => set parts label (uri.elim .nothing .text)) [])

/-- The parts of an element's attributes and declarations. -/
def attributeParts (attributes : List (String × String))
    (declared : List (String × Option String)) : Parts :=
  let parts := attributes.foldl (fun parts (key, value) => set parts ("@" ++ key) (.text value)) []
  if declared.isEmpty then parts else set parts "@xmlns" (ofDeclarations declared)

/-- The trimmed text directly in an element. -/
def directText (contents : List Xml.Node) : String :=
  Text.trim (String.join (contents.filterMap Xml.Node.text?))

/-- An element from its parts and its text. -/
def assemble (lists : List String) (parts : Parts) (text : String) : Datum :=
  if parts.isEmpty then ofText text
  else if text.isEmpty then .record parts
  else .record (add lists parts "#text" (.text text))

mutual

/-- The datum of an element. -/
def ofElement (lists : List String) : Xml.Node → Datum
  | .text s => ofText (Text.trim s)
  | .element _ attributes declared contents =>
    assemble lists (addContents lists (attributeParts attributes declared) contents)
      (directText contents)

/-- Adds the elements among some contents to the parts. -/
def addContents (lists : List String) (parts : Parts) : List Xml.Node → Parts
  | [] => parts
  | .text _ :: ns => addContents lists parts ns
  | .element name attributes declared contents :: ns =>
    addContents lists
      (add lists parts name (ofElement lists (.element name attributes declared contents))) ns

end

/-- The record of a document's outermost element. -/
def ofRoot (lists : List String) (root : Xml.Node) : Datum := .record (addContents lists [] [root])

end Datum

end Reckoner
