import Reckoner.Text.Line
import Reckoner.Xml.Node
import Reckoner.Xml.Prolog

/-!
# Reading a document

A document is read in one pass.  After the prolog, markup is taken piece by piece: a tag that opens
an element puts it on a stack, its contents are collected, and the tag that closes it hands it to
the element around it.  The document is well formed when exactly one element closes the stack and
only comments, instructions and spaces follow.
-/

namespace Reckoner.Xml

/-- What the prolog and the style of names say about the pieces of a document. -/
structure Setting where
  style : NameStyle
  rules : List AttributeRule
  refs : References

/-- A piece of a document. -/
inductive Piece where
  /-- A tag that opens an element; the flag tells that it closes it as well. -/
  | opening (name : String) (attributes : List (String × String)) (closed : Bool)
  | closing (name : String)
  | chars (cs : List Char)
  /-- A comment or an instruction. -/
  | aside

/-! ## Tags -/

/-- The attributes of a tag up to its end, and whether it closes its element. -/
def writtenAttributes (setting : Setting) :
    Nat → List Char → Option (List (String × List Char) × Bool × List Char)
  | 0, _ => none
  | fuel + 1, cs =>
    match skipSpace cs with
    | '>' :: rest => some ([], false, rest)
    | '/' :: '>' :: rest => some ([], true, rest)
    | body =>
      if cs.head?.any isSpace then do
        let (key, rest) ← name setting.style body
        let rest ← after? "=" (skipSpace rest)
        let (written, rest) ← quoted (skipSpace rest)
        let value ← attributeValue setting.refs written
        let (more, closed, rest) ← writtenAttributes setting fuel rest
        some ((key, value) :: more, closed, rest)
      else none

/-- The attribute's value is kept as written. -/
def isTextAttribute (rules : List AttributeRule) (element key : String) : Bool :=
  ((rules.find? fun r => r.element == element && r.key == key).map (·.isText)).getD true

/-- The default values of an element's declared attributes. -/
def defaultAttributes (rules : List AttributeRule) (element : String) : List (String × String) :=
  (rules.filter (·.element == element)).filterMap fun r => r.default.map fun value => (r.key, value)

/-- The attributes of an element: those written in its tag, then the defaults of the others. -/
def elementAttributes (rules : List AttributeRule) (element : String)
    (written : List (String × List Char)) : List (String × String) :=
  let given := written.map fun (key, value) =>
    (key, typedValue (isTextAttribute rules element key) value)
  given ++ (defaultAttributes rules element).filter fun (key, _) => (given.lookup key).isNone

/-- A tag that opens an element, from behind its first character on. -/
def openingTag (setting : Setting) (cs : List Char) : Option (Piece × List Char) := do
  let (element, rest) ← name setting.style cs
  let (written, closed, rest) ← writtenAttributes setting (rest.length + 1) rest
  if (written.map (·.1)).Nodup then
    some (.opening element (elementAttributes setting.rules element written) closed, rest)
  else none

/-- A tag that closes an element, from behind its first two characters on. -/
def closingTag (style : NameStyle) (cs : List Char) : Option (Piece × List Char) := do
  let (element, rest) ← name style cs
  let rest ← after? ">" (skipSpace rest)
  some (.closing element, rest)

/-! ## Pieces -/

/-- The end mark of a marked section does not occur. -/
def hasNoSectionEnd : List Char → Bool
  | ']' :: ']' :: '>' :: _ => false
  | _ :: cs => hasNoSectionEnd cs
  | [] => true

/-- Characters up to the next markup. -/
def plainChars (cs : List Char) : Option (Piece × List Char) :=
  let run := cs.takeWhile fun c => c != '<' && c != '&'
  if !run.isEmpty && run.all isLegal && hasNoSectionEnd run then
    some (.chars run, cs.drop run.length)
  else none

/-- The next piece of an element's contents. -/
def piece (setting : Setting) (cs : List Char) : Option (Piece × List Char) :=
  match cs with
  | '<' :: '/' :: rest => closingTag setting.style rest
  | '<' :: '?' :: rest => (instruction? setting.style rest).map fun rest => (.aside, rest)
  | '<' :: '!' :: '-' :: '-' :: rest => (comment? rest).map fun rest => (.aside, rest)
  | '<' :: '!' :: rest => do
    let rest ← after? "[CDATA[" rest
    let (section_, rest) ← until? [']', ']', '>'] rest
    some (.chars section_, rest)
  | '<' :: rest => openingTag setting rest
  | '&' :: rest => (reference setting.refs rest).map fun (read, rest) => (.chars read, rest)
  | _ => plainChars cs

/-! ## Elements -/

/-- An element whose closing tag has not come; its contents are collected in reverse. -/
structure OpenElement where
  name : String
  attributes : List (String × String)
  contents : List Node

/-- The element with one more piece of contents. -/
def OpenElement.add (e : OpenElement) (n : Node) : OpenElement :=
  { e with contents := n :: e.contents }

/-- The finished element. -/
def OpenElement.close (e : OpenElement) : Node :=
  .element e.name e.attributes [] e.contents.reverse

/-- Reads the contents of the open elements until the outermost one is closed. -/
def fill (setting : Setting) :
    Nat → OpenElement → List OpenElement → List Char → Option (Node × List Char)
  | 0, _, _, _ => none
  | fuel + 1, top, below, cs =>
    match piece setting cs with
    | none => none
    | some (.aside, rest) => fill setting fuel top below rest
    | some (.chars text, rest) =>
      fill setting fuel (top.add (.text (String.ofList text))) below rest
    | some (.opening element attributes true, rest) =>
      fill setting fuel (top.add (.element element attributes [] [])) below rest
    | some (.opening element attributes false, rest) =>
      fill setting fuel ⟨element, attributes, []⟩ (top :: below) rest
    | some (.closing element, rest) =>
      if element == top.name then
        match below with
        | [] => some (top.close, rest)
        | outer :: below => fill setting fuel (outer.add top.close) below rest
      else none

/-- Reads the outermost element. -/
def rootElement (setting : Setting) : List Char → Option (Node × List Char)
  | '<' :: cs => do
    match ← openingTag setting cs with
    | (.opening element attributes true, rest) => some (.element element attributes [] [], rest)
    | (.opening element attributes false, rest) =>
      fill setting (rest.length + 1) ⟨element, attributes, []⟩ [] rest
    | _ => none
  | _ => none

/-- Only comments, instructions and spaces are left. -/
def isEpilog (style : NameStyle) : Nat → List Char → Bool
  | 0, _ => false
  | fuel + 1, cs =>
    match skipSpace cs with
    | [] => true
    | '<' :: '?' :: rest => (instruction? style rest).any (isEpilog style fuel)
    | '<' :: '!' :: '-' :: '-' :: rest => (comment? rest).any (isEpilog style fuel)
    | _ => false

/-- The characters after a byte order mark, if there is one. -/
def afterOrderMark : List Char → List Char
  | '\ufeff' :: cs => cs
  | cs => cs

/-- Reads a document: its outermost element. -/
def readDocument (style : NameStyle) (document : String) : Except Refusal Node := do
  let (prolog, rest) ← prolog style (Text.unifyLineEnds (afterOrderMark document.toList))
  match rootElement ⟨style, prolog.rules, ⟨style, prolog.lenient⟩⟩ rest with
  | some (root, rest) =>
    if isEpilog style (rest.length + 1) rest then .ok root else .error .malformed
  | none => .error .malformed

end Reckoner.Xml
