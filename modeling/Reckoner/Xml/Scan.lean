import Reckoner.Text.DecimalDigit
import Reckoner.Xml.Char

/-!
# Scanning markup

The smallest pieces of a document: spaces, names, references, quoted values, and stretches that end
with a fixed mark.  A scanner takes the characters from the current place on and gives back what it
read and the characters after it, or nothing when the piece is not there.

A document is read in one of two ways.  With plain names the colon is a character like any other;
with qualified names it parts a name of an element or attribute into two and stands in no other
name.
-/

namespace Reckoner.Xml

/-- How names are read. -/
inductive NameStyle where
  | plain
  | qualified
  deriving DecidableEq, Repr

/-- The characters after the spaces at the front. -/
def skipSpace (cs : List Char) : List Char := cs.dropWhile isSpace

/-- The characters after a fixed text. -/
def after? (text : String) (cs : List Char) : Option (List Char) :=
  if text.toList.isPrefixOf cs then some (cs.drop text.length) else none

/-! ## Names -/

/-- A name in which `p` holds of the first character and `q` of the others. -/
def nameOf (p q : Char → Bool) : List Char → Option (String × List Char)
  | [] => none
  | c :: cs =>
    if p c then some (String.ofList (c :: cs.takeWhile q), cs.dropWhile q) else none

/-- A name without a colon. -/
def localName : List Char → Option (String × List Char) := nameOf isNameStart isNameChar

/-- A name in which a colon is a character like any other. -/
def plainName : List Char → Option (String × List Char) :=
  nameOf (fun c => isNameStart c || c == ':') (fun c => isNameChar c || c == ':')

/-- A name that is not qualified. -/
def simpleName : NameStyle → List Char → Option (String × List Char)
  | .plain => plainName
  | .qualified => localName

/-- A name of an element or an attribute. -/
def name : NameStyle → List Char → Option (String × List Char)
  | .plain, cs => plainName cs
  | .qualified, cs => do
    let (first, rest) ← localName cs
    match rest with
    | ':' :: rest =>
      let (second, rest) ← localName rest
      some (first ++ ":" ++ second, rest)
    | _ => some (first, rest)

/-! ## References -/

/-- The character of a code point, if it may stand in a document. -/
def referable? (code : Nat) : Option Char :=
  if code < 0x110000 && !(0xd800 ≤ code && code ≤ 0xdfff) && isLegal (Char.ofNat code) then
    some (Char.ofNat code)
  else none

/-- The value of a hexadecimal digit. -/
def hexValue? (c : Char) : Option Nat :=
  if '0' ≤ c && c ≤ '9' then some (c.toNat - 48)
  else if 'a' ≤ c && c ≤ 'f' then some (c.toNat - 87)
  else if 'A' ≤ c && c ≤ 'F' then some (c.toNat - 55)
  else none

/-- The number written by at least one digit before a semicolon. -/
def codeNumber (base : Nat) (digit? : Char → Option Nat) (cs : List Char) :
    Option (Nat × List Char) := do
  let digits := cs.takeWhile fun c => (digit? c).isSome
  match digits, cs.drop digits.length with
  | _ :: _, ';' :: rest =>
    some (digits.foldl (fun n c => n * base + (digit? c).getD 0) 0, rest)
  | _, _ => none

/-- A digit from `0` to `9`. -/
def decimalValue? (c : Char) : Option Nat :=
  if '0' ≤ c && c ≤ '9' then some (Text.asciiDigitValue c) else none

/-- The names that stand for a character in every document. -/
def predefined : List (String × Char) :=
  [("lt", '<'), ("gt", '>'), ("amp", '&'), ("quot", '"'), ("apos", '\'')]

/-- What a document lets references be. -/
structure References where
  style : NameStyle
  /-- Unknown names are skipped, for they might be declared outside the document. -/
  lenient : Bool

/-- A reference, from the character after its ampersand on: the characters it stands for. -/
def reference (refs : References) : List Char → Option (List Char × List Char)
  | '#' :: 'x' :: cs => do
    let (code, rest) ← codeNumber 16 hexValue? cs
    some ([← referable? code], rest)
  | '#' :: cs => do
    let (code, rest) ← codeNumber 10 decimalValue? cs
    some ([← referable? code], rest)
  | cs => do
    let (entity, rest) ← simpleName refs.style cs
    let rest ← after? ";" rest
    match predefined.lookup entity with
    | some c => some ([c], rest)
    | none => if refs.lenient then some ([], rest) else none

/-! ## Quoted values -/

/-- A quote mark and the characters after it. -/
def openQuote : List Char → Option (Char × List Char)
  | '"' :: cs => some ('"', cs)
  | '\'' :: cs => some ('\'', cs)
  | _ => none

/-- The raw characters up to a closing quote. -/
def rawUntil (quote : Char) (cs : List Char) : Option (List Char × List Char) :=
  let read := cs.takeWhile fun c => c != quote && isLegal c
  match cs.drop read.length with
  | c :: rest => if c = quote then some (read, rest) else none
  | [] => none

/-- A quoted text, as it is written. -/
def quoted (cs : List Char) : Option (List Char × List Char) := do
  let (quote, rest) ← openQuote cs
  rawUntil quote rest

/-- The value of an attribute from its written form: references stand for their characters, and a
space of any kind for the plain space. -/
def attributeValue (refs : References) (written : List Char) : Option (List Char) :=
  match written with
  | [] => some []
  | '<' :: _ => none
  | '&' :: cs =>
    match reference refs cs with
    | some (read, rest) =>
      if rest.length < cs.length + 1 then do
        let value ← attributeValue refs rest
        some (read ++ value)
      else none
    | none => none
  | c :: cs => do
    let value ← attributeValue refs cs
    some ((if isSpace c then ' ' else c) :: value)
  termination_by written.length
  decreasing_by all_goals simp_all

/-! ## Stretches -/

/-- The legal characters before a mark, and what follows the mark. -/
def until? (mark : List Char) : List Char → Option (List Char × List Char)
  | [] => none
  | c :: cs =>
    if mark.isPrefixOf (c :: cs) then some ([], (c :: cs).drop mark.length)
    else if isLegal c then do
      let (read, rest) ← until? mark cs
      some (c :: read, rest)
    else none

/-- What follows a comment, from the character after its opening mark on; two hyphens may stand
only at its end. -/
def comment? (cs : List Char) : Option (List Char) := do
  let (_, rest) ← until? ['-', '-'] cs
  after? ">" rest

/-- What follows a processing instruction, from the character after its opening mark on.  Its
target may not be `xml` in any case. -/
def instruction? (style : NameStyle) (cs : List Char) : Option (List Char) := do
  let (target, rest) ← simpleName style cs
  if target.toLower == "xml" then none
  else
    match after? "?>" rest, rest with
    | some rest, _ => some rest
    | none, c :: _ =>
      if isSpace c then (until? ['?', '>'] rest).map (·.2) else none
    | none, [] => none

end Reckoner.Xml
