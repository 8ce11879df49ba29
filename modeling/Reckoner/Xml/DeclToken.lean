import Reckoner.Xml.Scan

/-!
# Tokens of declarations

A declaration inside a document type is a run of tokens up to its closing mark: names, quoted
texts, keywords after a number sign, and the punctuation of lists.  Only certain characters may
stand directly behind a token, but the document may be cut off there.
-/

namespace Reckoner.Xml

/-- How often a part of a content model may occur. -/
inductive Repeat where
  | once
  | marked
  | starred
  deriving DecidableEq

/-- A token of a declaration. -/
inductive DeclToken where
  | name (s : String) (simple : Bool) (times : Repeat)
  /-- Characters of names that do not begin like one. -/
  | word (s : String)
  | quoted (cs : List Char)
  /-- A keyword after a number sign. -/
  | keyword (s : String)
  | parenOpen
  | parenClose (times : Repeat)
  | bar
  | comma
  | percent

/-- The character may follow a name directly. -/
def endsName (c : Char) : Bool :=
  isSpace c || c == '>' || c == ')' || c == ',' || c == '|' || c == '[' || c == '%'

/-- The mark behind a name or a closing parenthesis; there is none where the document is cut off. -/
def repeatMark (allowed : Char → Bool) : List Char → Option (Repeat × List Char)
  | '*' :: cs => some (.starred, cs)
  | '+' :: cs => some (.marked, cs)
  | '?' :: cs => some (.marked, cs)
  | c :: cs => if allowed c then some (.once, c :: cs) else none
  | [] => some (.once, [])

/-- The characters of a name, a colon included. -/
def isWordChar (c : Char) : Bool := isNameChar c || c == ':'

/-- A name in a declaration, or another run of name characters. -/
def declName (style : NameStyle) (cs : List Char) : Option (DeclToken × List Char) :=
  let run := cs.takeWhile isWordChar
  let rest := cs.drop run.length
  match run, name style cs with
  | [], _ => none
  | _, some (s, after) =>
    if after.length = rest.length then do
      let (times, rest) ← repeatMark endsName rest
      some (.name s (style = .plain || !run.contains ':') times, rest)
    else if rest.head?.all endsName then some (.word (String.ofList run), rest)
    else none
  | _, none =>
    if rest.head?.all endsName then some (.word (String.ofList run), rest) else none

/-- The next token of a declaration. -/
def declToken (style : NameStyle) (cs : List Char) : Option (DeclToken × List Char) :=
  match cs with
  | '(' :: rest => some (.parenOpen, rest)
  | ')' :: rest => do
    let (times, rest) ← repeatMark
      (fun c => isSpace c || c == '>' || c == ',' || c == '|' || c == ')') rest
    some (.parenClose times, rest)
  | '|' :: rest => some (.bar, rest)
  | ',' :: rest => some (.comma, rest)
  | '%' :: rest =>
    if rest.head?.any fun c => isSpace c || c == '%' then some (.percent, rest) else none
  | '#' :: rest => do
    let (s, rest) ← localName rest
    if rest.head?.all fun c => isSpace c || c == ')' || c == '>' || c == '%' || c == '|' then
      some (.keyword s, rest)
    else none
  | c :: rest =>
    if c = '"' || c = '\'' then do
      let (value, rest) ← rawUntil c rest
      if rest.head?.all fun c => isSpace c || c == '>' || c == '%' || c == '[' then
        some (.quoted value, rest)
      else none
    else declName style cs
  | [] => none

/-- The tokens of a declaration, and what follows its end if it has one.  Tokens before a fault are
still given. -/
def declTokens (style : NameStyle) : Nat → List Char → List DeclToken × Option (List Char)
  | 0, _ => ([], none)
  | fuel + 1, cs =>
    match skipSpace cs with
    | '>' :: rest => ([], some rest)
    | cs =>
      match declToken style cs with
      | none => ([], none)
      | some (token, rest) =>
        let (tokens, after) := declTokens style fuel rest
        (token :: tokens, after)

end Reckoner.Xml
