import Reckoner.Fault
import Reckoner.Token.Pattern

/-!
# Lexemes

A text is cut into lexemes from left to right: gaps are skipped, and at any other character the
first matching pattern takes its characters.  Every character that is not a gap ends up in exactly
one lexeme, so cutting a text never fails.

The token of a lexeme is the one that its characters denote.  Reading it fails in one case, when a
numeral without a point has too many digits; the first such numeral of a text is its fault.
-/

namespace Reckoner

/-- The characters of a token together with the token. -/
structure Lexeme where
  chars : List Char
  token : Token
  deriving DecidableEq

namespace Lexeme

/-- The lexeme at the front of a text, by the first pattern that takes a character. -/
def first? (cs : List Char) : Option Lexeme :=
  (Token.patterns.find? fun p => 0 < p.size cs).map fun p =>
    let taken := cs.take (p.size cs)
    ⟨taken, p.token taken⟩

/-- The lexemes of a text. -/
def scan : List Char → List Lexeme
  | [] => []
  | c :: rest =>
    if Text.isGap c then scan rest
    else
      match first? (c :: rest) with
      | some lexeme => lexeme :: scan (rest.drop (lexeme.chars.length - 1))
      | none => scan rest
  termination_by cs => cs.length
  decreasing_by all_goals simp; try omega

/-- The number of digits of a lexeme that are too many to be read; only a numeral without a point
is limited. -/
def excess? (l : Lexeme) : Option Nat :=
  if l.token.isNumber && !l.chars.contains '.' then Token.excess? l.chars else none

/-- Reads the token of a lexeme. -/
def read (l : Lexeme) : Except Fault Token :=
  match l.excess? with
  | some digits => .error (.longNumeral digits)
  | none => .ok l.token

end Lexeme

/-- The tokens of a text. -/
def Token.tokenize (s : String) : Except Fault (List Token) :=
  (Lexeme.scan s.toList).mapM Lexeme.read

end Reckoner
