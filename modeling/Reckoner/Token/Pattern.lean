import Reckoner.Measure.Spelling
import Reckoner.Number.Numeral
import Reckoner.Token.Basic

/-!
# Token patterns

A pattern says how many characters at the front of a text it takes, and what token they make.  The
patterns are tried in order and the first that takes at least one character wins: numerals, signs,
words with a meaning, any other word, and last whatever stands up to the next gap.
-/

namespace Reckoner.Token

open Text

/-- A way to recognise tokens of one sort. -/
structure Pattern where
  /-- How many characters the pattern takes from the front of a text. -/
  size : List Char → Nat
  /-- The token that the taken characters make. -/
  token : List Char → Token

/-! ## Character classes -/

/-- A digit from `0` to `9`. -/
def isDigit (c : Char) : Bool := '0' ≤ c && c ≤ '9'

/-- A letter of the basic Latin alphabet, or the underscore. -/
def isWordStart (c : Char) : Bool := ('a' ≤ c && c ≤ 'z') || ('A' ≤ c && c ≤ 'Z') || c == '_'

/-- A character of a word. -/
def isWordChar (c : Char) : Bool := isWordStart c || isDigit c

/-- The number of characters of `p` at the front of a text. -/
def runLength (p : Char → Bool) (cs : List Char) : Nat := (cs.takeWhile p).length

/-! ## Numerals -/

/-- The length of an exponent: its letter, a sign and at least one digit; zero when the text does
not start with a whole exponent. -/
def exponentLength : List Char → Nat
  | e :: rest =>
    if e = 'e' || e = 'E' then
      match rest with
      | '+' :: digits | '-' :: digits =>
        let n := runLength isDigit digits
        if n = 0 then 0 else n + 2
      | digits =>
        let n := runLength isDigit digits
        if n = 0 then 0 else n + 1
    else 0
  | [] => 0

/-- A length with the exponent that follows it. -/
def withExponent (cs : List Char) (n : Nat) : Nat :=
  if n = 0 then 0 else n + exponentLength (cs.drop n)

/-- The length of digits with a point before, among or after them. -/
def pointLength (cs : List Char) : Nat :=
  let whole := runLength isDigit cs
  match cs.drop whole with
  | '.' :: rest =>
    let fraction := runLength isDigit rest
    if whole = 0 && fraction = 0 then 0 else whole + 1 + fraction
  | _ => 0

/-- The double that the characters of a numeral denote. -/
def floatToken (cs : List Char) : Token :=
  .float ((Numeral.readFloat? (String.ofList cs)).getD Double.nan)

/-- The largest exponent worth looking at: no other digits than zeros fit a word with more. -/
def largestExponent : Nat := 19

/-- The whole number that digits and an exponent denote, when it is one and fits its word. -/
def wholeValue? (mantissa : Nat) (exponent : Int) : Option Int :=
  if exponent < 0 || ((largestExponent : Int) < exponent && mantissa != 0) then none
  else
    let value : Int := mantissa * Nat.pow 10 (min exponent.toNat largestExponent)
    if FitsInt64 value then some value else none

/-- The token of a numeral without a point: a whole number when its value is one and fits its word,
a double otherwise. -/
def integerToken (cs : List Char) : Token :=
  let (mantissa, rest) := cs.span isDigit
  match wholeValue? (ofAsciiDigits mantissa) ((Numeral.readExponent? rest).getD 0) with
  | some value => .integer value
  | none => floatToken cs

/-- The number of digits of a numeral without a point that are too many to be read.  Those of the
exponent are read first, and those before it only if it is not negative. -/
def excess? (cs : List Char) : Option Nat :=
  let (mantissa, rest) := cs.span isDigit
  let figures := rest.countP isDigit
  if digitLimit < figures then some figures
  else if digitLimit < mantissa.length && 0 ≤ (Numeral.readExponent? rest).getD 0 then
    some mantissa.length
  else none

/-- Numerals with a point. -/
def pointNumeral : Pattern := ⟨fun cs => withExponent cs (pointLength cs), floatToken⟩

/-- Numerals without a point. -/
def plainNumeral : Pattern := ⟨fun cs => withExponent cs (runLength isDigit cs), integerToken⟩

/-! ## Signs and words -/

/-- The length of the first of the given texts that the text starts with. -/
def literalLength (literals : List String) (cs : List Char) : Nat :=
  ((literals.find? fun s => s.toList.isPrefixOf cs).map String.length).getD 0

/-- The length of the first of the given words that the text starts with as a whole word. -/
def wordLength (words : List String) (cs : List Char) : Nat :=
  let starts (s : String) : Bool :=
    s.toList.isPrefixOf cs && !((cs.drop s.length).head?.any isWordChar)
  ((words.find? starts).map String.length).getD 0

/-- Any of some texts, for a fixed token. -/
def sign (literals : List String) (t : Token) : Pattern := ⟨literalLength literals, fun _ => t⟩

/-- Any of some words, for the token that `make` builds from the word. -/
def oneOf (words : List String) (make : List Char → Token) : Pattern := ⟨wordLength words, make⟩

/-- Words for currencies; the token holds the code in capitals. -/
def currencyWord : Pattern :=
  oneOf Spelling.currencies fun cs => .currency (String.ofList (cs.map Char.toUpper))

/-- Words and signs for fixed units. -/
def unitPatterns : List Pattern :=
  Spelling.units.map (fun (words, u) => oneOf words fun _ => .unit u) ++
    Spelling.signs.map fun (c, u) => sign [String.ofList [c]] (.unit u)

/-- Words without a meaning. -/
def anyWord : Pattern :=
  ⟨fun cs => if cs.head?.any isWordStart then runLength isWordChar cs else 0,
    fun cs => .word (String.ofList cs)⟩

/-- Everything up to the next gap. -/
def anyJunk : Pattern := ⟨runLength fun c => !isGap c, fun cs => .junk (String.ofList cs)⟩

/-- The patterns in the order in which they are tried. -/
def patterns : List Pattern :=
  [pointNumeral, plainNumeral, sign ["("] .parenOpen, sign [")"] .parenClose,
    sign ["^", "**"] .caret, sign ["-"] .minus, sign ["+"] .plus, sign ["*"] .star,
    sign ["/"] .slash, sign ["%"] .percent, oneOf Spelling.conversion fun _ => .to,
    currencyWord] ++ unitPatterns ++ [anyWord, anyJunk]

end Reckoner.Token
