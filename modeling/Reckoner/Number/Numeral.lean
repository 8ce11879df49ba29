import Reckoner.Number.Double
import Reckoner.Number.Word
import Reckoner.Text.Blank
import Reckoner.Text.DecimalDigit

/-!
# Numerals

Reads the text of an integer or of a double as settings and rates write them.  Gaps around the
numeral do not count, a sign may lead it, decimal digits of any script are accepted and an
underscore may stand between two digits.  An integer has a limited number of digits.  A double has
any number of them, and also a point, an exponent, and the words `inf`, `infinity` and `nan` in any
case.
-/

namespace Reckoner.Numeral

open Text

/-- Splits a sign off a numeral; the flag tells a minus. -/
def splitSign : List Char → Bool × List Char
  | '-' :: rest => (true, rest)
  | '+' :: rest => (false, rest)
  | cs => (false, cs)

/-- The digits at the front of a numeral and what follows them.  The flag tells that a digit stands
before, so that an underscore may follow. -/
def digitRun (afterDigit : Bool) : List Char → List Nat × List Char
  | [] => ([], [])
  | c :: rest =>
    match digitValue? c with
    | some d =>
      let (digits, after) := digitRun true rest
      (d :: digits, after)
    | none =>
      if afterDigit && c == '_' && rest.head?.any isDecimalDigit then digitRun false rest
      else ([], c :: rest)

/-- Why the text of an integer is refused. -/
inductive Refusal where
  /-- It is not the text of an integer. -/
  | malformed
  /-- It has too many digits. -/
  | tooLong (digits : Nat)
  deriving DecidableEq, Repr

/-- The message about an integer that has too many digits to be written. -/
def unwritableMessage : String :=
  s!"Exceeds the limit ({digitLimit} digits) for integer string conversion; " ++
    "use sys.set_int_max_str_digits() to increase the limit"

/-- The message about a number of digits that are too many to be read. -/
def tooLongMessage (digits : Nat) : String :=
  s!"Exceeds the limit ({digitLimit} digits) for integer string conversion: " ++
    s!"value has {digits} digits; use sys.set_int_max_str_digits() to increase the limit"

/-- The integer that a text denotes.  The digits at the front are counted before anything behind
them is looked at, a misplaced underscore apart. -/
def readInt (s : String) : Except Refusal Int :=
  let (negative, body) := splitSign (dropAround isGap s.toList)
  let (digits, after) := digitRun false body
  if digits.isEmpty || after.head? == some '_' then .error .malformed
  else if digitLimit < digits.length then .error (.tooLong digits.length)
  else if after.isEmpty then
    let n : Int := ofDigits digits
    .ok (if negative then -n else n)
  else .error .malformed

/-- The exponent of a numeral: nothing, or the letter `e`, a sign and digits up to the end. -/
def readExponent? : List Char → Option Int
  | [] => some 0
  | e :: rest =>
    if e = 'e' || e = 'E' then
      let (negative, body) := splitSign rest
      match digitRun false body with
      | (d :: digits, []) =>
        let n := ofDigits (d :: digits)
        some (if negative then -n else n)
      | _ => none
    else none

/-- The digits after a point, if there is a point. -/
def fractionRun : List Char → List Nat × List Char
  | '.' :: rest => digitRun false rest
  | cs => ([], cs)

/-- The double that a text denotes. -/
def readFloat? (s : String) : Option Float :=
  let (negative, body) := splitSign (dropAround isGap s.toList)
  match String.ofList (body.map Char.toLower) with
  | "inf" | "infinity" => some (Double.infinity negative)
  | "nan" => some Double.nan
  | _ =>
    let (whole, afterWhole) := digitRun false body
    let (fraction, afterFraction) := fractionRun afterWhole
    if whole.isEmpty && fraction.isEmpty then none
    else
      (readExponent? afterFraction).map fun exponent =>
        Double.ofDecimal negative (ofDigits (whole ++ fraction)) (exponent - fraction.length)

end Reckoner.Numeral
