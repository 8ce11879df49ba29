import Reckoner.Fault
import Reckoner.Number.Numeral

/-!
# Prices with a decimal comma

A price is written in digits with an optional sign in front and at most one comma among them.  Its
value is exact.  Zeros at the end of the fraction do not count, so that they do not use up the range
of the denominator.
-/

namespace Reckoner.Price

open Text

/-- The parts of a price before and after its first comma; without a comma the second is empty. -/
def splitComma (cs : List Char) : List Char × List Char :=
  let whole := cs.takeWhile (· != ',')
  (whole, dropTrailing (· == '0') (cs.drop (whole.length + 1)))

/-- A sign of a price. -/
def isSign (c : Char) : Bool := c == '+' || c == '-'

/-- Digits alone, after any signs that lead them. -/
def isSignedDigits (cs : List Char) : Bool :=
  let digits := cs.dropWhile isSign
  !digits.isEmpty && digits.all isDigitLike

/-- The exact value of a price. -/
def parse (s : String) : Except QuoteFault Ratio :=
  let text := trim s
  let (whole, fraction) := splitComma text.toList
  let digits := whole ++ fraction
  if isSignedDigits digits then
    match Numeral.readInt (String.ofList digits) with
    | .error .malformed => .error (.notInteger (String.ofList digits))
    | .error (.tooLong n) => .error (.longNumeral n)
    | .ok n => (Ratio.make n (Nat.pow 10 fraction.length)).mapError (.ofFailure text)
  else .error (.notDecimal text)

end Reckoner.Price
