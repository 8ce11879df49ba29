import Reckoner.Number.Arithmetic

/-!
# Powers

A whole power of an exact number is exact when it fits; every other power is one of doubles.  Zero
to a negative whole power is refused when the base is exact, and is a signed infinity among
doubles.
-/

namespace Reckoner.Number

/-- Power of doubles.  Zero to a negative power is infinite, with the sign of the zero when the
exponent is an odd whole number. -/
def floatPower (base exponent : Float) : Float :=
  if base == 0 && exponent < 0 then
    Double.infinity (Double.isOddWhole exponent && Double.isNegative base)
  else base.pow exponent

/-- A natural power of an integer when it fits its word.  An exponent above sixty-three is refused
at once unless the base is zero, one or minus one. -/
def checkedIntPower (base : Int) (exponent : Nat) : Option Int :=
  if 1 < base.natAbs && 63 < exponent then none
  else
    let result := Ratio.intPower base exponent
    if FitsInt64 result then some result else none

/-- A whole power of a whole number when it is exact.  A negative exponent gives the reciprocal of
the positive power. -/
def wholePower? (base exponent : Int) : Option Number :=
  if FitsNat32 exponent.natAbs then
    (checkedIntPower base exponent.natAbs).bind fun result =>
      if 0 ≤ exponent then some (.whole result)
      else (Ratio.inverseOf result).toOption.map collapse
  else none

/-- A whole power of a ratio when it is exact. -/
def ratioPower? (base : Ratio) (exponent : Int) : Option Number :=
  if FitsInt32 exponent then (base.checkedPower exponent).map collapse else none

/-- The first number to the power of the second; none for an exact zero to a negative whole
power. -/
def power? (base exponent : Number) : Option Number :=
  let approximate := Number.float (floatPower base.toFloat exponent.toFloat)
  match base, exponent with
  | .whole b, .whole e =>
    if b = 0 ∧ e < 0 then none else some ((wholePower? b e).getD approximate)
  | .ratio r, .whole e =>
    if r.num = 0 ∧ e < 0 then none else some ((ratioPower? r e).getD approximate)
  | _, _ => some approximate

end Reckoner.Number
