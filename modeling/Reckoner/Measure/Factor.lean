import Reckoner.Measure.Basic
import Reckoner.Number.Basic

/-!
# Conversion factors

Each length, area, volume, mass and time has an exact factor to the base unit of its category: the
metre, the square metre, the litre, the kilogram and the second.  Areas and volumes follow from the
lengths.  Temperatures and currencies have no factor.
-/

namespace Reckoner

/-- A positive fraction, not reduced. -/
structure Fraction where
  num : Nat
  den : Nat

namespace Fraction

/-- A whole number of parts. -/
def whole (n : Nat) : Fraction := ⟨n, 1⟩

/-- The product of two fractions. -/
def times (a b : Fraction) : Fraction := ⟨a.num * b.num, a.den * b.den⟩

/-- A natural power of a fraction. -/
def raised (a : Fraction) (n : Nat) : Fraction := ⟨a.num.pow n, a.den.pow n⟩

/-- An inch in metres. -/
def inch : Fraction := ⟨254, 10000⟩

/-- A foot in metres. -/
def foot : Fraction := (whole 12).times inch

/-- A yard in metres. -/
def yard : Fraction := (whole 36).times inch

/-- A mile in metres. -/
def mile : Fraction := (whole 63360).times inch

/-- A cubic metre in litres. -/
def cubicMetre : Fraction := whole 1000

/-- A pound in kilograms. -/
def pound : Fraction := ⟨45359237, 100000000⟩

/-- The volume in litres of the cube over a length in metres. -/
def cube (side : Fraction) : Fraction := (side.raised 3).times cubicMetre

end Fraction

namespace FixedUnit

/-- The exact factor of a unit to the base unit of its category. -/
def factor? : FixedUnit → Option Fraction
  | .metre => some (Fraction.whole 1)
  | .kilometre => some (Fraction.whole 1000)
  | .centimetre => some ⟨1, 100⟩
  | .millimetre => some ⟨1, 1000⟩
  | .inch => some Fraction.inch
  | .foot => some Fraction.foot
  | .yard => some Fraction.yard
  | .mile => some Fraction.mile
  | .squareMetre => some (Fraction.whole 1)
  | .squareKilometre => some ((Fraction.whole 1000).raised 2)
  | .squareCentimetre => some (Fraction.raised ⟨1, 100⟩ 2)
  | .squareMillimetre => some (Fraction.raised ⟨1, 1000⟩ 2)
  | .squareInch => some (Fraction.inch.raised 2)
  | .squareFoot => some (Fraction.foot.raised 2)
  | .squareYard => some (Fraction.yard.raised 2)
  | .squareMile => some (Fraction.mile.raised 2)
  | .litre => some (Fraction.whole 1)
  | .millilitre => some ⟨1, 1000⟩
  | .cubicMetre => some Fraction.cubicMetre
  | .cubicCentimetre => some (Fraction.cube ⟨1, 100⟩)
  | .cubicMillimetre => some (Fraction.cube ⟨1, 1000⟩)
  | .cubicInch => some Fraction.inch.cube
  | .cubicFoot => some Fraction.foot.cube
  | .cubicYard => some Fraction.yard.cube
  | .pint => some ⟨454609, 800000⟩
  | .gallon => some ⟨454609, 100000⟩
  | .gram => some ⟨1, 1000⟩
  | .kilogram => some (Fraction.whole 1)
  | .ounce => some (Fraction.pound.times ⟨1, 16⟩)
  | .pound => some Fraction.pound
  | .second => some (Fraction.whole 1)
  | .minute => some (Fraction.whole 60)
  | .hour => some (Fraction.whole 3600)
  | .celsius | .fahrenheit => none

end FixedUnit

/-- The factor of a unit as a number. -/
def Measure.factor? : Measure → Option Number
  | .fixed u => u.factor?.bind fun f => (Ratio.make f.num f.den).toOption.map Number.collapse
  | .currency _ => none

end Reckoner
