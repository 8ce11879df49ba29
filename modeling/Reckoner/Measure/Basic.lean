/-!
# Units of measure

A unit is one of the fixed units, each known by the symbol it is written with, or a currency, known
by its code.  Every unit belongs to one category, and only units of one category convert into each
other.
-/

namespace Reckoner

/-- What a unit measures. -/
inductive Category where
  | length
  | area
  | volume
  | mass
  | temperature
  | time
  | currency
  deriving DecidableEq, Repr

/-- The name of a category. -/
def Category.name : Category → String
  | .length => "length"
  | .area => "area"
  | .volume => "volume"
  | .mass => "mass"
  | .temperature => "temperature"
  | .time => "time"
  | .currency => "currency"

/-- The units that are no currencies. -/
inductive FixedUnit where
  | metre | kilometre | centimetre | millimetre | inch | foot | yard | mile
  | squareMetre | squareKilometre | squareCentimetre | squareMillimetre
  | squareInch | squareFoot | squareYard | squareMile
  | litre | millilitre | cubicMetre | cubicCentimetre | cubicMillimetre
  | cubicInch | cubicFoot | cubicYard | pint | gallon
  | gram | kilogram | ounce | pound
  | celsius | fahrenheit
  | second | minute | hour
  deriving DecidableEq, Repr

namespace FixedUnit

/-- Every fixed unit. -/
def all : List FixedUnit :=
  [.metre, .kilometre, .centimetre, .millimetre, .inch, .foot, .yard, .mile,
    .squareMetre, .squareKilometre, .squareCentimetre, .squareMillimetre,
    .squareInch, .squareFoot, .squareYard, .squareMile,
    .litre, .millilitre, .cubicMetre, .cubicCentimetre, .cubicMillimetre,
    .cubicInch, .cubicFoot, .cubicYard, .pint, .gallon,
    .gram, .kilogram, .ounce, .pound, .celsius, .fahrenheit, .second, .minute, .hour]

theorem mem_all (u : FixedUnit) : u ∈ all := by cases u <;> decide

/-- The symbol that a quantity of the unit is written with. -/
def symbol : FixedUnit → String
  | .metre => "m" | .kilometre => "km" | .centimetre => "cm" | .millimetre => "mm"
  | .inch => "\"" | .foot => "'" | .yard => "yd" | .mile => "mi"
  | .squareMetre => "m2" | .squareKilometre => "km2" | .squareCentimetre => "cm2"
  | .squareMillimetre => "mm2" | .squareInch => "in2" | .squareFoot => "ft2"
  | .squareYard => "yd2" | .squareMile => "mi2"
  | .litre => "l" | .millilitre => "ml" | .cubicMetre => "m3" | .cubicCentimetre => "cm3"
  | .cubicMillimetre => "mm3" | .cubicInch => "in3" | .cubicFoot => "ft3" | .cubicYard => "yd3"
  | .pint => "pint" | .gallon => "gallon"
  | .gram => "g" | .kilogram => "kg" | .ounce => "oz" | .pound => "lb"
  | .celsius => "C" | .fahrenheit => "F"
  | .second => "s" | .minute => "min" | .hour => "h"

/-- The unit written with the given symbol. -/
def ofSymbol? (s : String) : Option FixedUnit := all.find? (·.symbol == s)

/-- The category of a fixed unit. -/
def category : FixedUnit → Category
  | .metre | .kilometre | .centimetre | .millimetre | .inch | .foot | .yard | .mile => .length
  | .squareMetre | .squareKilometre | .squareCentimetre | .squareMillimetre
  | .squareInch | .squareFoot | .squareYard | .squareMile => .area
  | .litre | .millilitre | .cubicMetre | .cubicCentimetre | .cubicMillimetre
  | .cubicInch | .cubicFoot | .cubicYard | .pint | .gallon => .volume
  | .gram | .kilogram | .ounce | .pound => .mass
  | .celsius | .fahrenheit => .temperature
  | .second | .minute | .hour => .time

end FixedUnit

/-- A unit of measure. -/
inductive Measure where
  | fixed (u : FixedUnit)
  | currency (code : String)
  deriving DecidableEq, Repr

namespace Measure

/-- The symbol that a quantity of the unit is written with. -/
def symbol : Measure → String
  | .fixed u => u.symbol
  | .currency code => code

/-- The category of a unit. -/
def category : Measure → Category
  | .fixed u => u.category
  | .currency _ => .currency

/-- The category that two units share. -/
def commonCategory? (a b : Measure) : Option Category :=
  if a.category = b.category then some a.category else none

end Measure

end Reckoner
