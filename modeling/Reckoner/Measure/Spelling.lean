import Reckoner.Measure.Currency
import Reckoner.Measure.Factor

/-!
# Spellings of units

The words and signs that name a unit in an expression.  Words are tried in the order of the list,
and only a whole word counts, so a spelling never hides a longer one.
-/

namespace Reckoner.Spelling

/-- The words for each fixed unit. -/
def units : List (List String × FixedUnit) :=
  [(["cm3"], .cubicCentimetre), (["mm3"], .cubicMillimetre), (["in3"], .cubicInch),
    (["ft3"], .cubicFoot), (["yd3"], .cubicYard), (["gallon", "gal"], .gallon),
    (["km2"], .squareKilometre), (["cm2"], .squareCentimetre), (["mm2"], .squareMillimetre),
    (["in2"], .squareInch), (["ft2"], .squareFoot), (["yd2"], .squareYard),
    (["mi2"], .squareMile), (["min"], .minute),
    (["pint", "pt"], .pint), (["ml"], .millilitre), (["km"], .kilometre), (["cm"], .centimetre),
    (["mm"], .millimetre), (["inch", "in"], .inch), (["feet", "ft"], .foot),
    (["yard", "yd"], .yard), (["mi"], .mile), (["m2"], .squareMetre), (["m3"], .cubicMetre),
    (["kg"], .kilogram), (["ounce", "oz"], .ounce), (["pound", "lb"], .pound),
    (["sec", "s"], .second), (["hour", "hr", "h"], .hour), (["m"], .metre), (["C", "c"], .celsius),
    (["F", "f"], .fahrenheit), (["g"], .gram), (["liter", "l"], .litre)]

/-- The signs for inch and foot, which need not end a word. -/
def signs : List (Char × FixedUnit) := [('"', .inch), ('\'', .foot)]

/-- The words for currencies: each code in capitals and in small letters. -/
def currencies : List String := Currency.codes.flatMap fun code => [code, code.toLower]

/-- The word that asks for a conversion. -/
def conversion : List String := ["to"]

end Reckoner.Spelling
