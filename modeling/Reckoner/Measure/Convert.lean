import Reckoner.Measure.Factor
import Reckoner.Number.Arithmetic
import Reckoner.Rates.Source

/-!
# Conversion between units

A number in one unit is expressed in another unit of the same category: by the ratio of the two
factors, by the rule for the two temperature scales, or by the rate between two currencies.
-/

namespace Reckoner.Measure

/-- Degrees of Fahrenheit's scale in one degree of Celsius'. -/
def degreeRatio : Number := .ratio ⟨9, 5, by decide, by decide, by decide, by decide⟩

/-- The freezing point of water on Fahrenheit's scale. -/
def freezingPoint : Number := .whole 32

/-- A temperature on the other scale; there is no rule from a scale to itself. -/
def convertTemperature? (x : Number) : Measure → Measure → Option Number
  | .fixed .celsius, .fixed .fahrenheit => some ((x.mul degreeRatio).add freezingPoint)
  | .fixed .fahrenheit, .fixed .celsius => (x.sub freezingPoint).div? degreeRatio
  | _, _ => none

/-- A number in another unit by the factors of the two. -/
def convertByFactor? (x : Number) (a b : Measure) : Option Number := do
  let fromBase ← a.factor?
  let toBase ← b.factor?
  let rate ← fromBase.div? toBase
  some (rate.mul x)

/-- A currency's code; other units have none. -/
def code? : Measure → Option String
  | .currency code => some code
  | .fixed _ => none

variable {σ : Type}

/-- An amount of money in another currency, at the rate of the source. -/
def convertMoney (source : Option (RateSource σ)) (x : Number) (a b : String) :
    Calculation σ Number :=
  match source with
  | none => Calculation.fail (.conversion .noRates)
  | some s => do
    let rate ← s.rate a b
    pure (x.mul (.collapse rate))

/-- A number given in the first unit, expressed in the second. -/
def convert (source : Option (RateSource σ)) (x : Number) (a b : Measure) :
    Calculation σ Number :=
  match a, b with
  | .currency a, .currency b => convertMoney source x a b
  | _, _ =>
    match commonCategory? a b with
    | none => Calculation.fail .differentUnits
    | some .temperature => Calculation.orFail (convertTemperature? x a b) (.conversion .noPath)
    | some _ => Calculation.orFail (convertByFactor? x a b) (.conversion .noPath)

/-- The only unit of a product or quotient; both operands may not have one. -/
def single : Option Measure → Option Measure → Except CalcError (Option Measure)
  | none, b => .ok b
  | a, none => .ok a
  | some _, some _ => .error .unitsOnBothSides

end Reckoner.Measure
