import Reckoner.Measure.Convert
import Reckoner.Number.Power
import Reckoner.Number.Render

/-!
# Quantities

A quantity is a number with or without a unit.  The operations take care of the units and leave the
numbers to arithmetic: sums need operands of one category and keep the left unit, products and
quotients take a unit on one side only, and an exponent has none.
-/

namespace Reckoner

/-- A number with an optional unit. -/
structure Quantity where
  number : Number
  unit : Option Measure
  deriving DecidableEq

namespace Quantity

/-- One of a unit. -/
def oneOf (u : Measure) : Quantity := ⟨.one, some u⟩

/-- The text of a quantity: its number, then the symbol of its unit. -/
def text (q : Quantity) : String := q.number.text ++ (q.unit.elim "" Measure.symbol)

/-- The quantity with the opposite sign. -/
def negate (q : Quantity) : Quantity := { q with number := q.number.negate }

variable {σ : Type}

/-- The left quantity in the unit of the right one, whose number does not count. -/
def convertTo (source : Option (RateSource σ)) (a b : Quantity) : Calculation σ Quantity :=
  match a.unit, b.unit with
  | some u, some v => do
    let x ← Measure.convert source a.number u v
    pure ⟨x, some v⟩
  | _, _ => Calculation.fail .missingUnit

/-- The left quantity's number to the power of the right one. -/
def power (a b : Quantity) : Calculation σ Quantity :=
  match b.unit with
  | some _ => Calculation.fail .exponentWithUnit
  | none => do
    let x ← Calculation.orFail (a.number.power? b.number) .divisionByZero
    pure ⟨x, a.unit⟩

/-- The unit of a product or quotient. -/
def singleUnit (a b : Quantity) : Calculation σ (Option Measure) :=
  Calculation.ofExcept ((Measure.single a.unit b.unit).mapError .calculation)

/-- Product. -/
def multiply (a b : Quantity) : Calculation σ Quantity := do
  let unit ← singleUnit a b
  pure ⟨a.number.mul b.number, unit⟩

/-- Quotient; the number is formed before the units are looked at. -/
def divide (a b : Quantity) : Calculation σ Quantity := do
  let x ← Calculation.orFail (a.number.div? b.number) .divisionByZero
  let unit ← singleUnit a b
  pure ⟨x, unit⟩

/-- Sum or difference.  The right operand is converted when its unit is another one. -/
def combine (op : Number → Number → Number) (source : Option (RateSource σ)) (a b : Quantity) :
    Calculation σ Quantity :=
  if a.unit = b.unit then pure ⟨op a.number b.number, a.unit⟩
  else
    match a.unit, b.unit with
    | some u, some v => do
      let x ← Measure.convert source b.number v u
      pure ⟨op a.number x, some u⟩
    | _, _ => Calculation.fail .differentUnits

/-- Sum. -/
def add (source : Option (RateSource σ)) : Quantity → Quantity → Calculation σ Quantity :=
  combine Number.add source

/-- Difference. -/
def subtract (source : Option (RateSource σ)) : Quantity → Quantity → Calculation σ Quantity :=
  combine Number.sub source

end Quantity

/-- The quantity that an operator makes of two. -/
def Operator.apply {σ : Type} (source : Option (RateSource σ)) :
    Operator → Quantity → Quantity → Calculation σ Quantity
  | .power => Quantity.power
  | .multiply => Quantity.multiply
  | .divide => Quantity.divide
  | .add => Quantity.add source
  | .subtract => Quantity.subtract source
  | .convert => Quantity.convertTo source

end Reckoner
