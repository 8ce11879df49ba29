import Reckoner.Fault

/-!
# Sources of exchange rates

A calculation asks a source how much of one currency a unit of another is worth.  A source may
remember what it has loaded, so a question takes the source's state and gives back the next one.
A `Calculation` is a value or a fault reached by such questions.
-/

namespace Reckoner

/-- A computation that may fail and may ask a source with the given states. -/
abbrev Calculation (σ : Type) (α : Type) := ExceptT Fault (StateM σ) α

/-- Something that answers questions for exchange rates. -/
structure RateSource (σ : Type) where
  /-- How much of the second currency one unit of the first is worth. -/
  rate : String → String → Calculation σ Ratio

namespace Calculation

variable {σ α : Type}

/-- Fails because the expression has no value. -/
def fail (e : CalcError) : Calculation σ α := throw (.calculation e)

/-- The value, or the failure of the expression when there is none. -/
def orFail (value : Option α) (e : CalcError) : Calculation σ α :=
  match value with
  | some a => pure a
  | none => fail e

/-- A result that asks no questions. -/
def ofExcept (result : Except Fault α) : Calculation σ α := ExceptT.mk (pure result)

/-- Runs a calculation from a state. -/
def start (c : Calculation σ α) (s : σ) : Except Fault α × σ := c.run s

end Calculation

end Reckoner
