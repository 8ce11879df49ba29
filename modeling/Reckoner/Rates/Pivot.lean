import Reckoner.Entries
import Reckoner.Rates.Source
import Reckoner.Text.Case

/-!
# Cross rates

All rates of a table are prices in one base currency.  The rate between two currencies goes through
the base: out of the first at its price and into the second at the inverse of its price.
-/

namespace Reckoner

/-- Prices in the base currency by currency code. -/
abbrev RateTable := Entries Ratio

namespace RateTable

/-- The price of a code, which has to be in the table. -/
def priceOf (table : RateTable) (code : String) : Except CalcError Ratio :=
  match table.value? code with
  | some price => .ok price
  | none => .error (.conversion (.unknownCode code))

/-- A failed operation on rates as a failed conversion. -/
def unusable : Ratio.Failure → CalcError
  | .divisionByZero => .conversion (.unusable .zero)
  | _ => .conversion (.unusable .outOfRange)

/-- The inverse of a price. -/
def inverse (price : Ratio) : Except CalcError Ratio := price.invert.mapError unusable

/-- How much of the second currency one unit of the first is worth; the codes are in upper
case. -/
def crossRate (table : RateTable) (base source target : String) : Except CalcError Ratio := do
  if source = target then pure .one
  else if source = base then inverse (← table.priceOf target)
  else if target = base then table.priceOf source
  else
    let inward ← inverse (← table.priceOf target)
    let outward ← table.priceOf source
    (inward.mul outward).mapError unusable

/-- How much of the second currency one unit of the first is worth, for codes in any case. -/
def rate (table : RateTable) (base source target : String) : Except CalcError Ratio :=
  table.crossRate (Text.upper base) (Text.upper source) (Text.upper target)

end RateTable

/-- A fixed table of rates. -/
structure FixedRates where
  table : RateTable
  base : String
  deriving DecidableEq

namespace FixedRates

/-- A table with codes in any case; a later price of a code replaces an earlier one. -/
def of (entries : List (String × Ratio)) (base : String) : FixedRates :=
  ⟨Entries.ofList (entries.map fun (code, price) => (Text.upper code, price)), Text.upper base⟩

/-- The rate between two currencies. -/
def rate (rates : FixedRates) (source target : String) : Except CalcError Ratio :=
  rates.table.rate rates.base source target

/-- A fixed table as a source, which remembers nothing. -/
def toSource {σ : Type} (rates : FixedRates) : RateSource σ :=
  ⟨fun source target => Calculation.ofExcept ((rates.rate source target).mapError .calculation)⟩

end FixedRates

end Reckoner
