import Reckoner.Document.Check
import Reckoner.Document.Read
import Reckoner.Rates.Pivot
import Reckoner.Rates.Price

/-!
# Rate bulletins

The document in which the rates of one day are published: its date and a list of quotes, each the
price of a number of units of a currency.
-/

namespace Reckoner

/-- The price of some units of a currency. -/
structure Quote where
  currency : String
  unit : Int
  price : Ratio
  deriving DecidableEq

namespace Quote

/-- The code of a currency, in upper case and without blanks around it. -/
def checkCode (d : Datum) : Checked String :=
  d.asText.map fun s => Text.upper (Text.trim s)

/-- A number of units, which is positive. -/
def checkUnit (d : Datum) : Checked Int := do
  let n ← d.asInteger
  if n ≤ 0 then Checked.issue .badValue else pure n

/-- A price, which is written as a text. -/
def checkPrice : Datum → Checked Ratio
  | .text s =>
    match Price.parse s with
    | .ok price => .ok price
    | .error _ => Checked.issue .badValue
  | _ => Checked.issue .notRate

/-- A quote; without a number of units it is the price of one. -/
def check (d : Datum) : Checked Quote := do
  let parts ← d.parts
  let code := Datum.required parts "@curr" "currency" checkCode
  let unit := Datum.optional parts "@unit" "unit" 1 checkUnit
  let price := Datum.required parts "#text" "value" checkPrice
  (Checked.both code (Checked.both unit price)).map fun (code, unit, price) => ⟨code, unit, price⟩

/-- The price of a single unit. -/
def perUnit (q : Quote) : Except Ratio.Failure Ratio :=
  if q.unit = 1 then .ok q.price
  else do q.price.div (← Ratio.ofInt q.unit)

end Quote

/-- The quotes of one day. -/
structure Bulletin where
  date : String
  quotes : List Quote
  deriving DecidableEq

namespace Bulletin

/-- The date and the quotes of a day. -/
def checkDay (d : Datum) : Checked Bulletin := do
  let parts ← d.parts
  let date := Datum.required parts "@date" "date" Datum.asText
  let quotes := Datum.optional parts "Rate" "rates" [] (Datum.asList Quote.check)
  (Checked.both date quotes).map fun (date, quotes) => ⟨date, quotes⟩

/-- The day that a bulletin is about. -/
def check (d : Datum) : Checked Bulletin := do
  let parts ← d.parts
  Datum.required parts "Day" "day" checkDay

/-- A bulletin from its document. -/
def read (document : String) : Except Fault Bulletin := do
  let data ← Document.read ⟨["Rate"], none⟩ document
  ((check (data.body "MNBCurrentExchangeRates")).orFault (some document)).mapError .document

/-- The prices of single units by currency; the last quote of a currency counts. -/
def table (b : Bulletin) : Except Ratio.Failure RateTable := do
  let entries ← b.quotes.mapM fun q => do
    let price ← q.perUnit
    pure (q.currency, price)
  pure (Entries.ofList entries)

end Bulletin

end Reckoner
