import Reckoner.Text.Blank
import Reckoner.Text.Case

/-!
# Currencies

The currencies that expressions may name.  A code is recognised in any case and with blanks around
it, and is kept in upper case.
-/

namespace Reckoner.Currency

/-- The codes of the known currencies, in alphabetical order. -/
def codes : List String :=
  ["AUD", "BGN", "BRL", "CAD", "CHF", "CNY", "CZK", "DKK", "EUR", "GBP", "HKD", "HUF", "IDR",
    "ILS", "INR", "ISK", "JPY", "KRW", "MXN", "MYR", "NOK", "NZD", "PHP", "PLN", "RON", "RSD",
    "RUB", "SEK", "SGD", "THB", "TRY", "UAH", "USD", "ZAR"]

/-- The known code that a text stands for. -/
def find? (text : String) : Option String :=
  codes.find? (· == Text.upper (Text.trim text))

end Reckoner.Currency
