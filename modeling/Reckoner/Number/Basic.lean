import Reckoner.Number.Ratio
import Reckoner.Number.Double

/-!
# Numbers

A number is a whole number, a ratio or a double.  The first two are exact.  An exact number that is
whole is kept as a whole number, so that a ratio, once collapsed, has a denominator above one.
-/

namespace Reckoner

/-- A number of the calculator. -/
inductive Number where
  | whole (n : Int)
  | ratio (r : Ratio)
  | float (x : Float)
  deriving DecidableEq

namespace Number

/-- The number one. -/
def one : Number := .whole 1

/-- The nearest double to a ratio. -/
def ratioToFloat (r : Ratio) : Float := Double.ofQuotient r.num r.den

/-- The nearest double to a number. -/
def toFloat : Number → Float
  | .whole n => Double.ofInt n
  | .ratio r => ratioToFloat r
  | .float x => x

/-- Why a number has no exact ratio. -/
inductive Inexact where
  /-- The number is a double. -/
  | float (x : Float)
  /-- The whole number does not fit its word. -/
  | ratio (e : Ratio.Failure)
  deriving DecidableEq

/-- An exact number as a ratio. -/
def toRatio : Number → Except Inexact Ratio
  | .whole n => (Ratio.ofInt n).mapError .ratio
  | .ratio r => .ok r
  | .float x => .error (.float x)

/-- A ratio as a number: a whole number when the denominator is one. -/
def collapse (r : Ratio) : Number := if r.den = 1 then .whole r.num else .ratio r

/-- A whole number, or the nearest double when it does not fit its word. -/
def ofInt (n : Int) : Number := if FitsInt64 n then .whole n else .float (Double.ofInt n)

/-- The number is zero; both zeros of the doubles count. -/
def isZero : Number → Bool
  | .whole n => n == 0
  | .ratio r => r.isZero
  | .float x => x == 0

/-- The number is held as a double. -/
def isFloat : Number → Bool
  | .float _ => true
  | _ => false

end Number

end Reckoner
