import Reckoner.Number.Basic
import Reckoner.Number.Shortest

/-!
# The text of a number

A whole number that is a multiple of a million or of a thousand is shortened by the letter `m` or
`k`.  Any other number is shown as a double, cut (not rounded) to a few places according to its
size, or in four digits with an exponent when it is very large or very small.
-/

namespace Reckoner.Number

/-- The text of a whole number. -/
def wholeText (n : Int) : String :=
  let size := n.natAbs
  if 1000000 ≤ size && size % 1000000 == 0 then s!"{n / 1000000}m"
  else if 1000 ≤ size && size % 1000 == 0 then s!"{n / 1000}k"
  else toString n

/-- The shortest text of a double, without point and zero when it is whole. -/
def plainText (x : Float) : String :=
  if Double.isWhole x then toString ((Double.truncate? x).getD 0) else Double.text x

/-- A double cut to a multiple of `1 / places`. -/
def cut (x places : Float) : Float :=
  Double.ofInt ((Double.truncate? (x * places)).getD 0) / places

/-- The text of a double by the size of its magnitude. -/
def floatText (x : Float) : String :=
  let size := x.abs
  match Double.shape x with
  | .finite .. =>
    if 1e9 ≤ size || size < 1e-3 then Double.fourDigits x
    else if 1e6 ≤ size then
      plainText (Double.ofInt ((Double.truncate? (x / 1e3)).getD 0) / 1e3) ++ "m"
    else if 1e3 ≤ size then plainText (Double.ofInt ((Double.truncate? x).getD 0) / 1e3) ++ "k"
    else if 1 ≤ size then plainText (cut x 1e3)
    else plainText (cut x 1e6)
  | _ => Double.text x

/-- The text of a number as results show it. -/
def text : Number → String
  | .whole n => wholeText n
  | .ratio r => floatText (ratioToFloat r)
  | .float x => floatText x

end Reckoner.Number
