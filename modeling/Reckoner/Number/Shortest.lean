import Reckoner.Number.Double

/-!
# Decimal digits of a double

Two ways to choose the decimal digits of a positive finite double.  The *shortest* digits are the
fewest that read back as the same double and, among those, the nearest to it.  A *rounded* form has
a fixed number of digits and is the nearest of that length, a tie going to the even digit.

Digits are a whole number with an exponent: `digits * 10 ^ (exponent + 1 - length)`, so that the
exponent is the power of ten of the first digit.
-/

namespace Reckoner.Double

/-- A run of decimal digits and the power of ten of its first one. -/
structure Decimal where
  digits : Nat
  exponent : Int
  deriving DecidableEq, Repr

/-- The power of ten of the first digit of the positive fraction `num / den`. -/
def floorLog10 (num den : Nat) : Int :=
  if den ≤ num then (decimalLength (num / den) : Int) - 1
  else -(decimalLength ((den + num - 1) / num - 1) : Int)

/-- The fraction `num / den` divided by a power of ten, as a fraction. -/
def scaleTen (num den : Nat) (power : Int) : Nat × Nat :=
  if 0 ≤ power then (num, den * Nat.pow 10 power.toNat) else (num * Nat.pow 10 (-power).toNat, den)

/-- The nearest double to `digits * 10 ^ power` has the given bits. -/
def readsBack (bits digits : Nat) (power : Int) : Bool :=
  let (num, den) := scaleTen digits 1 (-power)
  digits != 0 && nearestBits num den == bits

/-- Of the two neighbours of a fraction on a decimal grid, the one that reads back as the given
bits; of two such, the nearer, a tie going to the even one. -/
def neighbour? (bits num den : Nat) (power : Int) : Option Nat :=
  let (n, d) := scaleTen num den power
  let below := n / d
  match readsBack bits below power, readsBack bits (below + 1) power with
  | true, true => some (roundHalfEven n d)
  | true, false => some below
  | false, true => some (below + 1)
  | false, false => none

/-- The digits found on the first grid that has some, from `length` digits on. -/
def searchShortest (bits num den : Nat) (top : Int) (length : Nat) : Nat → Decimal
  | 0 => ⟨0, 0⟩
  | grids + 1 =>
    match neighbour? bits num den (top + 1 - length) with
    | some digits => ⟨digits, top + 1 - length⟩
    | none => searchShortest bits num den top (length + 1) grids

/-- Digits without the zeros at their end, with the power of ten of the last one left. -/
def stripZeros (digits : Nat) (power : Int) : Nat → Nat × Int
  | 0 => (digits, power)
  | fuel + 1 =>
    if digits ≠ 0 ∧ digits % 10 = 0 then stripZeros (digits / 10) (power + 1) fuel
    else (digits, power)

/-- The shortest digits of the positive double with the given fraction; seventeen always do. -/
def shortest (num den : Nat) : Decimal :=
  let found := searchShortest (nearestBits num den) num den (floorLog10 num den) 1 17
  let (digits, power) := stripZeros found.digits found.exponent 17
  ⟨digits, power + decimalLength digits - 1⟩

/-- The nearest digits of a given length to a positive fraction. -/
def rounded (length num den : Nat) : Decimal :=
  let top := floorLog10 num den
  let (n, d) := scaleTen num den (top + 1 - length)
  let digits := roundHalfEven n d
  if decimalLength digits ≤ length then ⟨digits, top⟩ else ⟨digits / 10, top + 1⟩

/-! ## Layout -/

/-- The characters of a number's decimal digits. -/
def digitChars (n : Nat) : List Char := Nat.toDigits 10 n

/-- Digits with a point after the first one, or none after a single digit. -/
def pointAfterFirst : List Char → List Char
  | [] => []
  | [c] => [c]
  | c :: rest => c :: '.' :: rest

/-- Positional layout, with at least one digit on either side of the point. -/
def positional (d : Decimal) : List Char :=
  let cs := digitChars d.digits
  if d.exponent < 0 then
    '0' :: '.' :: List.replicate (-d.exponent - 1).toNat '0' ++ cs
  else
    let whole := d.exponent.toNat + 1
    if cs.length ≤ whole then cs ++ List.replicate (whole - cs.length) '0' ++ ['.', '0']
    else cs.take whole ++ '.' :: cs.drop whole

/-- Scientific layout; the exponent has a sign and at least two digits. -/
def scientific (d : Decimal) : List Char :=
  let size := digitChars d.exponent.natAbs
  let sign := if d.exponent < 0 then '-' else '+'
  pointAfterFirst (digitChars d.digits) ++
    'e' :: sign :: List.replicate (2 - size.length) '0' ++ size

/-- The sign of a negative number. -/
def signText (negative : Bool) : String := if negative then "-" else ""

/-- The full text of a double: its shortest digits, positional from `10 ^ -4` up to `10 ^ 16` and
scientific elsewhere. -/
def text (x : Float) : String :=
  match shape x with
  | .nan => "nan"
  | .infinite negative => signText negative ++ "inf"
  | .finite negative mantissa scale =>
    if mantissa = 0 then signText negative ++ "0.0"
    else
      let (num, den) := fraction mantissa scale
      let d := shortest num den
      let layout := if -4 ≤ d.exponent ∧ d.exponent < 16 then positional d else scientific d
      signText negative ++ String.ofList layout

/-- Four digits with a point after the first and a plain exponent, as in `1.235e9`. -/
def fourDigits (x : Float) : String :=
  match shape x with
  | .finite negative mantissa scale =>
    if mantissa = 0 then signText negative ++ "0.000e0"
    else
      let (num, den) := fraction mantissa scale
      let d := rounded 4 num den
      signText negative ++ String.ofList (pointAfterFirst (digitChars d.digits)) ++
        s!"e{d.exponent}"
  | _ => text x

end Reckoner.Double
