/-!
# Double precision numbers

A double is a NaN, an infinity, or a sign with a whole mantissa scaled by a power of two.
`Double.shape` reads this off the bits and `Double.nearest` goes the other way: it rounds an exact
quotient once, to the nearest double, a tie to the even mantissa.  Everything between the two is
arithmetic on natural numbers.
-/

namespace Reckoner.Double

/-- What the bits of a double denote. -/
inductive Shape where
  | nan
  | infinite (negative : Bool)
  /-- The number `mantissa * 2 ^ scale`, with its sign kept for zero too. -/
  | finite (negative : Bool) (mantissa : Nat) (scale : Int)
  deriving DecidableEq, Repr

/-- The sign bit. -/
def signBit : Nat := 9223372036854775808

/-- The bit above the 52 bits of fraction: a mantissa has it, though it is not written, unless the
field of exponent is zero. -/
def hiddenBit : Nat := 4503599627370496

/-- The shape of a 64-bit pattern: a sign bit, eleven bits of exponent and 52 of fraction. -/
def Shape.ofBits (bits : Nat) : Shape :=
  let negative := bits / signBit % 2 == 1
  let field : Nat := bits / hiddenBit % 2048
  let fraction : Nat := bits % hiddenBit
  if field = 2047 then
    if fraction = 0 then .infinite negative else .nan
  else if field = 0 then .finite negative fraction (-1074)
  else .finite negative (hiddenBit + fraction) ((field : Int) - 1075)

/-- The shape of a double. -/
def shape (x : Float) : Shape := Shape.ofBits x.toBits.toNat

/-- The double with the given sign and the given bits below it. -/
def ofBits (negative : Bool) (bits : Nat) : Float :=
  Float.ofBits (UInt64.ofNat (if negative then signBit + bits else bits))

/-- The bits of the infinities below the sign. -/
def infinityBits : Nat := 2047 * hiddenBit

/-- The infinity of a sign. -/
def infinity (negative : Bool) : Float := ofBits negative infinityBits

/-- The quiet NaN. -/
def nan : Float := ofBits false (infinityBits + hiddenBit / 2)

/-- The zero of a sign. -/
def zero (negative : Bool) : Float := ofBits negative 0

/-! ## Rounding an exact quotient -/

/-- A quotient rounded to the nearest whole number, a tie to the even one. -/
def roundHalfEven (num den : Nat) : Nat :=
  let whole := num / den
  let rest := num % den
  if 2 * rest < den then whole
  else if den < 2 * rest then whole + 1
  else whole + whole % 2

/-- The fraction `num / den` divided by a power of two, as a fraction. -/
def scaleDown (num den : Nat) (power : Int) : Nat × Nat :=
  if 0 ≤ power then (num, den * Nat.pow 2 power.toNat) else (num * Nat.pow 2 (-power).toNat, den)

/-- The largest power of two that is at most the positive fraction `num / den`. -/
def floorLog2 (num den : Nat) : Int :=
  let guess : Int := (num.log2 : Int) - den.log2
  let (n, d) := scaleDown num den guess
  if d ≤ n then guess else guess - 1

/-- The bits of the nearest double to a positive fraction, below the sign.  The mantissa is rounded
on the grid of the fraction's binade, or on the finest grid there is; a mantissa that rounds up to
the next power of two carries into the exponent by itself. -/
def nearestBits (num den : Nat) : Nat :=
  let grid := max (floorLog2 num den - 52) (-1074)
  let (n, d) := scaleDown num den grid
  min infinityBits ((grid + 1074).toNat * hiddenBit + roundHalfEven n d)

/-- The nearest double to `num / den` with the given sign; `den` is positive. -/
def nearest (negative : Bool) (num den : Nat) : Float :=
  if num = 0 then zero negative else ofBits negative (nearestBits num den)

/-- The nearest double to an integer. -/
def ofInt (n : Int) : Float := nearest (n < 0) n.natAbs 1

/-- The nearest double to `num / den`; `den` is positive. -/
def ofQuotient (num : Int) (den : Nat) : Float := nearest (num < 0) num.natAbs den

/-- The number of decimal digits of a positive number. -/
def decimalLength (n : Nat) : Nat := (Nat.toDigits 10 n).length

/-- The nearest double to `digits * 10 ^ power`.  A number of at least `10 ^ 310` is infinite and
one below `10 ^ -330` is zero, whatever its digits, so the power is never formed for these. -/
def ofDecimal (negative : Bool) (digits : Nat) (power : Int) : Float :=
  let top : Int := decimalLength digits + power
  if digits = 0 then zero negative
  else if 310 < top then infinity negative
  else if top < -330 then zero negative
  else if 0 ≤ power then nearest negative (digits * Nat.pow 10 power.toNat) 1
  else nearest negative digits (Nat.pow 10 (-power).toNat)

/-! ## Exact parts -/

/-- The absolute value of a finite double as a fraction. -/
def fraction (mantissa : Nat) (scale : Int) : Nat × Nat :=
  if 0 ≤ scale then (mantissa * Nat.pow 2 scale.toNat, 1) else (mantissa, Nat.pow 2 (-scale).toNat)

/-- The whole part of a double, toward zero; none for a NaN or an infinity. -/
def truncate? (x : Float) : Option Int :=
  match shape x with
  | .finite negative mantissa scale =>
    let (num, den) := fraction mantissa scale
    some (if negative then -(num / den : Nat) else (num / den : Nat))
  | _ => none

/-- The double is a whole number. -/
def isWhole (x : Float) : Bool :=
  match shape x with
  | .finite _ mantissa scale =>
    let (num, den) := fraction mantissa scale
    num % den == 0
  | _ => false

/-- The double is an odd whole number. -/
def isOddWhole (x : Float) : Bool :=
  isWhole x && (truncate? x).any (· % 2 == 1)

/-- The sign bit is set. -/
def isNegative (x : Float) : Bool := signBit ≤ x.toBits.toNat

end Reckoner.Double
