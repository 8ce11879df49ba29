import Reckoner.Number.Word

/-!
# Ratios

A ratio is a fraction in lowest terms with a positive denominator; the numerator carries the sign
and fits a signed 64-bit word, the denominator an unsigned one.  These facts are fields of the
type, so two ratios are equal exactly when they denote the same number.

Every operation computes with unbounded integers, reduces once at the end and fails when the
reduced fraction leaves the ranges.  `Ratio.make` is the only way to build a ratio, and its
reduction decides both the stored pair and the failure.
-/

namespace Reckoner

/-- A fraction in lowest terms whose parts fit machine words. -/
structure Ratio where
  num : Int
  den : Nat
  den_pos : 0 < den
  coprime : num.natAbs.Coprime den
  num_fits : FitsInt64 num
  den_fits : FitsNat64 den
  deriving DecidableEq

namespace Ratio

/-- Why an operation on ratios has no result. -/
inductive Failure where
  /-- The denominator is zero, or zero is inverted. -/
  | divisionByZero
  /-- The reduced fraction does not fit its words. -/
  | outOfRange (num : Int) (den : Nat)
  /-- The power of a ratio does not fit, or would invert zero. -/
  | powerOutOfRange (base : Ratio) (exponent : Int)
  deriving DecidableEq

/-- The numerator and denominator divided by their greatest common divisor. -/
def reduce (num : Int) (den : Nat) : Int × Nat :=
  (num.tdiv (num.natAbs.gcd den), den / num.natAbs.gcd den)

theorem reduce_den_pos (num : Int) {den : Nat} (h : 0 < den) : 0 < (reduce num den).2 :=
  Nat.div_pos (Nat.le_of_dvd h (Nat.gcd_dvd_right ..)) (Nat.gcd_pos_of_pos_right _ h)

theorem reduce_coprime (num : Int) {den : Nat} (h : 0 < den) :
    (reduce num den).1.natAbs.Coprime (reduce num den).2 := by
  have hg := Nat.coprime_div_gcd_div_gcd (Nat.gcd_pos_of_pos_right num.natAbs h)
  unfold reduce
  rw [Int.natAbs_tdiv]
  exact hg

/-- The ratio of a fraction with a positive denominator. -/
def ofFraction (num : Int) (den : Nat) (h : 0 < den) : Except Failure Ratio :=
  let parts := reduce num den
  if fits : FitsInt64 parts.1 ∧ FitsNat64 parts.2 then
    .ok ⟨parts.1, parts.2, reduce_den_pos num h, reduce_coprime num h, fits.1, fits.2⟩
  else
    .error (.outOfRange parts.1 parts.2)

/-- The ratio of two integers.  A negative denominator passes its sign to the numerator. -/
def make (num den : Int) : Except Failure Ratio :=
  if h : den = 0 then .error .divisionByZero
  else ofFraction (if den < 0 then -num else num) den.natAbs (Int.natAbs_pos.2 h)

/-- The ratio of an integer to one. -/
def ofInt (n : Int) : Except Failure Ratio := make n 1

/-- The ratio of one to an integer. -/
def inverseOf (n : Int) : Except Failure Ratio := make 1 n

/-- The ratio one. -/
def one : Ratio := ⟨1, 1, by decide, by decide, by decide, by decide⟩

/-- The ratio is zero. -/
def isZero (r : Ratio) : Bool := r.num == 0

/-- The ratio is a whole number. -/
def isWhole (r : Ratio) : Bool := r.den == 1

/-- The least common multiple of two integers, with the sign of their product. -/
def commonMultiple (a b : Int) : Int := a * b / (a.gcd b : Int)

/-! ## Arithmetic -/

/-- Sum over the least common denominator. -/
def add (a b : Ratio) : Except Failure Ratio :=
  let den := a.den.lcm b.den
  make (a.num * (den / a.den : Nat) + b.num * (den / b.den : Nat)) den

/-- Difference over the least common denominator. -/
def sub (a b : Ratio) : Except Failure Ratio :=
  let den := a.den.lcm b.den
  make (a.num * (den / a.den : Nat) - b.num * (den / b.den : Nat)) den

/-- Product. -/
def mul (a b : Ratio) : Except Failure Ratio := make (a.num * b.num) (a.den * b.den : Nat)

/-- Quotient, which fails for a zero divisor. -/
def div (a b : Ratio) : Except Failure Ratio :=
  if b.num = 0 then .error .divisionByZero
  else make (a.num * b.den) (a.den * b.num)

/-- The ratio with the opposite sign. -/
def neg (r : Ratio) : Except Failure Ratio := make (-r.num) r.den

/-- The reciprocal, which fails for zero. -/
def invert (r : Ratio) : Except Failure Ratio :=
  if r.num = 0 then .error .divisionByZero else make r.den r.num

/-! ## Powers -/

/-- An exponent that gives the same power of zero, one and minus one. -/
def unitExponent (e : Nat) : Nat := if e = 0 then 0 else 2 - e % 2

/-- The power of an integer.  Powers of zero, one and minus one depend only on whether the exponent
is zero and on its parity, so any exponent is cheap for them. -/
def intPower (b : Int) (e : Nat) : Int := if b.natAbs ≤ 1 then b.pow (unitExponent e) else b.pow e

/-- An integer power of a ratio when it fits.  A magnitude beyond sixty-four is refused at once
unless the ratio is zero, one or minus one, for no other ratio has such a power in range.  For a
negative exponent the power of the denominator becomes the numerator and has to fit a signed
word. -/
def checkedPower (r : Ratio) (exponent : Int) : Option Ratio :=
  let magnitude := exponent.natAbs
  if 64 < magnitude && (1 < r.den || 1 < r.num.natAbs) then none
  else
    let num := intPower r.num magnitude
    let den := (intPower r.den magnitude).toNat
    if !(FitsInt64 num && FitsNat64 den) then none
    else if 0 ≤ exponent then (make num den).toOption
    else if num = 0 || !(FitsInt64 den : Bool) then none
    else (make den num).toOption

/-- An integer power of a ratio, or the failure that names it. -/
def power (r : Ratio) (exponent : Int) : Except Failure Ratio :=
  match r.checkedPower exponent with
  | some result => .ok result
  | none => .error (.powerOutOfRange r exponent)

/-! ## Text -/

/-- Numerator and denominator with a stroke between them. -/
def text (r : Ratio) : String := s!"{r.num}/{r.den}"

/-- The ratio as it is shown to a developer. -/
def debugText (r : Ratio) : String := s!"Rational({r.num}, {r.den})"

/-- The message of a failure; a division by zero has none of its own here. -/
def Failure.message : Failure → String
  | .divisionByZero => "Division by zero"
  | .outOfRange num den => s!"Rational {num}/{den} exceeds 64-bit range"
  | .powerOutOfRange base exponent => s!"{base.text} ^ {exponent} exceeds 64-bit range"

/-! ## Reports -/

/-- The message of a failure can be written: it names no integer of too many digits. -/
def Failure.Writable : Failure → Prop
  | .divisionByZero => True
  | .outOfRange num den => num.natAbs < Nat.pow 10 digitLimit ∧ den < Nat.pow 10 digitLimit
  | .powerOutOfRange _ exponent => exponent.natAbs < Nat.pow 10 digitLimit

instance : DecidablePred Failure.Writable
  | .divisionByZero => inferInstanceAs (Decidable True)
  | .outOfRange .. => inferInstanceAs (Decidable (_ ∧ _))
  | .powerOutOfRange .. => inferInstanceAs (Decidable (_ < _))

/-- What is reported of a failure. -/
inductive Report where
  | divisionByZero
  | overflow (message : String)
  /-- The failure is an overflow, but its message cannot be written. -/
  | unwritable
  deriving DecidableEq

/-- The report of a failure.  The message of an overflow is written along with it. -/
def Failure.report : Failure → Report
  | .divisionByZero => .divisionByZero
  | e => if e.Writable then .overflow e.message else .unwritable

end Ratio

end Reckoner
