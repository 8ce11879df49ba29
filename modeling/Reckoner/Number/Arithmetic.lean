import Reckoner.Number.Basic

/-!
# Arithmetic

A double on either side makes the operation one on doubles.  Otherwise the operation is exact, a
whole number counting as a ratio over one, and only a result that does not fit its words is
replaced by the operation on the nearest doubles.  So an exact result is never a rounded one.
-/

namespace Reckoner.Number

/-- The three forms of a binary operation. -/
structure Operation where
  /-- On whole numbers, where the operation stays among them. -/
  onWhole? : Int → Int → Option Int
  onRatio : Ratio → Ratio → Except Ratio.Failure Ratio
  onFloat : Float → Float → Float

/-- The exact result on two exact numbers, when there is one. -/
def Operation.ratioResult? (op : Operation) (a b : Number) : Option Ratio := do
  let x ← a.toRatio.toOption
  let y ← b.toRatio.toOption
  (op.onRatio x y).toOption

/-- Applies an operation to two numbers. -/
def Operation.apply (op : Operation) (a b : Number) : Number :=
  let approximate := Number.float (op.onFloat a.toFloat b.toFloat)
  if a.isFloat || b.isFloat then approximate
  else
    let onRatios := (op.ratioResult? a b).elim approximate collapse
    match a, b with
    | .whole m, .whole n => (op.onWhole? m n).elim onRatios ofInt
    | _, _ => onRatios

/-- Addition. -/
def addition : Operation := ⟨fun m n => some (m + n), Ratio.add, (· + ·)⟩

/-- Subtraction. -/
def subtraction : Operation := ⟨fun m n => some (m - n), Ratio.sub, (· - ·)⟩

/-- Multiplication. -/
def multiplication : Operation := ⟨fun m n => some (m * n), Ratio.mul, (· * ·)⟩

/-- Division, which leaves the whole numbers. -/
def division : Operation := ⟨fun _ _ => none, Ratio.div, (· / ·)⟩

/-- Sum. -/
def add : Number → Number → Number := addition.apply

/-- Difference. -/
def sub : Number → Number → Number := subtraction.apply

/-- Product. -/
def mul : Number → Number → Number := multiplication.apply

/-- Quotient; none for a zero divisor, exact or not. -/
def div? (a b : Number) : Option Number :=
  if b.isZero then none else some (division.apply a b)

/-- The number with the opposite sign. -/
def negate : Number → Number
  | .whole n => if FitsInt64 (-n) then .whole (-n) else .float (-Double.ofInt n)
  | .ratio r =>
    match r.neg with
    | .ok s => .ratio s
    | .error _ => .float (-ratioToFloat r)
  | .float x => .float (-x)

end Reckoner.Number
