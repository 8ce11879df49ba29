/-!
# Machine word ranges

The calculator keeps exact numbers within the ranges of machine words: numerators and whole
numbers are signed 64-bit, denominators unsigned 64-bit, and exponents are compared with 32-bit
limits.  A range is a proposition on `Int` or `Nat`, decided by two comparisons, so that proofs
about exact arithmetic stay in the integers.

An integer of any size is written and read in decimal digits, but no more of them than a fixed
number.
-/

namespace Reckoner

/-- The integer lies in the signed 64-bit range. -/
def FitsInt64 (n : Int) : Prop := -9223372036854775808 ≤ n ∧ n ≤ 9223372036854775807

/-- The integer lies in the signed 32-bit range. -/
def FitsInt32 (n : Int) : Prop := -2147483648 ≤ n ∧ n ≤ 2147483647

/-- The number lies in the unsigned 64-bit range. -/
def FitsNat64 (n : Nat) : Prop := n ≤ 18446744073709551615

/-- The number lies in the unsigned 32-bit range. -/
def FitsNat32 (n : Nat) : Prop := n ≤ 4294967295

instance (n : Int) : Decidable (FitsInt64 n) := inferInstanceAs (Decidable (_ ∧ _))
instance (n : Int) : Decidable (FitsInt32 n) := inferInstanceAs (Decidable (_ ∧ _))
instance (n : Nat) : Decidable (FitsNat64 n) := inferInstanceAs (Decidable (_ ≤ _))
instance (n : Nat) : Decidable (FitsNat32 n) := inferInstanceAs (Decidable (_ ≤ _))

/-- The most digits with which an integer is written or read. -/
@[irreducible] def digitLimit : Nat := 4300

end Reckoner
