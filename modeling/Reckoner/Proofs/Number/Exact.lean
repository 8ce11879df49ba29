import Mathlib.Data.Nat.Cast.Field
import Mathlib.Data.Rat.Lemmas
import Mathlib.Tactic.FieldSimp
import Mathlib.Tactic.Ring
import Reckoner.Number.Power

/-!
# Exact numbers as rational numbers

A ratio denotes a rational number, and different ratios denote different ones.  In the other
direction `Ratio.ofRat` finds the ratio of a rational number, when numerator and denominator fit.
Every operation on ratios is `ofRat` of the operation on rational numbers, so it fails exactly when
the true result does not fit, or when something is divided by zero.

A number that is no double denotes a rational number too.  An operation whose result is no double
has been given no doubles, and its result is the true one.
-/

namespace Reckoner

/-! ## Results that may fail -/

section

variable {ε ε' α β : Type}

theorem toOption_eq_some_iff {result : Except ε α} {a : α} :
    result.toOption = some a ↔ result = .ok a := by
  cases result with
  | ok b => exact ⟨fun h => congrArg _ (Option.some.inj h), fun h => congrArg _ (Except.ok.inj h)⟩
  | error e => exact ⟨nofun, nofun⟩

theorem mapError_eq_ok_iff {f : ε → ε'} {result : Except ε α} {a : α} :
    result.mapError f = .ok a ↔ result = .ok a := by
  cases result with
  | ok b => exact ⟨fun h => congrArg _ (Except.ok.inj h), fun h => congrArg _ (Except.ok.inj h)⟩
  | error e => exact ⟨nofun, nofun⟩

theorem bind_eq_ok_iff {result : Except ε α} {next : α → Except ε β} {b : β} :
    (result >>= next) = .ok b ↔ ∃ a, result = .ok a ∧ next a = .ok b := by
  cases result with
  | ok a => exact ⟨fun h => ⟨a, rfl, h⟩, fun ⟨_, ha, h⟩ => Except.ok.inj ha ▸ h⟩
  | error e => exact ⟨nofun, nofun⟩

end

namespace Ratio

/-! ## Ratios and rational numbers -/

/-- The rational number that a ratio denotes. -/
def toRat (r : Ratio) : ℚ := ⟨r.num, r.den, r.den_pos.ne', r.coprime⟩

@[simp] theorem toRat_num (r : Ratio) : r.toRat.num = r.num := rfl

@[simp] theorem toRat_den (r : Ratio) : r.toRat.den = r.den := rfl

theorem toRat_eq_div (r : Ratio) : r.toRat = r.num / r.den := (Rat.num_div_den r.toRat).symm

@[simp] theorem toRat_one : one.toRat = 1 := rfl

theorem toRat_injective {a b : Ratio} (h : a.toRat = b.toRat) : a = b := by
  obtain ⟨n, d, _, _, _, _⟩ := a
  obtain ⟨m, e, _, _, _, _⟩ := b
  simp only [toRat, Rat.mk'.injEq] at h
  obtain ⟨rfl, rfl⟩ := h
  rfl

theorem den_ne_zero (r : Ratio) : (r.den : ℚ) ≠ 0 := Nat.cast_ne_zero.2 r.den_pos.ne'

theorem toRat_eq_zero_iff (r : Ratio) : r.toRat = 0 ↔ r.num = 0 := by
  rw [← toRat_num, Rat.num_eq_zero]

/-- The ratio of a rational number that fits. -/
def ofRat (q : ℚ) : Except Failure Ratio :=
  if fits : FitsInt64 q.num ∧ FitsNat64 q.den then
    .ok ⟨q.num, q.den, q.den_pos, q.reduced, fits.1, fits.2⟩
  else .error (.outOfRange q.num q.den)

@[simp] theorem ofRat_toRat (r : Ratio) : ofRat r.toRat = .ok r :=
  dif_pos ⟨r.num_fits, r.den_fits⟩

theorem ofRat_eq_ok_iff {q : ℚ} {r : Ratio} : ofRat q = .ok r ↔ r.toRat = q := by
  constructor
  · intro h
    unfold ofRat at h
    split at h
    · cases h
      rfl
    · cases h
  · rintro rfl
    exact ofRat_toRat r

/-! ## Construction -/

theorem reduce_eq (num : Int) {den : Nat} (h : den ≠ 0) :
    reduce num den = ((num / den : ℚ).num, (num / den : ℚ).den) := by
  have hq : (num / den : ℚ) = Rat.normalize num den h := by
    rw [Rat.normalize_eq_mkRat, Rat.mkRat_eq_div]
  have hg : ((num.natAbs.gcd den : Nat) : Int) ∣ num := Int.natCast_dvd.2 (Nat.gcd_dvd_left ..)
  rw [hq, Rat.normalize_eq]
  exact Prod.ext (Int.tdiv_eq_ediv_of_dvd hg) rfl

theorem ofFraction_eq (num : Int) {den : Nat} (h : 0 < den) :
    ofFraction num den h = ofRat (num / den) := by
  have hr := reduce_eq num h.ne'
  simp only [ofFraction, ofRat, hr]

/-- Making a ratio of two integers finds the ratio of their quotient. -/
theorem make_eq (num : Int) {den : Int} (h : den ≠ 0) : make num den = ofRat (num / den) := by
  rw [make, dif_neg h, ofFraction_eq]
  congr 1
  split
  next neg =>
    have habs : ((den.natAbs : Nat) : ℚ) = -den := by
      rw [← Int.cast_natCast, Int.ofNat_natAbs_of_nonpos neg.le, Int.cast_neg]
    rw [habs, Int.cast_neg, neg_div_neg_eq]
  next nonneg =>
    have habs : ((den.natAbs : Nat) : ℚ) = den := by
      rw [← Int.cast_natCast, Int.natAbs_of_nonneg (not_lt.1 nonneg)]
    rw [habs]

theorem make_eq_ok_iff {num den : Int} {r : Ratio} :
    make num den = .ok r ↔ den ≠ 0 ∧ r.toRat = num / den := by
  by_cases h : den = 0
  · rw [make, dif_pos h]
    exact ⟨nofun, fun hr => absurd h hr.1⟩
  · rw [make_eq num h, ofRat_eq_ok_iff]
    exact ⟨fun hr => ⟨h, hr⟩, And.right⟩

theorem ofInt_eq (n : Int) : ofInt n = ofRat n := by
  rw [ofInt, make_eq n one_ne_zero, Int.cast_one, div_one]

theorem inverseOf_eq {n : Int} (h : n ≠ 0) : inverseOf n = ofRat (n : ℚ)⁻¹ := by
  rw [inverseOf, make_eq 1 h, Int.cast_one, one_div]

/-! ## Arithmetic -/

/-- A ratio over a multiple of its denominator. -/
theorem toRat_widened (r : Ratio) {den : Nat} (hd : den ≠ 0) (h : r.den ∣ den) :
    ((r.num * (den / r.den : Nat) : Int) : ℚ) / (den : Int) = r.toRat := by
  have hq : (den : ℚ) ≠ 0 := Nat.cast_ne_zero.2 hd
  have hr := r.den_ne_zero
  rw [Int.cast_mul, Int.cast_natCast, Int.cast_natCast, Nat.cast_div h hr, r.toRat_eq_div]
  field_simp

theorem add_eq (a b : Ratio) : a.add b = ofRat (a.toRat + b.toRat) := by
  have hd : a.den.lcm b.den ≠ 0 := Nat.lcm_ne_zero a.den_pos.ne' b.den_pos.ne'
  rw [add, make_eq _ (Int.natCast_ne_zero.2 hd), Int.cast_add, add_div,
    a.toRat_widened hd (Nat.dvd_lcm_left ..), b.toRat_widened hd (Nat.dvd_lcm_right ..)]

theorem sub_eq (a b : Ratio) : a.sub b = ofRat (a.toRat - b.toRat) := by
  have hd : a.den.lcm b.den ≠ 0 := Nat.lcm_ne_zero a.den_pos.ne' b.den_pos.ne'
  rw [sub, make_eq _ (Int.natCast_ne_zero.2 hd), Int.cast_sub, sub_div,
    a.toRat_widened hd (Nat.dvd_lcm_left ..), b.toRat_widened hd (Nat.dvd_lcm_right ..)]

theorem mul_eq (a b : Ratio) : a.mul b = ofRat (a.toRat * b.toRat) := by
  have hd : ((a.den * b.den : Nat) : Int) ≠ 0 :=
    Int.natCast_ne_zero.2 (Nat.mul_ne_zero a.den_pos.ne' b.den_pos.ne')
  rw [mul, make_eq _ hd, a.toRat_eq_div, b.toRat_eq_div, div_mul_div_comm]
  push_cast
  rfl

/-- Division fails for a zero divisor and is otherwise division of rational numbers. -/
theorem div_eq (a b : Ratio) :
    a.div b = if b.toRat = 0 then .error .divisionByZero else ofRat (a.toRat / b.toRat) := by
  simp only [div, toRat_eq_zero_iff]
  split
  next => rfl
  next nonzero =>
    have hd : (a.den : Int) * b.num ≠ 0 :=
      mul_ne_zero (Int.natCast_ne_zero.2 a.den_pos.ne') nonzero
    rw [make_eq _ hd, a.toRat_eq_div, b.toRat_eq_div, div_div_div_eq]
    push_cast
    rfl

theorem neg_eq (r : Ratio) : r.neg = ofRat (-r.toRat) := by
  rw [neg, make_eq _ (Int.natCast_ne_zero.2 r.den_pos.ne'), r.toRat_eq_div, ← neg_div]
  push_cast
  rfl

/-- Inversion fails for zero and is otherwise inversion of rational numbers. -/
theorem invert_eq (r : Ratio) :
    r.invert = if r.toRat = 0 then .error .divisionByZero else ofRat r.toRat⁻¹ := by
  simp only [invert, toRat_eq_zero_iff]
  split
  next => rfl
  next nonzero =>
    rw [make_eq _ nonzero, r.toRat_eq_div, inv_div, Int.cast_natCast]

/-! ## Powers -/

theorem intPower_eq (b : Int) (e : Nat) : intPower b e = b ^ e := by
  unfold intPower unitExponent
  split
  next small =>
    have hunit : b = 0 ∨ b = 1 ∨ b = -1 := by omega
    rcases hunit with rfl | rfl | rfl
    · split
      next zero => rw [zero]; rfl
      next nonzero => exact (zero_pow (by omega)).trans (zero_pow nonzero).symm
    · exact (one_pow _).trans (one_pow e).symm
    · split
      next zero => rw [zero]; rfl
      next nonzero =>
        show (-1 : Int) ^ (2 - e % 2) = (-1) ^ e
        rw [neg_one_pow_eq_pow_mod_two (n := e), neg_one_pow_eq_pow_mod_two]
        congr 1
        omega
  next => rfl

/-- A power that is given is the power of the rational number. -/
theorem toRat_of_checkedPower {r s : Ratio} {e : Int} (h : r.checkedPower e = some s) :
    s.toRat = r.toRat ^ e := by
  have hnum : ((intPower r.num e.natAbs : Int) : ℚ) = (r.num : ℚ) ^ e.natAbs := by
    rw [intPower_eq, Int.cast_pow]
  have hden : (((intPower r.den e.natAbs).toNat : Int) : ℚ) = (r.den : ℚ) ^ e.natAbs := by
    rw [intPower_eq, ← Int.natCast_pow, Int.toNat_natCast, Int.cast_natCast, Nat.cast_pow]
  simp only [checkedPower] at h
  split at h
  next => cases h
  split at h
  next => cases h
  split at h
  next nonneg =>
    rw [toOption_eq_some_iff, make_eq_ok_iff, hnum, hden] at h
    rw [h.2, ← div_pow, ← r.toRat_eq_div, ← zpow_natCast, Int.natAbs_of_nonneg nonneg]
  next negative =>
    split at h
    next => cases h
    next =>
      have he : e = -(e.natAbs : Int) := by omega
      rw [toOption_eq_some_iff, make_eq_ok_iff, hnum, hden] at h
      rw [h.2, ← div_pow, he, zpow_neg, zpow_natCast, ← inv_pow, Int.natAbs_neg, Int.natAbs_natCast,
        r.toRat_eq_div, inv_div]

end Ratio

namespace Number

/-! ## Numbers -/

/-- The rational number that an exact number denotes; a double has none. -/
def toRat? : Number → Option ℚ
  | .whole n => some n
  | .ratio r => some r.toRat
  | .float _ => none

@[simp] theorem toRat?_one : one.toRat? = some 1 := rfl

@[simp] theorem toRat?_collapse (r : Ratio) : (collapse r).toRat? = some r.toRat := by
  unfold collapse
  split
  next whole =>
    show some ((r.num : Int) : ℚ) = some r.toRat
    rw [r.toRat_eq_div, whole, Nat.cast_one, div_one]
  next => rfl

theorem toRat?_ofInt {n : Int} {q : ℚ} (h : (ofInt n).toRat? = some q) : q = n := by
  unfold ofInt at h
  split at h
  · exact (Option.some.inj h).symm
  · cases h

theorem toRat?_of_toRatio {a : Number} {r : Ratio} (h : a.toRatio = .ok r) :
    a.toRat? = some r.toRat := by
  cases a with
  | whole n =>
    rw [toRatio, mapError_eq_ok_iff, Ratio.ofInt_eq, Ratio.ofRat_eq_ok_iff] at h
    exact congrArg some h.symm
  | ratio s =>
    cases h
    rfl
  | float x => cases h

theorem isZero_iff {a : Number} {q : ℚ} (h : a.toRat? = some q) : a.isZero = true ↔ q = 0 := by
  cases a with
  | whole n =>
    cases h
    exact beq_iff_eq.trans Int.cast_eq_zero.symm
  | ratio r =>
    cases h
    exact beq_iff_eq.trans r.toRat_eq_zero_iff.symm
  | float x => cases h

/-- An operation is exact as a function on rational numbers wherever it stays among the exact
numbers. -/
structure Operation.Computes (op : Operation) (f : ℚ → ℚ → ℚ) : Prop where
  whole : ∀ {m n k : Int}, op.onWhole? m n = some k → (k : ℚ) = f m n
  ratio : ∀ {a b r : Ratio}, op.onRatio a b = .ok r → r.toRat = f a.toRat b.toRat

theorem Operation.toRat_of_ratioResult? {op : Operation} {f : ℚ → ℚ → ℚ} (hop : op.Computes f)
    {a b : Number} {r : Ratio} (h : op.ratioResult? a b = some r) :
    ∃ x y, a.toRat? = some x ∧ b.toRat? = some y ∧ r.toRat = f x y := by
  obtain ⟨x, hx, h⟩ := Option.bind_eq_some_iff.1 h
  obtain ⟨y, hy, h⟩ := Option.bind_eq_some_iff.1 h
  exact ⟨x.toRat, y.toRat, toRat?_of_toRatio (toOption_eq_some_iff.1 hx),
    toRat?_of_toRatio (toOption_eq_some_iff.1 hy), hop.ratio (toOption_eq_some_iff.1 h)⟩

/-- The exact branch of an operation, with a double in case it fails. -/
theorem Operation.toRat?_elim {op : Operation} {f : ℚ → ℚ → ℚ} (hop : op.Computes f)
    {a b : Number} {z : Float} {q : ℚ}
    (h : ((op.ratioResult? a b).elim (.float z) collapse).toRat? = some q) :
    ∃ x y, a.toRat? = some x ∧ b.toRat? = some y ∧ q = f x y := by
  cases hr : op.ratioResult? a b with
  | none =>
    rw [hr] at h
    cases h
  | some r =>
    rw [hr, Option.elim_some, toRat?_collapse] at h
    obtain ⟨x, y, hx, hy, hf⟩ := toRat_of_ratioResult? hop hr
    exact ⟨x, y, hx, hy, (Option.some.inj h).symm.trans hf⟩

/-- An exact result comes from exact operands and is the true one. -/
theorem Operation.toRat?_apply {op : Operation} {f : ℚ → ℚ → ℚ} (hop : op.Computes f)
    {a b : Number} {q : ℚ} (h : (op.apply a b).toRat? = some q) :
    ∃ x y, a.toRat? = some x ∧ b.toRat? = some y ∧ q = f x y := by
  simp only [apply] at h
  split at h
  next => cases h
  next =>
    split at h
    next m n _ =>
      cases hw : op.onWhole? m n with
      | none =>
        rw [hw] at h
        exact toRat?_elim hop h
      | some k =>
        rw [hw] at h
        exact ⟨m, n, rfl, rfl, (toRat?_ofInt h).trans (hop.whole hw)⟩
    next => exact toRat?_elim hop h

/-! ## The operations -/

theorem addition_computes : addition.Computes (· + ·) where
  whole h := by
    cases h
    exact Int.cast_add ..
  ratio h := Ratio.ofRat_eq_ok_iff.1 ((Ratio.add_eq ..).symm.trans h)

theorem subtraction_computes : subtraction.Computes (· - ·) where
  whole h := by
    cases h
    exact Int.cast_sub ..
  ratio h := Ratio.ofRat_eq_ok_iff.1 ((Ratio.sub_eq ..).symm.trans h)

theorem multiplication_computes : multiplication.Computes (· * ·) where
  whole h := by
    cases h
    exact Int.cast_mul ..
  ratio h := Ratio.ofRat_eq_ok_iff.1 ((Ratio.mul_eq ..).symm.trans h)

theorem division_computes : division.Computes (· / ·) where
  whole h := nomatch h
  ratio {a b r} h := by
    have h : a.div b = .ok r := h
    rw [Ratio.div_eq] at h
    split at h
    · cases h
    · exact Ratio.ofRat_eq_ok_iff.1 h

theorem toRat?_div {a b c : Number} {q : ℚ} (h : a.div? b = some c) (hq : c.toRat? = some q) :
    ∃ x y, a.toRat? = some x ∧ b.toRat? = some y ∧ y ≠ 0 ∧ q = x / y := by
  unfold div? at h
  split at h
  next => cases h
  next nonzero =>
    cases h
    obtain ⟨x, y, hx, hy, hf⟩ := Operation.toRat?_apply division_computes hq
    exact ⟨x, y, hx, hy, fun zero => nonzero ((isZero_iff hy).2 zero), hf⟩

theorem toRat?_negate {a : Number} {q : ℚ} (h : a.negate.toRat? = some q) :
    ∃ x, a.toRat? = some x ∧ q = -x := by
  cases a with
  | whole n =>
    simp only [negate] at h
    split at h
    · exact ⟨n, rfl, (Option.some.inj h).symm.trans (Int.cast_neg n)⟩
    · cases h
  | ratio r =>
    simp only [negate] at h
    split at h
    next s hs =>
      rw [Ratio.neg_eq, Ratio.ofRat_eq_ok_iff] at hs
      exact ⟨r.toRat, rfl, (Option.some.inj h).symm.trans hs⟩
    next => cases h
  | float x => cases h

/-! ## Powers -/

/-- A power of a whole number that is given is the true one, and fits. -/
theorem checkedIntPower_eq_some {b k : Int} {e : Nat} (h : checkedIntPower b e = some k) :
    FitsInt64 k ∧ k = b ^ e := by
  simp only [checkedIntPower] at h
  split at h
  · cases h
  · split at h
    next fits =>
      cases h
      exact ⟨fits, Ratio.intPower_eq b e⟩
    next => cases h

theorem toRat?_wholePower? {b e : Int} {c : Number} {q : ℚ} (h : wholePower? b e = some c)
    (hq : c.toRat? = some q) : q = (b : ℚ) ^ e := by
  unfold wholePower? at h
  split at h
  next =>
    obtain ⟨k, hk, h⟩ := Option.bind_eq_some_iff.1 h
    have hk : (k : ℚ) = (b : ℚ) ^ e.natAbs := by
      rw [(checkedIntPower_eq_some hk).2, Int.cast_pow]
    split at h
    next nonneg =>
      cases h
      rw [← Option.some.inj hq, hk, ← zpow_natCast, Int.natAbs_of_nonneg nonneg]
    next negative =>
      obtain ⟨r, hr, rfl⟩ := Option.map_eq_some_iff.1 h
      obtain ⟨-, hr⟩ := Ratio.make_eq_ok_iff.1 (toOption_eq_some_iff.1 hr)
      have he : e = -(e.natAbs : Int) := by omega
      rw [toRat?_collapse] at hq
      rw [← Option.some.inj hq, hr, hk, Int.cast_one, one_div, ← zpow_natCast, ← zpow_neg, ← he]
  next => cases h

theorem toRat?_ratioPower? {r : Ratio} {e : Int} {c : Number} {q : ℚ}
    (h : ratioPower? r e = some c) (hq : c.toRat? = some q) : q = r.toRat ^ e := by
  unfold ratioPower? at h
  split at h
  next =>
    obtain ⟨s, hs, rfl⟩ := Option.map_eq_some_iff.1 h
    rw [toRat?_collapse] at hq
    rw [← Option.some.inj hq, Ratio.toRat_of_checkedPower hs]
  next => cases h

/-- A number that falls back to a double is exact only when it does not fall back. -/
theorem toRat?_getD {power : Option Number} {z : Float} {q : ℚ}
    (h : (power.getD (.float z)).toRat? = some q) : ∃ c, power = some c ∧ c.toRat? = some q := by
  cases power with
  | none => cases h
  | some c => exact ⟨c, rfl, h⟩

/-- An exact power has an exact base and a whole exponent, which is not negative for zero. -/
theorem toRat?_power {a b c : Number} {q : ℚ} (h : a.power? b = some c) (hq : c.toRat? = some q) :
    ∃ (x : ℚ) (e : Int), a.toRat? = some x ∧ b.toRat? = some (e : ℚ) ∧ (x = 0 → 0 ≤ e) ∧
      q = x ^ e := by
  simp only [power?] at h
  split at h
  next b e =>
    split at h
    next => cases h
    next proper =>
      cases h
      obtain ⟨k, hk, hq⟩ := toRat?_getD hq
      exact ⟨b, e, rfl, rfl, fun hb => by_contra fun he => proper ⟨Int.cast_eq_zero.1 hb, by omega⟩,
        toRat?_wholePower? hk hq⟩
  next r e =>
    split at h
    next => cases h
    next proper =>
      cases h
      obtain ⟨k, hk, hq⟩ := toRat?_getD hq
      exact ⟨r.toRat, e, rfl, rfl,
        fun hr => by_contra fun he => proper ⟨r.toRat_eq_zero_iff.1 hr, by omega⟩,
        toRat?_ratioPower? hk hq⟩
  next =>
    cases h
    cases hq

end Number

end Reckoner
