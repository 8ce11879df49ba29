import Reckoner.Proofs.Number.RatioPower

/-!
# Exact powers

A power of an exact number with a whole exponent that is not negative represents the true power, as
the other operations represent their results, as long as the exponent is one that the base accepts.
The early refusals of large exponents take nothing away, since only zero, one and minus one have
powers that fit beyond them.  A negative power of a whole number is the reciprocal of the positive
one where that fits, and the reciprocal of a whole number that fits always fits.

Only a whole exponent makes a power of zero be refused.  A fractional exponent goes to the doubles
together with its base, and there a negative power of zero is infinite (`power_of_zero`).
-/

namespace Reckoner.Number

/-! ## Powers of whole numbers -/

/-- The early refusal takes nothing away. -/
theorem checkedIntPower_eq (b : Int) (n : Nat) :
    checkedIntPower b n = if FitsInt64 (b ^ n) then some (b ^ n) else none := by
  simp only [checkedIntPower, Ratio.intPower_eq]
  split
  next large =>
    simp only [Bool.and_eq_true, decide_eq_true_eq] at large
    refine (if_neg fun fits => ?_).symm
    have habs : (b ^ n).natAbs ≤ 2 ^ 63 := Guarded.natAbs_le fits
    have hpow : 2 ^ 64 ≤ b.natAbs ^ n :=
      calc 2 ^ 64 ≤ 2 ^ n := Nat.pow_le_pow_right (by decide) large.2
        _ ≤ b.natAbs ^ n := Nat.pow_le_pow_left large.1 n
    rw [Int.natAbs_pow] at habs
    omega
  next => rfl

theorem cast_pow_natAbs (b : Int) {e : Int} (h : 0 ≤ e) :
    ((b ^ e.natAbs : Int) : ℚ) = (b : ℚ) ^ e := by
  rw [Int.cast_pow, ← zpow_natCast, Int.natAbs_of_nonneg h]

theorem wholePower_represents (b : Int) {e : Int} (h : 0 ≤ e) (he : FitsNat32 e.natAbs)
    (z : Float) :
    ((wholePower? b e).getD (.float z)).Represents ((b : ℚ) ^ e) := by
  rw [wholePower?, if_pos he, checkedIntPower_eq, ← cast_pow_natAbs b h]
  split
  next fits =>
    exact represents_whole fits
  next large => exact represents_float (mt fits_intCast.1 large) z

/-- The reciprocal of a whole number that fits fits too. -/
theorem fits_inv {k : Int} (h : FitsInt64 k) : Fits (k : ℚ)⁻¹ := by
  obtain ⟨low, high⟩ := h
  constructor
  · rw [Rat.num_inv, Rat.num_intCast, Rat.den_intCast]
    rcases Int.sign_trichotomy k with hs | hs | hs <;> rw [hs] <;> decide
  · rw [Rat.den_inv, Rat.num_intCast]
    show (if k = 0 then 1 else k.natAbs) ≤ 18446744073709551615
    split <;> omega

/-- A negative power is the reciprocal of the positive one, if that fits. -/
theorem wholePower_of_neg {b e : Int} (nonzero : b ≠ 0) (h : e < 0) (he : FitsNat32 e.natAbs)
    (fits : FitsInt64 (b ^ e.natAbs)) :
    ∃ r : Ratio, wholePower? b e = some (collapse r) ∧ r.toRat = ((b : ℚ) ^ e.natAbs)⁻¹ := by
  have hpow : b ^ e.natAbs ≠ 0 := pow_ne_zero _ nonzero
  obtain ⟨r, hr, hvalue⟩ := Ratio.exists_ofRat (fits_inv fits)
  refine ⟨r, ?_, by rw [hvalue, Int.cast_pow]⟩
  rw [wholePower?, if_pos he, checkedIntPower_eq, if_pos fits, Option.bind_some,
    if_neg (not_le.2 h), Ratio.inverseOf_eq hpow, hr]
  rfl

/-! ## Powers of ratios -/

theorem ratioPower_represents (r : Ratio) {e : Int} (h : 0 ≤ e) (he : FitsInt32 e) (z : Float) :
    ((ratioPower? r e).getD (.float z)).Represents (r.toRat ^ e) := by
  have represents := elim_represents (r.toRat ^ e) z
  rw [ratioPower?, if_pos he, Ratio.checkedPower_of_nonneg r h]
  generalize (Ratio.ofRat (r.toRat ^ e)).toOption = result at represents
  cases result with
  | none => exact represents
  | some s => exact represents

/-! ## Powers of zero -/

section

variable {a b : Number} {p q : ℚ}

/-- Only a whole exponent makes a power of zero be refused. -/
theorem power?_eq_none_iff (hp : a.toRat? = some p) (hq : b.toRat? = some q) :
    a.power? b = none ↔ p = 0 ∧ q < 0 ∧ ∃ e, b = .whole e := by
  cases b with
  | float y => cases hq
  | ratio s =>
    have given : a.power? (.ratio s) ≠ none := by
      cases a <;> exact Option.some_ne_none _
    exact ⟨fun h => absurd h given, nofun⟩
  | whole e =>
    cases hq
    have negative : ((e : ℚ) < 0 ∧ ∃ n, Number.whole e = .whole n) ↔ e < 0 :=
      ⟨fun h => Int.cast_lt_zero.1 h.1, fun h => ⟨Int.cast_lt_zero.2 h, e, rfl⟩⟩
    rw [negative]
    cases a with
    | float x => cases hp
    | whole n =>
      cases hp
      rw [Int.cast_eq_zero]
      simp only [power?, ite_eq_left_iff, reduceCtorEq, imp_false, not_not]
    | ratio r =>
      cases hp
      rw [r.toRat_eq_zero_iff]
      simp only [power?, ite_eq_left_iff, reduceCtorEq, imp_false, not_not]

theorem toFloat_of_zero (hp : a.toRat? = some 0) : a.toFloat = Double.zero false := by
  cases a with
  | float x => cases hp
  | whole n =>
    have zero : n = 0 := Int.cast_eq_zero.1 (Option.some.inj hp)
    rw [zero]
    rfl
  | ratio r =>
    have zero : r.num = 0 := r.toRat_eq_zero_iff.1 (Option.some.inj hp)
    rw [toFloat, ratioToFloat, zero]
    rfl

theorem ratioToFloat_lt_zero {r : Ratio} (h : r.toRat < 0) : ratioToFloat r < 0 := by
  have hnum : r.num < 0 := by rwa [← r.toRat_num, Rat.num_neg]
  have hlog := Guarded.log2_natAbs_le r.num_fits
  rw [ratioToFloat, Double.ofQuotient, decide_eq_true hnum]
  exact Double.nearest_lt_zero (by omega) r.den_pos (by omega) (Guarded.log2_den_le r)

theorem floatPower_of_zero {y : Float} (h : y < 0) :
    floatPower (Double.zero false) y = Double.infinity false := by
  have zero : (Double.zero false == 0) = true := by decide
  have positive : Double.isNegative (Double.zero false) = false := by decide
  rw [floatPower, zero, decide_eq_true h, Bool.and_self, if_pos rfl, positive, Bool.and_false]

/-- A fractional exponent takes zero to the doubles. -/
theorem power_of_zero {r : Ratio} (hp : a.toRat? = some 0) (h : r.toRat < 0) :
    a.power? (.ratio r) = some (.float (Double.infinity false)) := by
  have hpower : a.power? (.ratio r) =
      some (.float (floatPower a.toFloat (ratioToFloat r))) := by
    cases a <;> rfl
  rw [hpower, toFloat_of_zero hp, floatPower_of_zero (ratioToFloat_lt_zero h)]

end

/-! ## Exact powers together -/

/-- The exponents for which a power is looked for among the exact numbers. -/
def AcceptsExponent : Number → Int → Prop
  | .whole _, e => FitsNat32 e.natAbs
  | .ratio _, e => FitsInt32 e
  | .float _, _ => False

theorem power_whole {b e : Int} (h : ¬(b = 0 ∧ e < 0)) :
    (Number.whole b).power? (.whole e) = some ((wholePower? b e).getD
      (.float (floatPower (Number.whole b).toFloat (Number.whole e).toFloat))) :=
  if_neg h

theorem power_ratio {r : Ratio} {e : Int} (h : ¬(r.num = 0 ∧ e < 0)) :
    (Number.ratio r).power? (.whole e) = some ((ratioPower? r e).getD
      (.float (floatPower (Number.ratio r).toFloat (Number.whole e).toFloat))) :=
  if_neg h

/-- A whole power of an exact number.  What is exact is canonical and the true power.  An accepted
exponent that is not negative gives what represents the true power, and a negative one of a whole
number the reciprocal of the positive power, wherever that fits its word.  The power is refused
exactly for zero and a negative exponent, and no other step is without a result. -/
theorem power_represents {a : Number} {p : ℚ} {e : Int} (ha : a.Valid) (hp : a.toRat? = some p)
    (he : FitsInt64 e) :
    (∀ c q, a.power? (.whole e) = some c → c.toRat? = some q → c.Canonical ∧ q = p ^ e) ∧
    (0 ≤ e → a.AcceptsExponent e →
      ∃ c, a.power? (.whole e) = some c ∧ c.Represents (p ^ e)) ∧
    (∀ b, a = .whole b → b ≠ 0 → e < 0 → FitsNat32 e.natAbs → FitsInt64 (b ^ e.natAbs) →
      ∃ c, a.power? (.whole e) = some c ∧ c.toRat? = some ((b : ℚ) ^ e.natAbs)⁻¹) ∧
    (a.power? (.whole e) = none ↔ p = 0 ∧ e < 0) ∧
    Guarded.raised a (.whole e) = .ok (a.power? (.whole e)) := by
  refine ⟨?_, ?_, ?_, ?_, Guarded.raised_eq ha he⟩
  · intro c q hc hq
    obtain ⟨x, k, hx, hk, -, hpow⟩ := toRat?_power hc hq
    cases hp.symm.trans hx
    have same : (e : ℚ) = k := Option.some.inj hk
    rw [hpow, Int.cast_inj.1 same]
    exact ⟨power?_canonical hc, rfl⟩
  · intro nonneg accepted
    cases a with
    | whole b =>
      cases hp
      exact ⟨_, power_whole (by omega), wholePower_represents b nonneg accepted _⟩
    | ratio r =>
      cases hp
      exact ⟨_, power_ratio (by omega), ratioPower_represents r nonneg accepted _⟩
    | float x => cases hp
  · rintro b rfl nonzero negative accepted fits
    obtain ⟨r, hr, hvalue⟩ := wholePower_of_neg nonzero negative accepted fits
    refine ⟨_, power_whole fun h => nonzero h.1, ?_⟩
    rw [hr, Option.getD_some, toRat?_collapse, hvalue]
  · rw [power?_eq_none_iff hp (b := .whole e) rfl, Int.cast_lt_zero]
    exact ⟨fun h => ⟨h.1, h.2.1⟩, fun h => ⟨h.1, h.2, e, rfl⟩⟩

/-- The least number that fits is a power, and its reciprocal is one too. -/
theorem powers_of_minusTwo :
    (Number.whole (-2)).Valid ∧ FitsInt64 63 ∧ FitsInt64 (-63) ∧
    (∃ c, (Number.whole (-2)).power? (.whole 63) = some c ∧ c.toRat? = some (-2 ^ 63)) ∧
    ∃ c, (Number.whole (-2)).power? (.whole (-63)) = some c ∧ c.toRat? = some (-2 ^ 63)⁻¹ := by
  have hvalid : (Number.whole (-2)).Valid := show FitsInt64 (-2) by decide
  obtain ⟨-, hpositive, -⟩ :=
    power_represents (e := 63) hvalid rfl (by decide)
  obtain ⟨-, -, hnegative, -⟩ :=
    power_represents (e := -63) hvalid rfl (by decide)
  obtain ⟨c, hc, hrep⟩ := hpositive (by decide) (show FitsNat32 63 by decide)
  obtain ⟨d, hd, hvalue⟩ := hnegative (-2) rfl (by decide) (by decide)
    (show FitsNat32 63 by decide) (show FitsInt64 ((-2) ^ 63) by decide)
  have hpow : (((-2 : Int) : ℚ)) ^ (63 : Int) = ((-9223372036854775808 : Int) : ℚ) := by norm_num
  rw [hpow] at hrep
  refine ⟨hvalid, by decide, by decide, ⟨c, hc, ?_⟩, d, hd, ?_⟩
  · rw [hrep.toRat?_of_fits (fits_intCast.2 (by decide))]
    norm_num
  · rw [hvalue]
    norm_num

/-- A power of exact numbers is refused exactly for zero and a negative whole exponent; zero to a
negative fraction is infinite, and no other step is without a result. -/
theorem power_refused_iff {a b : Number} {p q : ℚ} (ha : a.Valid) (hb : b.Valid)
    (hp : a.toRat? = some p) (hq : b.toRat? = some q) :
    (a.power? b = none ↔ p = 0 ∧ q < 0 ∧ ∃ e, b = .whole e) ∧
    (p = 0 → q < 0 → (∃ r, b = .ratio r) → a.power? b = some (.float (Double.infinity false))) ∧
    Guarded.raised a b = .ok (a.power? b) := by
  refine ⟨power?_eq_none_iff hp hq, ?_, Guarded.raised_eq ha hb⟩
  rintro rfl negative ⟨r, rfl⟩
  cases hq
  exact power_of_zero hp negative

/-- Zero to minus one half is infinite, and to minus one refused. -/
theorem zero_to_minusHalf : ∃ r : Ratio, r.num = -1 ∧ r.den = 2 ∧
    (Number.whole 0).Valid ∧ (Number.ratio r).Valid ∧
    (Number.whole 0).power? (.ratio r) = some (.float (Double.infinity false)) ∧
    (Number.whole 0).power? (.whole (-1)) = none := by
  let r : Ratio := ⟨-1, 2, by decide, by decide, by decide, by decide⟩
  have hzero : (Number.whole 0).Valid := show FitsInt64 0 by decide
  have hone : (Number.whole (-1)).Valid := show FitsInt64 (-1) by decide
  have hvalue : (Number.whole 0).toRat? = some 0 := congrArg some Int.cast_zero
  have hnegative : r.toRat < 0 := Rat.num_neg.1 (by decide)
  obtain ⟨-, hfraction, -⟩ := power_refused_iff (b := .ratio r) hzero trivial hvalue rfl
  obtain ⟨hwhole, -⟩ := power_refused_iff (b := .whole (-1)) hzero hone hvalue rfl
  exact ⟨r, rfl, rfl, hzero, trivial, hfraction rfl hnegative ⟨_, rfl⟩,
    hwhole.2 ⟨rfl, by norm_num, -1, rfl⟩⟩

end Reckoner.Number
