import Reckoner.Proofs.Number.Fits
import Reckoner.Proofs.Number.GuardedPower

/-!
# Powers of ratios

The parts of a power are the powers of the parts, and they are tested before a negative exponent
turns them round.  For an exponent that is not negative this is the right test, and the power is
given if and only if it fits.  For a negative exponent it is the reciprocal of the power that has
been tested: both of its parts have to fit signed words.  That leaves out a few powers that fit, the
*lopsided* ones, among them minus `2 ^ 63`.  Inverting a ratio has no such gap.
-/

namespace Reckoner

/-- Numerator and denominator of a rational number both fit signed words. -/
def FitsSigned (q : ℚ) : Prop := FitsInt64 q.num ∧ FitsInt64 q.den

instance : DecidablePred FitsSigned := fun q =>
  inferInstanceAs (Decidable (FitsInt64 q.num ∧ FitsInt64 q.den))

theorem FitsSigned.fits {q : ℚ} (h : FitsSigned q) : Fits q := by
  obtain ⟨hnum, -, hden⟩ := h
  refine ⟨hnum, ?_⟩
  show q.den ≤ 18446744073709551615
  omega

/-- A part of the reciprocal does not fit a signed word; said of numbers that fit. -/
def Lopsided (q : ℚ) : Prop :=
  q.num = -2 ^ 63 ∨ 2 ^ 63 < q.den ∨ q.den = 2 ^ 63 ∧ 0 < q.num

theorem fitsSigned_inv_iff {q : ℚ} (h : Fits q) : FitsSigned q⁻¹ ↔ ¬Lopsided q := by
  obtain ⟨⟨hlow, hhigh⟩, -⟩ := h
  have hden := q.den_pos
  unfold FitsSigned FitsInt64 Lopsided
  rw [Rat.num_inv, Rat.den_inv]
  rcases Int.sign_trichotomy q.num with hs | hs | hs
  · have := Int.sign_eq_one_iff_pos.1 hs
    rw [hs, if_neg (by omega)]
    omega
  · have zero := Int.sign_eq_zero_iff_zero.1 hs
    have one : q.den = 1 := by rw [Rat.num_eq_zero.1 zero, Rat.den_zero]
    rw [hs, if_pos zero, one]
    omega
  · have := Int.sign_eq_neg_one_iff_neg.1 hs
    rw [hs, if_neg (by omega)]
    omega

namespace Ratio

variable {r : Ratio}

/-! ## The parts of a power -/

theorem fits_toRat_iff {q : ℚ} : Fits q ↔ ∃ s : Ratio, s.toRat = q := by
  constructor
  · intro h
    obtain ⟨s, -, hs⟩ := exists_ofRat h
    exact ⟨s, hs⟩
  · rintro ⟨s, rfl⟩
    exact s.toRat_fits

theorem intPower_num (r : Ratio) (n : Nat) : intPower r.num n = (r.toRat ^ n).num := by
  rw [intPower_eq, Rat.num_pow, toRat_num]

theorem intPower_den (r : Ratio) (n : Nat) : (intPower r.den n).toNat = (r.toRat ^ n).den := by
  rw [intPower_eq, ← Int.natCast_pow, Int.toNat_natCast, Rat.den_pow, toRat_den]

theorem two_pow_lt {b n : Nat} (hb : 1 < b) (hn : 64 < n) : 2 ^ 64 < b ^ n :=
  calc 2 ^ 64 < 2 ^ n := Nat.pow_lt_pow_right (by decide) hn
    _ ≤ b ^ n := Nat.pow_le_pow_left hb n

/-- A power that is refused at once does not fit. -/
theorem not_fits_of_large {n : Nat} (hn : 64 < n) (hr : 1 < r.den ∨ 1 < r.num.natAbs) :
    ¬Fits (r.toRat ^ n) := by
  rintro ⟨⟨hlow, hhigh⟩, hden⟩
  rw [Rat.num_pow, toRat_num] at hlow hhigh
  have hden : (r.toRat ^ n).den ≤ 18446744073709551615 := hden
  rw [Rat.den_pow, toRat_den] at hden
  rcases hr with hr | hr
  · have := two_pow_lt hr hn
    omega
  · have := two_pow_lt hr hn
    rw [← Int.natAbs_pow] at this
    omega

/-- A power by its parts: the test comes before the inversion. -/
theorem checkedPower_eq (r : Ratio) (e : Int) :
    r.checkedPower e =
      if ¬Fits (r.toRat ^ e.natAbs) then none
      else if 0 ≤ e then (ofRat (r.toRat ^ e.natAbs)).toOption
      else if r.toRat ^ e.natAbs = 0 ∨ ¬FitsInt64 (r.toRat ^ e.natAbs).den then none
      else (ofRat (r.toRat ^ e.natAbs)⁻¹).toOption := by
  simp only [checkedPower, intPower_num, intPower_den]
  split
  next large =>
    simp only [Bool.and_eq_true, Bool.or_eq_true, decide_eq_true_eq] at large
    rw [if_pos (not_fits_of_large large.1 large.2)]
  next =>
    generalize r.toRat ^ e.natAbs = p
    have upright : make p.num p.den = ofRat p := by
      rw [make_eq _ (Int.natCast_ne_zero.2 p.den_ne_zero), Int.cast_natCast, Rat.num_div_den]
    have inverted (h : p ≠ 0) : make p.den p.num = ofRat p⁻¹ := by
      rw [make_eq _ (Rat.num_ne_zero.2 h), Int.cast_natCast, ← inv_div, Rat.num_div_den]
    have outside : (!(decide (FitsInt64 p.num) && decide (FitsNat64 p.den))) = true ↔ ¬Fits p := by
      simp [Fits, imp_iff_not_or]
    have unsigned : (decide (p.num = 0) || !decide (FitsInt64 p.den)) = true ↔
        p = 0 ∨ ¬FitsInt64 p.den := by
      simp
    simp only [outside, unsigned, upright]
    split
    next => rfl
    next =>
      split
      next => rfl
      next =>
        split
        next => rfl
        next proper => rw [inverted (not_or.1 proper).1]

/-- For an exponent that is not negative the test is that of the power. -/
theorem checkedPower_of_nonneg (r : Ratio) {e : Int} (h : 0 ≤ e) :
    r.checkedPower e = (ofRat (r.toRat ^ e)).toOption := by
  have hpow : r.toRat ^ e = r.toRat ^ e.natAbs := by
    rw [← zpow_natCast, Int.natAbs_of_nonneg h]
  rw [checkedPower_eq, hpow, if_pos h]
  split
  next large => exact (ofRat_of_not_fits large).symm
  next => rfl

/-- For a negative exponent it is that of the power of the opposite exponent, with a signed word for
the denominator, which becomes the numerator. -/
theorem checkedPower_of_neg (r : Ratio) {e : Int} (h : e < 0) :
    r.checkedPower e =
      if r.toRat ≠ 0 ∧ FitsSigned (r.toRat ^ e)⁻¹ then (ofRat (r.toRat ^ e)).toOption
      else none := by
  have hpow : r.toRat ^ e = (r.toRat ^ e.natAbs)⁻¹ := by
    rw [← zpow_natCast, ← zpow_neg, Int.ofNat_natAbs_of_nonpos h.le, neg_neg]
  have hzero : r.toRat ≠ 0 ↔ r.toRat ^ e.natAbs ≠ 0 := (pow_eq_zero_iff (by omega)).not.symm
  rw [checkedPower_eq, if_neg (not_le.2 h), hpow, inv_inv]
  simp only [hzero]
  generalize r.toRat ^ e.natAbs = p
  by_cases proper : p ≠ 0 ∧ FitsSigned p
  · have turned : ¬(p = 0 ∨ ¬FitsInt64 p.den) := by
      rintro (zero | large)
      · exact proper.1 zero
      · exact large proper.2.2
    rw [if_pos proper, if_neg (not_not.2 proper.2.fits), if_neg turned]
  · rw [if_neg proper]
    split
    next => rfl
    next fits =>
      refine if_pos (or_iff_not_imp_left.2 fun nonzero large => proper ⟨nonzero, ?_, large⟩)
      exact (not_not.1 fits).1

theorem checkedPower_neg_one (r : Ratio) :
    r.checkedPower (-1) =
      if r.den = 2 ^ 63 ∧ r.num < 0 then none else r.invert.toOption := by
  rw [checkedPower_of_neg r (by decide), invert_eq, zpow_neg_one, inv_inv]
  by_cases zero : r.toRat = 0
  · rw [if_neg (fun h => h.1 zero), if_pos zero]
    split <;> rfl
  rw [if_neg zero]
  have hfits : FitsSigned r.toRat ↔ FitsInt64 r.den := and_iff_right r.num_fits
  by_cases small : FitsInt64 r.den
  · have hden : ¬(r.den = 2 ^ 63 ∧ r.num < 0) := by
      have := small.2
      omega
    rw [if_pos ⟨zero, hfits.2 small⟩, if_neg hden]
  · rw [if_neg (fun h => small (hfits.1 h.2))]
    split
    next => rfl
    next hden =>
      refine (ofRat_of_not_fits fun h => ?_).symm
      obtain ⟨⟨hlow, hhigh⟩, -⟩ := h
      rw [Rat.num_inv, toRat_num, toRat_den] at hlow hhigh
      have nonzero : r.num ≠ 0 := r.toRat_eq_zero_iff.not.1 zero
      unfold FitsInt64 at small
      rcases Int.sign_trichotomy r.num with hs | hs | hs <;> rw [hs] at hlow hhigh
      · omega
      · exact nonzero (Int.sign_eq_zero_iff_zero.1 hs)
      · have := Int.sign_eq_neg_one_iff_neg.1 hs
        omega

/-- What is given is the power, and it is given unless it is lopsided. -/
theorem checkedPower_gives_iff (r s : Ratio) (e : Int) :
    r.checkedPower e = some s ↔
      s.toRat = r.toRat ^ e ∧ (e < 0 → r.toRat ≠ 0 ∧ ¬Lopsided (r.toRat ^ e)) := by
  constructor
  · intro h
    have exact := toRat_of_checkedPower h
    refine ⟨exact, fun negative => ?_⟩
    rw [checkedPower_of_neg r negative] at h
    split at h
    next proper => exact ⟨proper.1, (fitsSigned_inv_iff (exact ▸ s.toRat_fits)).1 proper.2⟩
    next => cases h
  · rintro ⟨exact, proper⟩
    have given : (ofRat (r.toRat ^ e)).toOption = some s := by
      rw [← exact, ofRat_toRat]
      rfl
    rcases le_or_gt 0 e with nonneg | negative
    · rw [checkedPower_of_nonneg r nonneg, given]
    · obtain ⟨nonzero, even⟩ := proper negative
      have hinv := (fitsSigned_inv_iff (exact ▸ s.toRat_fits)).2 even
      rw [checkedPower_of_neg r negative, if_pos ⟨nonzero, hinv⟩, given]

/-- A power of a ratio is given if and only if it fits, and for a negative exponent the base is not
zero and the power not lopsided; what is given is the power.  Nothing else can happen.  The power
minus one is the reciprocal wherever there is one, except for the negative ratios over `2 ^ 63`. -/
theorem checkedPower_eq_some_iff (r : Ratio) (e : Int) :
    (∀ s, r.checkedPower e = some s ↔
      s.toRat = r.toRat ^ e ∧ (e < 0 → r.toRat ≠ 0 ∧ ¬Lopsided (r.toRat ^ e))) ∧
    (r.checkedPower e = none ↔
      ¬(Fits (r.toRat ^ e) ∧ (e < 0 → r.toRat ≠ 0 ∧ ¬Lopsided (r.toRat ^ e)))) ∧
    r.checkedPower (-1) =
      (if r.den = 2 ^ 63 ∧ r.num < 0 then none else r.invert.toOption) ∧
    Guarded.checkedPower r e = .ok (r.checkedPower e) := by
  have gives (s : Ratio) := checkedPower_gives_iff r s e
  refine ⟨gives, ?_, checkedPower_neg_one r, Guarded.checkedPower_eq r e⟩
  rw [Option.eq_none_iff_forall_ne_some, fits_toRat_iff]
  simp only [ne_eq, gives, ← not_exists, exists_and_right]

/-- Minus one over `2 ^ 63` has a reciprocal, but no power minus one. -/
example :
    let r : Ratio := ⟨-1, 2 ^ 63, by decide, by decide, by decide, by decide⟩
    r.invert.toOption.map Ratio.text = some "-9223372036854775808/1" ∧
      r.checkedPower (-1) = none := by
  decide

end Ratio

end Reckoner
