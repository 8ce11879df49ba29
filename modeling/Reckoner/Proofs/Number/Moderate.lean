import Reckoner.Proofs.Number.Binary

/-!
# Moderate doubles

A double is *moderate* when it is finite and its scale is at most `2 ^ 700`.  Rounding, products and
quotients with moderate results are recognised by crude bounds on mantissas and scales.  So the
doubles that are cut to a few places have whole parts (`truncate?_of_moderate`).  The double near an
exact number is finite, not zero unless the number is, and has its sign (`unpack_nearest`).
-/

namespace Reckoner.Double

open Float.Model Float.Model.UnpackedFloat

/-! ## Finite doubles that are not too large -/

/-- A finite double that is not too large. -/
def Moderate : UnpackedFloat → Prop
  | .zero _ => True
  | .finite _ _ scale _ => scale ≤ 700
  | _ => False

theorem moderate_ofFields (sign : Sign) {exponent : BitVec 11} (fraction : BitVec 52)
    (h : exponent.toNat ≤ 1775) : Moderate (ofFields sign exponent fraction) := by
  have top : ¬exponent = -1#_ := by
    rintro rfl
    exact absurd h (by decide)
  rw [ofFields, if_neg top]
  by_cases bottom : exponent = 0#_
  · rw [if_pos bottom]
    by_cases zero : fraction = 0#_
    · rw [dif_pos zero]
      exact trivial
    · rw [dif_neg zero]
      show (-1074 : Int) ≤ 700
      omega
  · rw [if_neg bottom]
    show (exponent.toNat : Int) - 1075 ≤ 700
    omega

theorem moderate_pack {u : UnpackedFloat} (h : Moderate u) :
    Moderate (UnpackedFloat.unpack Format.binary64 (UnpackedFloat.pack Format.binary64 u)) := by
  cases u with
  | notANumber => exact h.elim
  | infinity sign => exact h.elim
  | zero sign =>
    show Moderate (unpack Format.binary64 (packedZero Format.binary64 sign))
    rw [packedZero, unpack_packComponents]
    exact moderate_ofFields _ _ (by decide)
  | finite sign m e hm =>
    have he : e ≤ 700 := h
    have biased : (e + (1023 : Nat) + (52 : Nat)).toNat ≤ 1775 := by omega
    rw [pack_finite, if_neg (show ¬ 2 ^ 11 ≤ _ + 1 by omega)]
    split
    next =>
      rw [unpack_packComponents]
      refine moderate_ofFields _ _ ?_
      rw [BitVec.toNat_ofNat]
      exact (Nat.mod_le _ _).trans biased
    next =>
      rw [unpack_packComponents]
      exact moderate_ofFields _ _ (by decide)

/-! ## Rounding -/

theorem mantissa_shiftRight_le (em : ExtendedMantissa) (n : Nat) :
    (em >>> n).mantissa ≤ em.mantissa := by
  show (n.repeat ExtendedMantissa.shiftRightOne em).mantissa ≤ em.mantissa
  induction n with
  | zero => exact Nat.le_refl _
  | succ n ih => exact (Nat.div_le_self _ 2).trans ih

theorem roundedMantissa_le (em : ExtendedMantissa) : em.roundedMantissa ≤ em.mantissa + 1 := by
  obtain ⟨m, roundBit, stickyBit⟩ := em
  have hmod : m % 2 ≤ 1 := by omega
  cases roundBit <;> cases stickyBit
  · exact Nat.le_succ m
  · exact Nat.le_succ m
  · exact Nat.add_le_add_left hmod m
  · exact Nat.le_refl _

theorem mantissa_ofMantissaAndAccuracy (m : Nat) (accuracy : Accuracy) :
    (ExtendedMantissa.ofMantissaAndAccuracy m accuracy).mantissa = m := by
  cases accuracy with
  | exact => rfl
  | inexact order => cases order <;> rfl

/-- Shifting to the scale of the format does not add to the mantissa, and leaves the larger of the
two scales. -/
theorem shiftToTargetExponent_bounds (m : Nat) (e : Int) (accuracy : Accuracy) :
    (shiftToTargetExponent Format.binary64 m e accuracy).1.mantissa ≤ m ∧
      (shiftToTargetExponent Format.binary64 m e accuracy).2 =
        max e (max ((m.log2 : Int) + e - 52) (-1074)) := by
  constructor
  · exact (mantissa_shiftRight_le ..).trans (mantissa_ofMantissaAndAccuracy m accuracy).le
  · show e + ((max ((m.log2 : Int) + 1 + e - (53 : Nat)) (-1074) - e).toNat : Int) = _
    omega

theorem log2_le_of_lt {m k : Nat} (h : m < 2 ^ (k + 1)) : m.log2 ≤ k := by
  by_cases hm : m = 0
  · subst hm
    exact Nat.zero_le k
  · exact Nat.le_of_lt_succ ((Nat.log2_lt hm).2 h)

/-- Rounding a mantissa that is not too long at a scale that is not too large gives a moderate
double. -/
theorem moderate_round (sign : Sign) {m : Nat} {e : Int} (accuracy : Accuracy)
    (hm : m < 2 ^ 200) (he : e ≤ 100) :
    Moderate (roundWithAccuracy Format.binary64 sign m e accuracy) := by
  have hlog : m.log2 ≤ 199 := log2_le_of_lt hm
  let first := shiftToTargetExponent Format.binary64 m e accuracy
  let second := shiftToTargetExponent Format.binary64 first.1.roundedMantissa first.2 .exact
  obtain ⟨hmantissa, hscale⟩ : first.1.mantissa ≤ m ∧
      first.2 = max e (max ((m.log2 : Int) + e - 52) (-1074)) :=
    shiftToTargetExponent_bounds m e accuracy
  have hrounded : first.1.roundedMantissa.log2 ≤ 200 := by
    refine log2_le_of_lt (Nat.lt_of_le_of_lt (roundedMantissa_le first.1) ?_)
    have hdouble : 2 ^ 201 = 2 ^ 200 + 2 ^ 200 := by rw [Nat.pow_succ, Nat.mul_two]
    omega
  have hsecond : second.2 = max first.2
      (max ((first.1.roundedMantissa.log2 : Int) + first.2 - 52) (-1074)) :=
    (shiftToTargetExponent_bounds first.1.roundedMantissa first.2 .exact).2
  have hround : roundWithAccuracy Format.binary64 sign m e accuracy =
      if h : second.1.mantissa = 0 then .zero sign
      else .finite sign second.1.mantissa second.2 (Nat.pos_of_ne_zero h) := rfl
  rw [hround]
  by_cases zero : second.1.mantissa = 0
  · rw [dif_pos zero]
    exact trivial
  · rw [dif_neg zero]
    show second.2 ≤ 700
    omega

/-! ## Products and quotients -/

/-- A finite double of the scale of the numbers that are written without an exponent, at most. -/
def Plain : UnpackedFloat → Prop
  | .zero _ => True
  | .finite _ mantissa scale _ => mantissa < 2 ^ 53 ∧ scale ≤ -23
  | _ => False

theorem moderate_mul {u v : UnpackedFloat} (hu : Plain u) (hv : Plain v) :
    Moderate (UnpackedFloat.mul Format.binary64 u v) := by
  cases u with
  | notANumber => exact hu.elim
  | infinity sign => exact hu.elim
  | zero sign =>
    cases v with
    | notANumber => exact hv.elim
    | infinity sign => exact hv.elim
    | zero sign' => exact trivial
    | finite sign' n f hn => exact trivial
  | finite sign m e hm =>
    cases v with
    | notANumber => exact hv.elim
    | infinity sign => exact hv.elim
    | zero sign' => exact trivial
    | finite sign' n f hn =>
      obtain ⟨hm, he⟩ := hu
      obtain ⟨hn, hf⟩ := hv
      have hmn : m * n < 2 ^ 53 * 2 ^ 53 := Nat.mul_lt_mul'' hm hn
      exact moderate_round _ _ (hmn.trans (by decide)) (by omega)

/-- A quotient by a number that is not tiny. -/
theorem moderate_div {u : UnpackedFloat} (hu : Plain u) (sign : Sign) {n : Nat} {f : Int}
    (positive : 0 < n) (hn : n < 2 ^ 53) (hf : -100 ≤ f) :
    Moderate (UnpackedFloat.div Format.binary64 u (.finite sign n f positive)) := by
  cases u with
  | notANumber => exact hu.elim
  | infinity sign => exact hu.elim
  | zero sign => exact trivial
  | finite sign' m e positive' =>
    obtain ⟨hm, he⟩ := hu
    have hlog : n.log2 ≤ 52 := log2_le_of_lt hn
    have hshift : ∀ t, (m.log2 : Int) + 1 + e - (n.log2 + 1 + f) - 53 ≤ t →
        ((e - f - min (e - f) t).toNat ≤ 105) := by
      intro t ht
      omega
    have hscale : (divCore Format.binary64 m e n f).2.1 ≤ 100 :=
      (min_le_left _ _).trans (by omega)
    have hquotient : (divCore Format.binary64 m e n f).1 < 2 ^ 200 := by
      refine (Nat.div_le_self _ _).trans_lt ?_
      rw [Nat.shiftLeft_eq]
      refine (Nat.mul_lt_mul_of_lt_of_le hm
        (Nat.pow_le_pow_right (by decide) (hshift _ (le_max_left _ _))) (by decide)).trans ?_
      decide
    have hdiv : UnpackedFloat.div Format.binary64 (.finite sign' m e positive')
        (.finite sign n f positive) = roundWithAccuracy Format.binary64 (sign' / sign)
          (divCore Format.binary64 m e n f).1 (divCore Format.binary64 m e n f).2.1
          (divCore Format.binary64 m e n f).2.2 := rfl
    rw [hdiv]
    exact moderate_round _ _ hquotient hscale

/-! ## Whole parts -/

theorem log2_fraction_le {m k : Nat} {e : Int} (hm : m < 2 ^ 53) (he : e ≤ k) :
    ((fraction m e).1 / (fraction m e).2).log2 ≤ 52 + k := by
  refine log2_le_of_lt ((Nat.div_le_self _ _).trans_lt ?_)
  rw [show 52 + k + 1 = 53 + k by omega, Nat.pow_add]
  unfold fraction
  split
  next =>
    have hpow : 2 ^ e.toNat ≤ 2 ^ k := Nat.pow_le_pow_right (by decide) (by omega)
    exact Nat.mul_lt_mul_of_lt_of_le hm hpow (Nat.two_pow_pos k)
  next => exact hm.trans_le (Nat.le_mul_of_pos_right _ (Nat.two_pow_pos k))

/-- A moderate double has a whole part, which is not too large. -/
theorem truncate?_of_moderate {x : Float} (h : Moderate x.toModel.unpack) :
    ∃ t, truncate? x = some t ∧ t.natAbs.log2 ≤ 52 + 700 := by
  obtain ⟨negative, m, e, hshape, hm, he⟩ :
      ∃ negative m e, shape x = .finite negative m e ∧ m < 2 ^ 53 ∧ e ≤ (700 : Nat) := by
    rw [shape_eq]
    cases hx : x.toModel.unpack with
    | notANumber =>
      rw [hx] at h
      exact h.elim
    | infinity sign =>
      rw [hx] at h
      exact h.elim
    | zero sign => exact ⟨_, _, _, rfl, Nat.two_pow_pos 53, by decide⟩
    | finite sign m e hm =>
      rw [hx] at h
      exact ⟨_, _, _, rfl, mantissa_lt hx, h⟩
  have hlog := log2_fraction_le hm he
  refine ⟨_, truncate?_of_shape hshape, ?_⟩
  split
  · rwa [Int.natAbs_neg, Int.natAbs_natCast]
  · rwa [Int.natAbs_natCast]

/-! ## The doubles that are cut -/

theorem unpack_1e9 : (1e9 : Float).toModel.unpack =
    .finite .positive (1000000000 * 2 ^ 23) (-23) (by decide) := rfl

theorem unpack_1e6 : (1e6 : Float).toModel.unpack =
    .finite .positive (1000000 * 2 ^ 33) (-33) (by decide) := rfl

theorem unpack_1e3 : (1e3 : Float).toModel.unpack =
    .finite .positive (1000 * 2 ^ 43) (-43) (by decide) := rfl

theorem plain_of_not_le {x : Float} (finite : x.toModel.unpack.isFinite)
    (small : ¬ (1e9 : Float) ≤ x.abs) : Plain x.toModel.unpack := by
  cases hx : x.toModel.unpack with
  | notANumber =>
    rw [hx] at finite
    exact (Bool.false_ne_true finite).elim
  | infinity sign =>
    rw [hx] at finite
    exact (Bool.false_ne_true finite).elim
  | zero sign => exact trivial
  | finite sign m e hm =>
    refine ⟨mantissa_lt hx, ?_⟩
    by_contra large
    apply small
    rw [le_iff, unpack_abs, hx, unpack_1e9]
    show ((compare (-23 : Int) e).then (compare (1000000000 * 2 ^ 23) m)).isLE = true
    rw [show compare (-23 : Int) e = .lt from Int.compare_eq_lt.2 (by omega)]
    rfl

theorem Plain.moderate {u : UnpackedFloat} (h : Plain u) : Moderate u := by
  cases u with
  | notANumber => exact h.elim
  | infinity sign => exact h.elim
  | zero sign => exact trivial
  | finite sign m e hm =>
    have he : e ≤ -23 := h.2
    show e ≤ 700
    omega

theorem Plain.mul_thousand {x : Float} (h : Plain x.toModel.unpack) :
    Moderate (x * 1e3).toModel.unpack :=
  moderate_pack (moderate_mul h (unpack_1e3 ▸ ⟨by decide, by decide⟩))

theorem Plain.mul_million {x : Float} (h : Plain x.toModel.unpack) :
    Moderate (x * 1e6).toModel.unpack :=
  moderate_pack (moderate_mul h (unpack_1e6 ▸ ⟨by decide, by decide⟩))

theorem Plain.div_thousand {x : Float} (h : Plain x.toModel.unpack) :
    Moderate (x / 1e3).toModel.unpack := by
  refine moderate_pack ?_
  rw [unpack_1e3]
  exact moderate_div h .positive (by decide) (by decide) (by decide)

/-! ## The double near a fraction -/

theorem roundHalfEven_le (num den : Nat) : roundHalfEven num den ≤ num / den + 1 := by
  have hmod : num / den % 2 ≤ 1 := by omega
  simp only [roundHalfEven]
  split
  next => exact Nat.le_succ _
  next =>
    split
    next => exact Nat.le_refl _
    next => exact Nat.add_le_add_left hmod _

theorem floorLog2_bounds (num den : Nat) :
    (num.log2 : Int) - den.log2 - 1 ≤ floorLog2 num den ∧
      floorLog2 num den ≤ (num.log2 : Int) - den.log2 := by
  simp only [floorLog2]
  split
  next => omega
  next => omega

/-- A fraction divided by a power of two that is not much smaller than itself is not large. -/
theorem scaleDown_quotient_lt {num den : Nat} (hd : 0 < den) {power : Int} {k : Nat}
    (h : (num.log2 : Int) - den.log2 < power + k) :
    (scaleDown num den power).1 / (scaleDown num den power).2 < 2 ^ (k + 1) := by
  have hnum : num < 2 ^ (num.log2 + 1) := Nat.lt_log2_self
  have hden : 2 ^ den.log2 ≤ den := Nat.log2_self_le hd.ne'
  unfold scaleDown
  split
  next nonneg =>
    refine Nat.div_lt_of_lt_mul ?_
    calc num < 2 ^ (num.log2 + 1) := hnum
      _ ≤ 2 ^ (den.log2 + power.toNat + (k + 1)) := Nat.pow_le_pow_right (by decide) (by omega)
      _ = 2 ^ den.log2 * 2 ^ power.toNat * 2 ^ (k + 1) := by rw [Nat.pow_add, Nat.pow_add]
      _ ≤ den * 2 ^ power.toNat * 2 ^ (k + 1) :=
        Nat.mul_le_mul_right _ (Nat.mul_le_mul_right _ hden)
  next negative =>
    refine Nat.div_lt_of_lt_mul ?_
    calc num * 2 ^ (-power).toNat < 2 ^ (num.log2 + 1) * 2 ^ (-power).toNat :=
        Nat.mul_lt_mul_of_pos_right hnum (Nat.two_pow_pos _)
      _ = 2 ^ (num.log2 + 1 + (-power).toNat) := (Nat.pow_add ..).symm
      _ ≤ 2 ^ (den.log2 + (k + 1)) := Nat.pow_le_pow_right (by decide) (by omega)
      _ = 2 ^ den.log2 * 2 ^ (k + 1) := Nat.pow_add ..
      _ ≤ den * 2 ^ (k + 1) := Nat.mul_le_mul_right _ hden

/-- The nearest double to a fraction that is neither very large nor very small is normal. -/
theorem nearestBits_bounds {num den : Nat} (hd : 0 < den) (hnum : num.log2 ≤ 800)
    (hden : den.log2 ≤ 64) :
    hiddenBit ≤ nearestBits num den ∧ nearestBits num den < infinityBits := by
  obtain ⟨least, most⟩ := floorLog2_bounds num den
  have hgrid : max (floorLog2 num den - 52) (-1074) = floorLog2 num den - 52 := by omega
  have hscale : (num.log2 : Int) - den.log2 < floorLog2 num den - 52 + (54 : Nat) := by omega
  have hquotient := scaleDown_quotient_lt hd hscale
  have hround := (roundHalfEven_le _ _).trans (Nat.succ_le_of_lt hquotient)
  simp only [nearestBits, hgrid]
  have hhidden : hiddenBit = 4503599627370496 := rfl
  rw [infinityBits, hhidden]
  generalize roundHalfEven _ _ = mantissa at hround ⊢
  have hlow : 900 ≤ (floorLog2 num den - 52 + 1074).toNat := by omega
  have hhigh : (floorLog2 num den - 52 + 1074).toNat ≤ 1830 := by omega
  generalize (floorLog2 num den - 52 + 1074).toNat = field at hlow hhigh
  omega

/-- The nearest double to a fraction that is neither very large nor very small is finite, and not
zero. -/
theorem unpack_nearest (negative : Bool) {num den : Nat} (hn : num ≠ 0) (hd : 0 < den)
    (hnum : num.log2 ≤ 800) (hden : den.log2 ≤ 64) :
    ∃ m e h, (nearest negative num den).toModel.unpack = .finite (signOf negative) m e h := by
  obtain ⟨low, high⟩ := nearestBits_bounds hd hnum hden
  rw [nearest, if_neg hn]
  generalize nearestBits num den = bits at low high
  have hlow : 0 < bits / hiddenBit := Nat.div_pos low (by decide)
  have hhigh : bits / hiddenBit < 2047 := Nat.div_lt_of_lt_mul (by rwa [Nat.mul_comm])
  rw [unpack_ofBits negative (high.trans (by decide))]
  exact ofFields_normal (signOf negative) _ hlow hhigh

theorem isFinite_nearest (negative : Bool) {num den : Nat} (hd : 0 < den) (hnum : num.log2 ≤ 800)
    (hden : den.log2 ≤ 64) : (nearest negative num den).isFinite := by
  show UnpackedFloat.isFinite (nearest negative num den).toModel.unpack = true
  by_cases hn : num = 0
  · rw [nearest, if_pos hn, unpack_zero negative]
    rfl
  · obtain ⟨m, e, h, hfinite⟩ := unpack_nearest negative hn hd hnum hden
    rw [hfinite]
    rfl

theorem nearest_ne_zero (negative : Bool) {num den : Nat} (hn : num ≠ 0) (hd : 0 < den)
    (hnum : num.log2 ≤ 800) (hden : den.log2 ≤ 64) :
    (nearest negative num den == 0) = false := by
  obtain ⟨m, e, h, hfinite⟩ := unpack_nearest negative hn hd hnum hden
  show (UnpackedFloat.compare (nearest negative num den).toModel.unpack (.zero .positive) ==
    some .eq) = false
  rw [hfinite]
  cases negative <;> rfl

/-- The nearest double to a negative fraction is below zero. -/
theorem nearest_lt_zero {num den : Nat} (hn : num ≠ 0) (hd : 0 < den) (hnum : num.log2 ≤ 800)
    (hden : den.log2 ≤ 64) : nearest true num den < 0 := by
  obtain ⟨m, e, h, hfinite⟩ := unpack_nearest true hn hd hnum hden
  rw [lt_iff, hfinite]
  rfl

end Reckoner.Double
