import Reckoner.Proofs.Number.Guarded

/-!
# Exact wherever it fits

A rational number *fits* when its numerator and denominator, in lowest terms, fit their words.  What
arithmetic makes of exact numbers *represents* the true result: it is exact if and only if the true
result fits, it is then whole if and only if the true result is, and otherwise it is a double
(`Represents`).  This does not depend on the form of the operands, nor on the way that the operation
takes, among whole numbers or among ratios, since every ratio is reduced before it is tested.

A change of sign leaves a ratio a ratio.  So it represents the true result only where its operand is
canonical, while a whole ratio stays one.
-/

namespace Reckoner

/-- The rational number has a ratio: its numerator and its denominator fit their words. -/
def Fits (q : ℚ) : Prop := FitsInt64 q.num ∧ FitsNat64 q.den

instance : DecidablePred Fits := fun q =>
  inferInstanceAs (Decidable (FitsInt64 q.num ∧ FitsNat64 q.den))

namespace Ratio

theorem toRat_fits (r : Ratio) : Fits r.toRat := ⟨r.num_fits, r.den_fits⟩

theorem exists_ofRat {q : ℚ} (h : Fits q) : ∃ r, ofRat q = .ok r ∧ r.toRat = q :=
  ⟨_, dif_pos h, rfl⟩

theorem ofRat_of_not_fits {q : ℚ} (h : ¬Fits q) : (ofRat q).toOption = none := by
  have hfail : ofRat q = .error (.outOfRange q.num q.den) := dif_neg h
  rw [hfail]
  rfl

end Ratio

namespace Number

/-! ## Numbers that fit -/

theorem fits_intCast {n : Int} : Fits n ↔ FitsInt64 n :=
  ⟨fun h => h.1, fun h => ⟨h, Nat.one_le_ofNat⟩⟩

theorem isFloat_of_toRat? {x : Number} {q : ℚ} (h : x.toRat? = some q) : x.isFloat = false := by
  cases x with
  | whole n => rfl
  | ratio r => rfl
  | float x => cases h

theorem exists_toRat? {x : Number} (h : x.isFloat = false) : ∃ q, x.toRat? = some q := by
  cases x with
  | whole n => exact ⟨n, rfl⟩
  | ratio r => exact ⟨r.toRat, rfl⟩
  | float x => cases h

/-- The value of an exact number fits. -/
theorem fits_of_toRat? {x : Number} {q : ℚ} (hx : x.Valid) (h : x.toRat? = some q) : Fits q := by
  cases x with
  | whole n =>
    cases h
    exact fits_intCast.2 hx
  | ratio r =>
    cases h
    exact r.toRat_fits
  | float x => cases h

/-- An exact number with a value is a ratio with that value, whatever its form. -/
theorem exists_toRatio_eq {x : Number} {q : ℚ} (hx : x.Valid) (h : x.toRat? = some q) :
    ∃ r, x.toRatio = .ok r ∧ r.toRat = q := by
  obtain ⟨r, hr⟩ := Guarded.exists_toRatio hx (isFloat_of_toRat? h)
  exact ⟨r, hr, Option.some.inj ((toRat?_of_toRatio hr).symm.trans h)⟩

/-- Canonical exact numbers with the same value are the same. -/
theorem Canonical.eq_of_toRat? {x y : Number} {q : ℚ} (hx : x.Canonical) (hy : y.Canonical)
    (h : x.toRat? = some q) (h' : y.toRat? = some q) : x = y := by
  cases x with
  | whole n =>
    cases h
    cases y with
    | whole m =>
      have heq : (m : ℚ) = n := Option.some.inj h'
      rw [Int.cast_inj.1 heq]
    | ratio r =>
      have heq : r.toRat = n := Option.some.inj h'
      have hden : r.den = 1 := by rw [← r.toRat_den, heq, Rat.den_intCast]
      exact absurd hden (Nat.ne_of_gt hy)
    | float z => cases h'
  | ratio r =>
    cases h
    cases y with
    | whole m =>
      have heq : (m : ℚ) = r.toRat := Option.some.inj h'
      have hden : r.den = 1 := by rw [← r.toRat_den, ← heq, Rat.den_intCast]
      exact absurd hden (Nat.ne_of_gt hx)
    | ratio s => rw [Ratio.toRat_injective (Option.some.inj h')]
    | float z => cases h'
  | float z => cases h

/-! ## What represents a rational number -/

/-- The number is the exact form of a rational number that fits, and a double if it does not. -/
structure Represents (x : Number) (q : ℚ) : Prop where
  exact_iff : x.isFloat = false ↔ Fits q
  value : x.isFloat = false → x.toRat? = some q
  whole_iff : x.isFloat = false → ((∃ n, x = .whole n) ↔ q.den = 1)

theorem Represents.toRat?_of_fits {x : Number} {q : ℚ} (h : x.Represents q) (fits : Fits q) :
    x.toRat? = some q := h.value (h.exact_iff.2 fits)

/-- A canonical number that represents the value of a canonical number is this number. -/
theorem Represents.eq_of_canonical {x y : Number} {q : ℚ} (h : x.Represents q) (hx : x.Canonical)
    (hy : y.Canonical) (hq : y.toRat? = some q) : x = y :=
  hx.eq_of_toRat? hy (h.toRat?_of_fits (fits_of_toRat? hy.valid hq)) hq

theorem represents_float {q : ℚ} (h : ¬Fits q) (z : Float) : (Number.float z).Represents q where
  exact_iff := ⟨nofun, fun fits => absurd fits h⟩
  value := nofun
  whole_iff := nofun

theorem represents_whole {n : Int} (h : FitsInt64 n) : (Number.whole n).Represents n where
  exact_iff := ⟨fun _ => fits_intCast.2 h, fun _ => rfl⟩
  value _ := rfl
  whole_iff _ := ⟨fun _ => Rat.den_intCast n, fun _ => ⟨n, rfl⟩⟩

theorem represents_ratio {r : Ratio} (h : r.den ≠ 1) : (Number.ratio r).Represents r.toRat where
  exact_iff := ⟨fun _ => r.toRat_fits, fun _ => rfl⟩
  value _ := rfl
  whole_iff _ := ⟨nofun, fun hden => absurd hden h⟩

theorem collapse_represents (r : Ratio) : (collapse r).Represents r.toRat := by
  have hvalue := toRat?_collapse r
  unfold collapse at hvalue ⊢
  split at hvalue
  next hden =>
    rw [if_pos hden, ← Option.some.inj hvalue]
    exact represents_whole r.num_fits
  next hden =>
    rw [if_neg hden]
    exact represents_ratio hden

theorem ofInt_represents (n : Int) : (ofInt n).Represents n := by
  unfold ofInt
  split
  next fits => exact represents_whole fits
  next large => exact represents_float (mt fits_intCast.1 large) _

/-- A ratio where there is one, and else any double. -/
theorem elim_represents (q : ℚ) (z : Float) :
    ((Ratio.ofRat q).toOption.elim (.float z) collapse).Represents q := by
  by_cases fits : Fits q
  · obtain ⟨r, hr, rfl⟩ := Ratio.exists_ofRat fits
    rw [hr]
    exact collapse_represents r
  · rw [Ratio.ofRat_of_not_fits fits]
    exact represents_float fits z

/-! ## Operations -/

section

variable {a b : Number} {p q : ℚ}

/-- An operation that fails among ratios only where the true result does not fit represents it. -/
theorem Operation.apply_represents {op : Operation} {f : ℚ → ℚ → ℚ} (hop : op.Computes f)
    (ha : a.Valid) (hb : b.Valid) (hp : a.toRat? = some p) (hq : b.toRat? = some q)
    (hfits : ∀ x y : Ratio, x.toRat = p → y.toRat = q → op.onRatio x y = Ratio.ofRat (f p q)) :
    (op.apply a b).Represents (f p q) := by
  obtain ⟨x, hx, hxp⟩ := exists_toRatio_eq ha hp
  obtain ⟨y, hy, hyq⟩ := exists_toRatio_eq hb hq
  have hresult : op.ratioResult? a b = (Ratio.ofRat (f p q)).toOption := by
    rw [ratioResult?, hx, hy, ← hfits x y hxp hyq]
    rfl
  have honRatios := elim_represents (f p q) (op.onFloat a.toFloat b.toFloat)
  simp only [apply, hresult, isFloat_of_toRat? hp, isFloat_of_toRat? hq, Bool.or_false,
    Bool.false_eq_true, if_false]
  split
  next m n =>
    -- both are whole numbers, and the operation may stay among them
    cases hp
    cases hq
    cases hk : op.onWhole? m n with
    | none => exact honRatios
    | some k =>
      rw [Option.elim_some, ← hop.whole hk]
      exact ofInt_represents k
  next => exact honRatios

theorem add_represents (ha : a.Valid) (hb : b.Valid) (hp : a.toRat? = some p)
    (hq : b.toRat? = some q) : (a.add b).Represents (p + q) := by
  refine addition.apply_represents addition_computes ha hb hp hq ?_
  rintro x y rfl rfl
  exact Ratio.add_eq x y

theorem sub_represents (ha : a.Valid) (hb : b.Valid) (hp : a.toRat? = some p)
    (hq : b.toRat? = some q) : (a.sub b).Represents (p - q) := by
  refine subtraction.apply_represents subtraction_computes ha hb hp hq ?_
  rintro x y rfl rfl
  exact Ratio.sub_eq x y

theorem mul_represents (ha : a.Valid) (hb : b.Valid) (hp : a.toRat? = some p)
    (hq : b.toRat? = some q) : (a.mul b).Represents (p * q) := by
  refine multiplication.apply_represents multiplication_computes ha hb hp hq ?_
  rintro x y rfl rfl
  exact Ratio.mul_eq x y

/-- Only a zero divisor leaves a quotient without a result. -/
theorem div?_represents (ha : a.Valid) (hb : b.Valid) (hp : a.toRat? = some p)
    (hq : b.toRat? = some q) (nonzero : q ≠ 0) :
    ∃ c, a.div? b = some c ∧ c.Represents (p / q) := by
  have hzero : b.isZero = false := Bool.eq_false_iff.2 (mt (isZero_iff hq).1 nonzero)
  refine ⟨division.apply a b, ?_, ?_⟩
  · rw [div?, hzero, if_neg Bool.false_ne_true]
  · refine division.apply_represents division_computes ha hb hp hq ?_
    rintro x y rfl rfl
    exact (Ratio.div_eq x y).trans (if_neg nonzero)

/-! ## Changes of sign -/

theorem negate_whole_represents (n : Int) : (Number.whole n).negate.Represents (-n : Int) := by
  simp only [negate]
  split
  next fits => exact represents_whole fits
  next large => exact represents_float (mt fits_intCast.1 large) _

/-- The opposite of a ratio is a ratio, even if it is whole. -/
theorem negate_ratio_of_fits {r : Ratio} (h : Fits (-r.toRat)) :
    ∃ s, (Number.ratio r).negate = .ratio s ∧ s.toRat = -r.toRat := by
  obtain ⟨s, hs, hq⟩ := Ratio.exists_ofRat h
  refine ⟨s, ?_, hq⟩
  simp only [negate, Ratio.neg_eq, hs]

theorem negate_ratio_of_not_fits {r : Ratio} (h : ¬Fits (-r.toRat)) :
    (Number.ratio r).negate = .float (-ratioToFloat r) := by
  have hfail : Ratio.ofRat (-r.toRat) = .error _ := dif_neg h
  simp only [negate, Ratio.neg_eq, hfail]

/-- A change of sign is exact if and only if the true result fits, and is then the true one. -/
theorem negate_exact (hp : a.toRat? = some p) :
    (a.negate.isFloat = false ↔ Fits (-p)) ∧
      (a.negate.isFloat = false → a.negate.toRat? = some (-p)) := by
  cases a with
  | whole n =>
    cases hp
    have h := negate_whole_represents n
    rw [Int.cast_neg] at h
    exact ⟨h.exact_iff, h.value⟩
  | ratio r =>
    cases hp
    by_cases fits : Fits (-r.toRat)
    · obtain ⟨s, hs, hq⟩ := negate_ratio_of_fits fits
      rw [hs, ← hq]
      exact ⟨⟨fun _ => s.toRat_fits, fun _ => rfl⟩, fun _ => rfl⟩
    · rw [negate_ratio_of_not_fits fits]
      exact ⟨⟨nofun, fun h => absurd h fits⟩, nofun⟩
  | float z => cases hp

/-- The opposite of a canonical number represents the true result. -/
theorem negate_represents (ha : a.Canonical) (hp : a.toRat? = some p) :
    a.negate.Represents (-p) := by
  obtain ⟨exact_iff, value⟩ := negate_exact hp
  refine ⟨exact_iff, value, fun exact => ?_⟩
  cases a with
  | whole n =>
    cases hp
    have h := negate_whole_represents n
    rw [Int.cast_neg] at h
    exact h.whole_iff exact
  | ratio r =>
    cases hp
    obtain ⟨s, hs, -⟩ := negate_ratio_of_fits (exact_iff.1 exact)
    have hden : (-r.toRat).den ≠ 1 := by
      rw [Rat.neg_den]
      exact Nat.ne_of_gt ha
    rw [hs]
    exact ⟨nofun, fun h => absurd h hden⟩
  | float z => cases hp

end

/-! ## The operations together -/

/-- The forms that zero has. -/
theorem isZero_iff_forms {x : Number} :
    x.isZero = true ↔ x = .whole 0 ∨ (∃ r, x = .ratio r ∧ r.num = 0) ∨
      ∃ z, x = .float z ∧ (z == 0) = true := by
  cases x with
  | whole n => simp [isZero]
  | ratio r => simp [isZero, Ratio.isZero]
  | float z => simp [isZero]

/-- Arithmetic is exact wherever it can be.  Sum, difference, product and quotient of exact numbers,
in whatever form, represent the true result; so does the opposite of a canonical number, and the
opposite of a whole ratio only stays a ratio.  Whatever is divided, a quotient is refused exactly
for a zero divisor in one of its three forms, and no other step is without a result. -/
theorem arithmetic_represents {a b : Number} {p q : ℚ} (ha : a.Valid) (hb : b.Valid)
    (hp : a.toRat? = some p) (hq : b.toRat? = some q) :
    ((a.add b).Represents (p + q) ∧ (a.sub b).Represents (p - q) ∧ (a.mul b).Represents (p * q) ∧
      (q ≠ 0 → ∃ c, a.div? b = some c ∧ c.Represents (p / q))) ∧
    ((a.Canonical → a.negate.Represents (-p)) ∧
      (a.negate.isFloat = false ↔ Fits (-p)) ∧
      (a.negate.isFloat = false → a.negate.toRat? = some (-p))) ∧
    (∀ c d : Number, c.div? d = none ↔ d = .whole 0 ∨ (∃ r, d = .ratio r ∧ r.num = 0) ∨
      ∃ z, d = .float z ∧ (z == 0) = true) ∧
    Guarded.compute addition (fun _ => true) a b = .ok (a.add b) ∧
    Guarded.compute subtraction (fun _ => true) a b = .ok (a.sub b) ∧
    Guarded.compute multiplication (fun _ => true) a b = .ok (a.mul b) ∧
    (∀ d : Number, d.Valid → Guarded.quotient a d = .ok (a.div? d)) ∧
    Guarded.opposite a = .ok a.negate := by
  refine ⟨⟨add_represents ha hb hp hq, sub_represents ha hb hp hq, mul_represents ha hb hp hq,
    div?_represents ha hb hp hq⟩, ⟨fun canonical => negate_represents canonical hp,
    negate_exact hp⟩, ?_, Guarded.sum_eq ha hb, Guarded.difference_eq ha hb,
    Guarded.product_eq ha hb, fun d hd => Guarded.quotient_eq ha hd, Guarded.opposite_eq ha⟩
  intro c d
  rw [← isZero_iff_forms, div?]
  split
  next zero => exact ⟨fun _ => zero, fun _ => rfl⟩
  next nonzero => exact ⟨fun h => (by cases h), fun zero => absurd zero nonzero⟩

/-- The least whole number that fits. -/
def least : Number := .whole (-9223372036854775808)

/-- The opposite of the least number does not fit, whether as a quotient or as a change of sign,
but the number next to it does. -/
theorem least_and_minusOne_represent :
    least.Valid ∧ (Number.whole (-1)).Valid ∧
    ((∃ c, least.div? (.whole (-1)) = some c ∧ c.isFloat = true) ∧ least.negate.isFloat = true) ∧
    (least.sub (.whole (-1))).toRat? = some (-9223372036854775807) := by
  have hleast : least.Valid := show FitsInt64 (-9223372036854775808) by decide
  have hone : (Number.whole (-1)).Valid := show FitsInt64 (-1) by decide
  obtain ⟨⟨-, hsub, -, hdiv⟩, ⟨-, hneg, -⟩, -⟩ := arithmetic_represents hleast hone rfl rfl
  have hlarge : ¬Fits (9223372036854775808 : Int) := mt fits_intCast.1 (by decide)
  obtain ⟨c, hc, hrep⟩ := hdiv (by norm_num)
  have hquotient : ((-9223372036854775808 : Int) : ℚ) / ((-1 : Int) : ℚ) =
      (9223372036854775808 : Int) := by norm_num
  have hopposite : -((-9223372036854775808 : Int) : ℚ) = (9223372036854775808 : Int) := by norm_num
  have hdifference : ((-9223372036854775808 : Int) : ℚ) - ((-1 : Int) : ℚ) =
      (-9223372036854775807 : Int) := by norm_num
  rw [hquotient] at hrep
  rw [hopposite] at hneg
  rw [hdifference] at hsub
  refine ⟨hleast, hone, ⟨⟨c, hc, ?_⟩, ?_⟩, ?_⟩
  · exact Bool.eq_true_of_not_eq_false (mt hrep.exact_iff.1 hlarge)
  · exact Bool.eq_true_of_not_eq_false (mt hneg.1 hlarge)
  · rw [hsub.toRat?_of_fits (fits_intCast.2 (by decide))]
    norm_num

end Number

end Reckoner
