import Reckoner.Proofs.Number.Fits

/-!
# Lowest terms

Two integers, the second not zero, have one fraction in lowest terms with a positive denominator
(`InLowestTerms`).  It is what making a ratio of them stores, if its parts fit their words.  Every
operation makes its result once at the end, from parts of any size.  So it is the operation on
rational numbers, and it overflows exactly where the true result does not fit (`Exact`).

An overflow is reported with a message that names both parts, and an integer of more than 4300
digits is not written.  Making a ratio of integers has no bound on its parts, and the report of an
overflow gets lost where a part is too long (`Made`).  Operations on ratios never come near that
bound (`Short`).
-/

namespace Reckoner.Ratio

/-! ## Fractions in lowest terms -/

/-- `p / q` is `n / d` in lowest terms, with a positive denominator. -/
structure InLowestTerms (n d p : Int) (q : Nat) : Prop where
  divisor_ne_zero : d ≠ 0
  den_pos : 0 < q
  coprime : p.natAbs.Coprime q
  same : p * d = n * q

section

variable {n d p : Int} {q : Nat}

theorem inLowestTerms_num_den (n : Int) (hd : d ≠ 0) :
    InLowestTerms n d (n / d : ℚ).num (n / d : ℚ).den where
  divisor_ne_zero := hd
  den_pos := Rat.den_pos _
  coprime := Rat.reduced _
  same := by
    have hdq : (d : ℚ) ≠ 0 := Int.cast_ne_zero.2 hd
    have hcross : ((n / d : ℚ).num : ℚ) * d = n * (n / d : ℚ).den :=
      calc ((n / d : ℚ).num : ℚ) * d = n / d * (n / d : ℚ).den * d := by rw [Rat.mul_den_eq_num]
        _ = n * (n / d : ℚ).den := by rw [mul_right_comm, div_mul_cancel₀ _ hdq]
    exact_mod_cast hcross

/-- The parts of the quotient are the fraction in lowest terms. -/
theorem inLowestTerms_iff :
    InLowestTerms n d p q ↔ d ≠ 0 ∧ p = (n / d : ℚ).num ∧ q = (n / d : ℚ).den := by
  constructor
  · rintro ⟨hd, hq, coprime, same⟩
    have hquotient : (n / d : ℚ) = (p : ℚ) / ((q : Int) : ℚ) := by
      rw [div_eq_div_iff (Int.cast_ne_zero.2 hd)
        (Int.cast_ne_zero.2 (Int.natCast_ne_zero.2 hq.ne'))]
      exact_mod_cast same.symm
    have hden := Rat.den_div_eq_of_coprime (Int.natCast_pos.2 hq) coprime
    refine ⟨hd, ?_, ?_⟩
    · rw [hquotient, Rat.num_div_eq_of_coprime (Int.natCast_pos.2 hq) coprime]
    · rw [hquotient]
      exact_mod_cast hden.symm
  · rintro ⟨hd, rfl, rfl⟩
    exact inLowestTerms_num_den n hd

theorem existsUnique_inLowestTerms_iff :
    (∃! pair : Int × Nat, InLowestTerms n d pair.1 pair.2) ↔ d ≠ 0 := by
  constructor
  · rintro ⟨_, h, -⟩
    exact h.divisor_ne_zero
  · intro hd
    refine ⟨((n / d : ℚ).num, (n / d : ℚ).den), inLowestTerms_num_den n hd, ?_⟩
    rintro ⟨p, q⟩ h
    obtain ⟨-, hp, hq⟩ := inLowestTerms_iff.1 h
    exact Prod.ext hp hq

end

/-! ## Reports -/

/-- What comes of an operation: a ratio, or the report of its failure. -/
def outcome (result : Except Failure Ratio) : Except Report Ratio := result.mapError Failure.report

/-- Both parts of a fraction have at most 4300 digits. -/
def WritablePair (p : Int) (q : Nat) : Prop :=
  p.natAbs < 10 ^ digitLimit ∧ q < 10 ^ digitLimit

section

variable {p : Int} {q : Nat}

theorem writable_outOfRange_iff : (Failure.outOfRange p q).Writable ↔ WritablePair p q := Iff.rfl

theorem report_of_writable (h : WritablePair p q) :
    (Failure.outOfRange p q).report = .overflow s!"Rational {p}/{q} exceeds 64-bit range" :=
  if_pos (writable_outOfRange_iff.2 h)

theorem report_of_not_writable (h : ¬WritablePair p q) :
    (Failure.outOfRange p q).report = .unwritable := if_neg (mt writable_outOfRange_iff.1 h)

theorem report_eq_overflow_iff {m : String} :
    (Failure.outOfRange p q).report = .overflow m ↔
      WritablePair p q ∧ m = s!"Rational {p}/{q} exceeds 64-bit range" := by
  by_cases h : WritablePair p q
  · rw [report_of_writable h, Report.overflow.injEq, eq_comm]
    exact (and_iff_right h).symm
  · rw [report_of_not_writable h]
    exact ⟨nofun, fun hm => absurd hm.1 h⟩

theorem report_eq_unwritable_iff :
    (Failure.outOfRange p q).report = .unwritable ↔ ¬WritablePair p q := by
  refine ⟨fun h writable => ?_, report_of_not_writable⟩
  rw [report_of_writable writable] at h
  cases h

theorem report_ne_divisionByZero : (Failure.outOfRange p q).report ≠ .divisionByZero := by
  by_cases h : WritablePair p q
  · rw [report_of_writable h]
    exact nofun
  · rw [report_of_not_writable h]
    exact nofun

end

theorem outcome_eq_ok_iff {result : Except Failure Ratio} {r : Ratio} :
    outcome result = .ok r ↔ result = .ok r := mapError_eq_ok_iff

theorem outcome_eq_error_iff {result : Except Failure Ratio} {report : Report} :
    outcome result = .error report ↔ ∃ e, result = .error e ∧ e.report = report := by
  cases result with
  | ok r => exact ⟨nofun, fun ⟨e, h, _⟩ => nomatch h⟩
  | error e =>
    constructor
    · intro h
      exact ⟨e, rfl, Except.error.inj h⟩
    · rintro ⟨_, ⟨⟩, rfl⟩
      rfl

/-! ## Making a ratio -/

/-- What making a ratio of two integers comes to, by their fraction in lowest terms. -/
structure Made (n d : Int) (result : Except Report Ratio) : Prop where
  divisionByZero_iff : result = .error .divisionByZero ↔ d = 0
  stored_iff : ∀ r, result = .ok r ↔ InLowestTerms n d r.num r.den
  overflow_iff : ∀ m, result = .error (.overflow m) ↔
    ∃ p q, InLowestTerms n d p q ∧ ¬(FitsInt64 p ∧ FitsNat64 q) ∧ WritablePair p q ∧
      m = s!"Rational {p}/{q} exceeds 64-bit range"
  unwritable_iff : result = .error .unwritable ↔
    ∃ p q, InLowestTerms n d p q ∧ ¬(FitsInt64 p ∧ FitsNat64 q) ∧ ¬WritablePair p q

section

variable {n d : Int}

theorem make_eq_ok_iff_lowest {r : Ratio} :
    make n d = .ok r ↔ InLowestTerms n d r.num r.den := by
  rw [make_eq_ok_iff, inLowestTerms_iff]
  refine and_congr_right fun _ => ⟨fun h => ?_, fun ⟨hnum, hden⟩ => Rat.ext hnum hden⟩
  rw [← h]
  exact ⟨rfl, rfl⟩

/-- Making a ratio fails for a zero denominator, and else with the parts in lowest terms. -/
theorem make_eq_error_iff {e : Failure} :
    make n d = .error e ↔ d = 0 ∧ e = .divisionByZero ∨
      ∃ p q, InLowestTerms n d p q ∧ ¬(FitsInt64 p ∧ FitsNat64 q) ∧ e = .outOfRange p q := by
  by_cases hd : d = 0
  · have hmake : make n d = .error .divisionByZero := dif_pos hd
    rw [hmake, Except.error.injEq, eq_comm]
    constructor
    · rintro rfl
      exact .inl ⟨hd, rfl⟩
    · rintro (⟨-, rfl⟩ | ⟨p, q, h, -⟩)
      · rfl
      · exact absurd hd h.divisor_ne_zero
  · rw [make_eq n hd]
    constructor
    · intro h
      by_cases fits : Fits (n / d : ℚ)
      · obtain ⟨r, hr, -⟩ := exists_ofRat fits
        rw [hr] at h
        cases h
      · have hfail : ofRat (n / d : ℚ) = .error _ := dif_neg fits
        rw [hfail] at h
        cases h
        exact .inr ⟨_, _, inLowestTerms_num_den n hd, fits, rfl⟩
    · rintro (⟨zero, -⟩ | ⟨p, q, h, unfit, rfl⟩)
      · exact absurd zero hd
      · obtain ⟨-, rfl, rfl⟩ := inLowestTerms_iff.1 h
        exact dif_neg unfit

theorem outcome_make_eq_error_iff {report : Report} :
    outcome (make n d) = .error report ↔ d = 0 ∧ report = .divisionByZero ∨
      ∃ p q, InLowestTerms n d p q ∧ ¬(FitsInt64 p ∧ FitsNat64 q) ∧
        (Failure.outOfRange p q).report = report := by
  rw [outcome_eq_error_iff]
  constructor
  · rintro ⟨e, he, rfl⟩
    rcases make_eq_error_iff.1 he with ⟨zero, rfl⟩ | ⟨p, q, h, unfit, rfl⟩
    · exact .inl ⟨zero, rfl⟩
    · exact .inr ⟨p, q, h, unfit, rfl⟩
  · rintro (⟨zero, rfl⟩ | ⟨p, q, h, unfit, rfl⟩)
    · exact ⟨_, make_eq_error_iff.2 (.inl ⟨zero, rfl⟩), rfl⟩
    · exact ⟨_, make_eq_error_iff.2 (.inr ⟨p, q, h, unfit, rfl⟩), rfl⟩

end

theorem made_make (n d : Int) : Made n d (outcome (make n d)) where
  divisionByZero_iff := by simp [outcome_make_eq_error_iff, report_ne_divisionByZero]
  stored_iff r := by rw [outcome_eq_ok_iff, make_eq_ok_iff_lowest]
  overflow_iff m := by
    simp only [outcome_make_eq_error_iff, report_eq_overflow_iff, reduceCtorEq, and_false, false_or]
  unwritable_iff := by
    simp only [outcome_make_eq_error_iff, report_eq_unwritable_iff, reduceCtorEq, and_false,
      false_or]

/-! ## Operations -/

/-- The result is the true one if that fits, and an overflow if not, which can always be reported; a
true result is lacking only where something is divided by zero. -/
structure Exact (truth : Option ℚ) (result : Except Report Ratio) : Prop where
  stored_iff : ∀ r, result = .ok r ↔ truth = some r.toRat
  overflow_iff : ∀ m, result = .error (.overflow m) ↔
    ∃ x ∈ truth, ¬Fits x ∧ m = s!"Rational {x.num}/{x.den} exceeds 64-bit range"
  divisionByZero_iff : result = .error .divisionByZero ↔ truth = none
  ne_unwritable : result ≠ .error .unwritable

/-- The quotient of two rational numbers, none for a zero divisor. -/
def quotient? (x y : ℚ) : Option ℚ := if y = 0 then none else some (x / y)

/-- Both parts of a rational number can be written. -/
def Written (x : ℚ) : Prop := WritablePair x.num x.den

theorem exact_ofRat {x : ℚ} (h : Written x) : Exact (some x) (outcome (ofRat x)) := by
  by_cases fits : Fits x
  · obtain ⟨r, hr, rfl⟩ := exists_ofRat fits
    have hresult : outcome (ofRat r.toRat) = .ok r := by rw [hr]; rfl
    rw [hresult]
    refine ⟨fun s => ?_, fun m => ⟨nofun, ?_⟩, ⟨nofun, nofun⟩, nofun⟩
    · rw [Except.ok.injEq, Option.some.injEq]
      exact ⟨congrArg toRat, toRat_injective⟩
    · rintro ⟨_, ⟨⟩, unfit, -⟩
      exact absurd fits unfit
  · have hfail : ofRat x = .error (.outOfRange x.num x.den) := dif_neg fits
    have hreport : (Failure.outOfRange x.num x.den).report = .overflow _ := report_of_writable h
    rw [hfail, outcome, Except.mapError, hreport]
    refine ⟨fun s => ⟨nofun, fun hs => ?_⟩, fun m => ?_, ⟨nofun, nofun⟩, nofun⟩
    · rw [Option.some.inj hs] at fits
      exact absurd s.toRat_fits fits
    · constructor
      · rintro ⟨⟩
        exact ⟨x, rfl, fits, rfl⟩
      · rintro ⟨_, ⟨⟩, -, rfl⟩
        rfl

theorem exact_divisionByZero : Exact none (outcome (.error .divisionByZero)) where
  stored_iff _ := ⟨nofun, nofun⟩
  overflow_iff _ := ⟨nofun, nofun⟩
  divisionByZero_iff := ⟨fun _ => rfl, fun _ => rfl⟩
  ne_unwritable := nofun

/-! ### Lengths -/

/-- The parts of a rational number are not longer than those of a ratio. -/
structure Short (x : ℚ) : Prop where
  num_le : x.num.natAbs ≤ 2 ^ 64
  den_le : x.den ≤ 2 ^ 64

theorem toRat_short (r : Ratio) : Short r.toRat := by
  obtain ⟨hlow, hhigh⟩ := r.num_fits
  have hden : r.den ≤ 18446744073709551615 := r.den_fits
  constructor
  · rw [toRat_num]
    omega
  · rw [toRat_den]
    omega

theorem lt_ten_pow_digitLimit {n : Nat} (h : n ≤ 2 ^ 129) : n < 10 ^ digitLimit :=
  have hdigits : 40 ≤ digitLimit := by
    unfold digitLimit
    decide
  calc n ≤ 2 ^ 129 := h
    _ < 10 ^ 40 := by decide
    _ ≤ 10 ^ digitLimit := Nat.pow_le_pow_right (by decide) hdigits

/-- Lowest terms are not longer than the fraction. -/
theorem written_divInt {n d : Int} (hd : d ≠ 0) (hn : n.natAbs ≤ 2 ^ 129)
    (hdle : d.natAbs ≤ 2 ^ 129) : Written (Rat.divInt n d) := by
  constructor
  · refine lt_ten_pow_digitLimit (le_trans ?_ hn)
    by_cases zero : n = 0
    · rw [zero, Rat.zero_divInt]
      exact le_rfl
    · exact Int.natAbs_le_of_dvd_ne_zero (Rat.num_dvd n hd) zero
  · refine lt_ten_pow_digitLimit (le_trans ?_ hdle)
    exact Int.natAbs_le_of_dvd_ne_zero (Rat.den_dvd n d) hd

section

variable {x y : ℚ}

theorem Short.neg (h : Short x) : Short (-x) where
  num_le := by
    rw [Rat.num_neg_eq_neg_num, Int.natAbs_neg]
    exact h.num_le
  den_le := by
    rw [Rat.neg_den]
    exact h.den_le

theorem Short.inv (h : Short x) : Short x⁻¹ where
  num_le := by
    have hsign : x.num.sign.natAbs ≤ 1 := by
      rw [Int.natAbs_sign]
      split <;> decide
    calc (x⁻¹).num.natAbs = x.num.sign.natAbs * x.den := by
          rw [Rat.num_inv, Int.natAbs_mul, Int.natAbs_natCast]
      _ ≤ 1 * x.den := Nat.mul_le_mul_right _ hsign
      _ = x.den := Nat.one_mul _
      _ ≤ 2 ^ 64 := h.den_le
  den_le := by
    rw [Rat.den_inv]
    split
    · decide
    · exact h.num_le

theorem Short.written (h : Short x) : Written x :=
  ⟨lt_ten_pow_digitLimit (h.num_le.trans (by decide)),
    lt_ten_pow_digitLimit (h.den_le.trans (by decide))⟩

theorem Short.den_mul_ne_zero (x y : ℚ) : (x.den * y.den : Int) ≠ 0 :=
  mul_ne_zero (Int.natCast_ne_zero.2 x.den_ne_zero) (Int.natCast_ne_zero.2 y.den_ne_zero)

theorem natAbs_mul_le {m n : Int} (hm : m.natAbs ≤ 2 ^ 64) (hn : n.natAbs ≤ 2 ^ 64) :
    (m * n).natAbs ≤ 2 ^ 128 :=
  calc (m * n).natAbs = m.natAbs * n.natAbs := Int.natAbs_mul m n
    _ ≤ 2 ^ 64 * 2 ^ 64 := Nat.mul_le_mul hm hn
    _ = 2 ^ 128 := by decide

theorem Short.written_add (hx : Short x) (hy : Short y) : Written (x + y) := by
  rw [Rat.add_num_den]
  refine written_divInt (den_mul_ne_zero x y) ?_ ?_
  · have hleft := natAbs_mul_le hx.num_le (n := y.den) hy.den_le
    have hright := natAbs_mul_le (m := x.den) hx.den_le hy.num_le
    have hsum := Int.natAbs_add_le (x.num * y.den) (x.den * y.num)
    omega
  · have hden := natAbs_mul_le (m := x.den) (n := y.den) hx.den_le hy.den_le
    omega

theorem Short.written_mul (hx : Short x) (hy : Short y) : Written (x * y) := by
  have hmul : x * y = Rat.divInt (x.num * y.num) (x.den * y.den) := by
    rw [Rat.mul_def', Rat.mkRat_eq_divInt, Nat.cast_mul]
  rw [hmul]
  have hnum := natAbs_mul_le hx.num_le hy.num_le
  have hden := natAbs_mul_le (m := x.den) (n := y.den) hx.den_le hy.den_le
  exact written_divInt (den_mul_ne_zero x y) (by omega) (by omega)

end

/-! ### The operations -/

section

variable (a b : Ratio)

theorem exact_add : Exact (some (a.toRat + b.toRat)) (outcome (a.add b)) := by
  rw [add_eq]
  exact exact_ofRat (a.toRat_short.written_add b.toRat_short)

theorem exact_sub : Exact (some (a.toRat - b.toRat)) (outcome (a.sub b)) := by
  rw [sub_eq, sub_eq_add_neg]
  exact exact_ofRat (a.toRat_short.written_add b.toRat_short.neg)

theorem exact_mul : Exact (some (a.toRat * b.toRat)) (outcome (a.mul b)) := by
  rw [mul_eq]
  exact exact_ofRat (a.toRat_short.written_mul b.toRat_short)

theorem exact_div : Exact (quotient? a.toRat b.toRat) (outcome (a.div b)) := by
  rw [div_eq, quotient?]
  split
  next => exact exact_divisionByZero
  next =>
    rw [div_eq_mul_inv]
    exact exact_ofRat (a.toRat_short.written_mul b.toRat_short.inv)

theorem exact_neg : Exact (some (-a.toRat)) (outcome a.neg) := by
  rw [neg_eq]
  exact exact_ofRat a.toRat_short.neg.written

theorem exact_invert : Exact (quotient? 1 a.toRat) (outcome a.invert) := by
  rw [invert_eq, quotient?]
  split
  next => exact exact_divisionByZero
  next =>
    rw [one_div]
    exact exact_ofRat a.toRat_short.inv.written

theorem commonMultiple_natCast (m n : Nat) : commonMultiple m n = (m.lcm n : Nat) := by
  rw [commonMultiple, Int.gcd_natCast_natCast, ← Nat.cast_mul, ← Int.natCast_div]
  rfl

/-- Sums are made over the least common multiple of the denominators. -/
theorem add_over_commonMultiple :
    a.add b = make (a.num * (commonMultiple a.den b.den / a.den) +
      b.num * (commonMultiple a.den b.den / b.den)) (commonMultiple a.den b.den) := by
  rw [commonMultiple_natCast, ← Int.natCast_div, ← Int.natCast_div]
  rfl

theorem sub_over_commonMultiple :
    a.sub b = make (a.num * (commonMultiple a.den b.den / a.den) -
      b.num * (commonMultiple a.den b.den / b.den)) (commonMultiple a.den b.den) := by
  rw [commonMultiple_natCast, ← Int.natCast_div, ← Int.natCast_div]
  rfl

/-- Equality compares the parts. -/
theorem beq_eq_parts : (a == b) = (a.num == b.num && a.den == b.den) := by
  cases a
  cases b
  rw [Bool.eq_iff_iff, beq_iff_eq, Bool.and_eq_true, beq_iff_eq, beq_iff_eq, mk.injEq]

theorem beq_iff_toRat_eq : (a == b) = true ↔ a.toRat = b.toRat :=
  beq_iff_eq.trans ⟨congrArg toRat, toRat_injective⟩

end

/-- Arithmetic of ratios is exact, on fractions in lowest terms.

Making a ratio of two integers divides by zero exactly for the denominator zero.  Otherwise there is
one fraction in lowest terms with a positive denominator.  It is stored exactly when its parts fit
their words, and every ratio is made of its own parts.  When they do not fit, that is reported as an
overflow with both parts in the message, or as unwritable if one of them is too long for it.

Sum, difference, product, quotient, opposite and reciprocal of ratios are those of the rational
numbers.  They overflow exactly when the true result does not fit, and divide by zero exactly when a
divisor is zero; nothing else is reported of them.  Equality compares the parts, and decides whether
two ratios denote the same number. -/
theorem arithmetic_exact (n d : Int) (a b : Ratio) :
    (Made n d (outcome (make n d)) ∧
      ((∃! pair : Int × Nat, InLowestTerms n d pair.1 pair.2) ↔ d ≠ 0) ∧
      make a.num a.den = .ok a) ∧
    (Exact (some (a.toRat + b.toRat)) (outcome (a.add b)) ∧
      Exact (some (a.toRat - b.toRat)) (outcome (a.sub b)) ∧
      Exact (some (a.toRat * b.toRat)) (outcome (a.mul b)) ∧
      Exact (quotient? a.toRat b.toRat) (outcome (a.div b)) ∧
      Exact (some (-a.toRat)) (outcome a.neg) ∧
      Exact (quotient? 1 a.toRat) (outcome a.invert)) ∧
    ((a == b) = true ↔ a.toRat = b.toRat) ∧
    (a == b) = (a.num == b.num && a.den == b.den) ∧
    a.add b = make (a.num * (commonMultiple a.den b.den / a.den) +
      b.num * (commonMultiple a.den b.den / b.den)) (commonMultiple a.den b.den) ∧
    a.sub b = make (a.num * (commonMultiple a.den b.den / a.den) -
      b.num * (commonMultiple a.den b.den / b.den)) (commonMultiple a.den b.den) := by
  have hparts : make a.num a.den = .ok a := by
    rw [make_eq_ok_iff, Int.cast_natCast]
    exact ⟨Int.natCast_ne_zero.2 a.den_pos.ne', a.toRat_eq_div⟩
  refine ⟨⟨made_make n d, existsUnique_inLowestTerms_iff, hparts⟩, ?_, beq_iff_toRat_eq a b,
    beq_eq_parts a b, add_over_commonMultiple a b, sub_over_commonMultiple a b⟩
  exact ⟨exact_add a b, exact_sub a b, exact_mul a b, exact_div a b, exact_neg a, exact_invert a⟩

/-- The least whole ratio. -/
def least : Ratio :=
  ⟨-2 ^ 63, 1, one.den_pos, Nat.coprime_one_right _, by decide, one.den_fits⟩

/-- A power of ten is the first denominator that is too long for the message of an overflow.  The
least ratio is made of parts that do not fit by themselves, and its opposite overflows. -/
theorem tenthPower_unwritable :
    outcome (make 1 (10 ^ digitLimit : Nat)) = .error .unwritable ∧
    outcome (make (2 ^ 64) (-2)) = .ok least ∧
    (∃ m, outcome least.neg = .error (.overflow m)) ∧
    outcome ((⟨0, 1, by decide, by decide, by decide, by decide⟩ : Ratio).invert) =
      .error .divisionByZero := by
  refine ⟨?_, ?_, ?_, ?_⟩
  · have hlarge : 2 ^ 128 < 10 ^ digitLimit := lt_ten_pow_digitLimit (by decide)
    have hlong : ¬WritablePair 1 (10 ^ digitLimit) := fun h => lt_irrefl _ h.2
    generalize 10 ^ digitLimit = k at hlarge hlong ⊢
    have hlowest : InLowestTerms 1 k 1 k := ⟨by omega, by omega, Nat.coprime_one_left k, rfl⟩
    have hunfit : ¬(FitsInt64 1 ∧ FitsNat64 k) := by
      unfold FitsNat64
      omega
    obtain ⟨⟨made, -, -⟩, -⟩ := arithmetic_exact 1 k least least
    exact made.unwritable_iff.2 ⟨1, k, hlowest, hunfit, hlong⟩
  · obtain ⟨⟨made, -, -⟩, -⟩ := arithmetic_exact (2 ^ 64) (-2) least least
    exact (made.stored_iff least).2 ⟨by decide, by decide, by decide, by decide⟩
  · obtain ⟨-, ⟨-, -, -, -, hneg, -⟩, -⟩ := arithmetic_exact 0 1 least least
    refine ⟨_, (hneg.overflow_iff _).2 ⟨_, rfl, fun fits => ?_, rfl⟩⟩
    have hnum : (-least.toRat).num = 2 ^ 63 := by
      rw [Rat.num_neg_eq_neg_num, toRat_num]
      rfl
    have hfits := fits.1.2
    omega
  · obtain ⟨-, ⟨-, -, -, -, -, hinvert⟩, -⟩ := arithmetic_exact 0 1 ⟨0, 1, _, _, _, _⟩ least
    exact hinvert.divisionByZero_iff.2 (if_pos (by rw [toRat_eq_zero_iff]))

end Reckoner.Ratio
