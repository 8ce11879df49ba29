import Mathlib.Tactic.NormNum
import Reckoner.Measure.Convert
import Reckoner.Proofs.Number.Exact
import Reckoner.Proofs.Rates.Source

/-!
# Conversions

Between which units a number can be converted, and to what.  Two units of one category convert into
each other by their factors, which are positive; the two scales of temperature convert into each
other but not into themselves; and whether one currency converts into another is up to the rates.
-/

namespace Reckoner

/-! ## Factors -/

namespace FixedUnit

theorem category_ne_currency (u : FixedUnit) : u.category ≠ .currency := by
  cases u <;> decide

/-- The factor of a unit as a rational number. -/
def scale? (u : FixedUnit) : Option ℚ := u.factor?.map fun f => (f.num : ℚ) / f.den

theorem factors_fit : ∀ u ∈ all, u.category ≠ .temperature →
    u.factor?.any (fun f => 0 < f.num && (Ratio.make f.num f.den).toOption.isSome) = true := by
  decide

/-- A fixed unit has a positive factor, and that factor is an exact number, unless the unit is a
scale of temperature. -/
theorem exists_scale {u : FixedUnit} (h : u.category ≠ .temperature) :
    ∃ f n, u.scale? = some f ∧ f ≠ 0 ∧ Measure.factor? (.fixed u) = some n ∧ n.toRat? = some f := by
  have hf := factors_fit u u.mem_all h
  rw [Option.any_eq_true] at hf
  obtain ⟨f, hu, hf⟩ := hf
  rw [Bool.and_eq_true, decide_eq_true_eq, Option.isSome_iff_exists] at hf
  obtain ⟨positive, r, hr⟩ := hf
  obtain ⟨nonzero, hq⟩ := Ratio.make_eq_ok_iff.1 (toOption_eq_some_iff.1 hr)
  refine ⟨(f.num : ℚ) / f.den, .collapse r, ?_, ?_, ?_, ?_⟩
  · rw [scale?, hu, Option.map_some]
  · exact div_ne_zero (Nat.cast_ne_zero.2 positive.ne') (by exact_mod_cast nonzero)
  · rw [Measure.factor?, hu, Option.bind_some, hr, Option.map_some]
  · rw [Number.toRat?_collapse, hq, Int.cast_natCast, Int.cast_natCast]

end FixedUnit

namespace Measure

variable {σ : Type} (source : Option (RateSource σ))

/-! ## Which conversions there are -/

theorem convert_of_category_ne (x : Number) (u v : Measure) (h : u.category ≠ v.category) :
    convert source x u v = Calculation.fail .differentUnits := by
  have hcommon : commonCategory? u v = none := if_neg h
  cases u with
  | fixed a =>
    rw [convert, hcommon]
    exact nofun
  | currency a =>
    cases v with
    | fixed b =>
      rw [convert, hcommon]
      exact nofun
    | currency b => exact absurd rfl h

theorem convert_temperature (x : Number) {u v : FixedUnit} (hu : u.category = .temperature)
    (hv : v.category = .temperature) :
    convert source x (.fixed u) (.fixed v) =
      Calculation.orFail (convertTemperature? x (.fixed u) (.fixed v)) (.conversion .noPath) := by
  have hcommon : commonCategory? (.fixed u) (.fixed v) = some .temperature := by
    rw [commonCategory?, category, category, hu, hv, if_pos rfl]
  rw [convert, hcommon]
  exact nofun

theorem convert_by_factor (x : Number) {u v : FixedUnit} (h : u.category = v.category)
    (hu : u.category ≠ .temperature) :
    convert source x (.fixed u) (.fixed v) =
      Calculation.orFail (convertByFactor? x (.fixed u) (.fixed v)) (.conversion .noPath) := by
  have hcommon : commonCategory? (.fixed u) (.fixed v) = some u.category := if_pos h
  rw [convert, hcommon]
  · split
    next hnone => cases hnone
    next hsome => exact absurd (Option.some.inj hsome) hu
    next => rfl
  · exact nofun

/-- There is no rule from a scale of temperature to itself. -/
theorem convert_same_scale (x : Number) {u : FixedUnit} (h : u.category = .temperature) :
    convert source x (.fixed u) (.fixed u) = Calculation.fail (.conversion .noPath) := by
  rw [convert_temperature source x h h]
  cases u <;> rfl

theorem scale_cases {u : FixedUnit} (h : u.category = .temperature) :
    u = .celsius ∨ u = .fahrenheit := by
  revert h
  cases u <;> decide

theorem convertByFactor?_eq (x : Number) {u v : Measure} {f g : Number} (hu : u.factor? = some f)
    (hv : v.factor? = some g) : convertByFactor? x u v = (f.div? g).map (·.mul x) := by
  rw [convertByFactor?, hu, hv, Option.map_eq_bind]
  rfl

/-- Units of one category convert into each other, but for a scale of temperature into itself. -/
theorem exists_convert (x : Number) {u v : FixedUnit} (h : u.category = v.category)
    (hscale : u.category = .temperature → u ≠ v) :
    ∃ y, convert source x (.fixed u) (.fixed v) = pure y := by
  by_cases hu : u.category = .temperature
  · have hv : v.category = .temperature := h.symm.trans hu
    rw [convert_temperature source x hu hv]
    rcases scale_cases hu with rfl | rfl <;> rcases scale_cases hv with rfl | rfl
    · exact absurd rfl (hscale hu)
    · exact ⟨_, rfl⟩
    · exact ⟨_, rfl⟩
    · exact absurd rfl (hscale hu)
  · obtain ⟨f, n, -, -, hn, -⟩ := FixedUnit.exists_scale hu
    obtain ⟨g, m, -, hg, hm, hmg⟩ := FixedUnit.exists_scale (h ▸ hu)
    have nonzero : m.isZero = false :=
      Bool.eq_false_iff.2 fun hz => hg ((Number.isZero_iff hmg).1 hz)
    have hdiv : n.div? m = some (Number.division.apply n m) := by
      rw [Number.div?, nonzero, if_neg Bool.false_ne_true]
    rw [convert_by_factor source x h hu, convertByFactor?_eq x hn hm, hdiv]
    exact ⟨_, rfl⟩

/-! ## Exact conversions -/

end Measure

/-- A rational number given in the first unit, expressed in the second. -/
def FixedUnit.express? : FixedUnit → FixedUnit → ℚ → Option ℚ
  | .celsius, .fahrenheit, x => some (x * (9 / 5) + 32)
  | .fahrenheit, .celsius, x => some ((x - 32) / (9 / 5))
  | u, v, x =>
    if u.category = v.category then do
      let f ← u.scale?
      let g ← v.scale?
      some (f / g * x)
    else none

namespace Measure

theorem toRat?_degreeRatio : degreeRatio.toRat? = some (9 / 5) := by
  show some (Ratio.toRat _) = _
  rw [Ratio.toRat_eq_div]
  norm_num

theorem toRat?_convertTemperature {x y : Number} {u v : FixedUnit} {q : ℚ}
    (h : convertTemperature? x (.fixed u) (.fixed v) = some y) (hq : y.toRat? = some q) :
    ∃ p, x.toRat? = some p ∧ u.express? v p = some q := by
  unfold convertTemperature? at h
  split at h
  next hu hv =>
    cases hu
    cases hv
    cases h
    obtain ⟨a, b, ha, hb, rfl⟩ := Number.Operation.toRat?_apply Number.addition_computes hq
    obtain ⟨p, d, hp, hd, rfl⟩ := Number.Operation.toRat?_apply Number.multiplication_computes ha
    cases hd.symm.trans toRat?_degreeRatio
    cases hb
    exact ⟨p, hp, rfl⟩
  next hu hv =>
    cases hu
    cases hv
    obtain ⟨a, d, ha, hd, -, rfl⟩ := Number.toRat?_div h hq
    obtain ⟨p, b, hp, hb, rfl⟩ := Number.Operation.toRat?_apply Number.subtraction_computes ha
    cases hd.symm.trans toRat?_degreeRatio
    cases hb
    exact ⟨p, hp, rfl⟩
  next => cases h

theorem toRat?_convertByFactor {x y : Number} {u v : FixedUnit} {q : ℚ}
    (hc : u.category = v.category) (hu : u.category ≠ .temperature)
    (h : convertByFactor? x (.fixed u) (.fixed v) = some y) (hq : y.toRat? = some q) :
    ∃ p, x.toRat? = some p ∧ u.express? v p = some q := by
  obtain ⟨f, n, hf, -, hn, hnf⟩ := FixedUnit.exists_scale hu
  obtain ⟨g, m, hg, -, hm, hmg⟩ := FixedUnit.exists_scale (hc ▸ hu)
  rw [convertByFactor?_eq x hn hm] at h
  obtain ⟨rate, hrate, rfl⟩ := Option.map_eq_some_iff.1 h
  obtain ⟨r, p, hr, hp, rfl⟩ := Number.Operation.toRat?_apply Number.multiplication_computes hq
  obtain ⟨f', g', hf', hg', -, rfl⟩ := Number.toRat?_div hrate hr
  cases hf'.symm.trans hnf
  cases hg'.symm.trans hmg
  refine ⟨p, hp, ?_⟩
  unfold FixedUnit.express?
  split
  next => exact absurd rfl hu
  next => exact absurd rfl hu
  next => rw [if_pos hc, hf, hg]; rfl

/-- An exact result of a conversion comes from an exact number and is the true one. -/
theorem toRat?_convert {σ : Type} {source : Option (RateSource σ)} {x y : Number} {u v : FixedUnit}
    {q : ℚ} {s s' : σ} (h : (convert source x (.fixed u) (.fixed v)).start s = (.ok y, s'))
    (hq : y.toRat? = some q) : ∃ p, x.toRat? = some p ∧ u.express? v p = some q := by
  by_cases hc : u.category = v.category
  · by_cases hu : u.category = .temperature
    · rw [convert_temperature source x hu (hc.symm.trans hu)] at h
      exact toRat?_convertTemperature (Calculation.start_orFail_eq_ok h) hq
    · rw [convert_by_factor source x hc hu] at h
      exact toRat?_convertByFactor hc hu (Calculation.start_orFail_eq_ok h) hq
  · rw [convert_of_category_ne source x (.fixed u) (.fixed v) hc] at h
    cases h

end Measure

end Reckoner
