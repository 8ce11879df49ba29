import Reckoner.Proofs.Number.Exact
import Reckoner.Proofs.Rates.Source

/-!
# Cross rates as quotients of prices

In a table every code has a price in the base currency, and the base itself costs one.  A cross rate
that is found is the quotient of two prices.  A cross rate that is not found is a failed conversion.
-/

namespace Reckoner

namespace RateTable

variable (table : RateTable) (base : String)

/-- The price of a code in the base currency as a rational number. -/
def price? (code : String) : Option ℚ :=
  if code = base then some 1 else (table.value? code).map Ratio.toRat

/-- The quotient of the prices of two codes; the second price is not zero. -/
def quotient? (source target : String) : Option ℚ :=
  if source = target then some 1
  else do
    let p ← table.price? base source
    let q ← table.price? base target
    if q = 0 then none else some (p / q)

variable {table base}

theorem price?_base : table.price? base base = some 1 := if_pos rfl

theorem priceOf_eq_ok_iff {code : String} {p : Ratio} :
    table.priceOf code = .ok p ↔ table.value? code = some p := by
  unfold priceOf
  split
  next price found => simp [found]
  next missing => simp [missing]

/-- The price of a code that is not the base is the one in the table. -/
theorem price?_eq_some_iff {code : String} {x : ℚ} (hne : code ≠ base) :
    table.price? base code = some x ↔ ∃ p, table.priceOf code = .ok p ∧ p.toRat = x := by
  simp only [price?, if_neg hne, Option.map_eq_some_iff, priceOf_eq_ok_iff]

theorem inverse_eq_ok_iff {p i : Ratio} :
    inverse p = .ok i ↔ p.toRat ≠ 0 ∧ i.toRat = p.toRat⁻¹ := by
  rw [inverse, mapError_eq_ok_iff, Ratio.invert_eq]
  split
  next zero => simp [zero]
  next nonzero => simp [nonzero, Ratio.ofRat_eq_ok_iff]

/-- A cross rate between two currencies is found if both have a price and the price of the second
has an inverse among the ratios.  It is then the quotient of the two prices. -/
theorem crossRate_eq_ok_iff {source target : String} {r : Ratio} (hne : source ≠ target) :
    table.crossRate base source target = .ok r ↔
      ∃ p q, table.price? base source = some p ∧ table.price? base target = some q ∧ q ≠ 0 ∧
        (∃ i : Ratio, i.toRat = q⁻¹) ∧ r.toRat = p / q := by
  rw [crossRate, if_neg hne]
  by_cases out : source = base
  · -- out of the base: the inverse is the rate
    subst out
    simp only [if_true, bind_eq_ok_iff, inverse_eq_ok_iff, price?_base, Option.some.injEq,
      price?_eq_some_iff hne.symm]
    constructor
    · rintro ⟨q, hq, nonzero, hr⟩
      exact ⟨1, q.toRat, rfl, ⟨q, hq, rfl⟩, nonzero, ⟨r, hr⟩, by rw [hr, one_div]⟩
    · rintro ⟨_, _, rfl, ⟨q, hq, rfl⟩, nonzero, -, hr⟩
      exact ⟨q, hq, nonzero, by rw [hr, one_div]⟩
  · rw [if_neg out]
    by_cases into : target = base
    · -- into the base: the price is the rate
      subst into
      simp only [if_true, price?_base, Option.some.injEq, price?_eq_some_iff out]
      constructor
      · intro h
        exact ⟨r.toRat, 1, ⟨r, h, rfl⟩, rfl, one_ne_zero, ⟨.one, inv_one.symm⟩, (div_one _).symm⟩
      · rintro ⟨_, _, ⟨p, hp, rfl⟩, rfl, -, -, hr⟩
        rw [div_one] at hr
        exact Ratio.toRat_injective hr ▸ hp
    · simp only [if_neg into, bind_eq_ok_iff, inverse_eq_ok_iff, mapError_eq_ok_iff, Ratio.mul_eq,
        Ratio.ofRat_eq_ok_iff, price?_eq_some_iff out, price?_eq_some_iff into]
      constructor
      · rintro ⟨q, hq, i, ⟨nonzero, hi⟩, p, hp, hr⟩
        refine ⟨p.toRat, q.toRat, ⟨p, hp, rfl⟩, ⟨q, hq, rfl⟩, nonzero, ⟨i, hi⟩, ?_⟩
        rw [hr, hi, div_eq_inv_mul]
      · rintro ⟨_, _, ⟨p, hp, rfl⟩, ⟨q, hq, rfl⟩, nonzero, ⟨i, hi⟩, hr⟩
        exact ⟨q, hq, i, ⟨nonzero, hi⟩, p, hp, by rw [hr, hi, div_eq_inv_mul]⟩

theorem quotient?_eq_some {source target : String} {p q : ℚ} (hne : source ≠ target)
    (hp : table.price? base source = some p) (hq : table.price? base target = some q)
    (nonzero : q ≠ 0) : table.quotient? base source target = some (p / q) := by
  rw [quotient?, if_neg hne, hp, hq]
  exact if_neg nonzero

theorem crossRate_self (code : String) : table.crossRate base code code = .ok .one := if_pos rfl

/-- A cross rate that is found is the quotient of the two prices. -/
theorem quotient?_of_crossRate {source target : String} {r : Ratio}
    (h : table.crossRate base source target = .ok r) :
    table.quotient? base source target = some r.toRat := by
  by_cases same : source = target
  · subst same
    rw [crossRate_self] at h
    cases h
    rw [quotient?, if_pos rfl, Ratio.toRat_one]
  · obtain ⟨p, q, hp, hq, nonzero, -, hr⟩ := (crossRate_eq_ok_iff same).1 h
    rw [quotient?_eq_some same hp hq nonzero, hr]

end RateTable

/-- The outcome is a rate or a failed conversion. -/
def Converts (outcome : Except CalcError Ratio) : Prop :=
  ∀ e, outcome = .error e → ∃ why, e = .conversion why

namespace Converts

theorem ok (r : Ratio) : Converts (.ok r) := nofun

theorem bind {outcome : Except CalcError Ratio} {next : Ratio → Except CalcError Ratio}
    (h : Converts outcome) (hnext : ∀ r, Converts (next r)) : Converts (outcome >>= next) := by
  cases outcome with
  | ok r => exact hnext r
  | error e => exact h

theorem priceOf (table : RateTable) (code : String) : Converts (table.priceOf code) := by
  unfold RateTable.priceOf
  split
  next price _ => exact ok price
  next =>
    intro e he
    cases he
    exact ⟨_, rfl⟩

theorem usable (result : Except Ratio.Failure Ratio) :
    Converts (result.mapError RateTable.unusable) := by
  cases result with
  | ok r => exact ok r
  | error failure =>
    intro e he
    cases he
    cases failure <;> exact ⟨_, rfl⟩

/-- A cross rate that is not found is a failed conversion. -/
theorem crossRate (table : RateTable) (base source target : String) :
    Converts (table.crossRate base source target) := by
  unfold RateTable.crossRate
  split
  next => exact ok _
  next =>
    split
    next => exact (priceOf _ _).bind fun _ => usable _
    next =>
      split
      next => exact priceOf _ _
      next =>
        refine (priceOf _ _).bind fun _ => (usable _).bind fun _ => ?_
        exact (priceOf _ _).bind fun _ => usable _

end Converts

namespace FixedRates

/-- The quotient of two prices of a fixed table, for codes in any case. -/
def quotient? (rates : FixedRates) (source target : String) : Option ℚ :=
  rates.table.quotient? (Text.upper rates.base) (Text.upper source) (Text.upper target)

theorem quotient?_of_rate {rates : FixedRates} {source target : String} {r : Ratio}
    (h : rates.rate source target = .ok r) : rates.quotient? source target = some r.toRat :=
  RateTable.quotient?_of_crossRate h

theorem toSource_answers {σ : Type} (rates : FixedRates) :
    (rates.toSource : RateSource σ).Answers := by
  intro a b s f s' h
  rw [start_rate_toSource] at h
  cases hr : rates.rate a b with
  | ok r =>
    rw [hr] at h
    cases h
  | error e =>
    rw [hr] at h
    cases h
    obtain ⟨why, rfl⟩ := Converts.crossRate _ _ _ _ e hr
    exact ⟨why, rfl⟩

end FixedRates

theorem answers_of_mem {σ : Type} (rates : Option FixedRates) :
    ∀ source ∈ (rates.map FixedRates.toSource : Option (RateSource σ)), source.Answers := by
  intro source h
  obtain ⟨table, -, rfl⟩ := Option.mem_map.1 h
  exact table.toSource_answers

end Reckoner
