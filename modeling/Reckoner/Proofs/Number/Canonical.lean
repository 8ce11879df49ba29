import Reckoner.Proofs.Number.Exact
import Reckoner.Proofs.Rates.Source
import Reckoner.Quantity

/-!
# Canonical numbers

An exact number has one form: a whole number that fits its word, or a ratio that is not whole.
Every operation gives numbers of this form, and all but the change of sign do so whatever they are
given.
-/

namespace Reckoner.Number

/-- The number is a double, a whole number that fits its word, or a ratio that is not whole. -/
def Canonical : Number → Prop
  | .whole n => FitsInt64 n
  | .ratio r => 1 < r.den
  | .float _ => True

instance : DecidablePred Canonical
  | .whole n => inferInstanceAs (Decidable (FitsInt64 n))
  | .ratio r => inferInstanceAs (Decidable (1 < r.den))
  | .float _ => inferInstanceAs (Decidable True)

/-- A whole number fits its word.  The parts of a ratio always do. -/
def Valid : Number → Prop
  | .whole n => FitsInt64 n
  | .ratio _ | .float _ => True

theorem Canonical.valid {x : Number} (h : x.Canonical) : x.Valid := by
  cases x with
  | whole n => exact h
  | ratio r => exact trivial
  | float x => exact trivial

theorem one_canonical : one.Canonical := by decide

theorem collapse_canonical (r : Ratio) : (collapse r).Canonical := by
  unfold collapse
  split
  next => exact r.num_fits
  next hne => exact Nat.lt_of_le_of_ne r.den_pos (Ne.symm hne)

theorem ofInt_canonical (n : Int) : (ofInt n).Canonical := by
  unfold ofInt
  split
  next fits => exact fits
  next => exact trivial

theorem Operation.elim_canonical (op : Operation) (a b : Number) (z : Float) :
    ((op.ratioResult? a b).elim (.float z) collapse).Canonical := by
  cases op.ratioResult? a b with
  | none => exact trivial
  | some r => exact collapse_canonical r

/-- The result of an operation is canonical. -/
theorem Operation.apply_canonical (op : Operation) (a b : Number) : (op.apply a b).Canonical := by
  simp only [apply]
  split
  next => exact trivial
  next =>
    split
    next m n _ =>
      cases op.onWhole? m n with
      | none => exact elim_canonical ..
      | some k => exact ofInt_canonical k
    next => exact elim_canonical ..

theorem div?_canonical {a b c : Number} (h : a.div? b = some c) : c.Canonical := by
  unfold div? at h
  split at h
  next => cases h
  next =>
    cases h
    exact division.apply_canonical a b

/-- Only here the operand has to be canonical: a whole ratio would stay a ratio. -/
theorem negate_canonical {a : Number} (h : a.Canonical) : a.negate.Canonical := by
  cases a with
  | whole n =>
    simp only [negate]
    split
    next fits => exact fits
    next => exact trivial
  | ratio r =>
    simp only [negate]
    split
    next s hs =>
      rw [Ratio.neg_eq, Ratio.ofRat_eq_ok_iff] at hs
      show 1 < s.den
      rw [← s.toRat_den, hs, Rat.neg_den]
      exact h
    next => exact trivial
  | float x => exact trivial

theorem wholePower?_canonical {b e : Int} {c : Number} (h : wholePower? b e = some c) :
    c.Canonical := by
  unfold wholePower? at h
  split at h
  next =>
    obtain ⟨k, hk, h⟩ := Option.bind_eq_some_iff.1 h
    split at h
    next =>
      cases h
      exact (checkedIntPower_eq_some hk).1
    next =>
      obtain ⟨r, -, rfl⟩ := Option.map_eq_some_iff.1 h
      exact collapse_canonical r
  next => cases h

theorem getD_canonical {power : Option Number} {z : Float}
    (h : ∀ c, power = some c → c.Canonical) : (power.getD (.float z)).Canonical := by
  cases power with
  | none => exact trivial
  | some c => exact h c rfl

theorem power?_canonical {a b c : Number} (h : a.power? b = some c) : c.Canonical := by
  simp only [power?] at h
  split at h
  next =>
    split at h
    next => cases h
    next =>
      cases h
      exact getD_canonical fun c hc => wholePower?_canonical hc
  next r e =>
    split at h
    next => cases h
    next =>
      cases h
      refine getD_canonical fun c hc => ?_
      unfold ratioPower? at hc
      split at hc
      next =>
        obtain ⟨s, -, rfl⟩ := Option.map_eq_some_iff.1 hc
        exact collapse_canonical s
      next => cases hc
  next =>
    cases h
    exact trivial

end Reckoner.Number

namespace Reckoner.Measure

open Number

/-! ## Conversions -/

theorem factor?_canonical {u : Measure} {n : Number} (h : u.factor? = some n) : n.Canonical := by
  cases u with
  | fixed u =>
    obtain ⟨f, -, h⟩ := Option.bind_eq_some_iff.1 h
    obtain ⟨r, -, rfl⟩ := Option.map_eq_some_iff.1 h
    exact collapse_canonical r
  | currency code => cases h

theorem degreeRatio_canonical : degreeRatio.Canonical := by decide

theorem freezingPoint_canonical : freezingPoint.Canonical := by decide

theorem convertTemperature?_canonical {x y : Number} {u v : Measure}
    (h : convertTemperature? x u v = some y) : y.Canonical := by
  unfold convertTemperature? at h
  split at h
  next =>
    cases h
    exact Operation.apply_canonical ..
  next => exact div?_canonical h
  next => cases h

theorem convertByFactor?_canonical {x y : Number} {u v : Measure}
    (h : convertByFactor? x u v = some y) : y.Canonical := by
  obtain ⟨f, -, h⟩ := Option.bind_eq_some_iff.1 h
  obtain ⟨g, -, h⟩ := Option.bind_eq_some_iff.1 h
  obtain ⟨rate, -, h⟩ := Option.bind_eq_some_iff.1 h
  cases h
  exact Operation.apply_canonical ..

variable {σ : Type} {source : Option (RateSource σ)}

theorem convertMoney_canonical {x y : Number} {a b : String} {s s' : σ}
    (h : (convertMoney source x a b).start s = (.ok y, s')) : y.Canonical := by
  cases source with
  | none => cases h
  | some rates =>
    rw [convertMoney, Calculation.start_bind] at h
    obtain ⟨r, t, -, h⟩ := Calculation.andThen_eq_ok h
    cases h
    exact Operation.apply_canonical ..

/-- A converted number is canonical. -/
theorem convert_canonical {x y : Number} {u v : Measure} {s s' : σ}
    (h : (convert source x u v).start s = (.ok y, s')) : y.Canonical := by
  unfold convert at h
  split at h
  next => exact convertMoney_canonical h
  next =>
    split at h
    next => cases h
    next => exact convertTemperature?_canonical (Calculation.start_orFail_eq_ok h)
    next => exact convertByFactor?_canonical (Calculation.start_orFail_eq_ok h)

end Reckoner.Measure

namespace Reckoner

/-! ## Quantities -/

variable {σ : Type} {source : Option (RateSource σ)}

theorem Quantity.combine_canonical {op : Number → Number → Number}
    (hop : ∀ m n, (op m n).Canonical) {x y q : Quantity} {s s' : σ}
    (h : (combine op source x y).start s = (.ok q, s')) : q.number.Canonical := by
  unfold combine at h
  split at h
  next =>
    cases h
    exact hop ..
  next =>
    split at h
    next =>
      rw [Calculation.start_bind] at h
      obtain ⟨n, t, -, h⟩ := Calculation.andThen_eq_ok h
      cases h
      exact hop ..
    next => cases h

/-- The quantity that an operator makes is canonical. -/
theorem Operator.apply_canonical {op : Operator} {x y q : Quantity} {s s' : σ}
    (h : (op.apply source x y).start s = (.ok q, s')) : q.number.Canonical := by
  cases op with
  | power =>
    simp only [apply, Quantity.power] at h
    split at h
    next => cases h
    next =>
      rw [Calculation.start_bind] at h
      obtain ⟨n, t, hn, h⟩ := Calculation.andThen_eq_ok h
      cases h
      exact Number.power?_canonical (Calculation.start_orFail_eq_ok hn)
  | multiply =>
    rw [apply, Quantity.multiply, Calculation.start_bind] at h
    obtain ⟨u, t, -, h⟩ := Calculation.andThen_eq_ok h
    cases h
    exact Number.Operation.apply_canonical ..
  | divide =>
    rw [apply, Quantity.divide, Calculation.start_bind] at h
    obtain ⟨n, t, hn, h⟩ := Calculation.andThen_eq_ok h
    rw [Calculation.start_bind] at h
    obtain ⟨u, t', -, h⟩ := Calculation.andThen_eq_ok h
    cases h
    exact Number.div?_canonical (Calculation.start_orFail_eq_ok hn)
  | add => exact Quantity.combine_canonical (Number.addition.apply_canonical · ·) h
  | subtract => exact Quantity.combine_canonical (Number.subtraction.apply_canonical · ·) h
  | convert =>
    simp only [apply, Quantity.convertTo] at h
    split at h
    next =>
      rw [Calculation.start_bind] at h
      obtain ⟨n, t, hn, h⟩ := Calculation.andThen_eq_ok h
      cases h
      exact Measure.convert_canonical hn
    next => cases h

end Reckoner
