import Reckoner.Proofs.Expr.Question
import Reckoner.Proofs.Measure.Convert
import Reckoner.Proofs.Rates.CrossRate

/-!
# Units without numbers

The unit of a result can be told from the operators of an expression and the units of its leaves
alone.  `Expr.Form` is what is left of a tree without its numbers, and `Form.unit?` infers the unit
of its result, or finds units that do not go together.

Evaluation agrees with the inference.  A value has the inferred unit; where nothing is inferred
there is no value; and where a unit is inferred, only a division by zero or a failed exchange of
money can stand in the way of a value.  One step of this is `Operator.apply_agrees`, about one
operator on two quantities, and the induction over the tree adds no more cases.
-/

namespace Reckoner

/-! ## Units of one operator -/

/-- The units belong to one category, and they are not one scale of temperature. -/
def Measure.Convertible (u v : Measure) : Prop :=
  u.category = v.category ∧ (u.category = .temperature → u ≠ v)

instance (u v : Measure) : Decidable (u.Convertible v) := inferInstanceAs (Decidable (_ ∧ _))

namespace Operator

/-- The unit of a sum: that of the left operand, when the right one has one of the same category. -/
def sumUnit? : Option Measure → Option Measure → Option (Option Measure)
  | none, none => some none
  | some u, some v => if u.category = v.category then some (some u) else none
  | _, _ => none

/-- The unit of an operator's result by the units of its operands; none when they do not go
together. -/
def unit? : Operator → Option Measure → Option Measure → Option (Option Measure)
  | .multiply, none, v | .divide, none, v => some v
  | .multiply, u, none | .divide, u, none => some u
  | .multiply, some _, some _ | .divide, some _, some _ => none
  | .power, u, none => some u
  | .power, _, some _ => none
  | .add, u, v | .subtract, u, v => sumUnit? u v
  | .convert, some u, some v => if u.Convertible v then some (some v) else none
  | .convert, _, _ => none

end Operator

/-! ## Failed exchanges -/

/-- An exchange of money fails: there is no source, or the source answers with a failure. -/
inductive ExchangeFails {σ : Type} : Option (RateSource σ) → String → String → Fault → Prop where
  | noRates (a b : String) : ExchangeFails none a b (.calculation (.conversion .noRates))
  | answer {rates : RateSource σ} {a b : String} {s s' : σ} {why : ConversionFailure} :
      (rates.rate a b).start s = (.error (.calculation (.conversion why)), s') →
      ExchangeFails (some rates) a b (.calculation (.conversion why))

/-- An outcome agrees with an inferred unit: a value has that unit, and any fault is a failed
calculation, which was not to be foreseen only if it is a division by zero or comes from one of the
exchanges. -/
def Agrees {σ : Type} (source : Option (RateSource σ)) (inferred : Option (Option Measure))
    (exchanges : String → String → Prop) : Except Fault Quantity → Prop
  | .ok q => inferred = some q.unit
  | .error f => (∃ e, f = .calculation e) ∧
      (inferred = none ∨ f = .calculation .divisionByZero ∨
        ∃ a b, exchanges a b ∧ ExchangeFails source a b f)

section

variable {σ : Type} {source : Option (RateSource σ)}

/-- The fault of a part is a fault of the whole. -/
theorem Agrees.error {i j : Option (Option Measure)} {p q : String → String → Prop} {f : Fault}
    (h : Agrees source i p (.error f)) (hi : i = none → j = none) (hp : ∀ a b, p a b → q a b) :
    Agrees source j q (.error f) := by
  obtain ⟨he, hwhy⟩ := h
  refine ⟨he, ?_⟩
  rcases hwhy with hnone | hzero | ⟨a, b, hab, hf⟩
  · exact .inl (hi hnone)
  · exact .inr (.inl hzero)
  · exact .inr (.inr ⟨a, b, hp a b hab, hf⟩)

namespace Measure

theorem convertMoney_fails (hs : ∀ rates ∈ source, rates.Answers) {x : Number} {a b : String}
    {s s' : σ} {f : Fault} (h : (convertMoney source x a b).start s = (.error f, s')) :
    ExchangeFails source a b f := by
  cases source with
  | none =>
    cases h
    exact .noRates a b
  | some rates =>
    rw [convertMoney, Calculation.start_bind] at h
    match hr : (rates.rate a b).start s with
    | (.ok r, t) =>
      rw [hr] at h
      cases h
    | (.error g, t) =>
      rw [hr] at h
      cases h
      obtain ⟨why, rfl⟩ := hs rates rfl a b s _ _ hr
      exact .answer hr

/-- Where a conversion is possible, only an exchange of money can fail. -/
theorem convert_fails (hs : ∀ rates ∈ source, rates.Answers) {x : Number} {u v : Measure}
    (huv : u.Convertible v) {s s' : σ} {f : Fault}
    (h : (convert source x u v).start s = (.error f, s')) :
    ∃ a b, u = .currency a ∧ v = .currency b ∧ ExchangeFails source a b f := by
  cases u with
  | fixed u =>
    cases v with
    | fixed v =>
      obtain ⟨y, hy⟩ := exists_convert source x huv.1 fun ht same => huv.2 ht (same ▸ rfl)
      rw [hy] at h
      cases h
    | currency b => exact absurd huv.1 u.category_ne_currency
  | currency a =>
    cases v with
    | fixed v => exact absurd huv.1.symm v.category_ne_currency
    | currency b => exact ⟨a, b, rfl, rfl, convertMoney_fails hs h⟩

/-- Where a conversion is not possible, it fails at once. -/
theorem convert_refused (source : Option (RateSource σ)) (x : Number) {u v : Measure}
    (huv : ¬u.Convertible v) :
    ∃ e, convert source x u v = Calculation.fail e := by
  by_cases hc : u.category = v.category
  · cases u with
    | fixed u =>
      have scale : u.category = .temperature ∧ Measure.fixed u = v :=
        by_contra fun h => huv ⟨hc, fun ht same => h ⟨ht, same⟩⟩
      obtain ⟨ht, rfl⟩ := scale
      exact ⟨_, convert_same_scale source x ht⟩
    | currency a => exact absurd ⟨hc, fun h => nomatch h⟩ huv
  · exact ⟨_, convert_of_category_ne source x u v hc⟩

end Measure

namespace Quantity

theorem multiply_agrees (x y : Quantity) (exchanges : String → String → Prop) (s : σ) :
    Agrees source (Operator.unit? .multiply x.unit y.unit) exchanges
      ((x.multiply y).start s).1 := by
  obtain ⟨m, u⟩ := x
  obtain ⟨n, v⟩ := y
  cases u with
  | none => exact rfl
  | some u =>
    cases v with
    | none => exact rfl
    | some v => exact ⟨⟨_, rfl⟩, .inl rfl⟩

/-- The number of a quotient comes first, so a division by zero may hide units that do not go
together; it is a failed calculation all the same. -/
theorem divide_agrees (x y : Quantity) (exchanges : String → String → Prop) (s : σ) :
    Agrees source (Operator.unit? .divide x.unit y.unit) exchanges ((x.divide y).start s).1 := by
  rw [divide, Calculation.start_bind]
  cases x.number.div? y.number with
  | none => exact ⟨⟨_, rfl⟩, .inr (.inl rfl)⟩
  | some z =>
    obtain ⟨m, u⟩ := x
    obtain ⟨n, v⟩ := y
    cases u with
    | none => exact rfl
    | some u =>
      cases v with
      | none => exact rfl
      | some v => exact ⟨⟨_, rfl⟩, .inl rfl⟩

theorem power_agrees (x y : Quantity) (exchanges : String → String → Prop) (s : σ) :
    Agrees source (Operator.unit? .power x.unit y.unit) exchanges ((x.power y).start s).1 := by
  obtain ⟨n, v⟩ := y
  cases v with
  | none =>
    show Agrees _ _ _ (Calculation.start (_ >>= _) s).1
    rw [Calculation.start_bind]
    cases x.number.power? n with
    | none => exact ⟨⟨_, rfl⟩, .inr (.inl rfl)⟩
    | some z => exact rfl
  | some v => exact ⟨⟨_, rfl⟩, .inl rfl⟩

theorem combine_agrees (hs : ∀ rates ∈ source, rates.Answers) (op : Number → Number → Number)
    (x y : Quantity) (s : σ) :
    Agrees source (Operator.sumUnit? x.unit y.unit)
      (fun a b => Operator.sumExchange? x.unit y.unit = some (a, b))
      ((combine op source x y).start s).1 := by
  obtain ⟨m, u⟩ := x
  obtain ⟨n, v⟩ := y
  unfold combine
  split
  next same =>
    cases (show u = v from same)
    cases u with
    | none => exact rfl
    | some u => exact if_pos rfl
  next different =>
    cases u with
    | none =>
      cases v with
      | none => exact absurd rfl different
      | some v => exact ⟨⟨_, rfl⟩, .inl rfl⟩
    | some u =>
      cases v with
      | none => exact ⟨⟨_, rfl⟩, .inl rfl⟩
      | some v =>
        have hne : v ≠ u := fun same => different (congrArg some same.symm)
        show Agrees _ _ _ (Calculation.start (_ >>= _) s).1
        rw [Calculation.start_bind]
        by_cases hc : u.category = v.category
        · have hunit : Operator.sumUnit? (some u) (some v) = some (some u) := if_pos hc
          match hconv : (Measure.convert source n v u).start s with
          | (.ok z, s') => exact hunit
          | (.error f, s') =>
            obtain ⟨a, b, rfl, rfl, hf⟩ := Measure.convert_fails hs ⟨hc.symm, fun _ => hne⟩ hconv
            have hcodes : b ≠ a := fun same => hne (congrArg _ same.symm)
            refine ⟨?_, .inr (.inr ⟨a, b, if_neg hcodes, hf⟩)⟩
            cases hf <;> exact ⟨_, rfl⟩
        · have hunit : Operator.sumUnit? (some u) (some v) = none := if_neg hc
          rw [Measure.convert_of_category_ne source n v u (Ne.symm hc)]
          exact ⟨⟨_, rfl⟩, .inl hunit⟩

theorem convertTo_agrees (hs : ∀ rates ∈ source, rates.Answers) (x y : Quantity) (s : σ) :
    Agrees source (Operator.unit? .convert x.unit y.unit)
      (fun a b => Operator.exchange? .convert x.unit y.unit = some (a, b))
      ((convertTo source x y).start s).1 := by
  obtain ⟨m, u⟩ := x
  obtain ⟨n, v⟩ := y
  cases u with
  | none => exact ⟨⟨_, rfl⟩, .inl rfl⟩
  | some u =>
    cases v with
    | none => exact ⟨⟨_, rfl⟩, .inl rfl⟩
    | some v =>
      show Agrees _ _ _ (Calculation.start (_ >>= _) s).1
      rw [Calculation.start_bind]
      by_cases huv : u.Convertible v
      · have hunit : Operator.unit? .convert (some u) (some v) = some (some v) := if_pos huv
        match hconv : (Measure.convert source m u v).start s with
        | (.ok z, s') => exact hunit
        | (.error f, s') =>
          obtain ⟨a, b, rfl, rfl, hf⟩ := Measure.convert_fails hs huv hconv
          refine ⟨?_, .inr (.inr ⟨a, b, rfl, hf⟩)⟩
          cases hf <;> exact ⟨_, rfl⟩
      · have hunit : Operator.unit? .convert (some u) (some v) = none := if_neg huv
        obtain ⟨e, he⟩ := Measure.convert_refused source m huv
        rw [he]
        exact ⟨⟨_, rfl⟩, .inl hunit⟩

end Quantity

/-- One operator agrees with the inference on the units of its operands. -/
theorem Operator.apply_agrees (hs : ∀ rates ∈ source, rates.Answers) (op : Operator)
    (x y : Quantity) (s : σ) :
    Agrees source (op.unit? x.unit y.unit) (fun a b => op.exchange? x.unit y.unit = some (a, b))
      ((op.apply source x y).start s).1 := by
  cases op with
  | power => exact Quantity.power_agrees x y _ s
  | multiply => exact Quantity.multiply_agrees x y _ s
  | divide => exact Quantity.divide_agrees x y _ s
  | add => exact Quantity.combine_agrees hs Number.add x y s
  | subtract => exact Quantity.combine_agrees hs Number.sub x y s
  | convert => exact Quantity.convertTo_agrees hs x y s

/-! ## Units of a tree -/

namespace Expr

/-- What is left of a tree without its numbers. -/
inductive Form where
  | leaf (unit : Option Measure)
  | negate (f : Form)
  | binary (op : Operator) (left right : Form)
  deriving DecidableEq

/-- Forgets the numbers of a tree. -/
def form : Expr → Form
  | .leaf q => .leaf q.unit
  | .negate e => .negate e.form
  | .binary op l r => .binary op l.form r.form

/-- The unit of a tree's result; none when somewhere units do not go together. -/
def Form.unit? : Form → Option (Option Measure)
  | .leaf u => some u
  | .negate f => f.unit?
  | .binary op l r => do
    let u ← l.unit?
    let v ← r.unit?
    op.unit? u v

/-- Somewhere in the tree money is exchanged from the first currency into the second. -/
inductive Form.Exchanges : Form → String → String → Prop where
  | here {op : Operator} {l r : Form} {u v : Option Measure} {a b : String} :
      l.unit? = some u → r.unit? = some v → op.exchange? u v = some (a, b) →
      Exchanges (.binary op l r) a b
  | negate {f : Form} {a b : String} : f.Exchanges a b → Exchanges (.negate f) a b
  | left {op : Operator} {l r : Form} {a b : String} :
      l.Exchanges a b → Exchanges (.binary op l r) a b
  | right {op : Operator} {l r : Form} {a b : String} :
      r.Exchanges a b → Exchanges (.binary op l r) a b

theorem value_agrees (hs : ∀ rates ∈ source, rates.Answers) (e : Expr) (s : σ) :
    Agrees source e.form.unit? e.form.Exchanges ((e.value source).start s).1 := by
  induction e generalizing s with
  | leaf q => exact rfl
  | negate e ih =>
    rw [start_value_negate]
    have h := ih s
    match hv : (e.value source).start s with
    | (.ok x, s') =>
      rw [hv] at h
      exact h
    | (.error f, s') =>
      rw [hv] at h
      exact h.error id fun _ _ => .negate
  | binary op l r ihl ihr =>
    rw [start_value_binary]
    have hl := ihl s
    match hx : (l.value source).start s with
    | (.error f, s') =>
      rw [hx] at hl
      exact hl.error (fun hnone => by rw [form, Form.unit?, hnone]; rfl) fun _ _ => .left
    | (.ok x, s') =>
      rw [hx] at hl
      have hl : l.form.unit? = some x.unit := hl
      have hr := ihr s'
      rw [Calculation.andThen_ok]
      match hy : (r.value source).start s' with
      | (.error f, s'') =>
        rw [hy] at hr
        exact hr.error (fun hnone => by rw [form, Form.unit?, hl, hnone]; rfl) fun _ _ => .right
      | (.ok y, s'') =>
        rw [hy] at hr
        have hr : r.form.unit? = some y.unit := hr
        have hunit : (binary op l r).form.unit? = op.unit? x.unit y.unit := by
          rw [form, Form.unit?, hl, hr]
          rfl
        have h := op.apply_agrees hs x y s''
        rw [Calculation.andThen_ok, hunit]
        match hv : (op.apply source x y).start s'' with
        | (.ok v, _) =>
          rw [hv] at h
          exact h
        | (.error f, _) =>
          rw [hv] at h
          exact h.error id fun _ _ => .here hl hr

/-- Evaluation respects units, whatever the numbers.  A value has the inferred unit; where no unit
is inferred the calculation fails; and where one is, it fails only for a division by zero or a
failed exchange of money.  So trees that differ in their numbers alone have values of one unit, also
when they are evaluated with different sources of rates. -/
theorem evaluate_respects_units (hs : ∀ rates ∈ source, rates.Answers) (e : Expr) (s : σ) :
    (∀ q s', (e.evaluate source).start s = (.ok q, s') → e.form.unit? = some q.unit) ∧
    (e.form.unit? = none →
      ∃ error s', (e.evaluate source).start s = (.error (.calculation error), s')) ∧
    (∀ u f s', e.form.unit? = some u → (e.evaluate source).start s = (.error f, s') →
      f = .calculation .divisionByZero ∨
        ∃ a b, e.form.Exchanges a b ∧ ExchangeFails source a b f) ∧
    (∀ (τ : Type) (source' : Option (RateSource τ)) (e' : Expr) (t t' : τ) (s' : σ)
      (q q' : Quantity), (∀ rates ∈ source', rates.Answers) → e'.form = e.form →
      (e.evaluate source).start s = (.ok q, s') → (e'.evaluate source').start t = (.ok q', t') →
      q'.unit = q.unit) := by
  have agrees : ∀ {τ : Type} {source : Option (RateSource τ)}, (∀ rates ∈ source, rates.Answers) →
      ∀ (e : Expr) {t t' : τ} {outcome : Except Fault Quantity},
      (e.evaluate source).start t = (outcome, t') →
      Agrees source e.form.unit? e.form.Exchanges outcome := by
    intro τ source hs e t t' outcome h
    have hv := value_agrees hs e t
    rw [← evaluate_eq_value, h] at hv
    exact hv
  refine ⟨fun q s' h => agrees hs e h, fun hnone => ?_, fun u f s' hu h => ?_, ?_⟩
  · match h : (e.evaluate source).start s with
    | (.ok q, s') => cases hnone.symm.trans (agrees hs e h)
    | (.error f, s') =>
      obtain ⟨⟨error, rfl⟩, -⟩ := agrees hs e h
      exact ⟨error, s', rfl⟩
  · obtain ⟨-, hwhy⟩ := agrees hs e h
    exact hwhy.resolve_left fun hnone => by cases hu.symm.trans hnone
  · intro τ source' e' t t' s' q q' hs' hform h h'
    have hu : e.form.unit? = some q.unit := agrees hs e h
    have hu' : e'.form.unit? = some q'.unit := agrees hs' e' h'
    rw [hform, hu] at hu'
    exact (Option.some.inj hu').symm

end Expr

end

/-- Prices in forints: a euro costs four hundred. -/
def forintPrices : FixedRates :=
  ⟨[("EUR", ⟨400, 1, Ratio.one.den_pos, by decide, by decide, Ratio.one.den_fits⟩)], "HUF"⟩

/-- Ten euros, less nine euros, in forints. -/
def euroInForints : Expr :=
  .binary .convert
    (.binary .subtract (.leaf ⟨.whole 10, some (.currency "EUR")⟩)
      (.leaf ⟨.whole 9, some (.currency "EUR")⟩))
    (.leaf (.oneOf (.currency "HUF")))

theorem euroInForints_unit :
    (∀ rates ∈ some (forintPrices.toSource : RateSource Unit), rates.Answers) ∧
    ((euroInForints.evaluate (some forintPrices.toSource)).start ()).1 =
      .ok ⟨.whole 400, some (.currency "HUF")⟩ ∧
    euroInForints.form.unit? = some (some (.currency "HUF")) := by
  have hs : ∀ rates ∈ some (forintPrices.toSource : RateSource Unit), rates.Answers := by
    rintro _ ⟨⟩
    exact forintPrices.toSource_answers
  have hv : (euroInForints.evaluate (some forintPrices.toSource)).start () =
      (.ok ⟨.whole 400, some (.currency "HUF")⟩, ()) := by
    rw [Expr.evaluate_eq_value]
    rfl
  exact ⟨hs, congrArg Prod.fst hv, (Expr.evaluate_respects_units hs euroInForints ()).1 _ _ hv⟩

end Reckoner
