import Reckoner.Proofs.Expr.Units

/-!
# Exact values

What an expression is worth in unbounded exact arithmetic: numbers are rational numbers, units
follow the same rules, factors and rates are not rounded, and only whole powers are taken.
`Expr.exactly?` computes this value, with the rates of a fixed table.

A value found by evaluation that is held exactly is this value.  The reason is that a double stays a
double: an operation with an exact result has had exact operands (`Operator.exactly?_apply`).  The
one operand that need not be exact is the right one of a conversion, whose number does not count;
the parser only puts units there.
-/

namespace Reckoner

/-- A rational number with an optional unit. -/
structure ExactQuantity where
  number : ℚ
  unit : Option Measure

namespace Measure

/-- A number given in the first unit, expressed in the second, with the rates of a table. -/
def express? (rates : Option FixedRates) : Measure → Measure → ℚ → Option ℚ
  | .fixed u, .fixed v, x => u.express? v x
  | .currency a, .currency b, x => (rates.bind (·.quotient? a b)).map (x * ·)
  | _, _, _ => none

end Measure

namespace ExactQuantity

/-- The number of a sum or difference; the right operand is converted when its unit is another
one. -/
def combine? (rates : Option FixedRates) (f : ℚ → ℚ → ℚ) (x y : ExactQuantity) : Option ℚ :=
  if x.unit = y.unit then some (f x.number y.number)
  else do
    let u ← x.unit
    let v ← y.unit
    let b ← v.express? rates u y.number
    some (f x.number b)

/-- The number of a power: the exponent is whole, and not negative when the base is zero. -/
def power? (x y : ExactQuantity) : Option ℚ :=
  if y.number.den = 1 ∧ (x.number = 0 → 0 ≤ y.number.num) then some (x.number ^ y.number.num)
  else none

/-- The number of a conversion. -/
def convertTo? (rates : Option FixedRates) (x y : ExactQuantity) : Option ℚ := do
  let u ← x.unit
  let v ← y.unit
  u.express? rates v x.number

end ExactQuantity

namespace Operator

/-- The number that an operator makes of two exact quantities. -/
def number? (rates : Option FixedRates) : Operator → ExactQuantity → ExactQuantity → Option ℚ
  | .power, x, y => x.power? y
  | .multiply, x, y => some (x.number * y.number)
  | .divide, x, y => if y.number = 0 then none else some (x.number / y.number)
  | .add, x, y => x.combine? rates (· + ·) y
  | .subtract, x, y => x.combine? rates (· - ·) y
  | .convert, x, y => x.convertTo? rates y

/-- The exact quantity that an operator makes of two. -/
def exactly? (rates : Option FixedRates) (op : Operator) (x y : ExactQuantity) :
    Option ExactQuantity := do
  let u ← op.unit? x.unit y.unit
  let z ← op.number? rates x y
  some ⟨z, u⟩

end Operator

namespace Expr

/-- The exact value of a tree. -/
def exactly? (rates : Option FixedRates) : Expr → Option ExactQuantity
  | .leaf q => q.number.toRat?.map (⟨·, q.unit⟩)
  | .negate e => (e.exactly? rates).map fun x => ⟨-x.number, x.unit⟩
  | .binary op l r => do
    let x ← l.exactly? rates
    let y ← r.exactly? rates
    op.exactly? rates x y

/-- The right operand of every conversion is a unit, as the parser writes it. -/
def ConvertsToUnits : Expr → Prop
  | .leaf _ => True
  | .negate e => e.ConvertsToUnits
  | .binary .convert l r => l.ConvertsToUnits ∧ ∃ u, r = .leaf (.oneOf u)
  | .binary _ l r => l.ConvertsToUnits ∧ r.ConvertsToUnits

end Expr

section

variable {σ : Type} {rates : Option FixedRates}

/-! ## Conversions -/

namespace Measure

theorem express?_of_convertMoney {x y : Number} {a b : String} {q : ℚ} {s s' : σ}
    (h : (convertMoney (rates.map FixedRates.toSource) x a b).start s = (.ok y, s'))
    (hq : y.toRat? = some q) :
    ∃ p, x.toRat? = some p ∧ express? rates (.currency a) (.currency b) p = some q := by
  cases rates with
  | none => cases h
  | some table =>
    rw [Option.map_some, convertMoney, Calculation.start_bind, FixedRates.start_rate_toSource] at h
    cases hr : table.rate a b with
    | error e =>
      rw [hr] at h
      cases h
    | ok r =>
      rw [hr] at h
      cases h
      obtain ⟨p, t, hp, ht, rfl⟩ := Number.Operation.toRat?_apply Number.multiplication_computes hq
      rw [Number.toRat?_collapse] at ht
      cases ht
      refine ⟨p, hp, ?_⟩
      rw [express?, Option.bind_some, FixedRates.quotient?_of_rate hr, Option.map_some]

/-- An exact result of a conversion comes from an exact number and is the true one. -/
theorem express?_of_convert {x y : Number} {u v : Measure} {q : ℚ} {s s' : σ}
    (h : (convert (rates.map FixedRates.toSource) x u v).start s = (.ok y, s'))
    (hq : y.toRat? = some q) : ∃ p, x.toRat? = some p ∧ u.express? rates v p = some q := by
  cases u with
  | fixed u =>
    cases v with
    | fixed v => exact toRat?_convert h hq
    | currency b =>
      rw [convert_of_category_ne _ x (.fixed u) (.currency b) u.category_ne_currency] at h
      cases h
  | currency a =>
    cases v with
    | fixed v =>
      rw [convert_of_category_ne _ x (.currency a) (.fixed v) v.category_ne_currency.symm] at h
      cases h
    | currency b => exact express?_of_convertMoney h hq

end Measure

/-! ## Operators -/

namespace Quantity

/-- The operands of an exact result are exact, and the result is the true one. -/
def ExactlyBy (rates : Option FixedRates) (op : Operator) (x y : Quantity) (z : ℚ) : Prop :=
  ∃ a b, x.number.toRat? = some a ∧ y.number.toRat? = some b ∧
    op.number? rates ⟨a, x.unit⟩ ⟨b, y.unit⟩ = some z

theorem multiply_exactly {x y q : Quantity} {z : ℚ} {s s' : σ}
    (h : (x.multiply y).start s = (.ok q, s')) (hz : q.number.toRat? = some z) :
    x.ExactlyBy rates .multiply y z := by
  rw [multiply, Calculation.start_bind] at h
  obtain ⟨u, t, -, h⟩ := Calculation.andThen_eq_ok h
  cases h
  obtain ⟨a, b, ha, hb, rfl⟩ := Number.Operation.toRat?_apply Number.multiplication_computes hz
  exact ⟨a, b, ha, hb, rfl⟩

theorem divide_exactly {x y q : Quantity} {z : ℚ} {s s' : σ}
    (h : (x.divide y).start s = (.ok q, s')) (hz : q.number.toRat? = some z) :
    x.ExactlyBy rates .divide y z := by
  rw [divide, Calculation.start_bind] at h
  obtain ⟨n, t, hn, h⟩ := Calculation.andThen_eq_ok h
  rw [Calculation.start_bind] at h
  obtain ⟨u, t', -, h⟩ := Calculation.andThen_eq_ok h
  cases h
  obtain ⟨a, b, ha, hb, nonzero, rfl⟩ := Number.toRat?_div (Calculation.start_orFail_eq_ok hn) hz
  exact ⟨a, b, ha, hb, if_neg nonzero⟩

theorem power_exactly {x y q : Quantity} {z : ℚ} {s s' : σ}
    (h : (x.power y).start s = (.ok q, s')) (hz : q.number.toRat? = some z) :
    x.ExactlyBy rates .power y z := by
  unfold power at h
  split at h
  next => cases h
  next =>
    rw [Calculation.start_bind] at h
    obtain ⟨n, t, hn, h⟩ := Calculation.andThen_eq_ok h
    cases h
    obtain ⟨a, e, ha, he, proper, rfl⟩ := Number.toRat?_power (Calculation.start_orFail_eq_ok hn) hz
    exact ⟨a, e, ha, he, if_pos ⟨rfl, proper⟩⟩

theorem combine_exactly {op : Number → Number → Number} {f : ℚ → ℚ → ℚ}
    (hop : ∀ {m n : Number} {z : ℚ}, (op m n).toRat? = some z →
      ∃ a b, m.toRat? = some a ∧ n.toRat? = some b ∧ z = f a b)
    {x y q : Quantity} {z : ℚ} {s s' : σ}
    (h : (combine op (rates.map FixedRates.toSource) x y).start s = (.ok q, s'))
    (hz : q.number.toRat? = some z) :
    ∃ a b, x.number.toRat? = some a ∧ y.number.toRat? = some b ∧
      ExactQuantity.combine? rates f ⟨a, x.unit⟩ ⟨b, y.unit⟩ = some z := by
  obtain ⟨m, u⟩ := x
  obtain ⟨n, v⟩ := y
  unfold combine at h
  split at h
  next same =>
    cases h
    obtain ⟨a, b, ha, hb, rfl⟩ := hop hz
    exact ⟨a, b, ha, hb, if_pos same⟩
  next different =>
    cases u with
    | none => cases h
    | some u =>
      cases v with
      | none => cases h
      | some v =>
        have h : Calculation.start (_ >>= _) s = _ := h
        rw [Calculation.start_bind] at h
        obtain ⟨k, t, hk, h⟩ := Calculation.andThen_eq_ok h
        cases h
        obtain ⟨a, c, ha, hc, rfl⟩ := hop hz
        obtain ⟨b, hb, hexp⟩ := Measure.express?_of_convert hk hc
        refine ⟨a, b, ha, hb, ?_⟩
        rw [ExactQuantity.combine?, if_neg different]
        show (v.express? rates u b).bind _ = _
        rw [hexp, Option.bind_some]

theorem convertTo_exactly {x y q : Quantity} {z b : ℚ} {s s' : σ}
    (h : (convertTo (rates.map FixedRates.toSource) x y).start s = (.ok q, s'))
    (hz : q.number.toRat? = some z) (hb : y.number.toRat? = some b) :
    x.ExactlyBy rates .convert y z := by
  obtain ⟨m, u⟩ := x
  obtain ⟨n, v⟩ := y
  cases u with
  | none => cases h
  | some u =>
    cases v with
    | none => cases h
    | some v =>
      have h : Calculation.start (_ >>= _) s = _ := h
      rw [Calculation.start_bind] at h
      obtain ⟨k, t, hk, h⟩ := Calculation.andThen_eq_ok h
      cases h
      obtain ⟨a, ha, hexp⟩ := Measure.express?_of_convert hk hz
      exact ⟨a, b, ha, hb, hexp⟩

end Quantity

/-- An operator with an exact result has had exact operands, and its result is the true one.  To
convert, the right number has to be exact by itself, for it does not count. -/
theorem Operator.exactly?_apply {op : Operator} {x y q : Quantity} {z : ℚ} {s s' : σ}
    (h : (op.apply (rates.map FixedRates.toSource) x y).start s = (.ok q, s'))
    (hz : q.number.toRat? = some z) (hy : op = .convert → ∃ b, y.number.toRat? = some b) :
    ∃ a b, x.number.toRat? = some a ∧ y.number.toRat? = some b ∧
      op.exactly? rates ⟨a, x.unit⟩ ⟨b, y.unit⟩ = some ⟨z, q.unit⟩ := by
  have hunit : op.unit? x.unit y.unit = some q.unit := by
    have agrees := op.apply_agrees (answers_of_mem rates) x y s
    rw [h] at agrees
    exact agrees
  have hnumber : x.ExactlyBy rates op y z := by
    cases op with
    | power => exact Quantity.power_exactly h hz
    | multiply => exact Quantity.multiply_exactly h hz
    | divide => exact Quantity.divide_exactly h hz
    | add =>
      exact Quantity.combine_exactly (Number.Operation.toRat?_apply Number.addition_computes) h hz
    | subtract =>
      exact
        Quantity.combine_exactly (Number.Operation.toRat?_apply Number.subtraction_computes) h hz
    | convert =>
      obtain ⟨b, hb⟩ := hy rfl
      exact Quantity.convertTo_exactly h hz hb
  obtain ⟨a, b, ha, hb, hn⟩ := hnumber
  refine ⟨a, b, ha, hb, ?_⟩
  rw [exactly?, hunit, hn]
  rfl

/-! ## Trees -/

namespace Expr

theorem exactly?_of_value {e : Expr} (he : e.ConvertsToUnits) {s s' : σ} {q : Quantity} {z : ℚ}
    (h : (e.value (rates.map FixedRates.toSource)).start s = (.ok q, s'))
    (hz : q.number.toRat? = some z) : e.exactly? rates = some ⟨z, q.unit⟩ := by
  induction e generalizing s s' q z with
  | leaf p =>
    cases h
    rw [exactly?, hz, Option.map_some]
  | negate e ih =>
    rw [start_value_negate] at h
    obtain ⟨x, t, hx, h⟩ := Calculation.andThen_eq_ok h
    cases h
    obtain ⟨a, ha, rfl⟩ := Number.toRat?_negate hz
    rw [exactly?, ih he hx ha]
    rfl
  | binary op l r ihl ihr =>
    rw [start_value_binary] at h
    obtain ⟨x, t, hx, h⟩ := Calculation.andThen_eq_ok h
    obtain ⟨y, t', hy, h⟩ := Calculation.andThen_eq_ok h
    -- The right operand of a conversion is a unit, so its number is one.
    have target : op = .convert → ∃ b, y.number.toRat? = some b := by
      rintro rfl
      obtain ⟨-, u, rfl⟩ := he
      cases hy
      exact ⟨1, Number.toRat?_one⟩
    have hparts : l.ConvertsToUnits ∧ r.ConvertsToUnits := by
      cases op with
      | convert =>
        obtain ⟨hl, u, rfl⟩ := he
        exact ⟨hl, trivial⟩
      | _ => exact he
    obtain ⟨a, b, ha, hb, happly⟩ := Operator.exactly?_apply h hz target
    rw [exactly?, ihl hparts.1 hx ha, ihr hparts.2 hy hb]
    exact happly

/-- An exact answer is never a rounded one: a value that is held exactly is the value in unbounded
exact arithmetic, number and unit. -/
theorem exactly?_of_evaluate {e : Expr} (he : e.ConvertsToUnits) {s s' : σ} {q : Quantity} {z : ℚ}
    (h : (e.evaluate (rates.map FixedRates.toSource)).start s = (.ok q, s'))
    (hz : q.number.toRat? = some z) : e.exactly? rates = some ⟨z, q.unit⟩ := by
  rw [evaluate_eq_value] at h
  exact exactly?_of_value he h hz

end Expr

end

/-- Three degrees Celsius and a third of a degree Fahrenheit, added up in Fahrenheit. -/
def mixedTemperatures : Expr :=
  .binary .convert
    (.binary .add (.leaf ⟨.whole 3, some (.fixed .celsius)⟩)
      (.binary .divide (.leaf ⟨.whole 1, some (.fixed .fahrenheit)⟩) (.leaf ⟨.whole 3, none⟩)))
    (.leaf (.oneOf (.fixed .fahrenheit)))

/-- The sum of the two temperatures. -/
def mixedTotal : Quantity :=
  ⟨.ratio ⟨86, 15, by decide, by decide, by decide, by decide⟩, some (.fixed .fahrenheit)⟩

theorem mixedTemperatures_exact :
    mixedTemperatures.ConvertsToUnits ∧
    ((mixedTemperatures.evaluate ((none : Option FixedRates).map FixedRates.toSource)).start ()).1 =
      .ok mixedTotal ∧
    ∃ z, mixedTotal.number.toRat? = some z ∧
      mixedTemperatures.exactly? none = some ⟨z, some (.fixed .fahrenheit)⟩ := by
  have he : mixedTemperatures.ConvertsToUnits := ⟨⟨trivial, trivial, trivial⟩, _, rfl⟩
  have hv : (mixedTemperatures.evaluate ((none : Option FixedRates).map FixedRates.toSource)).start
      () = (.ok mixedTotal, ()) := by
    rw [Expr.evaluate_eq_value]
    rfl
  exact ⟨he, congrArg Prod.fst hv, _, rfl, Expr.exactly?_of_evaluate he hv rfl⟩

end Reckoner
