import Reckoner.Proofs.Expr.Evaluation
import Reckoner.Proofs.Number.GuardedPower

/-!
# Guarded evaluation

Evaluation on guarded numbers.  A crash is no failed calculation; it raises an alarm, a fault of any
choice.  Every operator wants canonical operands.

From a tree with canonical numbers no alarm is raised, whichever fault it is (`value_eq`), because
what an operator makes of two quantities is canonical again.
-/

namespace Reckoner

/-- The numbers at the leaves are canonical. -/
def Expr.Canonical : Expr → Prop
  | .leaf q => q.number.Canonical
  | .negate e => e.Canonical
  | .binary _ l r => l.Canonical ∧ r.Canonical

namespace Guarded

variable {σ α β : Type} (alarm : Crash → Fault) (source : Option (RateSource σ))

/-- A result without a crash; a crash raises the alarm. -/
def orAlarm (result : Except Crash α) : Calculation σ α :=
  Calculation.ofExcept (result.mapError alarm)

/-! ## Conversions with guards -/

/-- A temperature on the other scale. -/
def convertTemperature (x : Number) : Measure → Measure → Except Crash (Option Number)
  | .fixed .celsius, .fixed .fahrenheit => do
    let y ← mul x Measure.degreeRatio
    some <$> add y Measure.freezingPoint
  | .fixed .fahrenheit, .fixed .celsius => do
    let y ← sub x Measure.freezingPoint
    div y Measure.degreeRatio
  | _, _ => pure none

/-- A number in another unit by the factors of the two. -/
def convertByFactor (x : Number) (a b : Measure) : Except Crash (Option Number) :=
  match a.factor?, b.factor? with
  | some fromBase, some toBase => do
    match ← div fromBase toBase with
    | some rate => some <$> mul rate x
    | none => pure none
  | _, _ => pure none

/-- An amount of money in another currency. -/
def convertMoney (x : Number) (a b : String) : Calculation σ Number :=
  match source with
  | none => Calculation.fail (.conversion .noRates)
  | some s => do
    let rate ← s.rate a b
    orAlarm alarm (mul x (.collapse rate))

/-- A number given in the first unit, expressed in the second. -/
def convert (x : Number) (a b : Measure) : Calculation σ Number :=
  match a, b with
  | .currency a, .currency b => convertMoney alarm source x a b
  | _, _ =>
    match Measure.commonCategory? a b with
    | none => Calculation.fail .differentUnits
    | some .temperature => do
      let y ← orAlarm alarm (convertTemperature x a b)
      Calculation.orFail y (.conversion .noPath)
    | some _ => do
      let y ← orAlarm alarm (convertByFactor x a b)
      Calculation.orFail y (.conversion .noPath)

/-! ## Operators with guards -/

/-- The quantity with the opposite sign. -/
def negateQuantity (x : Quantity) : Calculation σ Quantity := do
  let n ← orAlarm alarm (negate x.number)
  pure { x with number := n }

/-- The left quantity in the unit of the right one. -/
def convertTo (x y : Quantity) : Calculation σ Quantity :=
  match x.unit, y.unit with
  | some u, some v => do
    let n ← convert alarm source x.number u v
    pure ⟨n, some v⟩
  | _, _ => Calculation.fail .missingUnit

/-- The left quantity's number to the power of the right one. -/
def raise (x y : Quantity) : Calculation σ Quantity :=
  match y.unit with
  | some _ => Calculation.fail .exponentWithUnit
  | none => do
    let n ← orAlarm alarm (power x.number y.number)
    let n ← Calculation.orFail n .divisionByZero
    pure ⟨n, x.unit⟩

/-- Product. -/
def multiply (x y : Quantity) : Calculation σ Quantity := do
  let n ← orAlarm alarm (mul x.number y.number)
  let unit ← x.singleUnit y
  pure ⟨n, unit⟩

/-- Quotient. -/
def divide (x y : Quantity) : Calculation σ Quantity := do
  let n ← orAlarm alarm (div x.number y.number)
  let n ← Calculation.orFail n .divisionByZero
  let unit ← x.singleUnit y
  pure ⟨n, unit⟩

/-- Sum or difference. -/
def combine (op : Number → Number → Except Crash Number) (x y : Quantity) :
    Calculation σ Quantity :=
  if x.unit = y.unit then do
    let n ← orAlarm alarm (op x.number y.number)
    pure ⟨n, x.unit⟩
  else
    match x.unit, y.unit with
    | some u, some v => do
      let m ← convert alarm source y.number v u
      let n ← orAlarm alarm (op x.number m)
      pure ⟨n, some u⟩
    | _, _ => Calculation.fail .differentUnits

/-- The quantity that an operator makes of two. -/
def operate : Operator → Quantity → Quantity → Calculation σ Quantity
  | .power => raise alarm
  | .multiply => multiply alarm
  | .divide => divide alarm
  | .add => combine alarm source add
  | .subtract => combine alarm source sub
  | .convert => convertTo alarm source

/-- The value of a tree; the operands of each operator have to be canonical. -/
def value : Expr → Calculation σ Quantity
  | .leaf q => pure q
  | .negate e => do
    let x ← value e
    negateQuantity alarm x
  | .binary op l r => do
    let x ← value l
    let y ← value r
    let _ ← orAlarm alarm (canonical x.number)
    let _ ← orAlarm alarm (canonical y.number)
    operate alarm source op x y

/-! ## Conversions without guards -/

theorem orAlarm_ok {result : Except Crash α} {a : α} (h : result = .ok a) :
    (orAlarm alarm result : Calculation σ α) = pure a := by
  rw [h]
  rfl

theorem orAlarm_bind {result : Except Crash α} {a : α} (h : result = .ok a)
    (next : α → Calculation σ β) : (orAlarm alarm result >>= next) = next a := by
  rw [orAlarm_ok alarm h, pure_bind]

theorem convertTemperature_eq {x : Number} (hx : x.Canonical) (u v : Measure) :
    convertTemperature x u v = .ok (Measure.convertTemperature? x u v) := by
  unfold convertTemperature
  split
  next =>
    have hscaled : (x.mul Measure.degreeRatio).Canonical := Number.Operation.apply_canonical ..
    rw [mul_eq hx Measure.degreeRatio_canonical]
    show some <$> add (x.mul Measure.degreeRatio) Measure.freezingPoint = _
    rw [add_eq hscaled Measure.freezingPoint_canonical]
    rfl
  next =>
    have hshifted : (x.sub Measure.freezingPoint).Canonical := Number.Operation.apply_canonical ..
    rw [sub_eq hx Measure.freezingPoint_canonical]
    exact div_eq hshifted Measure.degreeRatio_canonical
  next notUp notDown =>
    rw [Measure.convertTemperature?]
    · rfl
    · exact notUp
    · exact notDown

theorem convertByFactor_eq {x : Number} (hx : x.Canonical) (u v : Measure) :
    convertByFactor x u v = .ok (Measure.convertByFactor? x u v) := by
  unfold convertByFactor Measure.convertByFactor?
  cases hf : u.factor? with
  | none => rfl
  | some f =>
    cases hg : v.factor? with
    | none => rfl
    | some g =>
      have hdiv := div_eq (Measure.factor?_canonical hf) (Measure.factor?_canonical hg)
      show (div f g >>= _) = Except.ok ((f.div? g).bind _)
      rw [hdiv]
      cases hrate : f.div? g with
      | none => rfl
      | some rate =>
        show some <$> mul rate x = _
        rw [mul_eq (Number.div?_canonical hrate) hx]
        rfl

theorem convertMoney_eq {x : Number} (hx : x.Canonical) (a b : String) :
    convertMoney alarm source x a b = Measure.convertMoney source x a b := by
  cases source with
  | none => rfl
  | some rates =>
    show (rates.rate a b >>= fun rate => orAlarm alarm (mul x (.collapse rate))) =
      (rates.rate a b >>= fun rate => pure (x.mul (.collapse rate)))
    congr 1
    funext rate
    exact orAlarm_ok alarm (mul_eq hx (Number.collapse_canonical rate))

/-- Conversion of a canonical number raises no alarm. -/
theorem convert_eq {x : Number} (hx : x.Canonical) (u v : Measure) :
    convert alarm source x u v = Measure.convert source x u v := by
  unfold convert
  split
  next a b => exact convertMoney_eq alarm source hx a b
  next notMoney =>
    rw [Measure.convert]
    · cases Measure.commonCategory? u v with
      | none => rfl
      | some category =>
        cases category with
        | temperature => exact orAlarm_bind alarm (convertTemperature_eq hx u v) _
        | _ => exact orAlarm_bind alarm (convertByFactor_eq hx u v) _
    · exact notMoney

/-! ## Operators without guards -/

section

variable {x y : Quantity} (hx : x.number.Canonical) (hy : y.number.Canonical)

include hx

theorem negateQuantity_eq :
    (negateQuantity alarm x : Calculation σ Quantity) = pure x.negate :=
  orAlarm_bind alarm (negate_eq hx) _

theorem convertTo_eq : convertTo alarm source x y = Quantity.convertTo source x y := by
  obtain ⟨m, u⟩ := x
  obtain ⟨n, v⟩ := y
  cases u with
  | none => rfl
  | some u =>
    cases v with
    | none => rfl
    | some v => exact congrArg (· >>= _) (convert_eq alarm source hx u v)

include hy

theorem raise_eq : (raise alarm x y : Calculation σ Quantity) = x.power y := by
  unfold raise Quantity.power
  cases y.unit with
  | some u => rfl
  | none => exact orAlarm_bind alarm (power_eq hx hy) _

theorem multiply_eq : (multiply alarm x y : Calculation σ Quantity) = x.multiply y :=
  orAlarm_bind alarm (mul_eq hx hy) _

theorem divide_eq : (divide alarm x y : Calculation σ Quantity) = x.divide y :=
  orAlarm_bind alarm (div_eq hx hy) _

theorem combine_eq {op : Number → Number → Except Crash Number} {op' : Number → Number → Number}
    (hop : ∀ {m n : Number}, m.Canonical → n.Canonical → op m n = .ok (op' m n)) :
    combine alarm source op x y = Quantity.combine op' source x y := by
  unfold combine Quantity.combine
  split
  next => exact orAlarm_bind alarm (hop hx hy) _
  next =>
    cases x.unit with
    | none => rfl
    | some u =>
      cases y.unit with
      | none => rfl
      | some v =>
        show (convert alarm source y.number v u >>= _) = (Measure.convert source y.number v u >>= _)
        rw [convert_eq alarm source hy]
        refine Calculation.bind_congr_of_start fun m s s' hm => ?_
        exact orAlarm_bind alarm (hop hx (Measure.convert_canonical hm)) _

/-- On canonical operands an operator raises no alarm. -/
theorem operate_eq (op : Operator) : operate alarm source op x y = op.apply source x y := by
  cases op with
  | power => exact raise_eq alarm hx hy
  | multiply => exact multiply_eq alarm hx hy
  | divide => exact divide_eq alarm hx hy
  | add => exact combine_eq alarm source hx hy add_eq
  | subtract => exact combine_eq alarm source hx hy sub_eq
  | convert => exact convertTo_eq alarm source hx

end

/-! ## Trees without guards -/

variable {source}

/-- The value of a tree with canonical numbers is canonical. -/
theorem value_canonical {e : Expr} (he : e.Canonical) {s s' : σ} {q : Quantity}
    (h : (e.value source).start s = (.ok q, s')) : q.number.Canonical := by
  induction e generalizing s s' q with
  | leaf p =>
    cases h
    exact he
  | negate e ih =>
    rw [Expr.start_value_negate] at h
    obtain ⟨x, t, hx, h⟩ := Calculation.andThen_eq_ok h
    cases h
    exact Number.negate_canonical (ih he hx)
  | binary op l r _ _ =>
    rw [Expr.start_value_binary] at h
    obtain ⟨x, t, -, h⟩ := Calculation.andThen_eq_ok h
    obtain ⟨y, t', -, h⟩ := Calculation.andThen_eq_ok h
    exact Operator.apply_canonical h

/-- From a tree with canonical numbers no alarm is raised. -/
theorem value_eq {e : Expr} (he : e.Canonical) : value alarm source e = e.value source := by
  induction e with
  | leaf q => rfl
  | negate e ih =>
    rw [value, ih he, Expr.value]
    refine Calculation.bind_congr_of_start fun x s s' hx => ?_
    have operand : e.Canonical := he
    exact negateQuantity_eq alarm (value_canonical operand hx)
  | binary op l r ihl ihr =>
    rw [value, ihl he.1, ihr he.2, Expr.value]
    refine Calculation.bind_congr_of_start fun x s s' hx => ?_
    refine Calculation.bind_congr_of_start fun y t t' hy => ?_
    have hx := value_canonical he.1 hx
    have hy := value_canonical he.2 hy
    rw [orAlarm_bind alarm (canonical_eq hx), orAlarm_bind alarm (canonical_eq hy)]
    exact operate_eq alarm source hx hy op

end Guarded

end Reckoner
