import Reckoner.Proofs.Expr.Evaluation

/-!
# Questions for rates

An operator asks its source at most one question, and which one depends on its operands alone
(`Operator.exchange?`): a conversion asks for the rate between two currencies, and a sum or a
difference asks for it when the currencies of its operands differ.  With the answer the operator
goes on by itself.  So whatever the source is, an operator either needs no source at all or one
answer (`Operator.exists_need`), and what is to be proved for every operator is proved for these
two.
-/

namespace Reckoner

open Calculation

/-! ## What a calculation needs -/

namespace Calculation

variable {σ α β : Type}

/-- The answer of the source, if there is a source. -/
def ask (source : Option (RateSource σ)) (a b : String) : Calculation σ Ratio :=
  match source with
  | none => fail (.conversion .noRates)
  | some rates => rates.rate a b

/-- What is needed for a result: nothing, or one answer. -/
inductive Need (α : Type) where
  | nothing (result : Except Fault α)
  | answer (a b : String) (next : Ratio → α)

namespace Need

/-- The calculation that asks for what is needed. -/
def run (source : Option (RateSource σ)) : Need α → Calculation σ α
  | nothing result => ofExcept result
  | answer a b next => do
    let rate ← ask source a b
    pure (next rate)

/-- The question for what is needed. -/
def question? : Need α → Option (String × String)
  | nothing _ => none
  | answer a b _ => some (a, b)

/-- What is needed for a result that is worked on. -/
def map (f : α → β) : Need α → Need β
  | nothing result => nothing (result.map f)
  | answer a b next => answer a b fun rate => f (next rate)

@[simp] theorem question?_map (f : α → β) (need : Need α) :
    (need.map f).question? = need.question? := by
  cases need <;> rfl

theorem run_map (source : Option (RateSource σ)) (f : α → β) (need : Need α) :
    (need.map f).run source = need.run source >>= fun a => pure (f a) := by
  cases need with
  | nothing result => cases result <;> rfl
  | answer a b next => simp only [run, map, bind_assoc, pure_bind]

end Need

/-- With every source the calculation needs the same, and it asks the given question for it. -/
def Needs (question? : Option (String × String))
    (c : (σ : Type) → Option (RateSource σ) → Calculation σ α) : Prop :=
  ∃ need : Need α, need.question? = question? ∧ ∀ σ source, c σ source = need.run source

namespace Needs

variable {question? : Option (String × String)}
  {c : (σ : Type) → Option (RateSource σ) → Calculation σ α}

theorem nothing (result : Except Fault α) : Needs none fun _ _ => ofExcept result :=
  ⟨.nothing result, rfl, fun _ _ => rfl⟩

theorem fail (e : CalcError) : Needs (α := α) none fun _ _ => Calculation.fail e := nothing _

theorem orFail (value : Option α) (e : CalcError) : Needs none fun _ _ => orFail value e := by
  cases value with
  | none => exact nothing _
  | some a => exact nothing (.ok a)

theorem map (h : Needs question? c) (f : α → β) :
    Needs question? fun σ source => c σ source >>= fun a => pure (f a) := by
  obtain ⟨need, hquestion, hrun⟩ := h
  refine ⟨need.map f, (need.question?_map f).trans hquestion, fun σ source => ?_⟩
  show c σ source >>= _ = _
  rw [hrun, need.run_map]

end Needs

end Calculation

/-! ## What operators need -/

namespace Operator

/-- The currencies between which a sum exchanges money: from the right unit into another left
one. -/
def sumExchange? : Option Measure → Option Measure → Option (String × String)
  | some (.currency a), some (.currency b) => if a = b then none else some (b, a)
  | _, _ => none

/-- The currencies between which an operator exchanges money. -/
def exchange? : Operator → Option Measure → Option Measure → Option (String × String)
  | .convert, some (.currency a), some (.currency b) => some (a, b)
  | .add, u, v | .subtract, u, v => sumExchange? u v
  | _, _, _ => none

theorem sumExchange?_self (u : Option Measure) : sumExchange? u u = none := by
  match u with
  | some (.currency a) => exact if_pos rfl
  | some (.fixed u) | none => rfl

theorem sumExchange?_of_ne {u v : Measure} (h : u ≠ v) :
    sumExchange? (some u) (some v) = exchange? .convert (some v) (some u) := by
  match u, v with
  | .currency a, .currency b => exact if_neg fun same => h (congrArg _ same)
  | .currency _, .fixed _ | .fixed _, .currency _ | .fixed _, .fixed _ => rfl

end Operator

theorem Measure.convert_needs (x : Number) (u v : Measure) :
    Needs (Operator.exchange? .convert (some u) (some v)) fun _ source => convert source x u v := by
  match u, v with
  | .currency a, .currency b =>
    refine ⟨.answer a b fun rate => x.mul (.collapse rate), rfl, fun _ source => ?_⟩
    cases source <;> rfl
  | .currency _, .fixed _ | .fixed _, .currency _ | .fixed _, .fixed _ =>
    simp only [convert]
    show Needs none _
    split
    next => exact .fail _
    next => exact .orFail _ _
    next => exact .orFail _ _

namespace Quantity

theorem convertTo_needs (x y : Quantity) :
    Needs (Operator.exchange? .convert x.unit y.unit) fun _ source => convertTo source x y := by
  match x, y with
  | ⟨m, some u⟩, ⟨_, some v⟩ => exact (Measure.convert_needs m u v).map _
  | ⟨_, some (.currency _)⟩, ⟨_, none⟩ | ⟨_, some (.fixed _)⟩, ⟨_, none⟩ | ⟨_, none⟩, _ =>
    exact .fail _

theorem combine_needs (op : Number → Number → Number) (x y : Quantity) :
    Needs (Operator.sumExchange? x.unit y.unit) fun _ source => combine op source x y := by
  unfold combine
  split
  next same =>
    rw [same, Operator.sumExchange?_self]
    exact .nothing (.ok _)
  next different =>
    match x, y with
    | ⟨_, some u⟩, ⟨n, some v⟩ =>
      rw [Operator.sumExchange?_of_ne fun same => different (congrArg some same)]
      exact (Measure.convert_needs n v u).map _
    | ⟨_, some (.currency _)⟩, ⟨_, none⟩ | ⟨_, some (.fixed _)⟩, ⟨_, none⟩ | ⟨_, none⟩, ⟨_, none⟩
    | ⟨_, none⟩, ⟨_, some _⟩ => exact .fail _

theorem singleUnit_needs (x y : Quantity) : Needs none fun _ _ => singleUnit x y := .nothing _

theorem power_needs (x y : Quantity) : Needs none fun _ _ => x.power y := by
  unfold power
  split
  next => exact .fail _
  next => exact (Needs.orFail _ _).map _

theorem divide_needs (x y : Quantity) : Needs none fun _ _ => x.divide y := by
  unfold divide
  cases x.number.div? y.number with
  | none => exact .fail _
  | some z => exact (singleUnit_needs x y).map _

end Quantity

/-- An operator needs the rate of the exchange that it makes, if it makes one, and otherwise
nothing. -/
theorem Operator.exists_need (op : Operator) (x y : Quantity) :
    ∃ need : Need Quantity, need.question? = op.exchange? x.unit y.unit ∧
      ∀ (σ : Type) (source : Option (RateSource σ)), op.apply source x y = need.run source := by
  cases op with
  | power => exact x.power_needs y
  | multiply => exact (x.singleUnit_needs y).map _
  | divide => exact x.divide_needs y
  | add => exact Quantity.combine_needs Number.add x y
  | subtract => exact Quantity.combine_needs Number.sub x y
  | convert => exact x.convertTo_needs y

end Reckoner
