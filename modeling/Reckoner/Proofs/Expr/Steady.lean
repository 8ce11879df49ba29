import Reckoner.Proofs.Expr.Question

/-!
# Evaluation with steady rates

A source that always answers in the same way, and remembers nothing, might as well have no states.
An evaluation with it comes to the same outcome from every state, of whatever kind the states are,
and leaves the state alone (`start_evaluate_steady`).
-/

namespace Reckoner

/-- The answer to each question for a rate, the same whenever it is asked. -/
abbrev SteadyRates := String → String → Except Fault Ratio

/-- Steady rates as a source, which remembers nothing. -/
def SteadyRates.toSource {σ : Type} (rates : SteadyRates) : RateSource σ :=
  ⟨fun source target => .ofExcept (rates source target)⟩

namespace Calculation

variable {σ α β : Type}

/-- The outcome is that of a calculation without states, and the state is left alone. -/
def Follows (c : Calculation σ α) (d : Calculation Unit α) : Prop :=
  ∀ s, c.start s = ((d.start ()).1, s)

namespace Follows

theorem pure (a : α) : Follows (σ := σ) (pure a) (pure a) := fun _ => rfl

theorem ofExcept (result : Except Fault α) : Follows (σ := σ) (ofExcept result) (ofExcept result) :=
  fun _ => rfl

theorem bind {c : Calculation σ α} {d : Calculation Unit α} {f : α → Calculation σ β}
    {g : α → Calculation Unit β} (hc : Follows c d) (hf : ∀ a, Follows (f a) (g a)) :
    Follows (c >>= f) (d >>= g) := by
  intro s
  rw [start_bind, start_bind, hc s]
  match d.start () with
  | (.ok a, ()) => exact hf a s
  | (.error e, ()) => rfl

theorem map {c : Calculation σ α} {d : Calculation Unit α} (hc : Follows c d) (f : α → β) :
    Follows (do let a ← c; Pure.pure (f a)) (do let a ← d; Pure.pure (f a)) :=
  hc.bind fun _ => pure _

end Follows

end Calculation

open Calculation

section
variable {σ : Type} (rates : Option SteadyRates)

theorem Calculation.Need.run_follows {α : Type} (need : Need α) :
    (need.run (rates.map SteadyRates.toSource : Option (RateSource σ))).Follows
      (need.run (rates.map SteadyRates.toSource)) := by
  cases need with
  | nothing result => exact .ofExcept result
  | answer a b next =>
    cases rates with
    | none => exact fun _ => rfl
    | some answer => exact (Follows.ofExcept (answer a b)).map next

theorem Operator.apply_follows (op : Operator) (x y : Quantity) :
    (op.apply (rates.map SteadyRates.toSource : Option (RateSource σ)) x y).Follows
      (op.apply (rates.map SteadyRates.toSource) x y) := by
  obtain ⟨need, -, hrun⟩ := op.exists_need x y
  rw [hrun, hrun]
  exact need.run_follows rates

namespace Expr

theorem value_follows (e : Expr) :
    (e.value (rates.map SteadyRates.toSource : Option (RateSource σ))).Follows
      (e.value (rates.map SteadyRates.toSource)) := by
  induction e with
  | leaf q => exact .pure q
  | negate e ih => exact ih.map _
  | binary op l r ihl ihr =>
    exact ihl.bind fun x => ihr.bind fun y => op.apply_follows rates x y

/-- What an expression comes to with steady rates. -/
def outcome (e : Expr) : Except Fault Quantity :=
  ((e.evaluate (rates.map SteadyRates.toSource)).start ()).1

/-- With steady rates, an expression comes to the same from every state, which is left alone. -/
theorem start_evaluate_steady (e : Expr) (s : σ) :
    (e.evaluate (rates.map SteadyRates.toSource)).start s = (e.outcome rates, s) := by
  rw [outcome, evaluate_eq_value, evaluate_eq_value]
  exact value_follows rates e s

end Expr

end

end Reckoner
