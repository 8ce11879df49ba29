import Reckoner.Rates.Pivot

/-!
# Runs of calculations

How a calculation runs, step by step: what a question to the source leaves behind is what the next
one starts from, and the first fault ends the run.  A fixed table answers without touching the
state.
-/

namespace Reckoner

namespace Calculation

variable {σ α β : Type}

/-- Goes on from a value and the state that it was found in; a fault stays. -/
def andThen (outcome : Except Fault α × σ) (next : α → σ → Except Fault β × σ) :
    Except Fault β × σ :=
  match outcome with
  | (.ok a, s) => next a s
  | (.error e, s) => (.error e, s)

@[simp] theorem andThen_ok (a : α) (s : σ) (next : α → σ → Except Fault β × σ) :
    andThen (.ok a, s) next = next a s := rfl

@[simp] theorem andThen_error (e : Fault) (s : σ) (next : α → σ → Except Fault β × σ) :
    andThen (.error e, s) next = (.error e, s) := rfl

theorem andThen_eq_ok {outcome : Except Fault α × σ} {next : α → σ → Except Fault β × σ} {b : β}
    {s : σ} (h : andThen outcome next = (.ok b, s)) :
    ∃ a s', outcome = (.ok a, s') ∧ next a s' = (.ok b, s) := by
  match outcome with
  | (.ok a, s') => exact ⟨a, s', rfl, h⟩
  | (.error e, s') => cases h

@[simp] theorem start_pure (a : α) (s : σ) : start (pure a : Calculation σ α) s = (.ok a, s) := rfl

@[simp] theorem start_fail (e : CalcError) (s : σ) :
    start (fail e : Calculation σ α) s = (.error (.calculation e), s) := rfl

@[simp] theorem start_ofExcept (result : Except Fault α) (s : σ) :
    start (ofExcept result) s = (result, s) := rfl

@[simp] theorem start_orFail_some (a : α) (e : CalcError) (s : σ) :
    start (orFail (some a) e) s = (.ok a, s) := rfl

@[simp] theorem start_orFail_none (e : CalcError) (s : σ) :
    start (orFail (none : Option α) e) s = (.error (.calculation e), s) := rfl

@[simp] theorem start_bind (c : Calculation σ α) (f : α → Calculation σ β) (s : σ) :
    (c >>= f).start s = andThen (c.start s) fun a s' => (f a).start s' := by
  show (bind (m := StateM σ) c (ExceptT.bindCont f)) s = _
  simp only [bind, StateT.bind, start, ExceptT.run]
  cases c s with
  | mk outcome s' => cases outcome <;> rfl

/-- What comes after a calculation only matters for the values that it can have. -/
theorem bind_congr_of_start {c : Calculation σ α} {f g : α → Calculation σ β}
    (h : ∀ a s s', c.start s = (.ok a, s') → f a = g a) : c >>= f = c >>= g := by
  funext s
  show (c >>= f).start s = (c >>= g).start s
  rw [start_bind, start_bind]
  match hc : c.start s with
  | (.ok a, s') => rw [andThen_ok, andThen_ok, h a s s' hc]
  | (.error e, s') => rfl

theorem start_orFail_eq_ok {value : Option α} {e : CalcError} {a : α} {s s' : σ}
    (h : (orFail value e).start s = (.ok a, s')) : value = some a := by
  cases value with
  | some b =>
    cases h
    rfl
  | none => cases h

end Calculation

/-- Every question to the source is answered by a rate or by a failed conversion. -/
def RateSource.Answers {σ : Type} (rates : RateSource σ) : Prop :=
  ∀ a b s f s', (rates.rate a b).start s = (.error f, s') →
    ∃ why, f = .calculation (.conversion why)

namespace FixedRates

variable {σ : Type}

@[simp] theorem start_rate_toSource (rates : FixedRates) (a b : String) (s : σ) :
    (rates.toSource.rate a b).start s = ((rates.rate a b).mapError .calculation, s) := rfl

end FixedRates

end Reckoner
