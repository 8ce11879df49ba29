import Reckoner.Proofs.Expr.Units

/-!
# The stacks of an evaluation

How many values the tasks of a stage leave in the end can be told from the tasks alone, and no step
changes it.  An evaluation begins with one visit and no values, so it is to leave one value.  It
follows that every stage that is reached has the values that its next task takes, and that a single
value is left when the tasks are done (`Supplied`).

An evaluation asks its source for the exchanges of its operators, those of the left operand first,
then those of the right one, then that of the operator itself, as far as it gets before a fault
(`questions`).
-/

namespace Reckoner

/-! ## Questions in order -/

/-- The questions that a calculation asks. -/
abbrev Questions := List (String × String)

/-- The source with a record of the questions that it was asked. -/
def RateSource.recorded {σ : Type} (rates : RateSource σ) : RateSource (σ × Questions) :=
  ⟨fun a b => ExceptT.mk fun (s, asked) =>
    let (answer, s') := (rates.rate a b).start s
    (answer, s', asked ++ [(a, b)])⟩

namespace Calculation

variable {σ α β : Type}

/-- The questions asked after a calculation, which has to end in a value. -/
def later (c : Calculation σ α) (questions : α → σ → Questions) (s : σ) : Questions :=
  match c.start s with
  | (.ok a, s') => questions a s'
  | (.error _, _) => []

theorem later_of_ok {c : Calculation σ α} {questions : α → σ → Questions} {s s' : σ} {a : α}
    (h : c.start s = (.ok a, s')) : later c questions s = questions a s' := by
  rw [later, h]

theorem later_of_error {c : Calculation σ α} {questions : α → σ → Questions} {s s' : σ}
    {f : Fault} (h : c.start s = (.error f, s')) : later c questions s = [] := by
  rw [later, h]

/-- The first calculation is the second with a record, to which it adds the given questions. -/
def Records (c' : Calculation (σ × Questions) α) (c : Calculation σ α) (asks : σ → Questions) :
    Prop :=
  ∀ s asked, c'.start (s, asked) = ((c.start s).1, (c.start s).2, asked ++ asks s)

namespace Records

theorem ofExcept (result : Except Fault α) :
    Records (σ := σ) (ofExcept result) (ofExcept result) fun _ => [] := by
  intro s asked
  simp

theorem bind {c' : Calculation (σ × Questions) α} {c : Calculation σ α} {asks : σ → Questions}
    {f' : α → Calculation (σ × Questions) β} {f : α → Calculation σ β}
    {more : α → σ → Questions} (hc : Records c' c asks) (hf : ∀ a, Records (f' a) (f a) (more a)) :
    Records (c' >>= f') (c >>= f) fun s => asks s ++ later c more s := by
  intro s asked
  rw [start_bind, start_bind, hc]
  match hrun : c.start s with
  | (.ok a, s') => simp only [later_of_ok hrun, andThen_ok, hf a s', List.append_assoc]
  | (.error f, s') => simp only [later_of_error hrun, andThen_error, List.append_nil]

theorem map {c' : Calculation (σ × Questions) α} {c : Calculation σ α} {asks : σ → Questions}
    (hc : Records c' c asks) (f : α → β) :
    Records (c' >>= fun a => pure (f a)) (c >>= fun a => pure (f a)) asks := by
  intro s asked
  rw [start_bind, start_bind, hc]
  match c.start s with
  | (.ok a, s') => rfl
  | (.error f, s') => rfl

theorem run (rates : RateSource σ) (need : Need α) :
    Records (need.run (some rates.recorded)) (need.run (some rates))
      fun _ => need.question?.toList := by
  cases need with
  | nothing result => exact ofExcept result
  | answer a b next =>
    have hrate : Records (rates.recorded.rate a b) (rates.rate a b) fun _ => [(a, b)] :=
      fun _ _ => rfl
    exact hrate.map next

end Records

end Calculation

open Calculation Relation

namespace Expr

variable {σ : Type}

/-- The questions that the evaluation of a tree asks, in order. -/
def questions (rates : RateSource σ) : Expr → σ → Questions
  | .leaf _, _ => []
  | .negate e, s => e.questions rates s
  | .binary op l r, s =>
    l.questions rates s ++ later (l.value (some rates)) (fun x s =>
      r.questions rates s ++ later (r.value (some rates)) (fun y _ =>
        (op.exchange? x.unit y.unit).toList) s) s

theorem value_records (rates : RateSource σ) (e : Expr) :
    Records (e.value (some rates.recorded)) (e.value (some rates)) (e.questions rates) := by
  induction e with
  | leaf q => exact .ofExcept (.ok q)
  | negate e ih => exact ih.map _
  | binary op l r ihl ihr =>
    refine ihl.bind fun x => ihr.bind fun y => ?_
    obtain ⟨need, hquestion, hrun⟩ := op.exists_need x y
    rw [hrun, hrun, ← hquestion]
    exact .run rates need

/-! ## Values on the stack -/

/-- How many values tasks leave, from how many there are; none if a task lacks values. -/
def Task.height? : List Task → Nat → Option Nat
  | [], n => some n
  | .visit _ :: ts, n => height? ts (n + 1)
  | .negate :: ts, n + 1 => height? ts (n + 1)
  | .apply _ :: ts, n + 2 => height? ts (n + 1)
  | _, _ => none

/-- How many values the tasks of a stage leave. -/
def Stage.height? (c : Stage σ) : Option Nat := Task.height? c.tasks c.values.length

/-- There are the values that the next task takes, and a single one when nothing is left to do. -/
def Stage.Supplied (c : Stage σ) : Prop :=
  match c.tasks with
  | [] => c.values.length = 1
  | .visit _ :: _ => True
  | .negate :: _ => 1 ≤ c.values.length
  | .apply _ :: _ => 2 ≤ c.values.length

section
variable {source : Option (RateSource σ)} {c d : Stage σ}

/-- No step changes how many values will be left. -/
theorem Step.height?_eq (h : Step source c d) : d.height? = c.height? := by
  cases h <;> rfl

theorem LeadsTo.height?_eq (h : LeadsTo source c d) : d.height? = c.height? := by
  induction h with
  | refl => rfl
  | tail _ hstep ih => exact hstep.height?_eq.trans ih

theorem Stage.supplied_of_height? (h : c.height? = some 1) : c.Supplied := by
  obtain ⟨ts, vs, s⟩ := c
  match ts, vs with
  | [], vs => exact Option.some.inj h
  | .visit _ :: _, _ => trivial
  | .negate :: _, [] => cases h
  | .negate :: _, _ :: _ => exact Nat.le_add_left _ _
  | .apply _ :: _, [] | .apply _ :: _, [_] => cases h
  | .apply _ :: _, _ :: _ :: _ => exact Nat.le_add_left _ _

/-- A stage that has the values it needs goes on or is the last. -/
theorem Stage.Supplied.step_or_stops (h : c.Supplied) :
    (∃ d, Step source c d) ∨ ∃ outcome, Stops source c outcome := by
  obtain ⟨ts, vs, s⟩ := c
  match ts, vs with
  | [], [] => cases h
  | [], [v] => exact .inr ⟨_, .value⟩
  | [], _ :: _ :: _ => cases h
  | .visit (.leaf _) :: _, _ => exact .inl ⟨_, .leaf⟩
  | .visit (.negate _) :: _, _ => exact .inl ⟨_, .enterNegate⟩
  | .visit (.binary ..) :: _, _ => exact .inl ⟨_, .enterBinary⟩
  | .negate :: _, [] => cases h
  | .negate :: _, _ :: _ => exact .inl ⟨_, .negate⟩
  | .apply _ :: _, [] | .apply _ :: _, [_] => simp [Supplied] at h
  | .apply op :: _, y :: x :: _ =>
    match hrun : (op.apply source x y).start s with
    | (.ok v, s') => exact .inl ⟨_, .apply hrun⟩
    | (.error f, s') => exact .inr ⟨_, .fault hrun⟩

/-- Every stage of the evaluation of a tree has the values that it needs. -/
theorem LeadsTo.supplied {e : Expr} {s : σ} (h : LeadsTo source (.start e s) c) : c.Supplied :=
  Stage.supplied_of_height? h.height?_eq

/-- An evaluation ends where the recursion over the tree does. -/
theorem exists_stops (source : Option (RateSource σ)) (e : Expr) (s : σ) :
    ∃ c, LeadsTo source (.start e s) c ∧ Stops source c ((e.value source).start s) := by
  have hvisit := delivers_visit source e [] [] s
  match (e.value source).start s, hvisit with
  | (.ok v, s'), hleads => exact ⟨_, hleads, .value⟩
  | (.error f, s'), hstops => exact hstops

end

/-! ## The loop and the recursion -/

/-- The evaluation of a tree with two stacks is the recursion over the tree.  It comes to the same
value or fault and leaves the source in the same state; it asks the same questions in the same
order; at every stage it has the values that its next task takes, it goes on or stops there, and
what it comes to from there on is the outcome; and it stops with that outcome, a value being the
only one that is left. -/
theorem evaluate_by_stacks (source : Option (RateSource σ)) (e : Expr) (s : σ) :
    (e.evaluate source).start s = (e.value source).start s ∧
    (∀ rates, source = some rates → (e.evaluate (some rates.recorded)).start (s, []) =
      (((e.value source).start s).1, ((e.value source).start s).2, e.questions rates s)) ∧
    (∀ c, LeadsTo source (.start e s) c → c.Supplied ∧
      ((∃ d, Step source c d) ∨ ∃ outcome, Stops source c outcome) ∧
      c.run source = (e.evaluate source).start s) ∧
    (∃ c, LeadsTo source (.start e s) c ∧ Stops source c ((e.evaluate source).start s)) ∧
    (∀ v s', (e.evaluate source).start s = (.ok v, s') ↔
      LeadsTo source (.start e s) ⟨[], [v], s'⟩) := by
  have hrun : ∀ c, LeadsTo source (.start e s) c → c.run source = (e.evaluate source).start s :=
    fun c h => h.run_eq.symm
  refine ⟨by rw [evaluate_eq_value], ?_, ?_, ?_, ?_⟩
  · rintro rates rfl
    rw [evaluate_eq_value, value_records rates e s [], List.nil_append]
  · intro c h
    exact ⟨h.supplied, h.supplied.step_or_stops, hrun c h⟩
  · rw [evaluate_eq_value]
    exact exists_stops source e s
  · intro v s'
    constructor
    · intro h
      have hvisit := delivers_visit source e [] [] s
      rw [← evaluate_eq_value, h] at hvisit
      exact hvisit
    · intro h
      rw [← hrun _ h]
      exact Stops.run_eq .value

/-- A forint and a euro, in euros. -/
def sumInEuros : Expr :=
  .binary .convert
    (.binary .add (.leaf (.oneOf (.currency "HUF"))) (.leaf (.oneOf (.currency "EUR"))))
    (.leaf (.oneOf (.currency "EUR")))

/-- What a forint and a euro are worth in euros, with a euro at 400 forints. -/
def sumInEurosValue : Quantity :=
  ⟨.ratio ⟨401, 400, by decide, by decide, by decide, by decide⟩, some (.currency "EUR")⟩

/-- Where the sum of a forint and a euro is due. -/
def sumInEurosDue : Stage Unit :=
  ⟨[.apply .add, .visit (.leaf (.oneOf (.currency "EUR"))), .apply .convert],
    [.oneOf (.currency "EUR"), .oneOf (.currency "HUF")], ()⟩

/-- The sum, which takes two values, asks for euros in forints; then the conversion asks for forints
in euros. -/
theorem sumInEuros_by_stacks :
    let rates : RateSource Unit := forintPrices.toSource
    (sumInEuros.evaluate (some rates.recorded)).start ((), []) =
      (.ok sumInEurosValue, (), [("EUR", "HUF"), ("HUF", "EUR")]) ∧
    LeadsTo (some rates) (.start sumInEuros ()) sumInEurosDue ∧ sumInEurosDue.Supplied ∧
    (sumInEurosDue.run (some rates)).1 = .ok sumInEurosValue := by
  intro rates
  obtain ⟨hsame, hquestions, hstages, -⟩ := evaluate_by_stacks (some rates) sumInEuros ()
  have hdue : LeadsTo (some rates) (.start sumInEuros ()) sumInEurosDue :=
    .head .enterBinary (.head .enterBinary (.head .leaf (.single .leaf)))
  obtain ⟨hsupplied, -, hrun⟩ := hstages _ hdue
  refine ⟨(hquestions _ rfl).trans rfl, hdue, hsupplied, ?_⟩
  rw [hrun, hsame]
  rfl

end Expr

end Reckoner
