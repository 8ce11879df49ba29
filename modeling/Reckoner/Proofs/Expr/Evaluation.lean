import Mathlib.Logic.Relation
import Reckoner.Expr.Evaluate
import Reckoner.Proofs.Rates.Source

/-!
# Evaluation by recursion

An evaluation goes from stage to stage.  A stage holds the tasks still to be done, the values found
so far and the state of the source; a step carries out the first task.  Wherever a visit to a tree
begins, it ends with the value of the tree on top of the same values and before the same tasks, or a
fault stops the evaluation there (`delivers_visit`).

So the loop and the recursion over the tree are the same calculation (`evaluate_eq_value`), and what
is proved about the recursion holds for the loop.
-/

namespace Reckoner.Expr

open Calculation Relation

variable {σ : Type} (source : Option (RateSource σ))

/-! ## Stages -/

/-- Where an evaluation stands. -/
structure Stage (σ : Type) where
  tasks : List Task
  values : List Quantity
  state : σ

/-- The stage at which the evaluation of a tree begins. -/
def Stage.start (e : Expr) (s : σ) : Stage σ := ⟨[.visit e], [], s⟩

/-- The outcome of an evaluation from a stage on. -/
def Stage.run (c : Stage σ) : Except Fault Quantity × σ := runTasks source c.tasks c.values c.state

/-- The first task is carried out and the evaluation goes on. -/
inductive Step : Stage σ → Stage σ → Prop where
  | leaf {q : Quantity} {ts : List Task} {vs : List Quantity} {s : σ} :
    Step ⟨.visit (.leaf q) :: ts, vs, s⟩ ⟨ts, q :: vs, s⟩
  | enterNegate {e : Expr} {ts : List Task} {vs : List Quantity} {s : σ} :
    Step ⟨.visit (.negate e) :: ts, vs, s⟩ ⟨.visit e :: .negate :: ts, vs, s⟩
  | enterBinary {op : Operator} {l r : Expr} {ts : List Task} {vs : List Quantity} {s : σ} :
    Step ⟨.visit (.binary op l r) :: ts, vs, s⟩
      ⟨.visit l :: .visit r :: .apply op :: ts, vs, s⟩
  | negate {v : Quantity} {ts : List Task} {vs : List Quantity} {s : σ} :
    Step ⟨.negate :: ts, v :: vs, s⟩ ⟨ts, v.negate :: vs, s⟩
  | apply {op : Operator} {x y v : Quantity} {ts : List Task} {vs : List Quantity} {s s' : σ} :
    (op.apply source x y).start s = (.ok v, s') →
    Step ⟨.apply op :: ts, y :: x :: vs, s⟩ ⟨ts, v :: vs, s'⟩

/-- The evaluation is over: one value is left, or an operator fails. -/
inductive Stops : Stage σ → Except Fault Quantity × σ → Prop where
  | value {v : Quantity} {s : σ} : Stops ⟨[], [v], s⟩ (.ok v, s)
  | fault {op : Operator} {x y : Quantity} {f : Fault} {ts : List Task} {vs : List Quantity}
      {s s' : σ} :
    (op.apply source x y).start s = (.error f, s') →
    Stops ⟨.apply op :: ts, y :: x :: vs, s⟩ (.error f, s')

/-- Some steps lead from the first stage to the second. -/
abbrev LeadsTo : Stage σ → Stage σ → Prop := ReflTransGen (Step source)

section
variable {source} {c d : Stage σ} {outcome : Except Fault Quantity × σ}

theorem Step.run_eq (h : Step source c d) : c.run source = d.run source := by
  cases h with
  | leaf | enterNegate | enterBinary | negate => rw [Stage.run, runTasks, Stage.run]
  | apply h => rw [Stage.run, runTasks, h, Stage.run]

theorem Stops.run_eq (h : Stops source c outcome) : c.run source = outcome := by
  cases h with
  | value => rw [Stage.run, runTasks]
  | fault h => rw [Stage.run, runTasks, h]

theorem LeadsTo.run_eq (h : LeadsTo source c d) : c.run source = d.run source := by
  induction h with
  | refl => rfl
  | tail _ hstep ih => exact ih.trans hstep.run_eq

end

/-! ## Visits -/

theorem start_value_negate (e : Expr) (s : σ) :
    ((Expr.negate e).value source).start s =
      andThen ((e.value source).start s) fun x s' => (.ok x.negate, s') := start_bind ..

theorem start_value_binary (op : Operator) (l r : Expr) (s : σ) :
    ((Expr.binary op l r).value source).start s =
      andThen ((l.value source).start s) fun x s' =>
        andThen ((r.value source).start s') fun y s'' => (op.apply source x y).start s'' := by
  simp only [value, start_bind]

/-- From the stage, a value comes on top of the given values and before the given tasks, or a fault
stops the evaluation. -/
def Delivers (ts : List Task) (vs : List Quantity) (c : Stage σ) :
    Except Fault Quantity × σ → Prop
  | (.ok v, s) => LeadsTo source c ⟨ts, v :: vs, s⟩
  | (.error f, s) => ∃ d, LeadsTo source c d ∧ Stops source d (.error f, s)

section
variable {source} {ts ts' : List Task} {vs vs' : List Quantity} {c d : Stage σ}
  {outcome : Except Fault Quantity × σ}

theorem Delivers.after (h : LeadsTo source c d) (hd : Delivers source ts vs d outcome) :
    Delivers source ts vs c outcome := by
  match outcome with
  | (.ok v, s) => exact h.trans hd
  | (.error f, s) =>
    obtain ⟨stop, hstop, hfault⟩ := hd
    exact ⟨stop, h.trans hstop, hfault⟩

theorem Delivers.andThen {next : Quantity → σ → Except Fault Quantity × σ}
    (h : Delivers source ts' vs' c outcome)
    (hnext : ∀ v s, Delivers source ts vs ⟨ts', v :: vs', s⟩ (next v s)) :
    Delivers source ts vs c (andThen outcome next) := by
  match outcome with
  | (.ok v, s) => exact (hnext v s).after h
  | (.error f, s) => exact h

theorem delivers_apply (op : Operator) (x y : Quantity) (s : σ) :
    Delivers source ts vs ⟨.apply op :: ts, y :: x :: vs, s⟩ ((op.apply source x y).start s) := by
  match hrun : (op.apply source x y).start s with
  | (.ok v, s') => exact .single (.apply hrun)
  | (.error f, s') => exact ⟨_, .refl, .fault hrun⟩

theorem Delivers.run_eq (h : Delivers source ts vs c outcome) :
    c.run source = Calculation.andThen outcome fun v s => (Stage.mk ts (v :: vs) s).run source := by
  match outcome with
  | (.ok v, s) => exact LeadsTo.run_eq h
  | (.error f, s) =>
    obtain ⟨stop, hstop, hfault⟩ := h
    exact hstop.run_eq.trans hfault.run_eq

end

/-- A visit to a tree brings its value on top, or the fault that evaluating it ends in; the tasks
and the values that lie below are left alone. -/
theorem delivers_visit (e : Expr) (ts : List Task) (vs : List Quantity) (s : σ) :
    Delivers source ts vs ⟨.visit e :: ts, vs, s⟩ ((e.value source).start s) := by
  induction e generalizing ts vs s with
  | leaf q => exact .single .leaf
  | negate e ih =>
    rw [start_value_negate]
    refine Delivers.after (.single .enterNegate) ((ih (.negate :: ts) vs s).andThen fun x s' => ?_)
    exact .single .negate
  | binary op l r ihl ihr =>
    rw [start_value_binary]
    refine Delivers.after (.single .enterBinary) ?_
    refine (ihl (.visit r :: .apply op :: ts) vs s).andThen fun x s' => ?_
    refine (ihr (.apply op :: ts) (x :: vs) s').andThen fun y s'' => ?_
    exact delivers_apply op x y s''

/-- The loop and the recursion are the same calculation. -/
theorem evaluate_eq_value (e : Expr) : e.evaluate source = e.value source := by
  funext s
  show (Stage.start e s).run source = (e.value source).start s
  rw [Stage.start, (delivers_visit source e [] [] s).run_eq]
  match (e.value source).start s with
  | (.ok v, s') => exact Stops.run_eq .value
  | (.error f, s') => rfl

end Reckoner.Expr
