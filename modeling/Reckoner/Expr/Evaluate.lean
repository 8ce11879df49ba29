import Reckoner.Expr.Basic

/-!
# Evaluation

The value of an expression: operands first, left before right, then their operator; the first fault
ends it.  `Expr.value` says so by recursion; `Expr.evaluate` reaches the same outcome with a stack
of tasks and a stack of values, so that the depth of the tree does not matter.
-/

namespace Reckoner.Expr

variable {σ : Type}

/-- The value of a tree. -/
def value (source : Option (RateSource σ)) : Expr → Calculation σ Quantity
  | .leaf q => pure q
  | .negate e => do
    let x ← e.value source
    pure x.negate
  | .binary op l r => do
    let x ← l.value source
    let y ← r.value source
    op.apply source x y

/-- Something still to be done. -/
inductive Task where
  /-- Find the value of a tree. -/
  | visit (e : Expr)
  /-- Negate the last value. -/
  | negate
  /-- Join the last two values. -/
  | apply (op : Operator)

/-- The work of a task. -/
def Task.weight : Task → Nat
  | .visit e => e.weight
  | .negate => 1
  | .apply _ => 1

/-- Carries out the tasks on the values found so far, the last of them first in the list. -/
def runTasks (source : Option (RateSource σ)) :
    List Task → List Quantity → σ → Except Fault Quantity × σ
  | [], v :: _, s => (.ok v, s)
  | .visit (.leaf q) :: ts, vs, s => runTasks source ts (q :: vs) s
  | .visit (.negate e) :: ts, vs, s => runTasks source (.visit e :: .negate :: ts) vs s
  | .visit (.binary op l r) :: ts, vs, s =>
    runTasks source (.visit l :: .visit r :: .apply op :: ts) vs s
  | .negate :: ts, v :: vs, s => runTasks source ts (v.negate :: vs) s
  | .apply op :: ts, y :: x :: vs, s =>
    match (op.apply source x y).start s with
    | (.ok v, s) => runTasks source ts (v :: vs) s
    | (.error e, s) => (.error e, s)
  | _, _, s => (.error .missingOperand, s)
  termination_by ts => total (ts.map Task.weight)
  decreasing_by all_goals simp [total, Task.weight, Expr.weight]; try omega

/-- The value of a tree, found task by task. -/
def evaluate (source : Option (RateSource σ)) (e : Expr) : Calculation σ Quantity :=
  ExceptT.mk fun s => runTasks source [.visit e] [] s

end Reckoner.Expr
