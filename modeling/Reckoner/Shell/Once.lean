import Reckoner.Calculate
import Reckoner.Expr.Render
import Reckoner.Rates.Service

/-!
# One expression

Shows what one expression comes to: its value, or why it has none.  With debugging on, the tree of
the expression is shown first.
-/

namespace Reckoner

/-- Writes a line to the output. -/
def Desk.printLine (text : String) : Calculation Desk Unit :=
  modify fun desk => { desk with host := desk.host.printLine text }

namespace Shell

/-- Shows the value of an expression or why it has none; the flag tells that it has one. -/
def showValue (source : Option (RateSource Desk)) (debug : Bool) (e : Expr) :
    Calculation Desk Bool := do
  if debug then Desk.printLine e.render
  match (e.evaluate source).start (← get) with
  | (.ok q, desk) => do
    set desk
    Desk.printLine q.text
    pure true
  | (.error (.calculation why), desk) => do
    set desk
    Desk.printLine why.message
    pure false
  | (.error fault, desk) => do
    set desk
    throw fault

/-- Shows what a text comes to, if it is an expression, and gives the exit code. -/
def runOnce (source : Option (RateSource Desk)) (debug : Bool) (text : String) :
    Calculation Desk Nat := do
  match ← Calculation.ofExcept (parseText text) with
  | none => pure 0
  | some e => do
    let shown ← showValue source debug e
    pure (if shown then 0 else 1)

end Shell

end Reckoner
