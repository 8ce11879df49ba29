import Reckoner.Quantity

/-!
# Expressions

An expression is a tree: quantities at the leaves, the minus sign and the operators inside.  A
*listing* writes a tree in one line, operands before their operator, and `ofListing` reads it back
with a stack.
-/

namespace Reckoner

/-- An expression. -/
inductive Expr where
  | leaf (q : Quantity)
  | negate (e : Expr)
  | binary (op : Operator) (left right : Expr)
  deriving DecidableEq

namespace Expr

/-- The work that a tree still holds for a loop that takes it apart. -/
def weight : Expr → Nat
  | .leaf _ => 1
  | .negate e => e.weight + 2
  | .binary _ l r => l.weight + r.weight + 3

/-- Works added up. -/
def total : List Nat → Nat
  | [] => 0
  | n :: ns => n + total ns

/-- The work of several trees. -/
def totalWeight (es : List Expr) : Nat := total (es.map weight)

/-- An entry of a listing. -/
inductive Entry where
  | leaf (q : Quantity)
  | unary (op : Opcode)
  | binary (op : Opcode)
  deriving DecidableEq

/-- Puts an entry on top of the trees read so far. -/
def Entry.push : Entry → List Expr → Except Fault (List Expr)
  | .leaf q, es => .ok (.leaf q :: es)
  | .unary .negate, e :: es => .ok (.negate e :: es)
  | .unary .negate, [] => .error .missingOperand
  | .unary op, _ => .error (.notUnary op)
  | .binary (.binary op), r :: l :: es => .ok (.binary op l r :: es)
  | .binary (.binary _), _ => .error .missingOperand
  | .binary op, _ => .error (.notBinary op)

/-- The tree that a listing describes. -/
def ofListing (entries : List Entry) : Except Fault Expr := do
  match ← entries.foldlM (fun es entry => entry.push es) [] with
  | e :: _ => pure e
  | [] => throw .missingOperand

/-- Lists trees in front of the entries already listed, the first tree last. -/
def listInto : List Expr → List Entry → List Entry
  | [], out => out
  | .leaf q :: es, out => listInto es (.leaf q :: out)
  | .negate e :: es, out => listInto (e :: es) (.unary .negate :: out)
  | .binary op l r :: es, out => listInto (r :: l :: es) (.binary (.binary op) :: out)
  termination_by es => totalWeight es
  decreasing_by all_goals simp [totalWeight, total, weight]; try omega

/-- The listing of a tree. -/
def listing (e : Expr) : List Entry := listInto [e] []

end Expr

end Reckoner
