/-!
# Operators

The operators of an expression: six that join two operands, and the minus sign in front of one.
-/

namespace Reckoner

/-- An operator that joins two operands. -/
inductive Operator where
  | power
  | multiply
  | divide
  | add
  | subtract
  | convert
  deriving DecidableEq, Repr

/-- Any operator of an expression. -/
inductive Opcode where
  | negate
  | binary (op : Operator)
  deriving DecidableEq, Repr

/-- The text of an operator between its operands. -/
def Operator.symbol : Operator → String
  | .power => "^"
  | .multiply => "*"
  | .divide => "/"
  | .add => "+"
  | .subtract => "-"
  | .convert => " to "

/-- The name of an operator in listings and messages. -/
def Opcode.name : Opcode → String
  | .negate => "NEGATE"
  | .binary .power => "POWER"
  | .binary .multiply => "MULTIPLY"
  | .binary .divide => "DIVIDE"
  | .binary .add => "ADD"
  | .binary .subtract => "SUBTRACT"
  | .binary .convert => "CONVERT_TO"

/-- Every operator. -/
def Opcode.all : List Opcode :=
  [.negate, .binary .power, .binary .multiply, .binary .divide, .binary .add, .binary .subtract,
    .binary .convert]

/-- The operator of a given name. -/
def Opcode.ofName? (name : String) : Option Opcode := Opcode.all.find? (·.name == name)

end Reckoner
