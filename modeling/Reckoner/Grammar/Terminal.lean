import Reckoner.Expr.Basic
import Reckoner.Measure.Currency
import Reckoner.Token.Basic

/-!
# Terminals of the grammar

What single tokens mean to the grammar: which are operators, numbers, units, and a number followed
by a unit.  A position beyond the last token holds no token.
-/

namespace Reckoner.Grammar

/-- A tree found in the tokens and the position after its last token. -/
structure Found where
  tree : Expr
  stop : Nat
  deriving DecidableEq

/-- The operator of a sum. -/
def additive? : Option Token → Option Operator
  | some .plus => some .add
  | some .minus => some .subtract
  | _ => none

/-- The operator of a product. -/
def multiplicative? : Option Token → Option Operator
  | some .star => some .multiply
  | some .slash => some .divide
  | _ => none

/-- The number that a token stands for. -/
def number? : Option Token → Option Number
  | some (.integer n) => some (.whole n)
  | some (.float x) => some (.float x)
  | _ => none

/-- The unit that a token stands for; a currency has to be a known one. -/
def unit? : Option Token → Option Measure
  | some (.unit u) => some (.fixed u)
  | some (.currency code) => (Currency.find? code).map .currency
  | _ => none

/-- The quantity made of a number token and a unit token. -/
def quantity? (tokens : Array Token) (pos : Nat) : Option Quantity := do
  let x ← number? tokens[pos]?
  let u ← unit? tokens[pos + 1]?
  some ⟨x, some u⟩

/-- The unit of a chain's first quantity. -/
def leadingUnit? : Expr → Option Measure
  | .leaf q => q.unit
  | .binary _ l _ => leadingUnit? l
  | .negate _ => none

/-- The quantity measures what the chain's first quantity measures. -/
def continues (chain : Expr) (q : Quantity) : Bool :=
  match leadingUnit? chain, q.unit with
  | some u, some v => (Measure.commonCategory? u v).isSome
  | _, _ => false

end Reckoner.Grammar
