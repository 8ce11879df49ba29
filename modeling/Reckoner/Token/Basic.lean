import Reckoner.Measure.Basic
import Reckoner.Number.Shortest

/-!
# Tokens

The smallest parts of an expression's text.
-/

namespace Reckoner

/-- A token. -/
inductive Token where
  | integer (n : Int)
  | float (x : Float)
  | parenOpen
  | parenClose
  | caret
  | minus
  | plus
  | star
  | slash
  | percent
  /-- The word that asks for a conversion. -/
  | to
  | currency (code : String)
  | unit (u : FixedUnit)
  /-- A word without a meaning of its own. -/
  | word (text : String)
  /-- Characters that belong to no token. -/
  | junk (text : String)
  deriving DecidableEq

/-- The token stands for a number. -/
def Token.isNumber : Token → Bool
  | .integer _ | .float _ => true
  | _ => false

/-- A token as listings show it. -/
def Token.text : Token → String
  | .integer n => s!"LIT_INT({n})"
  | .float x => s!"LIT_FLOAT({Double.text x})"
  | .parenOpen => "("
  | .parenClose => ")"
  | .caret => "^"
  | .minus => "-"
  | .plus => "+"
  | .star => "*"
  | .slash => "/"
  | .percent => "%"
  | .to => "to"
  | .currency code => s!"CURR({code})"
  | .unit u => s!"UNIT({u.symbol})"
  | .word text => s!"IDENT({text})"
  | .junk text => s!"INVALID({text})"

end Reckoner
