import Reckoner.Expr.Evaluate
import Reckoner.Grammar.Buffer
import Reckoner.Token.Lexeme

/-!
# Calculation of a text

One expression, from its text to its value.
-/

namespace Reckoner

/-- The tree of a text that is one expression. -/
def parseText (text : String) : Except Fault (Option Expr) := do
  let tokens ← Token.tokenize text
  pure (Grammar.parse tokens.toArray).tree?

/-- The tree of a text is that of its tokens. -/
theorem parseText_of_tokenize {text : String} {ts : List Token} (h : Token.tokenize text = .ok ts) :
    parseText text = .ok (Grammar.parse ts.toArray).tree? := by
  rw [parseText, h]
  rfl

/-- The value of a text; none when the text is not one expression. -/
def calculate {σ : Type} (source : Option (RateSource σ)) (text : String) :
    Calculation σ (Option Quantity) := do
  match ← Calculation.ofExcept (parseText text) with
  | none => pure none
  | some e => do
    let q ← e.evaluate source
    pure (some q)

end Reckoner
