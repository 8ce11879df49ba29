import Reckoner.Grammar.Packrat

/-!
# The token buffer

Tokens that arrive in portions are kept until they are one expression.  The memo of a parse stays
with them until the next one: more tokens do not change it, though what it says of the old end need
not hold any more.  So a parse begins by dropping it.
-/

namespace Reckoner.Grammar

/-- The tokens that have arrived, and the memo of the last parse. -/
structure Buffer where
  tokens : Array Token
  memo : Memo := {}

namespace Buffer

/-- A buffer without tokens. -/
def empty : Buffer := ⟨#[], {}⟩

/-- A buffer with tokens that has not been parsed. -/
def ofTokens (tokens : List Token) : Buffer := ⟨tokens.toArray, {}⟩

/-- No token has arrived. -/
def isEmpty (b : Buffer) : Bool := b.tokens.isEmpty

/-- The buffer with more tokens behind those it has. -/
def extend (b : Buffer) (more : List Token) : Buffer :=
  { b with tokens := b.tokens ++ more.toArray }

/-- The buffer without its memo. -/
def clearMemo (b : Buffer) : Buffer := { b with memo := {} }

/-- The buffer without its tokens and its memo. -/
def reset (b : Buffer) : Buffer := { b.clearMemo with tokens := #[] }

/-- Parses the tokens afresh.  The memo stays with them; a parse that gives up leaves none. -/
def run (b : Buffer) : Outcome × Buffer :=
  let fresh := b.clearMemo
  match (parseRule fresh.tokens nestingLimit .expression 0).run fresh.memo with
  | none => (.tooDeep, fresh)
  | some (found, memo) => (outcomeOf fresh.tokens found, { fresh with memo })

/-- What the buffer's tokens come to. -/
def parse (b : Buffer) : Outcome := b.run.1

/-- The report on parsing a buffer; there is none when the rules nest too deep. -/
def report (b : Buffer) : Outcome → String
  | .tree _ => s!"Parsed {b.tokens.size} tokens, ok\n"
  | .noParse => s!"Parsed {b.tokens.size} tokens, no parse\n"
  | .tooDeep => ""

end Buffer

end Reckoner.Grammar
