import Reckoner.Grammar.Terminal
import Std.Data.HashMap

/-!
# The parser

The grammar, alternatives in the order in which they are tried, the loosest binding first:

* an expression is an expression, a plus or minus sign and a term; or a minus sign and a term; or a
  term;
* a term is a term, a multiplication or division sign and an exponent; or a term, `to` and a unit;
  or an exponent;
* an exponent is an atom, a caret and an exponent; or an atom;
* an atom is an expression in parentheses, a merge, a number with a unit, a number, or a unit;
* a merge is a merge and another quantity of the same category; or a quantity.

The result of every rule at every position is noted in a memo.  Three rules start with themselves.
For these the memo first notes a failure, so that the rule finds a seed by another alternative, and
the rule is then tried again with the seed in the memo for as long as the match grows.

Rules nest only so deep; beyond that the parser gives up on the whole text.
-/

namespace Reckoner.Grammar

/-- The rules of the grammar. -/
inductive Rule where
  | expression
  | term
  | exponent
  | atom
  | merge
  deriving DecidableEq, Hashable, Repr

/-- The results noted so far; a failure is noted as none. -/
abbrev Memo := Std.HashMap (Nat × Rule) (Option Found)

/-- A step of the parser, which has no result when the rules nest too deep. -/
abbrev Parse (α : Type) := StateT Memo Option α

/-- The second step when the first finds nothing. -/
def Parse.orElse (first second : Parse (Option Found)) : Parse (Option Found) := do
  match ← first with
  | some found => pure (some found)
  | none => second

/-! ## The bodies of the rules

A body is given the tokens, a way to call the rules, and the position where it starts. -/

section
variable (tokens : Array Token) (call : Rule → Nat → Parse (Option Found)) (pos : Nat)

/-- An operand after an operator, joined to the operand before it. -/
def joined (op : Operator) (left : Found) (rule : Rule) : Parse (Option Found) := do
  let right ← call rule (left.stop + 1)
  pure (right.map fun r => ⟨.binary op left.tree r.tree, r.stop⟩)

/-- A sum or difference. -/
def sumBody : Parse (Option Found) := do
  match ← call .expression pos with
  | none => pure none
  | some left =>
    match additive? tokens[left.stop]? with
    | some op => joined call op left .term
    | none => pure none

/-- A term after a minus sign. -/
def negationBody : Parse (Option Found) :=
  if tokens[pos]? = some .minus then do
    let operand ← call .term (pos + 1)
    pure (operand.map fun r => ⟨.negate r.tree, r.stop⟩)
  else pure none

/-- An expression. -/
def expressionBody : Parse (Option Found) :=
  (sumBody tokens call pos).orElse ((negationBody tokens call pos).orElse (call .term pos))

/-- The unit after `to` as the target of a conversion. -/
def conversion? (left : Found) : Option Found :=
  (unit? tokens[left.stop + 1]?).map fun u =>
    ⟨.binary .convert left.tree (.leaf (.oneOf u)), left.stop + 2⟩

/-- A product, quotient or conversion. -/
def productBody : Parse (Option Found) := do
  match ← call .term pos with
  | none => pure none
  | some left =>
    match multiplicative? tokens[left.stop]? with
    | some op => joined call op left .exponent
    | none => pure (if tokens[left.stop]? = some .to then conversion? tokens left else none)

/-- A term. -/
def termBody : Parse (Option Found) := (productBody tokens call pos).orElse (call .exponent pos)

/-- An atom with the exponent after its caret; without one the atom alone. -/
def exponentBody : Parse (Option Found) := do
  match ← call .atom pos with
  | none => pure none
  | some base =>
    if tokens[base.stop]? = some .caret then
      (joined call .power base .exponent).orElse (pure (some base))
    else pure (some base)

/-- An expression in parentheses. -/
def parenthesisBody : Parse (Option Found) :=
  if tokens[pos]? = some .parenOpen then do
    match ← call .expression (pos + 1) with
    | none => pure none
    | some inner =>
      pure (if tokens[inner.stop]? = some .parenClose then some ⟨inner.tree, inner.stop + 1⟩
        else none)
  else pure none

/-- A quantity, a number or a unit at the position. -/
def leaf? : Option Found :=
  match quantity? tokens pos with
  | some q => some ⟨.leaf q, pos + 2⟩
  | none =>
    match number? tokens[pos]? with
    | some x => some ⟨.leaf ⟨x, none⟩, pos + 1⟩
    | none => (unit? tokens[pos]?).map fun u => ⟨.leaf (.oneOf u), pos + 1⟩

/-- An atom. -/
def atomBody : Parse (Option Found) :=
  (parenthesisBody tokens call pos).orElse
    (Parse.orElse (call .merge pos) (pure (leaf? tokens pos)))

/-- A chain of quantities extended by the next quantity, if that has the same category. -/
def extended? (chain : Found) : Option Found :=
  match quantity? tokens chain.stop with
  | some q =>
    if continues chain.tree q then some ⟨.binary .add chain.tree (.leaf q), chain.stop + 2⟩
    else none
  | none => none

/-- A chain of quantities that add up. -/
def mergeBody : Parse (Option Found) :=
  Parse.orElse
    (do
      let chain ← call .merge pos
      pure (chain.bind (extended? tokens)))
    (pure ((quantity? tokens pos).map fun q => ⟨.leaf q, pos + 2⟩))

/-- The body of a rule. -/
def body : Rule → Parse (Option Found)
  | .expression => expressionBody tokens call pos
  | .term => termBody tokens call pos
  | .exponent => exponentBody tokens call pos
  | .atom => atomBody tokens call pos
  | .merge => mergeBody tokens call pos

end

/-! ## The memo -/

/-- The rule starts with itself. -/
def Rule.isLeftRecursive : Rule → Bool
  | .expression | .term | .merge => true
  | .exponent | .atom => false

/-- Repeats a step while its match grows, noting each match.  The match ends further on every
time, so one try more than there are tokens is enough. -/
def grow (step : Parse (Option Found)) (key : Nat × Rule) :
    Nat → Option Found → Parse (Option Found)
  | 0, last => pure last
  | tries + 1, last => do
    match ← step with
    | none => pure last
    | some found =>
      if last.any (found.stop ≤ ·.stop) then pure last
      else do
        modify (·.insert key (some found))
        grow step key tries (some found)

/-- The result of a rule at a position, from the memo if it is noted there.  The first argument
bounds how deep the rules nest. -/
def parseRule (tokens : Array Token) : Nat → Rule → Nat → Parse (Option Found)
  | 0, _, _ => StateT.lift none
  | depth + 1, rule, pos => do
    if tokens.size ≤ pos then pure none
    else
      match (← get)[(pos, rule)]? with
      | some noted => pure noted
      | none =>
        let step := body tokens (parseRule tokens depth) pos rule
        if rule.isLeftRecursive then do
          modify (·.insert (pos, rule) none)
          grow step (pos, rule) (tokens.size + 1) none
        else do
          let found ← step
          modify (·.insert (pos, rule) found)
          pure found

/-! ## Whole texts -/

/-- What parsing comes to. -/
inductive Outcome where
  /-- The tokens are one expression. -/
  | tree (e : Expr)
  /-- The tokens are not one expression. -/
  | noParse
  /-- The rules nest too deep. -/
  | tooDeep
  deriving DecidableEq

/-- The tree, if there is one. -/
def Outcome.tree? : Outcome → Option Expr
  | .tree e => some e
  | _ => none

/-- How deep rules may nest.  A pair of parentheses takes four levels and a power one. -/
def nestingLimit : Nat := 330

/-- The outcome of the match of an expression at the start of the tokens. -/
def outcomeOf (tokens : Array Token) : Option Found → Outcome
  | some found => if found.stop = tokens.size then .tree found.tree else .noParse
  | none => .noParse

/-- Parses tokens as one expression with a given limit. -/
def parseWithin (limit : Nat) (tokens : Array Token) : Outcome :=
  match (parseRule tokens limit .expression 0).run {} with
  | none => .tooDeep
  | some (found, _) => outcomeOf tokens found

/-- Parses tokens as one expression. -/
def parse (tokens : Array Token) : Outcome := parseWithin nestingLimit tokens

end Reckoner.Grammar
