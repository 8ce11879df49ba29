import Reckoner.Expr.Basic

/-!
# The text of an expression

An expression is written with a pair of parentheses around every operator and its operands.
`Expr.text` says so by recursion; `Expr.render` writes the same text with a stack of pieces, so
that the depth of the tree does not matter.
-/

namespace Reckoner.Expr

/-- The fully parenthesised text of a tree. -/
def text : Expr → String
  | .leaf q => q.text
  | .negate e => "(" ++ "-" ++ e.text ++ ")"
  | .binary op l r => "(" ++ l.text ++ op.symbol ++ r.text ++ ")"

/-- A piece of text still to be written. -/
inductive Piece where
  | word (s : String)
  | tree (e : Expr)

/-- The work of a piece. -/
def Piece.weight : Piece → Nat
  | .word _ => 1
  | .tree e => 2 * e.weight

/-- The pieces of an operator and its operands, in order. -/
def Piece.write : List Piece → String → String
  | [], out => out
  | .word s :: ps, out => write ps (out ++ s)
  | .tree (.leaf q) :: ps, out => write ps (out ++ q.text)
  | .tree (.negate e) :: ps, out => write (.word "(-" :: .tree e :: .word ")" :: ps) out
  | .tree (.binary op l r) :: ps, out =>
    write (.word "(" :: .tree l :: .word op.symbol :: .tree r :: .word ")" :: ps) out
  termination_by ps => total (ps.map Piece.weight)
  decreasing_by all_goals simp [total, Piece.weight, Expr.weight]; try omega

/-- The fully parenthesised text of a tree, written piece by piece. -/
def render (e : Expr) : String := Piece.write [.tree e] ""

end Reckoner.Expr
