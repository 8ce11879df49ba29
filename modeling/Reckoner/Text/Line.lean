/-!
# Lines

A line ends with a line feed, with a carriage return, or with both in this order.  Texts are first
brought to line feeds alone and then taken apart.
-/

namespace Reckoner.Text

/-- The text with every line end written as a line feed. -/
def unifyLineEnds : List Char → List Char
  | '\r' :: '\n' :: cs => '\n' :: unifyLineEnds cs
  | '\r' :: cs => '\n' :: unifyLineEnds cs
  | c :: cs => c :: unifyLineEnds cs
  | [] => []

/-- The pieces of a list that lie between the elements of `p`; there is always one more of them than
of those elements. -/
def pieces (p : Char → Bool) : List Char → List (List Char)
  | [] => [[]]
  | c :: cs =>
    if p c then [] :: pieces p cs
    else
      match pieces p cs with
      | [] => [[c]]
      | piece :: rest => (c :: piece) :: rest

/-- The pieces without a last one that is empty. -/
def dropLastEmpty : List (List Char) → List (List Char)
  | [] => []
  | [[]] => []
  | piece :: rest => piece :: dropLastEmpty rest

/-- The lines of a text, without their ends. -/
def lines (s : String) : List (List Char) :=
  dropLastEmpty (pieces (· == '\n') (unifyLineEnds s.toList))

theorem pieces_ne_nil (p : Char → Bool) (cs : List Char) : pieces p cs ≠ [] := by
  cases cs with
  | nil => simp [pieces]
  | cons c cs =>
    unfold pieces
    split
    · simp
    · split <;> simp

end Reckoner.Text
