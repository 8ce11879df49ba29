/-!
# Banners

A message between two bars.  A bar is eighty dashes, or as many copies of a decoration as make it at
least that long; the decoration then also stands before the message and on the lines around it.
-/

namespace Reckoner.Text

/-- A message to be shown between bars. -/
structure Banner where
  message : String
  /-- What the bars are made of, instead of dashes. -/
  decoration : Option String
  /-- What follows the lower bar. -/
  ending : String
  /-- A blank line goes before. -/
  spaced : Bool
  deriving DecidableEq, Repr

namespace Banner

/-- The least length of a bar. -/
def width : Nat := 80

/-- Copies of a text, one after the other. -/
def copies (n : Nat) (text : String) : String := String.join (List.replicate n text)

/-- How many copies of a text make a bar; an empty text makes none. -/
def copiesNeeded (text : String) : Nat := (width + (text.length - 1)) / text.length

/-- A bar of a decoration. -/
def bar (decoration : String) : String := copies (copiesNeeded decoration) decoration

/-- The lines of a banner. -/
def text (b : Banner) : String :=
  let before := if b.spaced then "\n" else ""
  match b.decoration with
  | none => before ++ bar "-" ++ "\n- " ++ b.message ++ "\n" ++ bar "-" ++ b.ending
  | some d =>
    before ++ bar d ++ "\n" ++ d ++ "\n" ++ d ++ " " ++ b.message ++ "\n" ++ d ++ "\n" ++ bar d ++
      b.ending

/-- A message between dashes, with the line ended. -/
def plain (message : String) : Banner := ⟨message, none, "\n", false⟩

/-- The decoration of a cry. -/
def cry : String := "¡@#!-$?%^_¿"

end Banner

end Reckoner.Text
