/-!
# Blank characters

Three sets of blanks are in use.  A *gap* is a character with the Unicode property White_Space; gaps
separate the words of an expression and may surround a numeral.  A *blank* is a gap or one of the
four information separators U+001C to U+001F; blanks are trimmed from lines, settings and documents.
An *inline blank* is one of the six ASCII gaps.
-/

namespace Reckoner.Text

/-- The character has the Unicode property White_Space. -/
def isGap (c : Char) : Bool :=
  let n := c.toNat
  (0x09 ≤ n && n ≤ 0x0d) || n == 0x20 || n == 0x85 || n == 0xa0 || n == 0x1680 ||
    (0x2000 ≤ n && n ≤ 0x200a) || n == 0x2028 || n == 0x2029 || n == 0x202f || n == 0x205f ||
    n == 0x3000

/-- The character is a gap or an information separator. -/
def isBlank (c : Char) : Bool :=
  isGap c || (0x1c ≤ c.toNat && c.toNat ≤ 0x1f)

theorem isBlank_of_isGap {c : Char} (h : isGap c = true) : isBlank c = true := by
  simp [isBlank, h]

/-- The list without the elements of `p` at its end. -/
def dropTrailing (p : Char → Bool) (cs : List Char) : List Char :=
  (cs.reverse.dropWhile p).reverse

/-- The list without the elements of `p` at either end. -/
def dropAround (p : Char → Bool) (cs : List Char) : List Char :=
  dropTrailing p (cs.dropWhile p)

/-- The text without the blanks around it. -/
def trim (s : String) : String :=
  String.ofList (dropAround isBlank s.toList)

/-- The text without the blanks after it. -/
def trimEnd (s : String) : String :=
  String.ofList (dropTrailing isBlank s.toList)

/-- The text holds nothing but blanks. -/
def isAllBlank (s : String) : Bool :=
  s.toList.all isBlank

end Reckoner.Text
