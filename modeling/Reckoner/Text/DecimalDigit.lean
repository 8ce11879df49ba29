import Reckoner.Text.Run

/-!
# Decimal digits

A decimal digit is a character of one of the sixty-six Unicode runs of ten digits, from zero to
nine in order.  Digits of these runs may be mixed within one numeral.  A wider class also holds the
characters that denote a digit without being part of such a run, such as superscripts.
-/

namespace Reckoner.Text

/-- The zeros of the runs of decimal digits. -/
def digitZeros : List Nat := [
  0x30, 0x660, 0x6f0, 0x7c0, 0x966, 0x9e6, 0xa66, 0xae6, 0xb66,
  0xbe6, 0xc66, 0xce6, 0xd66, 0xde6, 0xe50, 0xed0, 0xf20, 0x1040,
  0x1090, 0x17e0, 0x1810, 0x1946, 0x19d0, 0x1a80, 0x1a90, 0x1b50, 0x1bb0,
  0x1c40, 0x1c50, 0xa620, 0xa8d0, 0xa900, 0xa9d0, 0xa9f0, 0xaa50, 0xabf0,
  0xff10, 0x104a0, 0x10d30, 0x11066, 0x110f0, 0x11136, 0x111d0, 0x112f0, 0x11450,
  0x114d0, 0x11650, 0x116c0, 0x11730, 0x118e0, 0x11950, 0x11c50, 0x11d50, 0x11da0,
  0x16a60, 0x16ac0, 0x16b50, 0x1d7ce, 0x1d7d8, 0x1d7e2, 0x1d7ec, 0x1d7f6, 0x1e140,
  0x1e2f0, 0x1e950, 0x1fbf0]

/-- The first and last members of each run of characters that denote a digit on their own. -/
def loneDigitRuns : List (Nat × Nat) := [
  (0xb2, 0xb3), (0xb9, 0xb9), (0x1369, 0x1371), (0x19da, 0x19da), (0x2070, 0x2070),
  (0x2074, 0x2079), (0x2080, 0x2089), (0x2460, 0x2468), (0x2474, 0x247c), (0x2488, 0x2490),
  (0x24ea, 0x24ea), (0x24f5, 0x24fd), (0x24ff, 0x24ff), (0x2776, 0x277e), (0x2780, 0x2788),
  (0x278a, 0x2792), (0x10a40, 0x10a43), (0x10e60, 0x10e68), (0x11052, 0x1105a), (0x1f100, 0x1f10a)]

/-- The value of a decimal digit. -/
def digitValue? (c : Char) : Option Nat :=
  let n := c.toNat
  (digitZeros.find? fun first => first ≤ n && n ≤ first + 9).map (n - ·)

/-- The character is a decimal digit. -/
def isDecimalDigit (c : Char) : Bool := (digitValue? c).isSome

/-- The character denotes a digit, whether or not it can stand in a numeral. -/
def isDigitLike (c : Char) : Bool :=
  isDecimalDigit c || inRuns loneDigitRuns c

/-- The number that a list of digits denotes, most significant first. -/
def ofDigits (digits : List Nat) : Nat :=
  digits.foldl (fun n d => n * 10 + d) 0

/-- The value of a decimal digit of the first run, zero for any other character. -/
def asciiDigitValue (c : Char) : Nat := c.toNat - 48

/-- The number that a run of the digits `0` to `9` denotes. -/
def ofAsciiDigits (cs : List Char) : Nat := ofDigits (cs.map asciiDigitValue)

theorem ofDigits_concat (xs : List Nat) (d : Nat) :
    ofDigits (xs ++ [d]) = ofDigits xs * 10 + d := by
  simp [ofDigits]

end Reckoner.Text
