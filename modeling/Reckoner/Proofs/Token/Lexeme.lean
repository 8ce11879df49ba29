import Mathlib.Data.List.TakeDrop
import Mathlib.Data.List.TakeWhile
import Reckoner.Token.Lexeme

/-!
# Lexemes of a text

Reading a text leaves nothing out that is not a gap: at every other character some pattern takes
characters, if only the one for junk.  A text that is not blank therefore has tokens, although
blanks are more than the gaps that reading skips.

Tokenizing a text gives the tokens that its lexemes denote, unless a numeral among them has too many
digits; then the first such numeral is the fault (`tokenize_eq`).
-/

namespace Reckoner

namespace Token

/-- Digits that are too many are among the characters. -/
theorem excess?_le {cs : List Char} {digits : Nat} (h : excess? cs = some digits) :
    digitLimit < digits ∧ digits ≤ cs.countP isDigit := by
  have hcount : cs.countP isDigit =
      (cs.takeWhile isDigit).length + (cs.dropWhile isDigit).countP isDigit := by
    have hrun : (cs.takeWhile isDigit).countP isDigit = (cs.takeWhile isDigit).length :=
      List.countP_eq_length.2 fun c hc => List.mem_takeWhile_imp hc
    rw [← hrun, ← List.countP_append, List.takeWhile_append_dropWhile]
  rw [excess?, List.span_eq_takeWhile_dropWhile] at h
  dsimp only at h
  split at h
  next long =>
    cases h
    exact ⟨long, by omega⟩
  next =>
    split at h
    next long =>
      cases h
      exact ⟨of_decide_eq_true (Bool.and_eq_true_iff.1 long).1, by omega⟩
    next => cases h

end Token

namespace Lexeme

/-- At a character that is no gap a lexeme begins. -/
theorem exists_first? {c : Char} (hc : Text.isGap c = false) (rest : List Char) :
    ∃ l, first? (c :: rest) = some l := by
  have hjunk : 0 < Token.anyJunk.size (c :: rest) := by
    simp [Token.anyJunk, Token.runLength, hc]
  have hfound : (Token.patterns.find? fun p => 0 < p.size (c :: rest)).isSome := by
    rw [List.find?_isSome]
    exact ⟨Token.anyJunk, by simp [Token.patterns], by simpa using hjunk⟩
  obtain ⟨p, hp⟩ := Option.isSome_iff_exists.1 hfound
  exact ⟨_, by rw [first?, hp, Option.map_some]⟩

theorem scan_nil : scan [] = [] := scan.eq_def []

theorem scan_cons (c : Char) (rest : List Char) : scan (c :: rest) =
    if Text.isGap c then scan rest
    else
      match first? (c :: rest) with
      | some lexeme => lexeme :: scan (rest.drop (lexeme.chars.length - 1))
      | none => scan rest := scan.eq_def _

theorem scan_gap {c : Char} (hc : Text.isGap c = true) (cs : List Char) :
    scan (c :: cs) = scan cs := by rw [scan_cons, if_pos hc]

theorem scan_lexeme {c : Char} {cs : List Char} {l : Lexeme} (hc : ¬Text.isGap c = true)
    (hl : first? (c :: cs) = some l) :
    scan (c :: cs) = l :: scan (cs.drop (l.chars.length - 1)) := by
  rw [scan_cons, if_neg hc, hl]

/-- Characters that are not all gaps have lexemes. -/
theorem scan_ne_nil {cs : List Char} (h : ∃ c ∈ cs, Text.isGap c = false) : scan cs ≠ [] := by
  induction cs with
  | nil =>
    obtain ⟨c, hmem, _⟩ := h
    cases hmem
  | cons c rest ih =>
    cases hc : Text.isGap c with
    | true =>
      rw [scan_gap hc]
      obtain ⟨d, hmem, hd⟩ := h
      rcases List.mem_cons.1 hmem with rfl | hrest
      · rw [hc] at hd
        cases hd
      · exact ih ⟨d, hrest, hd⟩
    | false =>
      obtain ⟨l, hl⟩ := exists_first? hc rest
      rw [scan_lexeme (Bool.eq_false_iff.1 hc) hl]
      exact List.cons_ne_nil _ _

/-- Only a numeral with many digits is too long. -/
theorem excess?_eq_none {l : Lexeme}
    (h : l.token.isNumber = true → l.chars.countP Token.isDigit ≤ digitLimit) :
  l.excess? = none := by
  rw [excess?]
  split
  next numeral =>
    have short := h (Bool.and_eq_true_iff.1 numeral).1
    cases hexcess : Token.excess? l.chars with
    | none => rfl
    | some digits =>
      obtain ⟨long, le⟩ := Token.excess?_le hexcess
      omega
  next => rfl

theorem excess?_of_not_isNumber {l : Lexeme} (h : l.token.isNumber = false) : l.excess? = none :=
  excess?_eq_none fun hnumber => by cases h.symm.trans hnumber

/-- Reading lexemes gives their tokens, or stops at the first one with too many digits. -/
theorem mapM_read (ls : List Lexeme) :
    ls.mapM read =
      match ls.findSome? excess? with
      | some digits => .error (.longNumeral digits)
      | none => .ok (ls.map Lexeme.token) := by
  induction ls with
  | nil => rfl
  | cons l ls ih =>
    rw [List.mapM_cons, List.findSome?_cons, read]
    cases l.excess? with
    | some digits => rfl
    | none =>
      rw [ih]
      cases ls.findSome? excess? with
      | some digits => rfl
      | none => rfl

end Lexeme

namespace Token

/-- Reads the tokens of characters. -/
def readChars (cs : List Char) : Except Fault (List Token) := (Lexeme.scan cs).mapM Lexeme.read

/-- The tokens that characters denote, however many digits their numerals have. -/
def ofChars (cs : List Char) : List Token := (Lexeme.scan cs).map Lexeme.token

/-- The first number of digits in some characters that are too many to be read. -/
def excessIn? (cs : List Char) : Option Nat := (Lexeme.scan cs).findSome? Lexeme.excess?

/-- A text has the tokens that it denotes, unless a numeral has too many digits. -/
theorem tokenize_eq (text : String) :
    tokenize text =
      match excessIn? text.toList with
      | some digits => .error (.longNumeral digits)
      | none => .ok (ofChars text.toList) :=
  Lexeme.mapM_read _

theorem tokenize_of_excess {text : String} {digits : Nat}
    (h : excessIn? text.toList = some digits) : tokenize text = .error (.longNumeral digits) := by
  rw [tokenize_eq, h]

theorem tokenize_eq_ok_iff {text : String} {ts : List Token} :
    tokenize text = .ok ts ↔ excessIn? text.toList = none ∧ ts = ofChars text.toList := by
  rw [tokenize_eq]
  cases excessIn? text.toList with
  | some digits => simp
  | none => simp [eq_comm]

theorem tokenize_of_excess_none {text : String} (h : excessIn? text.toList = none) :
    tokenize text = .ok (ofChars text.toList) := tokenize_eq_ok_iff.2 ⟨h, rfl⟩

theorem excessIn?_eq_none_iff {cs : List Char} :
    excessIn? cs = none ↔ ∀ l ∈ Lexeme.scan cs, l.excess? = none := List.findSome?_eq_none_iff

/-- A text that is not blank has tokens. -/
theorem ofChars_ne_nil {text : String} (h : Text.isAllBlank text = false) :
    ofChars text.toList ≠ [] := by
  obtain ⟨c, hmem, hc⟩ := List.all_eq_false.1 h
  have hgap : Text.isGap c = false := by
    cases hgap : Text.isGap c with
    | true => exact absurd (Text.isBlank_of_isGap hgap) hc
    | false => rfl
  have hscan := Lexeme.scan_ne_nil ⟨c, hmem, hgap⟩
  intro hnil
  exact hscan (List.map_eq_nil_iff.1 hnil)

end Token

end Reckoner
