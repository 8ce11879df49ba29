import Reckoner.Proofs.Token.Integer

/-!
# Numerals with too many digits

An integer literal is read from the digits of its exponent and from those in front of it; with a
negative exponent the digits in front are not read as an integer.  No integer is read from more
digits than there may be, and so a literal can be too long (`IntegerLiteral.TooLong`).  No other
lexeme can (`Lexeme.excess?_eq_some_iff`).

Any text is therefore cut into lexemes, but it has tokens only if none of its literals is too long,
and otherwise the first that is too long is the fault (`tokenize_cuts`).
-/

namespace Reckoner

namespace Token

namespace Exponent

theorem countP_chars (e : Exponent) : e.chars.countP isDigit = e.digits.length := by
  have hletter : isDigit e.letter = false := by
    rcases e.letter_eq with h | h <;> rw [h] <;> rfl
  have hsign : e.sign.toList.countP isDigit = 0 := by
    cases h : e.sign with
    | none => rfl
    | some c => rcases e.sign_eq h with rfl | rfl <;> rfl
  rw [chars, List.countP_cons_of_neg (by simp [hletter]), List.countP_append, hsign,
    List.countP_eq_length.2 e.digits_digits, Nat.zero_add]

end Exponent

namespace IntegerLiteral

/-- The number of digits in the exponent. -/
def exponentDigits (n : IntegerLiteral) : Nat := n.exponent.elim 0 fun e => e.digits.length

/-- The literal has too many digits in its exponent, or in front of one that is not negative. -/
inductive TooLong (n : IntegerLiteral) : Nat → Prop where
  | exponent : digitLimit < n.exponentDigits → TooLong n n.exponentDigits
  | mantissa : n.exponentDigits ≤ digitLimit → digitLimit < n.mantissa.length → 0 ≤ n.power →
    TooLong n n.mantissa.length

theorem countP_exponentChars (n : IntegerLiteral) :
    n.exponentChars.countP isDigit = n.exponentDigits := by
  rw [exponentChars, exponentDigits]
  cases n.exponent with
  | none => rfl
  | some e => exact e.countP_chars

/-- The digits of a literal that cannot be read are those that are too many. -/
theorem excess?_chars (n : IntegerLiteral) (digits : Nat) :
    excess? n.chars = some digits ↔ n.TooLong digits := by
  rw [excess?, chars, span_digits n.mantissa_digits n.isExponent_exponentChars]
  dsimp only
  rw [n.countP_exponentChars, n.readExponent?_exponentChars, Option.getD_some]
  constructor
  · intro h
    split at h
    next long =>
      cases h
      exact .exponent long
    next short =>
      split at h
      next long =>
        cases h
        simp only [Bool.and_eq_true, decide_eq_true_eq] at long
        exact .mantissa (Nat.le_of_not_lt short) long.1 long.2
      next => cases h
  · intro h
    cases h with
    | exponent long => rw [if_pos long]
    | mantissa short long nonneg =>
      rw [if_neg (Nat.not_lt.2 short), if_pos (by simp [long, nonneg])]

end IntegerLiteral

/-- Digits and an exponent are a literal. -/
theorem exists_integerLiteral {ds exponent : List Char} (hne : ds ≠ []) (hds : Digits ds)
    (h : IsExponent exponent) : ∃ n : IntegerLiteral, ds ++ exponent = n.chars := by
  cases h with
  | none => exact ⟨⟨ds, none, hne, hds⟩, rfl⟩
  | plain he hne' hds' => exact ⟨⟨ds, some ⟨_, none, _, he, by decide, hne', hds'⟩, hne, hds⟩, rfl⟩
  | @signed _ sign _ he hsign hne' hds' =>
    have hmem : some sign ∈ [none, some '+', some '-'] := by
      rcases hsign with rfl | rfl <;> decide
    exact ⟨⟨ds, some ⟨_, some sign, _, he, hmem, hne', hds'⟩, hne, hds⟩, rfl⟩

theorem IntegerLiteral.isNumber_token (n : IntegerLiteral) : n.token.isNumber = true := by
  rw [← n.integerToken_chars]
  exact Guarded.isNumber_integerToken _

end Token

namespace Lexeme

open Token

/-- The lexeme is an integer literal with too many digits. -/
def TooLong (l : Lexeme) (digits : Nat) : Prop :=
  ∃ n : IntegerLiteral, l.chars = n.chars ∧ n.TooLong digits

/-- A lexeme of a text cannot be read if and only if it is a literal with too many digits. -/
theorem excess?_eq_some_iff {cs : List Char} {l : Lexeme} (hl : l ∈ scan cs) {digits : Nat} :
    l.excess? = some digits ↔ l.TooLong digits := by
  constructor
  · intro h
    have hnumber : l.token.isNumber = true := by
      cases hnumber : l.token.isNumber with
      | true => rfl
      | false => cases (excess?_of_not_isNumber hnumber).symm.trans h
    cases regular_of_mem_scan hl with
    | point => simp [excess?] at h
    | @whole ds exponent hne hds hexponent =>
      obtain ⟨n, hn⟩ := exists_integerLiteral hne hds hexponent
      refine ⟨n, hn, (n.excess?_chars digits).1 ?_⟩
      rw [excess?] at h
      split at h
      next => exact hn ▸ h
      next => cases h
    | other hother => cases hother.symm.trans hnumber
  · rintro ⟨n, hchars, hlong⟩
    have hpoint : '.' ∉ n.chars :=
      Guarded.point_not_mem n.mantissa_digits n.isExponent_exponentChars
    rw [excess?, token_of_integerLiteral hl hchars, n.isNumber_token, hchars]
    simpa [hpoint] using (n.excess?_chars digits).2 hlong

theorem excess?_eq_none_iff {cs : List Char} {l : Lexeme} (hl : l ∈ scan cs) :
    l.excess? = none ↔ ∀ digits, ¬l.TooLong digits := by
  simp [Option.eq_none_iff_forall_ne_some, excess?_eq_some_iff hl]

end Lexeme

/-- A text is cut into gaps and lexemes in exactly one way, which leaves no other character out.
Its tokens are those of the lexemes, as long as no integer literal among them has too many digits;
the first that has is the fault. -/
theorem Token.tokenize_cuts (text : String) :
    ∃ ls, Lexeme.Cut text.toList ls ∧ (∀ other, Lexeme.Cut text.toList other → other = ls) ∧
      ls.flatMap Lexeme.chars = (text.toList.filter fun c => !Text.isGap c) ∧
      ((∀ l ∈ ls, ∀ digits, ¬l.TooLong digits) → tokenize text = .ok (ls.map Lexeme.token)) ∧
      ∀ front l back digits, ls = front ++ l :: back →
        (∀ l' ∈ front, ∀ digits, ¬l'.TooLong digits) → l.TooLong digits →
        tokenize text = .error (.longNumeral digits) := by
  have hcut := Lexeme.cut_scan text.toList
  refine ⟨Lexeme.scan text.toList, hcut, fun other h => h.eq_scan, hcut.chars, ?_, ?_⟩
  · intro hshort
    exact tokenize_of_excess_none (excessIn?_eq_none_iff.2 fun l hl =>
      (Lexeme.excess?_eq_none_iff hl).2 (hshort l hl))
  · intro front l back digits hls hfront hlong
    have hmem : ∀ l' ∈ front ++ l :: back, l' ∈ Lexeme.scan text.toList := fun l' hl' => hls ▸ hl'
    have hnone : front.findSome? Lexeme.excess? = none :=
      List.findSome?_eq_none_iff.2 fun l' hl' =>
        (Lexeme.excess?_eq_none_iff (hmem l' (List.mem_append_left _ hl'))).2 (hfront l' hl')
    have hsome : l.excess? = some digits :=
      (Lexeme.excess?_eq_some_iff (hmem l (by simp))).2 hlong
    refine tokenize_of_excess ?_
    rw [excessIn?, hls, List.findSome?_append, hnone, List.findSome?_cons, hsome]
    rfl

/-- One digit more than can be read, and all of them ones. -/
def Token.manyOnes : IntegerLiteral where
  mantissa := List.replicate (digitLimit + 1) '1'
  exponent := none
  mantissa_ne_nil := by simp
  mantissa_digits := fun c hc => by rw [List.eq_of_mem_replicate hc]; rfl

theorem Token.manyOnes_tooLong : manyOnes.TooLong (digitLimit + 1) := by
  have hlength : manyOnes.mantissa.length = digitLimit + 1 := List.length_replicate
  exact hlength ▸ .mantissa (Nat.zero_le _) (by omega) (Int.le_refl 0)

/-- A parenthesis in front of too many digits: the text is cut in two, but it has no tokens. -/
theorem Token.manyOnes_refused :
    Lexeme.Cut ('(' :: manyOnes.chars) [⟨['('], .parenOpen⟩, ⟨manyOnes.chars, manyOnes.token⟩] ∧
    tokenize (String.ofList ('(' :: manyOnes.chars)) = .error (.longNumeral (digitLimit + 1)) := by
  have hscan : Lexeme.scan ('(' :: manyOnes.chars) =
      [⟨['('], .parenOpen⟩, ⟨manyOnes.chars, manyOnes.token⟩] := by
    rw [Lexeme.scan_lexeme (by decide) (Lexeme.first?_parenOpen _), ← Lexeme.scan_integerLiteral]
    rfl
  have hcut := hscan ▸ Lexeme.cut_scan ('(' :: manyOnes.chars)
  obtain ⟨ls, -, hother, -, -, hfault⟩ := tokenize_cuts (String.ofList ('(' :: manyOnes.chars))
  rw [String.toList_ofList] at hother
  have hparen : ∀ digits, ¬Lexeme.TooLong ⟨['('], .parenOpen⟩ digits :=
    (Lexeme.excess?_eq_none_iff (hscan ▸ List.mem_cons_self)).1 (Lexeme.excess?_of_not_isNumber rfl)
  exact ⟨hcut, hfault [⟨['('], .parenOpen⟩] _ [] _ (hother _ hcut).symm
    (List.forall_mem_singleton.2 hparen) ⟨manyOnes, rfl, manyOnes_tooLong⟩⟩

end Reckoner
