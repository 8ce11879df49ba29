import Reckoner.Proofs.Token.Cut

/-!
# Integer literals

A literal without a point is digits and an exponent or none.  It stands for an integer when the
exponent is not negative and the number that it denotes fits its word, and for a double otherwise
(`integerLiteral_token`).  Reading looks at exponents up to a limit only and never forms a larger
power, which makes no difference: beyond the limit no other mantissa than zero fits, and zero is the
same for all exponents (`wholeValue?_eq`).
-/

namespace Reckoner

namespace Token

open Text Numeral

/-! ## Literals -/

/-- An exponent as it is written: its letter, a sign or none, and digits. -/
structure Exponent where
  letter : Char
  sign : Option Char
  digits : List Char
  letter_eq : letter = 'e' ∨ letter = 'E' := by decide
  sign_mem : sign ∈ [none, some '+', some '-'] := by decide
  digits_ne_nil : digits ≠ [] := by decide
  digits_digits : Digits digits := by decide

namespace Exponent

/-- The characters of an exponent. -/
def chars (e : Exponent) : List Char := e.letter :: (e.sign.toList ++ e.digits)

/-- The number that an exponent denotes. -/
def value (e : Exponent) : Int :=
  if e.sign = some '-' then -(ofAsciiDigits e.digits : Int) else ofAsciiDigits e.digits

theorem sign_eq (e : Exponent) {c : Char} (h : e.sign = some c) : c = '+' ∨ c = '-' := by
  have hmem := e.sign_mem
  simpa [h] using hmem

theorem isExponent_chars (e : Exponent) : IsExponent e.chars := by
  unfold chars
  cases hsign : e.sign with
  | none => exact .plain e.letter_eq e.digits_ne_nil e.digits_digits
  | some c => exact .signed e.letter_eq (e.sign_eq hsign) e.digits_ne_nil e.digits_digits

theorem readExponent?_chars (e : Exponent) : readExponent? e.chars = some e.value := by
  unfold chars value
  cases hsign : e.sign with
  | none => exact readExponent?_plain e.letter_eq e.digits_ne_nil e.digits_digits
  | some c =>
    refine (readExponent?_signed e.letter_eq (e.sign_eq hsign) e.digits_ne_nil
      e.digits_digits).trans ?_
    simp only [Option.some.injEq]

end Exponent

/-- An integer literal as it is written: digits, and an exponent or none. -/
structure IntegerLiteral where
  mantissa : List Char
  exponent : Option Exponent
  mantissa_ne_nil : mantissa ≠ [] := by decide
  mantissa_digits : Digits mantissa := by decide

namespace IntegerLiteral

/-- The characters of the exponent, if there is one. -/
def exponentChars (n : IntegerLiteral) : List Char := n.exponent.elim [] Exponent.chars

/-- The characters of a literal. -/
def chars (n : IntegerLiteral) : List Char := n.mantissa ++ n.exponentChars

/-- The power of ten by which the digits count. -/
def power (n : IntegerLiteral) : Int := n.exponent.elim 0 Exponent.value

/-- The digits with the zeros that a positive power appends. -/
def scaled (n : IntegerLiteral) : Int := ofAsciiDigits n.mantissa * 10 ^ n.power.toNat

/-- The token that a literal stands for, with the power formed in full. -/
def token (n : IntegerLiteral) : Token :=
  if 0 ≤ n.power ∧ n.scaled ≤ 9223372036854775807 then .integer n.scaled
  else .float (Double.ofDecimal false (ofAsciiDigits n.mantissa) n.power)

theorem isExponent_exponentChars (n : IntegerLiteral) : IsExponent n.exponentChars := by
  unfold exponentChars
  cases n.exponent with
  | none => exact .none
  | some e => exact e.isExponent_chars

theorem readExponent?_exponentChars (n : IntegerLiteral) :
    readExponent? n.exponentChars = some n.power := by
  unfold exponentChars power
  cases n.exponent with
  | none => rfl
  | some e => exact e.readExponent?_chars

theorem isNumeral_chars (n : IntegerLiteral) : IsNumeral n.chars :=
  .whole n.mantissa_ne_nil n.mantissa_digits n.isExponent_exponentChars

end IntegerLiteral

/-! ## Reading a literal -/

theorem span_digits {ds exponent : List Char} (hds : Digits ds) (h : IsExponent exponent) :
    (ds ++ exponent).span isDigit = (ds, exponent) := by
  have hfront : exponent.takeWhile isDigit = [] ∧ exponent.dropWhile isDigit = exponent := by
    cases h with
    | none => exact ⟨rfl, rfl⟩
    | plain he _ _ => rcases he with rfl | rfl <;> exact ⟨rfl, rfl⟩
    | signed he _ _ _ => rcases he with rfl | rfl <;> exact ⟨rfl, rfl⟩
  rw [List.span_eq_takeWhile_dropWhile, List.takeWhile_append_of_pos hds,
    List.dropWhile_append_of_pos hds, hfront.1, hfront.2, List.append_nil]

theorem wholeValue?_of_neg {n : Int} (h : n < 0) (m : Nat) : wholeValue? m n = none := by
  rw [wholeValue?, decide_eq_true h]
  rfl

/-- The number that digits and an exponent denote, whatever the exponent. -/
theorem wholeValue?_eq (m : Nat) (e : Int) :
    wholeValue? m e =
      if 0 ≤ e ∧ (m : Int) * 10 ^ e.toNat ≤ 9223372036854775807 then
        some ((m : Int) * 10 ^ e.toNat)
      else none := by
  rcases Int.lt_or_le e 0 with hneg | hnonneg
  · rw [wholeValue?_of_neg hneg, if_neg (by omega)]
  obtain ⟨n, rfl⟩ := Int.eq_ofNat_of_zero_le hnonneg
  have hpos : (0 : Int) ≤ m * 10 ^ n :=
    Int.mul_nonneg (Int.natCast_nonneg m) (Int.pow_nonneg (by decide))
  rw [Int.toNat_natCast]
  by_cases hlarge : largestExponent < n
  · rcases Nat.eq_zero_or_pos m with rfl | hm
    · -- zero with any exponent
      simp [wholeValue?, FitsInt64]
    · have hbig : (9223372036854775807 : Int) < m * 10 ^ n := by
        have hten : (10 : Int) ^ 20 ≤ 10 ^ n := pow_le_pow_right₀ (by decide) hlarge
        have hone : (1 : Int) ≤ m := by exact_mod_cast hm
        calc (9223372036854775807 : Int) < 1 * 10 ^ 20 := by decide
          _ ≤ m * 10 ^ n := mul_le_mul hone hten (by decide) (by omega)
      have hcut : (decide ((n : Int) < 0) ||
          (decide ((largestExponent : Int) < n) && m != 0)) = true := by
        simp [hlarge, hm.ne']
      rw [wholeValue?, hcut, if_pos rfl, if_neg (by omega)]
  · have hkept : (decide ((n : Int) < 0) ||
        (decide ((largestExponent : Int) < n) && m != 0)) = false := by
      simp [hlarge]
    have hmin : min n largestExponent = n := Nat.min_eq_left (Nat.le_of_not_lt hlarge)
    have hpower : (Nat.pow 10 n : Int) = 10 ^ n := by norm_cast
    have hfits : FitsInt64 (m * 10 ^ n) ↔
        0 ≤ (n : Int) ∧ (m : Int) * 10 ^ n ≤ 9223372036854775807 := by
      unfold FitsInt64
      omega
    rw [wholeValue?, hkept, if_neg Bool.false_ne_true, Int.toNat_natCast, hmin]
    exact if_congr hfits (congrArg some rfl) rfl

namespace IntegerLiteral

/-- Reading the characters of a literal gives its token. -/
theorem integerToken_chars (n : IntegerLiteral) : integerToken n.chars = n.token := by
  have hspan := span_digits n.mantissa_digits n.isExponent_exponentChars
  have hexponent := n.readExponent?_exponentChars
  have hfloat : floatToken n.chars =
      .float (Double.ofDecimal false (ofAsciiDigits n.mantissa) n.power) := by
    rw [floatToken, chars, readFloat?_whole n.mantissa_ne_nil n.mantissa_digits
      n.isExponent_exponentChars hexponent, Option.getD_some]
  rw [integerToken, hfloat, chars, hspan]
  dsimp only
  rw [hexponent, Option.getD_some, wholeValue?_eq, token, scaled]
  by_cases hfits : 0 ≤ n.power ∧
      (ofAsciiDigits n.mantissa : Int) * 10 ^ n.power.toNat ≤ 9223372036854775807
  · rw [if_pos hfits, if_pos hfits]
  · rw [if_neg hfits, if_neg hfits]

theorem numeralToken_chars (n : IntegerLiteral) : numeralToken n.chars = n.token := by
  have hpoint : '.' ∉ n.chars :=
    Guarded.point_not_mem n.mantissa_digits n.isExponent_exponentChars
  rw [numeralToken, if_neg hpoint, n.integerToken_chars]

theorem numeralFront_chars (n : IntegerLiteral) : NumeralFront n.chars := by
  have hfront := n.isNumeral_chars.numeralFront []
  rwa [List.append_nil] at hfront

end IntegerLiteral

end Token

namespace Lexeme

open Token

/-- A literal that is the whole text is its only lexeme. -/
theorem scan_integerLiteral (n : IntegerLiteral) : scan n.chars = [⟨n.chars, n.token⟩] := by
  have hself : Longest IsNumeral n.chars n.chars :=
    ⟨List.prefix_refl _, n.isNumeral_chars, fun _ hfront _ => hfront.length_le⟩
  have htake : n.chars.take (numeralLength n.chars) = n.chars :=
    (longest_numeral n.numeralFront_chars).unique hself
  have hleads := leads_numeral n.numeralFront_chars
  rw [htake, n.numeralToken_chars] at hleads
  have hcut : Cut (n.chars ++ []) [⟨n.chars, n.token⟩] :=
    .lexeme (by rwa [List.append_nil]) .nil
  rw [List.append_nil] at hcut
  exact hcut.eq_scan.symm

/-- A literal makes its token in any text. -/
theorem token_of_integerLiteral {n : IntegerLiteral} {cs : List Char} {l : Lexeme}
    (hl : l ∈ scan cs) (hchars : l.chars = n.chars) : l.token = n.token := by
  obtain ⟨rest, hleads⟩ := (cut_scan cs).leads_of_mem hl
  have hfront : NumeralFront (l.chars ++ rest) := by
    rw [hchars]
    exact n.isNumeral_chars.numeralFront rest
  rw [(hleads.numeral hfront).2, hchars, n.numeralToken_chars]

end Lexeme

/-- An integer literal stands for its token: this is what it denotes alone and as a lexeme of any
text, and it is the token of the text, with guards too, if the digits are not too many. -/
theorem Token.integerLiteral_token (n : IntegerLiteral) :
    ofChars n.chars = [n.token] ∧
    (n.chars.countP isDigit ≤ digitLimit →
      tokenize (String.ofList n.chars) = .ok [n.token] ∧
      Guarded.tokenize (String.ofList n.chars) = .ok [n.token]) ∧
    ∀ text : String, ∀ l ∈ Lexeme.scan text.toList, l.chars = n.chars → l.token = n.token := by
  have htokens : ofChars n.chars = [n.token] := by
    rw [ofChars, Lexeme.scan_integerLiteral]
    rfl
  refine ⟨htokens, fun hshort => ?_, fun _ l hl hchars => Lexeme.token_of_integerLiteral hl hchars⟩
  have hnumerals : Guarded.ShortNumerals (String.ofList n.chars) := by
    rw [Guarded.ShortNumerals, String.toList_ofList, Lexeme.scan_integerLiteral]
    exact List.forall_mem_singleton.2 fun _ => hshort
  have htokenize : tokenize (String.ofList n.chars) = .ok [n.token] := by
    rw [Guarded.tokenize_of_short hnumerals, String.toList_ofList, htokens]
  exact ⟨htokenize, by rw [Guarded.tokenize_eq, htokenize]; rfl⟩

/-- Nine quintillions, with zeros in front and a signed exponent. -/
def Token.nineQuintillions : IntegerLiteral where
  mantissa := ['0', '0', '0', '9']
  exponent := some { letter := 'E', sign := some '+', digits := ['1', '8'] }

theorem Token.nineQuintillions_eq : nineQuintillions.token = .integer 9000000000000000000 := by
  have hmantissa : Text.ofAsciiDigits nineQuintillions.mantissa = 9 := by decide
  have hpower : nineQuintillions.power = 18 := by decide
  simp [IntegerLiteral.token, IntegerLiteral.scaled, hmantissa, hpower]

/-- The largest multiple of its power of ten that fits, alone and in front of a unit. -/
theorem Token.nineQuintillions_token :
    nineQuintillions.chars.countP isDigit ≤ digitLimit ∧
    tokenize "0009E+18" = .ok [.integer 9000000000000000000] ∧
    Guarded.tokenize "0009E+18" = .ok [.integer 9000000000000000000] ∧
    ∃ l ∈ Lexeme.scan "0009E+18m".toList, l.chars = nineQuintillions.chars ∧
      l.token = .integer 9000000000000000000 := by
  have hshort : nineQuintillions.chars.countP isDigit ≤ digitLimit := by decide +kernel
  have hfirst : Lexeme.first? "0009E+18m".toList =
      some ⟨nineQuintillions.chars, numeralToken nineQuintillions.chars⟩ :=
    Lexeme.first?_numeral (numeralFront_digit (by decide) _)
  obtain ⟨l, hl, hchars⟩ : ∃ l ∈ Lexeme.scan "0009E+18m".toList,
      l.chars = nineQuintillions.chars :=
    ⟨_, (Lexeme.scan_lexeme (by decide) hfirst).symm ▸ List.mem_cons_self, rfl⟩
  obtain ⟨-, htokens, hlexeme⟩ := integerLiteral_token nineQuintillions
  obtain ⟨htokenize, hguarded⟩ := htokens hshort
  rw [← nineQuintillions_eq]
  exact ⟨hshort, htokenize, hguarded, l, hl, hchars, hlexeme _ l hl hchars⟩

end Reckoner
