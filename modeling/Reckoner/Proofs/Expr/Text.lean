import Reckoner.Expr.Render
import Reckoner.Proofs.Token.Front

/-!
# The text of a tree

The text of a tree is written with a stack of pieces and comes out as the recursion says
(`render_eq_text`).

If the leaves are whole numbers that are written digit by digit, alone or with a known unit, then
cutting the text into tokens gives the tokens of the leaves and the operators in order
(`tokenize_text`).  What could go wrong is where two tokens meet, so what may stand behind a tree is
said: a closing parenthesis or an operator.  None of them is part of a word or a numeral, and what
stands behind a star is no star.
-/

namespace Reckoner

/-! ## Rendering -/

namespace Expr

/-- The text of a piece. -/
def Piece.text : Piece → String
  | .word s => s
  | .tree e => e.text

theorem Piece.write_eq (ps : List Piece) (out : String) :
    Piece.write ps out = out ++ String.join (ps.map Piece.text) := by
  induction ps, out using Piece.write.induct with
  | case1 out => simp [Piece.write]
  | case2 out s ps ih => simp [Piece.write, Piece.text, ih, String.append_assoc]
  | case3 out q ps ih => simp [Piece.write, Piece.text, Expr.text, ih, String.append_assoc]
  | case4 out e ps ih => simp [Piece.write, Piece.text, Expr.text, ih, String.append_assoc]
  | case5 out op l r ps ih => simp [Piece.write, Piece.text, Expr.text, ih, String.append_assoc]

/-- The text that is written piece by piece is the text of the tree. -/
theorem render_eq_text (e : Expr) : e.render = e.text := by
  simp [render, Piece.write_eq, Piece.text]

end Expr

/-! ## Trees that are written out -/

/-- The quantity is a whole number that is not negative and fits its word, is written digit by
digit, and stands alone or with a known unit. -/
inductive Quantity.WrittenOut : Quantity → Prop where
  | of {n : Nat} {unit : Option Measure} : FitsInt64 n → n < 1000 ∨ n % 1000 ≠ 0 →
    (∀ u ∈ unit, u.Known) → WrittenOut ⟨.whole n, unit⟩

/-- The tree has written-out leaves, and nothing in it is converted. -/
def Expr.WrittenOut : Expr → Prop
  | .leaf q => q.WrittenOut
  | .negate e => e.WrittenOut
  | .binary op l r => op ≠ .convert ∧ l.WrittenOut ∧ r.WrittenOut

/-- The tokens of a whole number with or without a unit. -/
def Quantity.tokens (q : Quantity) : List Token :=
  match q.number with
  | .whole n => .integer n :: (q.unit.map Measure.token).toList
  | _ => []

/-- The token of an operator. -/
def Operator.token : Operator → Token
  | .power => .caret
  | .multiply => .star
  | .divide => .slash
  | .add => .plus
  | .subtract => .minus
  | .convert => .to

/-- The tokens of a tree's text. -/
def Expr.tokens : Expr → List Token
  | .leaf q => q.tokens
  | .negate e => .parenOpen :: .minus :: (e.tokens ++ [.parenClose])
  | .binary op l r => .parenOpen :: (l.tokens ++ op.token :: (r.tokens ++ [.parenClose]))

/-! ## Numbers -/

namespace Token

theorem digits_toDigits (n : Nat) : Digits (Nat.toDigits 10 n) := fun _ hc =>
  Nat.isDigit_of_mem_toDigits (by decide) (by decide) hc

theorem ofAsciiDigits_toDigits (n : Nat) : Text.ofAsciiDigits (Nat.toDigits 10 n) = n := by
  have hstep : (fun (m : Nat) (c : Char) => m * 10 + Text.asciiDigitValue c) =
      fun m c => 10 * m + (c.toNat - '0'.toNat) := by
    funext m c
    rw [Nat.mul_comm]
    rfl
  rw [Text.ofAsciiDigits, Text.ofDigits, List.foldl_map, hstep]
  exact Nat.ofDigitChars_toDigits (by decide) (by decide)

theorem wholeValue?_zero {n : Nat} (hn : FitsInt64 n) : wholeValue? n 0 = some (n : Int) := by
  simp [wholeValue?, largestExponent, hn]

/-- The digits of a number that fits its word make its token. -/
theorem integerToken_toDigits {n : Nat} (hn : FitsInt64 n) :
    integerToken (Nat.toDigits 10 n) = .integer n := by
  have htake : (Nat.toDigits 10 n).takeWhile isDigit = Nat.toDigits 10 n :=
    List.takeWhile_eq_self_iff.2 (digits_toDigits n)
  have hdrop : (Nat.toDigits 10 n).dropWhile isDigit = [] :=
    List.dropWhile_eq_nil_iff.2 (digits_toDigits n)
  simp only [integerToken, List.span_eq_takeWhile_dropWhile, htake, hdrop, ofAsciiDigits_toDigits,
    Numeral.readExponent?, Option.getD_some, wholeValue?_zero hn]

end Token

theorem Number.text_whole {n : Nat} (h : n < 1000 ∨ n % 1000 ≠ 0) :
    (Number.whole n).text.toList = Nat.toDigits 10 n := by
  have hthousands : ¬(1000 ≤ n ∧ n % 1000 = 0) := by omega
  have hmillions : ¬(1000000 ≤ n ∧ n % 1000000 = 0) := by omega
  have htext : (Number.whole n).text = n.repr := by
    simp [Number.text, Number.wholeText, hthousands, hmillions]
    rfl
  rw [htext, Nat.toList_repr]

/-! ## Where tokens meet -/

/-- A lexeme at the front is followed by the lexemes of what stands behind it. -/
theorem Token.readChars_append {cs rest : List Char} {t : Token}
    (hgap : ∃ c ∈ cs.head?, Text.isGap c = false)
    (h : Lexeme.first? (cs ++ rest) = some ⟨cs, t⟩)
    (hshort : t.isNumber = true → cs.countP isDigit ≤ digitLimit) :
    readChars (cs ++ rest) = (t :: ·) <$> readChars rest := by
  obtain ⟨c, hc, hgap⟩ := hgap
  obtain ⟨cs, rfl⟩ := List.head?_eq_some_iff.1 hc
  have hread : Lexeme.read ⟨c :: cs, t⟩ = .ok t := by
    rw [Lexeme.read, Lexeme.excess?_eq_none hshort]
  rw [List.cons_append] at h ⊢
  rw [readChars, Lexeme.scan_lexeme (by simp [hgap]) h, List.mapM_cons, hread]
  simp [readChars]
  rfl

theorem Token.readChars_cons {c : Char} {rest : List Char} {t : Token} (hgap : Text.isGap c = false)
    (h : Lexeme.first? (c :: rest) = some ⟨[c], t⟩) (hnumber : t.isNumber = false) :
    readChars (c :: rest) = (t :: ·) <$> readChars rest :=
  show readChars ([c] ++ rest) = _ from readChars_append ⟨c, rfl, hgap⟩ h
    fun h => by cases hnumber.symm.trans h

theorem Token.readChars_parenOpen (rest : List Char) :
    readChars ('(' :: rest) = (.parenOpen :: ·) <$> readChars rest :=
  readChars_cons rfl (Lexeme.first?_parenOpen _) rfl

theorem Token.readChars_parenClose (rest : List Char) :
    readChars (')' :: rest) = (.parenClose :: ·) <$> readChars rest :=
  readChars_cons rfl (Lexeme.first?_parenClose _) rfl

theorem Token.readChars_minus (rest : List Char) :
    readChars ('-' :: rest) = (.minus :: ·) <$> readChars rest :=
  readChars_cons rfl (Lexeme.first?_minus _) rfl

/-- What may stand behind a tree: nothing, a closing parenthesis or an operator. -/
def Closes (rest : List Char) : Prop := ∀ c ∈ rest.head?, c ∈ [')', '^', '*', '/', '+', '-']

/-- Nothing that stands behind a tree goes on with a number or a word. -/
theorem Closes.head {rest : List Char} (h : Closes rest) : ∀ c ∈ rest.head?,
    Token.isDigit c = false ∧ c ≠ '.' ∧ c ≠ 'e' ∧ c ≠ 'E' ∧ Token.isWordChar c = false := by
  have hall : ∀ c ∈ [')', '^', '*', '/', '+', '-'], Token.isDigit c = false ∧ c ≠ '.' ∧ c ≠ 'e' ∧
      c ≠ 'E' ∧ Token.isWordChar c = false := Token.forall_mem_of_all (by decide)
  exact fun c hc => hall c (h c hc)

theorem Token.isBlank_of_isDigit {c : Char} (hc : isDigit c = true) : Text.isBlank c = false :=
  isBlank_of_mem_numeralChars c (List.mem_append_left _ (mem_digits hc))

/-- A number that fits its word has at most nineteen digits. -/
theorem Token.length_toDigits_le {n : Nat} (hn : FitsInt64 n) :
    (Nat.toDigits 10 n).length ≤ 19 := by
  have hbound : n < 10 ^ 19 := by
    have := hn.2
    omega
  exact (Nat.length_toDigits_le_iff (by decide) (by decide)).2 hbound

/-- Digits make their number, wherever no point and no exponent follows. -/
theorem Token.readChars_toDigits {n : Nat} (hn : FitsInt64 n) {rest : List Char}
    (hstop : ∀ c ∈ rest.head?, isDigit c = false ∧ c ≠ '.') (hexp : exponentLength rest = 0) :
    readChars (Nat.toDigits 10 n ++ rest) = (.integer n :: ·) <$> readChars rest := by
  have hfirst := Lexeme.first?_digits Nat.toDigits_ne_nil (digits_toDigits n) hstop hexp
  rw [integerToken_toDigits hn] at hfirst
  obtain ⟨c, cs, hcs⟩ := List.exists_cons_of_ne_nil (Nat.toDigits_ne_nil (n := n) (b := 10))
  have hc := digits_toDigits n c (by rw [hcs]; exact List.mem_cons_self)
  refine readChars_append ⟨c, by rw [hcs]; rfl, Text.isGap_eq_false (isBlank_of_isDigit hc)⟩ hfirst
    fun _ => ?_
  calc (Nat.toDigits 10 n).countP isDigit
      ≤ (Nat.toDigits 10 n).length := List.countP_le_length
    _ ≤ 19 := length_toDigits_le hn
    _ ≤ digitLimit := by decide +kernel

theorem Measure.isNumber_token (u : Measure) : u.token.isNumber = false := by
  cases u with
  | fixed u => rfl
  | currency code => rfl

/-- The symbol of a known unit makes its token. -/
theorem Measure.Known.readChars {u : Measure} (hu : u.Known) {rest : List Char}
    (hrest : Closes rest) :
    Token.readChars (u.symbol.toList ++ rest) = (u.token :: ·) <$> Token.readChars rest := by
  obtain ⟨c, cs, hcs, hc⟩ := hu.exists_head
  have hblank : Text.isBlank c = false := by
    rcases hc with hstart | hsign
    · exact Token.isBlank_of_isWordChar (by simp [Token.isWordChar, hstart])
    · exact Token.isBlank_of_isSignChar hsign
  exact Token.readChars_append ⟨c, by rw [hcs]; rfl, Text.isGap_eq_false hblank⟩
    (hu.first?_symbol fun c hc => (hrest.head c hc).2.2.2.2)
    fun hnumber => by cases u.isNumber_token.symm.trans hnumber

/-- Written-out quantities are cut into a number and a unit. -/
theorem Quantity.WrittenOut.readChars {q : Quantity} (h : q.WrittenOut) {rest : List Char}
    (hrest : Closes rest) :
    Token.readChars (q.text.toList ++ rest) = (q.tokens ++ ·) <$> Token.readChars rest := by
  cases h with
  | @of n unit hn hshort hunit =>
    rw [Quantity.text, String.toList_append, Number.text_whole hshort, List.append_assoc]
    cases unit with
    | none =>
      refine Token.readChars_toDigits hn (fun c hc => ?_) ?_
      · exact ⟨(hrest.head c hc).1, (hrest.head c hc).2.1⟩
      · cases rest with
        | nil => rfl
        | cons c rest =>
          obtain ⟨-, -, he, hE, -⟩ := hrest.head c rfl
          exact Token.exponentLength_of_ne he hE rest
    | some u =>
      have hu := hunit u rfl
      have hnumber := Token.readChars_toDigits hn (hu.head_symbol rest)
        (hu.exponentLength_symbol rest)
      rw [Option.elim, hnumber, hu.readChars hrest, Functor.map_map]
      rfl

/-- The text of a written-out tree does not start with a star. -/
theorem Expr.WrittenOut.head? {e : Expr} (h : e.WrittenOut) (rest : List Char) :
    (e.text.toList ++ rest).head? ≠ some '*' := by
  cases e with
  | leaf q =>
    cases h with
    | @of n unit hn hshort hunit =>
      obtain ⟨c, cs, hcs⟩ := List.exists_cons_of_ne_nil (Nat.toDigits_ne_nil (n := n) (b := 10))
      have hc := Token.digits_toDigits n c (by rw [hcs]; exact List.mem_cons_self)
      rw [Expr.text, Quantity.text, String.toList_append, Number.text_whole hshort, hcs]
      rintro ⟨⟩
      cases hc
  | negate e => simp [Expr.text]
  | binary op l r => simp [Expr.text]

/-- An operator other than a conversion makes its token, if no star follows. -/
theorem Operator.readChars {op : Operator} (hop : op ≠ .convert) {rest : List Char}
    (hrest : rest.head? ≠ some '*') :
    Token.readChars (op.symbol.toList ++ rest) = (op.token :: ·) <$> Token.readChars rest := by
  cases op with
  | power => exact Token.readChars_cons rfl (Lexeme.first?_caret rest) rfl
  | multiply => exact Token.readChars_cons rfl (Lexeme.first?_star rest hrest) rfl
  | divide => exact Token.readChars_cons rfl (Lexeme.first?_slash rest) rfl
  | add => exact Token.readChars_cons rfl (Lexeme.first?_plus rest) rfl
  | subtract => exact Token.readChars_minus rest
  | convert => exact absurd rfl hop

theorem Operator.closes {op : Operator} (hop : op ≠ .convert) (rest : List Char) :
    Closes (op.symbol.toList ++ rest) := by
  cases op with
  | convert => exact absurd rfl hop
  | _ => rintro c ⟨⟩; decide

/-- The text of a tree is cut into its tokens. -/
theorem Expr.WrittenOut.readChars {e : Expr} (h : e.WrittenOut) {rest : List Char}
    (hrest : Closes rest) :
    Token.readChars (e.text.toList ++ rest) = (e.tokens ++ ·) <$> Token.readChars rest := by
  induction e generalizing rest with
  | leaf q => exact Quantity.WrittenOut.readChars h hrest
  | negate e ih =>
    have htext : (Expr.negate e).text.toList ++ rest =
        '(' :: '-' :: (e.text.toList ++ ')' :: rest) := by
      simp [Expr.text]
    rw [htext, Token.readChars_parenOpen, Token.readChars_minus, ih h (by simp [Closes]),
      Token.readChars_parenClose]
    simp [Expr.tokens]
  | binary op l r ihl ihr =>
    obtain ⟨hop, hl, hr⟩ := h
    have htext : (Expr.binary op l r).text.toList ++ rest =
        '(' :: (l.text.toList ++ (op.symbol.toList ++ (r.text.toList ++ ')' :: rest))) := by
      simp [Expr.text]
    rw [htext, Token.readChars_parenOpen, ihl hl (op.closes hop _), op.readChars hop (hr.head? _),
      ihr hr (by simp [Closes]), Token.readChars_parenClose]
    simp [Expr.tokens]

/-- The text of a written-out tree has the tree's tokens. -/
theorem Expr.WrittenOut.tokenize_text {e : Expr} (h : e.WrittenOut) :
    Token.tokenize e.text = .ok e.tokens := by
  have hchars : Token.readChars (e.text.toList ++ []) = (e.tokens ++ ·) <$> Token.readChars [] :=
    h.readChars nofun
  have hnil : Token.readChars [] = .ok [] := by
    rw [Token.readChars, Lexeme.scan_nil]
    rfl
  rw [List.append_nil, hnil] at hchars
  rw [Token.tokenize, ← Token.readChars, hchars]
  simp [Functor.map, Except.map]

end Reckoner
