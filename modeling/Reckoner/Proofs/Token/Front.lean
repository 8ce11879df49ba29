import Reckoner.Proofs.Text.Figure
import Reckoner.Proofs.Token.Boundary

/-!
# The token at the front

What the first lexeme of a text is.  A sign makes its token.  At the start of a word the lexeme is
the whole word, and its token depends on which list of spellings the word is in (`wordToken`).
Digits are the lexeme if no point and no exponent follows.
-/

namespace Reckoner

namespace Token

open Text

theorem runLength_of_stop {p : Char → Bool} {front rest : List Char}
    (h : ∀ c ∈ front, p c = true) (hrest : ∀ c ∈ rest.head?, p c = false) :
    runLength p (front ++ rest) = front.length := by rw [runLength, takeWhile_of_stop h hrest]

/-! ## Patterns that do not apply -/

section
variable {c : Char}

theorem pointNumeral_size_eq_zero (hc : isDigit c = false) (hpoint : c ≠ '.') (rest : List Char) :
    pointNumeral.size (c :: rest) = 0 := by
  have hrun : runLength isDigit (c :: rest) = 0 := by simp [runLength, hc]
  have hlength : pointLength (c :: rest) = 0 := by simp [pointLength, hrun, hpoint]
  simp only [pointNumeral, hlength]
  rfl

theorem plainNumeral_size_eq_zero (hc : isDigit c = false) (rest : List Char) :
    plainNumeral.size (c :: rest) = 0 := by
  have hrun : runLength isDigit (c :: rest) = 0 := by simp [runLength, hc]
  simp only [plainNumeral, hrun]
  rfl

theorem sign_size_eq_zero {literals : List String} {t : Token}
    (hliterals : ∀ s ∈ literals, c ∉ s.toList) (rest : List Char) :
    (sign literals t).size (c :: rest) = 0 := by
  rcases take_literalLength literals (c :: rest) with hnone | ⟨s, hs, hstarts, hsize⟩
  · exact hnone
  · refine hsize.trans ?_
    rw [← String.length_toList]
    cases hcs : s.toList with
    | nil => rfl
    | cons d ds =>
      rw [hcs, List.isPrefixOf, Bool.and_eq_true_iff, beq_iff_eq] at hstarts
      exact absurd (by rw [hcs, hstarts.1]; exact List.mem_cons_self) (hliterals s hs)

end

/-! ## Words -/

/-- A text starts with a whole word exactly when the word is all the characters of words at its
front. -/
theorem starts_iff {s : String} (hs : ∀ c ∈ s.toList, isWordChar c = true) (cs : List Char) :
    (s.toList.isPrefixOf cs && !((cs.drop s.length).head?.any isWordChar)) = true ↔
      s = String.ofList (cs.takeWhile isWordChar) := by
  rw [Bool.and_eq_true_iff, Bool.not_eq_true', List.isPrefixOf_iff_prefix, ← String.length_toList]
  constructor
  · rintro ⟨⟨rest, rfl⟩, hend⟩
    rw [List.drop_left, Option.any_eq_false] at hend
    rw [takeWhile_of_stop hs hend, String.ofList_toList]
  · intro heq
    have htoList : s.toList = cs.takeWhile isWordChar := by rw [heq, String.toList_ofList]
    rw [htoList]
    refine ⟨List.takeWhile_prefix _, ?_⟩
    have hdrop : cs.drop (cs.takeWhile isWordChar).length = cs.dropWhile isWordChar :=
      (congrArg (List.drop _) List.takeWhile_append_dropWhile.symm).trans List.drop_left
    have hend := List.head?_dropWhile_not isWordChar cs
    rw [hdrop]
    cases hhead : (cs.dropWhile isWordChar).head? with
    | none => rfl
    | some d =>
      rw [hhead] at hend
      exact hend

/-- A word pattern takes the word at the front if it is one of its words, and nothing else. -/
theorem wordLength_eq {words : List String} (hwords : MadeOf isWordChar words) (cs : List Char) :
    wordLength words cs =
      if String.ofList (cs.takeWhile isWordChar) ∈ words then runLength isWordChar cs else 0 := by
  have hfind : (words.find? fun s =>
      s.toList.isPrefixOf cs && !((cs.drop s.length).head?.any isWordChar)) =
      words.find? fun s => s == String.ofList (cs.takeWhile isWordChar) := by
    refine List.find?_congr fun s hs => ?_
    rw [Bool.eq_iff_iff, beq_iff_eq]
    exact starts_iff (hwords s hs) cs
  rw [wordLength, hfind]
  cases hsome : words.find? fun s => s == String.ofList (cs.takeWhile isWordChar) with
  | none =>
    have hmem : String.ofList (cs.takeWhile isWordChar) ∉ words := fun hmem => by
      simpa using List.find?_eq_none.1 hsome _ hmem
    rw [if_neg hmem]
    rfl
  | some s =>
    have hs : s = String.ofList (cs.takeWhile isWordChar) := by
      simpa using List.find?_some hsome
    rw [if_pos (hs ▸ List.mem_of_find?_eq_some hsome), hs]
    exact String.length_ofList

/-- Where no word stands, a word pattern takes nothing. -/
theorem wordLength_eq_zero {words : List String} (hwords : MadeOf isWordChar words) {c : Char}
    (hc : isWordChar c = false) (rest : List Char) : wordLength words (c :: rest) = 0 := by
  have hrun : runLength isWordChar (c :: rest) = 0 := by simp [runLength, hc]
  rw [wordLength_eq hwords, hrun, ite_self]

theorem oneOf_size (words : List String) (make : List Char → Token) :
    (oneOf words make).size = wordLength words := rfl

/-- The token of a word. -/
def wordToken (word : String) : Token :=
  if word ∈ Spelling.conversion then .to
  else if word ∈ Spelling.currencies then
    .currency (String.ofList (word.toList.map Char.toUpper))
  else
    match Spelling.units.find? fun spelling => word ∈ spelling.1 with
    | some spelling => .unit spelling.2
    | none => .word word

/-! ## Patterns by sort -/

/-- The patterns between the numerals and the words. -/
def signPatterns : List Pattern := (patterns.drop 2).take 8

/-- The patterns for words with a meaning. -/
def wordPatterns : List Pattern :=
  [oneOf Spelling.conversion fun _ => .to, currencyWord] ++
    Spelling.units.map fun spelling => oneOf spelling.1 fun _ => .unit spelling.2

/-- The patterns for signs of units. -/
def unitSignPatterns : List Pattern :=
  Spelling.signs.map fun spelling => sign [String.ofList [spelling.1]] (.unit spelling.2)

theorem patterns_eq : patterns = [pointNumeral, plainNumeral] ++ signPatterns ++ wordPatterns ++
    unitSignPatterns ++ [anyWord, anyJunk] := rfl

theorem wordPatterns_size_eq_zero {q : Pattern} (hq : q ∈ wordPatterns) {c : Char}
    (hc : isWordChar c = false) (rest : List Char) : q.size (c :: rest) = 0 := by
  rcases List.mem_append.1 hq with hq | hq
  · simp only [List.mem_cons, List.not_mem_nil, or_false] at hq
    rcases hq with rfl | rfl
    · exact wordLength_eq_zero conversion_madeOf hc rest
    · exact wordLength_eq_zero currencies_madeOf hc rest
  · obtain ⟨spelling, hspelling, rfl⟩ := List.mem_map.1 hq
    exact wordLength_eq_zero (units_madeOf spelling hspelling) hc rest

theorem signPatterns_sort {q : Pattern} (hq : q ∈ signPatterns) :
    ∃ literals t, q = sign literals t ∧ MadeOf isSignChar literals := by
  simp only [signPatterns, patterns, List.cons_append, List.drop_succ_cons, List.drop_zero,
    List.take_succ_cons, List.take_zero, List.mem_cons, List.not_mem_nil, or_false] at hq
  rcases hq with rfl | rfl | rfl | rfl | rfl | rfl | rfl | rfl
  all_goals exact ⟨_, _, rfl, madeOf_of_all (by decide)⟩

/-- No sign and no numeral starts with a letter. -/
theorem isWordStart_of_isSignChar {c : Char} (hc : isSignChar c = true) :
    isWordStart c = false := by
  have hall : ∀ c ∈ signChars, isWordStart c = false := forall_mem_of_all (by decide)
  exact hall c (List.contains_iff_mem.1 hc)

theorem isDigit_of_isWordStart {c : Char} (hc : isWordStart c = true) : isDigit c = false := by
  have hall : ∀ c ∈ digits, isWordStart c = false := forall_mem_of_all (by decide)
  refine Bool.eq_false_iff.2 fun hdigit => ?_
  cases hc.symm.trans (hall c (mem_digits hdigit))

/-- The patterns for numerals and signs take nothing where a word starts. -/
theorem size_eq_zero_of_isWordStart {c : Char} (hc : isWordStart c = true) (rest : List Char) :
    (∀ q ∈ [pointNumeral, plainNumeral] ++ signPatterns, q.size (c :: rest) = 0) ∧
      ∀ q ∈ unitSignPatterns, q.size (c :: rest) = 0 := by
  have hdigit : isDigit c = false := isDigit_of_isWordStart hc
  have hpoint : c ≠ '.' := by
    rintro rfl
    cases hc
  have hsign {literals : List String} {t : Token} (h : MadeOf isSignChar literals) :
      (sign literals t).size (c :: rest) = 0 :=
    sign_size_eq_zero (fun s hs hmem =>
      by cases hc.symm.trans (isWordStart_of_isSignChar (h s hs c hmem))) rest
  constructor
  · intro q hq
    rcases List.mem_append.1 hq with hq | hq
    · simp only [List.mem_cons, List.not_mem_nil, or_false] at hq
      rcases hq with rfl | rfl
      · exact pointNumeral_size_eq_zero hdigit hpoint rest
      · exact plainNumeral_size_eq_zero hdigit rest
    · obtain ⟨literals, t, rfl, hliterals⟩ := signPatterns_sort hq
      exact hsign hliterals
  · intro q hq
    obtain ⟨spelling, hspelling, rfl⟩ := List.mem_map.1 hq
    refine hsign fun s hs d hd => ?_
    rw [List.mem_singleton.1 hs, String.toList_ofList, List.mem_singleton] at hd
    exact hd ▸ signs_madeOf spelling hspelling

end Token

namespace Lexeme

open Token Text

/-- The first pattern that takes something makes the lexeme. -/
theorem first?_of_split (before : List Pattern) {after : List Pattern} {p : Pattern}
    {cs : List Char} (hsplit : patterns = before ++ p :: after)
    (hbefore : ∀ q ∈ before, q.size cs = 0) (hp : 0 < p.size cs) :
    first? cs = some ⟨cs.take (p.size cs), p.token (cs.take (p.size cs))⟩ := by
  have hfind : (patterns.find? fun q => 0 < q.size cs) = some p := by
    rw [List.find?_eq_some_iff_append]
    refine ⟨by simpa using hp, before, after, hsplit, fun q hq => ?_⟩
    simp [hbefore q hq]
  rw [first?, hfind, Option.map_some]

/-! ## Signs -/

/-- A sign makes its token if none of the patterns before it applies. -/
theorem first?_sign (before : List Pattern) {after : List Pattern} {c : Char}
    {literals : List String} {t : Token} {rest : List Char}
    (hsplit : patterns = pointNumeral :: plainNumeral :: before ++ sign literals t :: after)
    (hdigit : isDigit c = false) (hpoint : c ≠ '.')
    (hbefore : ∀ q ∈ before, q.size (c :: rest) = 0)
    (hsize : literalLength literals (c :: rest) = 1) :
    first? (c :: rest) = some ⟨[c], t⟩ := by
  have hzero : ∀ q ∈ pointNumeral :: plainNumeral :: before, q.size (c :: rest) = 0 := by
    rw [List.forall_mem_cons, List.forall_mem_cons]
    exact ⟨pointNumeral_size_eq_zero hdigit hpoint rest, plainNumeral_size_eq_zero hdigit rest,
      hbefore⟩
  have hone : (sign literals t).size (c :: rest) = 1 := hsize
  rw [first?_of_split _ hsplit hzero (by rw [hone]; exact Nat.one_pos), hone]
  rfl

section
variable (rest : List Char)

theorem first?_parenOpen : first? ('(' :: rest) = some ⟨['('], .parenOpen⟩ :=
  first?_sign [] rfl rfl (by decide) nofun rfl

theorem first?_parenClose : first? (')' :: rest) = some ⟨[')'], .parenClose⟩ :=
  first?_sign (signPatterns.take 1) rfl rfl (by decide)
    (by simp [signPatterns, patterns, sign, literalLength]) rfl

theorem first?_caret : first? ('^' :: rest) = some ⟨['^'], .caret⟩ :=
  first?_sign (signPatterns.take 2) rfl rfl (by decide)
    (by simp [signPatterns, patterns, sign, literalLength]) rfl

theorem first?_minus : first? ('-' :: rest) = some ⟨['-'], .minus⟩ :=
  first?_sign (signPatterns.take 3) rfl rfl (by decide)
    (by simp [signPatterns, patterns, sign, literalLength]) rfl

theorem first?_plus : first? ('+' :: rest) = some ⟨['+'], .plus⟩ :=
  first?_sign (signPatterns.take 4) rfl rfl (by decide)
    (by simp [signPatterns, patterns, sign, literalLength]) rfl

theorem first?_star (hrest : rest.head? ≠ some '*') :
    first? ('*' :: rest) = some ⟨['*'], .star⟩ := by
  refine first?_sign (signPatterns.take 5) rfl rfl (by decide) ?_ rfl
  have hpower : ¬['*'] <+: rest := by
    rintro ⟨after, rfl⟩
    exact hrest rfl
  simp [signPatterns, patterns, sign, literalLength, hpower]

theorem first?_slash : first? ('/' :: rest) = some ⟨['/'], .slash⟩ :=
  first?_sign (signPatterns.take 6) rfl rfl (by decide)
    (by simp [signPatterns, patterns, sign, literalLength]) rfl

theorem first?_percent : first? ('%' :: rest) = some ⟨['%'], .percent⟩ :=
  first?_sign (signPatterns.take 7) rfl rfl (by decide)
    (by simp [signPatterns, patterns, sign, literalLength]) rfl

/-- Two stars are one sign. -/
theorem first?_twoStars : first? ('*' :: '*' :: rest) = some ⟨['*', '*'], .caret⟩ := by
  have hzero : ∀ q ∈ pointNumeral :: plainNumeral :: signPatterns.take 2,
      q.size ('*' :: '*' :: rest) = 0 := by
    rw [List.forall_mem_cons, List.forall_mem_cons]
    exact ⟨pointNumeral_size_eq_zero (by decide) (by decide) _,
      plainNumeral_size_eq_zero (by decide) _,
      by simp [signPatterns, patterns, sign, literalLength]⟩
  have hsize : (sign ["^", "**"] .caret).size ('*' :: '*' :: rest) = 2 := rfl
  rw [first?_of_split (pointNumeral :: plainNumeral :: signPatterns.take 2) rfl hzero
    (by rw [hsize]; exact Nat.two_pos), hsize]
  rfl

/-- The signs of inch and foot make their tokens. -/
theorem first?_unitSign {c : Char} {u : FixedUnit} (h : (c, u) ∈ Spelling.signs) :
    first? (c :: rest) = some ⟨[c], .unit u⟩ := by
  have hwords {c : Char} (hc : isWordChar c = false) :
      ∀ q ∈ wordPatterns, q.size (c :: rest) = 0 :=
    fun q hq => wordPatterns_size_eq_zero hq hc rest
  simp only [Spelling.signs, List.mem_cons, Prod.mk.injEq, List.not_mem_nil, or_false] at h
  rcases h with ⟨rfl, rfl⟩ | ⟨rfl, rfl⟩
  · refine first?_sign (signPatterns ++ wordPatterns) rfl rfl (by decide) ?_ rfl
    rw [List.forall_mem_append]
    exact ⟨by simp [signPatterns, patterns, sign, literalLength], hwords (by decide)⟩
  · refine first?_sign (signPatterns ++ (wordPatterns ++ [sign ["\""] (.unit .inch)])) rfl rfl
      (by decide) ?_ rfl
    rw [List.forall_mem_append, List.forall_mem_append]
    exact ⟨by simp [signPatterns, patterns, sign, literalLength], hwords (by decide),
      by simp [sign, literalLength]⟩

end

/-! ## Words -/

/-- The pattern of the list of spellings that a word is in. -/
theorem wordPatterns_find? {c : Char} (hc : isWordStart c = true) (rest : List Char) :
    let word := String.ofList ((c :: rest).takeWhile isWordChar)
    (wordPatterns.find? fun q => 0 < q.size (c :: rest)) =
      if word ∈ Spelling.conversion then some (oneOf Spelling.conversion fun _ => .to)
      else if word ∈ Spelling.currencies then some currencyWord
      else (Spelling.units.find? fun spelling => word ∈ spelling.1).map fun spelling =>
        oneOf spelling.1 fun _ => .unit spelling.2 := by
  intro word
  have hlength : 0 < runLength isWordChar (c :: rest) := by simp [runLength, isWordChar, hc]
  have htaken {words : List String} (make : List Char → Token) (hwords : MadeOf isWordChar words) :
      decide (0 < (oneOf words make).size (c :: rest)) = decide (word ∈ words) := by
    rw [decide_eq_decide, oneOf_size, wordLength_eq hwords]
    split
    next hmem => exact iff_of_true hlength hmem
    next hmem => exact iff_of_false (Nat.lt_irrefl 0) hmem
  have hto := htaken (fun _ => .to) conversion_madeOf
  have hcurrency : decide (0 < currencyWord.size (c :: rest)) =
      decide (word ∈ Spelling.currencies) := htaken _ currencies_madeOf
  have hunits : Spelling.units.find? ((fun q : Pattern => decide (0 < q.size (c :: rest))) ∘
      fun spelling => oneOf spelling.1 fun _ => .unit spelling.2) =
      Spelling.units.find? fun spelling => word ∈ spelling.1 :=
    List.find?_congr fun spelling hspelling => htaken _ (units_madeOf spelling hspelling)
  rw [wordPatterns, List.find?_append, List.find?_cons, hto, List.find?_cons, hcurrency,
    List.find?_map, hunits]
  by_cases hconversion : word ∈ Spelling.conversion
  · simp [hconversion]
  · by_cases hlisted : word ∈ Spelling.currencies
    · simp [hconversion, hlisted]
    · simp [hconversion, hlisted]

/-- At the start of a word the lexeme is the whole word. -/
theorem first?_word {c : Char} (hc : isWordStart c = true) (rest : List Char) :
    let word := (c :: rest).takeWhile isWordChar
    first? (c :: rest) = some ⟨word, wordToken (String.ofList word)⟩ := by
  intro word
  obtain ⟨hfront, hsigns⟩ := size_eq_zero_of_isWordStart hc rest
  have hlength : 0 < runLength isWordChar (c :: rest) := by simp [runLength, isWordChar, hc]
  have hany : anyWord.size (c :: rest) = runLength isWordChar (c :: rest) := by simp [anyWord, hc]
  have hlisted {words : List String} {make : List Char → Token} (hwords : MadeOf isWordChar words)
      (hmem : String.ofList word ∈ words) :
      (oneOf words make).size (c :: rest) = runLength isWordChar (c :: rest) :=
    (wordLength_eq hwords _).trans (if_pos hmem)
  have hnone {qs : List Pattern} (h : ∀ q ∈ qs, q.size (c :: rest) = 0) :
      (qs.find? fun q => 0 < q.size (c :: rest)) = none :=
    List.find?_eq_none.2 fun q hq => by simp [h q hq]
  -- every pattern that may apply takes the whole word
  suffices hp : ∃ p, (patterns.find? fun q => 0 < q.size (c :: rest)) = some p ∧
      p.size (c :: rest) = runLength isWordChar (c :: rest) ∧
      p.token word = wordToken (String.ofList word) by
    obtain ⟨p, hfind, hsize, htoken⟩ := hp
    rw [first?, hfind, Option.map_some, hsize, take_runLength, ← htoken]
  rw [patterns_eq, List.find?_append, List.find?_append, List.find?_append, hnone hfront,
    hnone hsigns, wordPatterns_find? hc, List.find?_cons, hany, decide_eq_true hlength]
  unfold wordToken
  by_cases hconversion : String.ofList word ∈ Spelling.conversion
  · rw [if_pos hconversion, if_pos hconversion]
    exact ⟨_, rfl, hlisted conversion_madeOf hconversion, rfl⟩
  rw [if_neg hconversion, if_neg hconversion]
  by_cases hcurrency : String.ofList word ∈ Spelling.currencies
  · rw [if_pos hcurrency, if_pos hcurrency, String.toList_ofList]
    exact ⟨_, rfl, hlisted currencies_madeOf hcurrency, rfl⟩
  rw [if_neg hcurrency, if_neg hcurrency]
  cases hfind : Spelling.units.find? fun spelling => String.ofList word ∈ spelling.1 with
  | none => exact ⟨_, rfl, hany, rfl⟩
  | some spelling =>
    have hmem : String.ofList word ∈ spelling.1 := by simpa using List.find?_some hfind
    exact ⟨_, rfl, hlisted (units_madeOf spelling (List.mem_of_find?_eq_some hfind)) hmem, rfl⟩

/-! ## Digits -/

/-- Digits are a lexeme in front of anything that is no digit, no point and no exponent. -/
theorem first?_digits {ds rest : List Char} (hne : ds ≠ []) (hds : Digits ds)
    (hstop : ∀ c ∈ rest.head?, isDigit c = false ∧ c ≠ '.') (hexp : exponentLength rest = 0) :
    first? (ds ++ rest) = some ⟨ds, integerToken ds⟩ := by
  have hrun : runLength isDigit (ds ++ rest) = ds.length :=
    runLength_of_stop hds fun c hc => (hstop c hc).1
  have hpoint : pointNumeral.size (ds ++ rest) = 0 := by
    have hlength : pointLength (ds ++ rest) = 0 := by
      simp only [pointLength, hrun, List.drop_left]
      cases rest with
      | nil => rfl
      | cons c rest => simp [(hstop c rfl).2]
    simp only [pointNumeral, hlength]
    rfl
  have hplain : plainNumeral.size (ds ++ rest) = ds.length := by
    simp only [plainNumeral, hrun, withExponent, List.drop_left, hexp]
    split <;> omega
  have hpos : 0 < plainNumeral.size (ds ++ rest) := by
    rw [hplain]
    exact List.length_pos_iff.2 hne
  rw [first?_of_split [pointNumeral] rfl (by simp [hpoint]) hpos, hplain,
    List.take_left]
  rfl

end Lexeme

/-! ## Symbols of units -/

/-- The unit is a fixed one or a known currency. -/
def Measure.Known : Measure → Prop
  | .fixed _ => True
  | .currency code => code ∈ Currency.codes

/-- The token that stands for a unit. -/
def Measure.token : Measure → Token
  | .fixed u => .unit u
  | .currency code => .currency code

namespace Token

theorem mem_currencies_iff {word : String} :
    word ∈ Spelling.currencies ↔ ∃ code ∈ Currency.codes, word = code ∨ word = code.toLower := by
  simp only [Spelling.currencies, List.mem_flatMap, List.mem_cons, List.not_mem_nil, or_false]

/-- Codes are in capitals, whichever way they are spelt. -/
theorem toUpper_code {code word : String} (h : code ∈ Currency.codes)
    (hword : word = code ∨ word = code.toLower) :
    word.toList.map Char.toUpper = code.toList := by
  have hcapitals : MadeOf (fun c => c.toUpper == c && c.toLower.toUpper == c) Currency.codes :=
    madeOf_of_all (by decide)
  have hupper {f : Char → Char} (hf : ∀ c ∈ code.toList, f c = c) :
      code.toList.map f = code.toList :=
    (List.map_congr_left hf).trans (List.map_id _)
  rcases hword with rfl | rfl
  · exact hupper fun c hc => beq_iff_eq.1 (Bool.and_eq_true_iff.1 (hcapitals _ h c hc)).1
  · rw [toList_toLower, List.map_map]
    exact hupper fun c hc => beq_iff_eq.1 (Bool.and_eq_true_iff.1 (hcapitals _ h c hc)).2

/-- The word that asks for a conversion names no currency. -/
theorem not_mem_conversion_of_code {code word : String} (h : code ∈ Currency.codes)
    (hword : word = code ∨ word = code.toLower) : word ∉ Spelling.conversion := by
  have hall : (Currency.codes.all fun code => Spelling.conversion.all fun word =>
      code.toList != word.toList.map Char.toUpper) = true := by decide
  intro hmem
  simpa [toUpper_code h hword] using List.all_eq_true.1 (List.all_eq_true.1 hall code h) word hmem

/-- A code means its currency, in capitals and in small letters. -/
theorem wordToken_currency {code word : String} (h : code ∈ Currency.codes)
    (hword : word = code ∨ word = code.toLower) : wordToken word = .currency code := by
  rw [wordToken, if_neg (not_mem_conversion_of_code h hword),
    if_pos (mem_currencies_iff.2 ⟨code, h, hword⟩), toUpper_code h hword, String.ofList_toList]

/-- A word for a unit means this unit and no other, and nothing else. -/
theorem wordToken_unit {words : List String} {u : FixedUnit} {word : String}
    (h : (words, u) ∈ Spelling.units) (hword : word ∈ words) : wordToken word = .unit u := by
  have hconversion : word ∉ Spelling.conversion := by
    have hall : (Spelling.units.all fun spelling => spelling.1.all fun word =>
        !(Spelling.conversion.contains word)) = true := by decide
    simpa using List.all_eq_true.1 (List.all_eq_true.1 hall _ h) word hword
  have hcurrency : word ∉ Spelling.currencies := by
    have hall : (Currency.codes.all fun code => Spelling.units.all fun spelling =>
        spelling.1.all fun word => code.toList != word.toList.map Char.toUpper) = true := by decide
    rw [mem_currencies_iff]
    rintro ⟨code, hcode, hspelt⟩
    have hne := List.all_eq_true.1
      (List.all_eq_true.1 (List.all_eq_true.1 hall code hcode) _ h) word hword
    simp [toUpper_code hcode hspelt] at hne
  have hunit : (Spelling.units.find? fun spelling => word ∈ spelling.1).map Prod.snd = some u := by
    have hall : (Spelling.units.all fun spelling => spelling.1.all fun word =>
        (Spelling.units.find? fun other => other.1.contains word).map Prod.snd ==
          some spelling.2) = true := by decide
    simpa using List.all_eq_true.1 (List.all_eq_true.1 hall _ h) word hword
  obtain ⟨spelling, hfind, rfl⟩ := Option.map_eq_some_iff.1 hunit
  rw [wordToken, if_neg hconversion, if_neg hcurrency, hfind]

/-- The symbol of a unit is one of the unit's words, unless it is a sign. -/
theorem wordToken_symbol {u : FixedUnit} (h : ∃ c ∈ u.symbol.toList.head?, isWordStart c = true) :
    wordToken u.symbol = .unit u := by
  have hall : (FixedUnit.all.all fun u => !(u.symbol.toList.head?.any isWordStart) ||
      Spelling.units.any fun spelling => spelling.2 == u && spelling.1.contains u.symbol) =
        true := by decide
  have hstart : u.symbol.toList.head?.any isWordStart = true := (Option.any_eq_true _ _).2 h
  have hspelt := List.all_eq_true.1 hall u u.mem_all
  rw [hstart, Bool.not_true, Bool.false_or] at hspelt
  obtain ⟨⟨words, v⟩, hmem, heq⟩ := List.any_eq_true.1 hspelt
  obtain ⟨hunit, hword⟩ := Bool.and_eq_true_iff.1 heq
  cases beq_iff_eq.1 hunit
  exact wordToken_unit hmem (List.contains_iff_mem.1 hword)

/-- The symbol of a fixed unit is a word or a sign. -/
theorem symbol_sort (u : FixedUnit) :
    (∃ c ∈ u.symbol.toList.head?, isWordStart c = true) ∧
        (∀ c ∈ u.symbol.toList, isWordChar c = true) ∨
      ∃ c, u.symbol.toList = [c] ∧ (c, u) ∈ Spelling.signs := by
  have hall : (FixedUnit.all.all fun u =>
      u.symbol.toList.head?.any isWordStart && u.symbol.toList.all isWordChar ||
        Spelling.signs.any fun spelling => u.symbol.toList == [spelling.1] && spelling.2 == u) =
          true := by decide
  rcases Bool.or_eq_true_iff.1 (List.all_eq_true.1 hall u u.mem_all) with hword | hsign
  · obtain ⟨hstart, hchars⟩ := Bool.and_eq_true_iff.1 hword
    exact .inl ⟨(Option.any_eq_true _ _).1 hstart, List.all_eq_true.1 hchars⟩
  · obtain ⟨⟨c, v⟩, hmem, heq⟩ := List.any_eq_true.1 hsign
    obtain ⟨hsymbol, hunit⟩ := Bool.and_eq_true_iff.1 heq
    cases beq_iff_eq.1 hunit
    exact .inr ⟨c, beq_iff_eq.1 hsymbol, hmem⟩

/-- A code is made of letters. -/
theorem code_letters {code : String} (h : code ∈ Currency.codes) :
    ∃ c d ds, code.toList = c :: d :: ds ∧ isWordStart c = true ∧ isWordStart d = true ∧
      ∀ c ∈ code.toList, isWordChar c = true := by
  have hall : (Currency.codes.all fun code =>
      code.toList.all isWordStart && (2 ≤ code.toList.length)) = true := by decide
  obtain ⟨hletters, hlength⟩ := Bool.and_eq_true_iff.1 (List.all_eq_true.1 hall code h)
  have hstart := List.all_eq_true.1 hletters
  have hchars : ∀ c ∈ code.toList, isWordChar c = true := fun c hc => by
    simp [isWordChar, hstart c hc]
  cases hcode : code.toList with
  | nil => simp [hcode] at hlength
  | cons c cs =>
    cases cs with
    | nil => simp [hcode] at hlength
    | cons d ds =>
      rw [hcode] at hstart hchars
      exact ⟨c, d, ds, rfl, hstart c (by simp), hstart d (by simp), hchars⟩

theorem exponentLength_of_ne {c : Char} (he : c ≠ 'e') (hE : c ≠ 'E') (rest : List Char) :
    exponentLength (c :: rest) = 0 := by simp [exponentLength, he, hE]

theorem exponentLength_of_letter {d : Char} (hd : isWordStart d = true) (c : Char)
    (rest : List Char) : exponentLength (c :: d :: rest) = 0 := by
  have hdigit : isDigit d = false := isDigit_of_isWordStart hd
  have hplus : d ≠ '+' := by
    rintro rfl
    cases hd
  have hminus : d ≠ '-' := by
    rintro rfl
    cases hd
  simp [exponentLength, hplus, hminus, runLength, hdigit]

end Token

namespace Measure

open Token

variable {u : Measure} {rest : List Char}

/-- A whole word at the front makes its token. -/
theorem first?_whole {word : String} (hstart : ∃ c ∈ word.toList.head?, isWordStart c = true)
    (hchars : ∀ c ∈ word.toList, isWordChar c = true)
    (hrest : ∀ c ∈ rest.head?, isWordChar c = false) :
    Lexeme.first? (word.toList ++ rest) = some ⟨word.toList, wordToken word⟩ := by
  have htake := takeWhile_of_stop hchars hrest
  obtain ⟨c, hc, hstart⟩ := hstart
  obtain ⟨cs, hcs⟩ := List.head?_eq_some_iff.1 hc
  have hfirst := Lexeme.first?_word hstart (cs ++ rest)
  rw [← List.cons_append, ← hcs, htake] at hfirst
  rw [hfirst, String.ofList_toList]

/-- The symbol of a known unit makes its token, if no character of a word follows. -/
theorem Known.first?_symbol (hu : u.Known) (hrest : ∀ c ∈ rest.head?, isWordChar c = false) :
    Lexeme.first? (u.symbol.toList ++ rest) = some ⟨u.symbol.toList, u.token⟩ := by
  cases u with
  | fixed u =>
    rcases symbol_sort u with ⟨hstart, hchars⟩ | ⟨c, hsymbol, hsign⟩
    · exact (first?_whole hstart hchars hrest).trans (by rw [wordToken_symbol hstart]; rfl)
    · rw [symbol, hsymbol]
      exact Lexeme.first?_unitSign rest hsign
  | currency code =>
    obtain ⟨c, d, ds, hcode, hstart, -, hchars⟩ := code_letters hu
    refine (first?_whole ⟨c, by rw [hcode]; rfl, hstart⟩ hchars hrest).trans ?_
    rw [wordToken_currency hu (.inl rfl)]
    rfl

/-- The symbol of a known unit starts with a letter or a sign. -/
theorem Known.exists_head (hu : u.Known) :
    ∃ c cs, u.symbol.toList = c :: cs ∧ (isWordStart c = true ∨ isSignChar c = true) := by
  cases u with
  | fixed u =>
    rcases symbol_sort u with ⟨⟨c, hc, hstart⟩, -⟩ | ⟨c, hsymbol, hsign⟩
    · obtain ⟨cs, hcs⟩ := List.head?_eq_some_iff.1 hc
      exact ⟨c, cs, hcs, .inl hstart⟩
    · exact ⟨c, [], hsymbol, .inr (signs_madeOf _ hsign)⟩
  | currency code =>
    obtain ⟨c, d, ds, hcode, hstart, -, -⟩ := code_letters hu
    exact ⟨c, d :: ds, hcode, .inl hstart⟩

/-- The symbol of a known unit does not go on with a number. -/
theorem Known.head_symbol (hu : u.Known) (rest : List Char) :
    ∀ c ∈ (u.symbol.toList ++ rest).head?, isDigit c = false ∧ c ≠ '.' := by
  have hsign : ∀ c ∈ signChars, isDigit c = false ∧ c ≠ '.' := forall_mem_of_all (by decide)
  obtain ⟨c, cs, hcs, hc⟩ := hu.exists_head
  rw [hcs]
  rintro _ ⟨⟩
  rcases hc with hstart | hc
  · exact ⟨isDigit_of_isWordStart hstart, fun h => by rw [h] at hstart; cases hstart⟩
  · exact hsign c (List.contains_iff_mem.1 hc)

/-- The symbol of a known unit does not start with an exponent. -/
theorem Known.exponentLength_symbol (hu : u.Known) (rest : List Char) :
    exponentLength (u.symbol.toList ++ rest) = 0 := by
  cases u with
  | fixed u =>
    have hall : (FixedUnit.all.all fun u =>
        u.symbol.toList.head?.any fun c => c != 'e' && c != 'E') = true := by decide
    obtain ⟨c, hc, hletter⟩ := (Option.any_eq_true _ _).1 (List.all_eq_true.1 hall u u.mem_all)
    obtain ⟨cs, hcs⟩ := List.head?_eq_some_iff.1 hc
    rw [Bool.and_eq_true, bne_iff_ne, bne_iff_ne] at hletter
    rw [symbol, hcs]
    exact exponentLength_of_ne hletter.1 hletter.2 _
  | currency code =>
    obtain ⟨c, d, ds, hcode, -, hletter, -⟩ := code_letters hu
    rw [symbol, hcode]
    exact exponentLength_of_letter hletter c _

end Measure

end Reckoner
