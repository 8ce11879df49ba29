import Reckoner.Proofs.Token.Longest

/-!
# Texts cut into lexemes

A text is cut into gaps and lexemes.  What a lexeme is, the characters from its beginning on decide
(`Lexeme.Leads`): it is a whole word, the longest numeral, the longest sign, or junk up to the next
gap.  No order of patterns is left in this, nor is one needed: a word is in one list of spellings at
most, so that it has one meaning (`means_iff`).  There is exactly one way to cut a text, which is to
scan it (`Cut.eq_scan`).
-/

namespace Reckoner

namespace Token

open Text

/-! ## The meaning of words -/

/-- The word is in one of the lists of spellings. -/
def Listed (word : String) : Prop :=
  word = "to" ∨ (∃ code ∈ Currency.codes, word = code ∨ word = code.toLower) ∨
    ∃ words u, (words, u) ∈ Spelling.units ∧ word ∈ words

/-- What a word may mean: a conversion, a currency, a fixed unit, or nothing. -/
inductive Means (word : String) : Token → Prop where
  | conversion : word = "to" → Means word .to
  | currency {code : String} :
    code ∈ Currency.codes → word = code ∨ word = code.toLower → Means word (.currency code)
  | unit {words : List String} {u : FixedUnit} :
    (words, u) ∈ Spelling.units → word ∈ words → Means word (.unit u)
  | unlisted : ¬Listed word → Means word (.word word)

theorem wordToken_conversion {word : String} (h : word = "to") : wordToken word = .to :=
  if_pos (List.mem_singleton.2 h)

theorem wordToken_unlisted {word : String} (h : ¬Listed word) : wordToken word = .word word := by
  have hconversion : word ∉ Spelling.conversion := fun hmem => h (.inl (List.mem_singleton.1 hmem))
  have hcurrency : word ∉ Spelling.currencies := fun hmem =>
    h (.inr (.inl (mem_currencies_iff.1 hmem)))
  have hunit : (Spelling.units.find? fun spelling => word ∈ spelling.1) = none :=
    List.find?_eq_none.2 fun spelling hspelling hmem =>
      h (.inr (.inr ⟨spelling.1, spelling.2, hspelling, by simpa using hmem⟩))
  rw [wordToken, if_neg hconversion, if_neg hcurrency, hunit]

/-- A word has one meaning, and it is the token that the word makes. -/
theorem means_iff {word : String} {t : Token} : Means word t ↔ t = wordToken word := by
  constructor
  · rintro (hto | ⟨hcode, hword⟩ | ⟨hunit, hword⟩ | hlisted)
    · exact (wordToken_conversion hto).symm
    · exact (wordToken_currency hcode hword).symm
    · exact (wordToken_unit hunit hword).symm
    · exact (wordToken_unlisted hlisted).symm
  · rintro rfl
    by_cases hlisted : Listed word
    · rcases hlisted with hto | ⟨code, hcode, hword⟩ | ⟨words, u, hunit, hword⟩
      · exact wordToken_conversion hto ▸ .conversion hto
      · exact wordToken_currency hcode hword ▸ .currency hcode hword
      · exact wordToken_unit hunit hword ▸ .unit hunit hword
    · exact (wordToken_unlisted hlisted).symm ▸ .unlisted hlisted

theorem Means.isJunk {word : String} {t : Token} (h : Means word t) : t.isJunk = false := by
  cases h <;> rfl

theorem isNumber_numeralToken (cs : List Char) : (numeralToken cs).isNumber = true := by
  rw [numeralToken]
  split
  next => rfl
  next => exact Guarded.isNumber_integerToken cs

theorem isJunk_of_isNumber {t : Token} (h : t.isNumber = true) : t.isJunk = false := by
  cases t with
  | junk text => cases h
  | _ => rfl

/-- The first of the characters satisfies a condition. -/
def StartsWith (p : Char → Bool) (cs : List Char) : Prop := ∃ c ∈ cs.head?, p c = true

theorem startsWith_cons {p : Char → Bool} {c : Char} {rest : List Char} :
    StartsWith p (c :: rest) ↔ p c = true := by simp [StartsWith]

/-- Signs, words and numerals start differently. -/
theorem not_numeralFront_of_isWordStart {c : Char} (hc : isWordStart c = true) (rest : List Char) :
    ¬NumeralFront (c :: rest) := by
  have hpoint : c ≠ '.' := by
    rintro rfl
    cases hc
  rw [NumeralFront, isDigit_of_isWordStart hc]
  · exact Bool.false_ne_true
  · exact fun _ _ heq => absurd heq hpoint

theorem not_numeralFront_of_isSignChar {c : Char} (hc : isSignChar c = true) (rest : List Char) :
    ¬NumeralFront (c :: rest) := by
  have hall : ∀ c ∈ signChars, isDigit c = false ∧ c ≠ '.' := forall_mem_of_all (by decide)
  obtain ⟨hdigit, hpoint⟩ := hall c (List.contains_iff_mem.1 hc)
  rw [NumeralFront, hdigit]
  · exact Bool.false_ne_true
  · exact fun _ _ heq => absurd heq hpoint

end Token

namespace Lexeme

open Token Text

/-! ## What stands at the front -/

/-- A lexeme is what the characters begin with.  A word is taken as a whole, a numeral and a sign as
far as they reach, and what is none of these up to the next gap. -/
structure Leads (l : Lexeme) (cs : List Char) : Prop where
  front : l.chars <+: cs
  nonempty : l.chars ≠ []
  solid : ∀ c ∈ l.chars, isGap c = false
  word : StartsWith isWordStart cs →
    Longest (fun taken => ∀ c ∈ taken, isWordChar c = true) l.chars cs ∧
      Means (String.ofList l.chars) l.token
  numeral : NumeralFront cs → Longest IsNumeral l.chars cs ∧ l.token = numeralToken l.chars
  sign : StartsWith isSignChar cs → Longest IsSign l.chars cs ∧ (l.chars, l.token) ∈ signTokens
  other : ¬StartsWith isWordStart cs → ¬NumeralFront cs → ¬StartsWith isSignChar cs →
    l.token = .junk (String.ofList l.chars)
  upToGap : l.token.isJunk = true →
    Longest (fun taken => ∀ c ∈ taken, (!isGap c) = true) l.chars cs

theorem isGap_of_isBlank_eq_false {c : Char} (h : isBlank c = false) : isGap c = false :=
  Bool.eq_false_iff.2 fun hgap => by cases h.symm.trans (isBlank_of_isGap hgap)

theorem signTokens_apart : ∀ s ∈ signTokens, s.1 ≠ [] ∧ s.1.all isSignChar = true ∧
    s.2.isJunk = false := by decide

variable {c : Char} {rest : List Char}

theorem leads_word (hc : isWordStart c = true) :
    Leads ⟨(c :: rest).takeWhile isWordChar,
      wordToken (String.ofList ((c :: rest).takeWhile isWordChar))⟩ (c :: rest) := by
  have hrun := longest_takeWhile isWordChar (c :: rest)
  have hmeans :=
    means_iff.2 (Eq.refl (wordToken (String.ofList ((c :: rest).takeWhile isWordChar))))
  exact {
    front := hrun.front
    nonempty := by simp [isWordChar, hc]
    solid := fun d hd => isGap_of_isBlank_eq_false (isBlank_of_isWordChar (hrun.holds d hd))
    word := fun _ => ⟨hrun, hmeans⟩
    numeral := fun h => absurd h (not_numeralFront_of_isWordStart hc rest)
    sign := fun h => by cases (isWordStart_of_isSignChar (startsWith_cons.1 h)).symm.trans hc
    other := fun h => absurd (startsWith_cons.2 hc) h
    upToGap := fun h => by cases hmeans.isJunk.symm.trans h }

theorem leads_numeral {cs : List Char} (h : NumeralFront cs) :
    Leads ⟨cs.take (numeralLength cs), numeralToken (cs.take (numeralLength cs))⟩ cs := by
  have hlongest := longest_numeral h
  have hblank : ∀ c ∈ cs.take (numeralLength cs), isBlank c = false := fun c hc =>
    isBlank_of_mem_numeralChars c (hlongest.holds.subset hc)
  have hjunk := isJunk_of_isNumber (isNumber_numeralToken (cs.take (numeralLength cs)))
  obtain ⟨c, rest, rfl⟩ : ∃ c rest, cs = c :: rest := by
    cases cs with
    | nil => exact h.elim
    | cons c rest => exact ⟨c, rest, rfl⟩
  exact {
    front := hlongest.front
    nonempty := fun hnil => by
      obtain ⟨c, rest, hcs, -⟩ := hlongest.holds.exists_cons
      cases hnil.symm.trans hcs
    solid := fun c hc => isGap_of_isBlank_eq_false (hblank c hc)
    word := fun hc => absurd h (not_numeralFront_of_isWordStart (startsWith_cons.1 hc) rest)
    numeral := fun _ => ⟨hlongest, rfl⟩
    sign := fun hc => absurd h (not_numeralFront_of_isSignChar (startsWith_cons.1 hc) rest)
    other := fun _ hnumeral => absurd h hnumeral
    upToGap := fun hgap => by cases hjunk.symm.trans hgap }

theorem leads_sign {s : List Char} {t : Token} (hc : isSignChar c = true)
    (hmem : (s, t) ∈ signTokens) (hs : Longest IsSign s (c :: rest)) :
  Leads ⟨s, t⟩ (c :: rest) := by
  obtain ⟨hne, hsign, hjunk⟩ := signTokens_apart _ hmem
  have hblank : ∀ d ∈ s, isBlank d = false := fun d hd =>
    isBlank_of_isSignChar (List.all_eq_true.1 hsign d hd)
  exact {
    front := hs.front
    nonempty := hne
    solid := fun d hd => isGap_of_isBlank_eq_false (hblank d hd)
    word := fun h => by cases (isWordStart_of_isSignChar hc).symm.trans (startsWith_cons.1 h)
    numeral := fun h => absurd h (not_numeralFront_of_isSignChar hc rest)
    sign := fun _ => ⟨hs, hmem⟩
    other := fun _ _ h => absurd (startsWith_cons.2 hc) h
    upToGap := fun h => by cases hjunk.symm.trans h }

theorem leads_junk (hgap : isGap c = false) (hword : isWordStart c = false)
    (hsign : isSignChar c = false) (hnumeral : ¬NumeralFront (c :: rest)) :
    Leads ⟨(c :: rest).takeWhile fun d => !isGap d,
      .junk (String.ofList ((c :: rest).takeWhile fun d => !isGap d))⟩ (c :: rest) := by
  have hrun := longest_takeWhile (fun d => !isGap d) (c :: rest)
  exact {
    front := hrun.front
    nonempty := by simp [hgap]
    solid := fun d hd => by simpa using hrun.holds d hd
    word := fun h => by cases hword.symm.trans (startsWith_cons.1 h)
    numeral := fun h => absurd h hnumeral
    sign := fun h => by cases hsign.symm.trans (startsWith_cons.1 h)
    other := fun _ _ _ => rfl
    upToGap := fun _ => hrun }

/-- At a character that is no gap the lexeme that is taken leads. -/
theorem exists_leads (hgap : isGap c = false) (rest : List Char) :
    ∃ l, first? (c :: rest) = some l ∧ l.Leads (c :: rest) := by
  by_cases hword : isWordStart c = true
  · exact ⟨_, first?_word hword rest, leads_word hword⟩
  by_cases hnumeral : NumeralFront (c :: rest)
  · exact ⟨_, first?_numeral hnumeral, leads_numeral hnumeral⟩
  by_cases hsign : isSignChar c = true
  · obtain ⟨s, t, hmem, hlongest, hfirst⟩ := exists_sign hsign rest
    exact ⟨_, hfirst, leads_sign hsign hmem hlongest⟩
  · rw [Bool.not_eq_true] at hword hsign
    exact ⟨_, first?_junk hgap hword hsign hnumeral, leads_junk hgap hword hsign hnumeral⟩

/-- One lexeme at most leads. -/
theorem Leads.unique {l l' : Lexeme} {cs : List Char} (h : l.Leads cs) (h' : l'.Leads cs) :
    l = l' := by
  have hparts : l.chars = l'.chars ∧ l.token = l'.token := by
    by_cases hword : StartsWith isWordStart cs
    · obtain ⟨hlongest, hmeans⟩ := h.word hword
      obtain ⟨hlongest', hmeans'⟩ := h'.word hword
      have hchars := hlongest.unique hlongest'
      exact ⟨hchars, by rw [means_iff.1 hmeans, means_iff.1 hmeans', hchars]⟩
    by_cases hnumeral : NumeralFront cs
    · obtain ⟨hlongest, htoken⟩ := h.numeral hnumeral
      obtain ⟨hlongest', htoken'⟩ := h'.numeral hnumeral
      have hchars := hlongest.unique hlongest'
      exact ⟨hchars, by rw [htoken, htoken', hchars]⟩
    by_cases hsign : StartsWith isSignChar cs
    · have hone : ∀ s ∈ signTokens, ∀ s' ∈ signTokens, s.1 = s'.1 → s.2 = s'.2 := by decide
      obtain ⟨hlongest, hmem⟩ := h.sign hsign
      obtain ⟨hlongest', hmem'⟩ := h'.sign hsign
      have hchars := hlongest.unique hlongest'
      exact ⟨hchars, hone _ hmem _ hmem' hchars⟩
    · have htoken := h.other hword hnumeral hsign
      have htoken' := h'.other hword hnumeral hsign
      have hlongest := h.upToGap (by rw [htoken]; rfl)
      have hlongest' := h'.upToGap (by rw [htoken']; rfl)
      have hchars := hlongest.unique hlongest'
      exact ⟨hchars, by rw [htoken, htoken', hchars]⟩
  obtain ⟨chars, token⟩ := l
  obtain ⟨rfl, rfl⟩ := hparts
  rfl

/-! ## Cutting a text -/

/-- A text cut into gaps and lexemes: each character is a gap, or it is in one lexeme. -/
inductive Cut : List Char → List Lexeme → Prop where
  | nil : Cut [] []
  | gap {c : Char} {cs : List Char} {ls : List Lexeme} :
    isGap c = true → Cut cs ls → Cut (c :: cs) ls
  | lexeme {l : Lexeme} {cs : List Char} {ls : List Lexeme} :
    l.Leads (l.chars ++ cs) → Cut cs ls → Cut (l.chars ++ cs) (l :: ls)

/-- The lexemes that a text is cut into hold all its characters but the gaps, in order. -/
theorem Cut.chars {cs : List Char} {ls : List Lexeme} (h : Cut cs ls) :
    ls.flatMap Lexeme.chars = cs.filter fun c => !isGap c := by
  induction h with
  | nil => rfl
  | gap hc _ ih => rw [ih, List.filter_cons_of_neg (by simp [hc])]
  | @lexeme l cs ls hl _ ih =>
    have hsolid : l.chars.filter (fun c => !isGap c) = l.chars :=
      List.filter_eq_self.2 fun c hc => by simp [hl.solid c hc]
    rw [List.flatMap_cons, ih, List.filter_append, hsolid]

/-- Each lexeme of a text leads what stands from it on. -/
theorem Cut.leads_of_mem {cs : List Char} {ls : List Lexeme} {l : Lexeme} (h : Cut cs ls)
    (hl : l ∈ ls) : ∃ rest, l.Leads (l.chars ++ rest) := by
  induction h with
  | nil => cases hl
  | gap _ _ ih => exact ih hl
  | @lexeme _ rest _ hleads _ ih =>
    rcases List.mem_cons.1 hl with rfl | hl
    · exact ⟨rest, hleads⟩
    · exact ih hl

/-- Scanning cuts a text. -/
theorem cut_scan (cs : List Char) : Cut cs (scan cs) := by
  induction cs using scan.induct with
  | case1 =>
    rw [scan_nil]
    exact .nil
  | case2 c cs gap ih =>
    rw [scan_gap gap]
    exact .gap gap ih
  | case3 c cs gap l found ih =>
    rw [scan_lexeme gap found]
    obtain ⟨l', hfirst, hleads⟩ := exists_leads (Bool.eq_false_iff.2 gap) cs
    cases found.symm.trans hfirst
    obtain ⟨d, ds, hchars⟩ := List.exists_cons_of_ne_nil hleads.nonempty
    obtain ⟨rest, hrest⟩ := hleads.front
    have hcs : cs.drop (l.chars.length - 1) = rest := by
      rw [hchars, List.cons_append] at hrest
      rw [hchars, ← (List.cons.inj hrest).2, List.length_cons, Nat.add_sub_cancel, List.drop_left]
    rw [hcs] at ih ⊢
    rw [← hrest] at hleads ⊢
    exact .lexeme hleads ih
  | case4 c cs gap found ih =>
    obtain ⟨l, hl⟩ := exists_first? (Bool.eq_false_iff.2 gap) cs
    cases found.symm.trans hl

/-- A text is cut in no other way than by scanning. -/
theorem Cut.eq_scan {cs : List Char} {ls : List Lexeme} (h : Cut cs ls) : ls = scan cs := by
  induction h with
  | nil => exact scan_nil.symm
  | gap hc _ ih => rw [scan_gap hc, ih]
  | @lexeme l cs ls hl _ ih =>
    obtain ⟨d, ds, hchars⟩ := List.exists_cons_of_ne_nil hl.nonempty
    have hgap : isGap d = false := hl.solid d (by rw [hchars]; exact List.mem_cons_self)
    have hfirst : first? (l.chars ++ cs) = some l := by
      rw [hchars] at hl ⊢
      obtain ⟨l', hfirst, hleads⟩ := exists_leads hgap (ds ++ cs)
      rw [hl.unique hleads]
      exact hfirst
    rw [hchars, List.cons_append] at hfirst ⊢
    rw [scan_lexeme (by simp [hgap]) hfirst, hchars, List.length_cons, Nat.add_sub_cancel,
      List.drop_left, ih]

end Lexeme

end Reckoner
