import Mathlib.Data.List.Find
import Reckoner.Proofs.Text.Trim
import Reckoner.Proofs.Token.Lexeme
import Reckoner.Proofs.Token.Numeral

/-!
# Where tokens end

No pattern looks beyond the next gap.  So what stands in front of a gap is cut into the same lexemes
whatever stands behind it, and a text with a gap in it is cut piece by piece (`scan_append`).  Texts
that are joined by blanks have the lexemes of the texts, one after the other (`scan_intercalate`).

Trimming takes away more than gaps.  But a lexeme that holds an information separator is junk; as
long as there is no junk, only gaps are trimmed, and the lexemes stay the same (`scan_trim`).
-/

namespace Reckoner

namespace Token

open Text

/-! ## Sorts of patterns -/

/-- The characters of the texts satisfy a condition. -/
def MadeOf (p : Char → Bool) (texts : List String) : Prop :=
  ∀ s ∈ texts, ∀ c ∈ s.toList, p c = true

theorem madeOf_of_all {p : Char → Bool} {texts : List String}
    (h : (texts.all fun s => s.toList.all p) = true) : MadeOf p texts := by
  intro s hs c hc
  exact List.all_eq_true.1 (List.all_eq_true.1 h s hs) c hc

/-- The characters of signs. -/
def signChars : List Char := ['(', ')', '^', '*', '-', '+', '/', '%', '"', '\'']

/-- The character belongs to a sign. -/
def isSignChar (c : Char) : Bool := signChars.contains c

theorem toList_toLower (s : String) : s.toLower.toList = s.toList.map Char.toLower :=
  String.toList_map ..

theorem conversion_madeOf : MadeOf isWordChar Spelling.conversion := madeOf_of_all (by decide)

theorem currencies_madeOf : MadeOf isWordChar Spelling.currencies := by
  have hcodes : MadeOf (fun c => isWordChar c && isWordChar c.toLower) Currency.codes :=
    madeOf_of_all (by decide)
  intro s hs c hc
  simp only [Spelling.currencies, List.mem_flatMap, List.mem_cons, List.not_mem_nil,
    or_false] at hs
  obtain ⟨code, hcode, rfl | rfl⟩ := hs
  · exact (Bool.and_eq_true_iff.1 (hcodes s hcode c hc)).1
  · rw [toList_toLower] at hc
    obtain ⟨d, hd, rfl⟩ := List.mem_map.1 hc
    exact (Bool.and_eq_true_iff.1 (hcodes code hcode d hd)).2

theorem units_madeOf : ∀ spelling ∈ Spelling.units, MadeOf isWordChar spelling.1 := by
  have hunits : (Spelling.units.all fun spelling => spelling.1.all fun s =>
      s.toList.all isWordChar) = true := by decide
  intro spelling hspelling
  exact madeOf_of_all (List.all_eq_true.1 hunits spelling hspelling)

theorem signs_madeOf : ∀ spelling ∈ Spelling.signs, isSignChar spelling.1 = true := by decide

/-- A property of all patterns is proved sort by sort. -/
theorem patterns_induct {motive : Pattern → Prop}
    (point : motive pointNumeral) (plain : motive plainNumeral)
    (sign : ∀ literals t, MadeOf isSignChar literals → motive (sign literals t))
    (words : ∀ words make, MadeOf isWordChar words → motive (oneOf words make))
    (word : motive anyWord) (junk : motive anyJunk) {p : Pattern} (h : p ∈ patterns) :
    motive p := by
  rcases List.mem_append.1 h with h | h
  · rcases List.mem_append.1 h with h | h
    · simp only [List.mem_cons, List.not_mem_nil, or_false] at h
      rcases h with rfl | rfl | rfl | rfl | rfl | rfl | rfl | rfl | rfl | rfl | rfl | rfl
      · exact point
      · exact plain
      iterate 8 exact sign _ _ (madeOf_of_all (by decide))
      · exact words _ _ conversion_madeOf
      · exact words _ _ currencies_madeOf
    · rcases List.mem_append.1 h with h | h
      · obtain ⟨spelling, hspelling, rfl⟩ := List.mem_map.1 h
        exact words _ _ (units_madeOf spelling hspelling)
      · obtain ⟨spelling, hspelling, rfl⟩ := List.mem_map.1 h
        refine sign _ _ fun s hs c hc => ?_
        rw [List.mem_singleton.1 hs, String.toList_ofList, List.mem_singleton] at hc
        exact hc ▸ signs_madeOf spelling hspelling
  · simp only [List.mem_cons, List.not_mem_nil, or_false] at h
    rcases h with rfl | rfl
    · exact word
    · exact junk

/-! ## What stands behind

The characters `cs`, with a character `c` behind them and anything behind that. -/

section
variable {cs rest : List Char} {c : Char}

theorem runLength_append {p : Char → Bool} (hc : p c = false) :
    runLength p (cs ++ c :: rest) = runLength p cs := by
  have hnone : (c :: rest).takeWhile p = [] := List.takeWhile_cons_of_neg (by simp [hc])
  rw [runLength, runLength, List.takeWhile_append, hnone]
  split
  next hall => rw [List.append_nil, hall]
  next => rfl

theorem isPrefixOf_append {s : List Char} (hc : c ∉ s) :
    s.isPrefixOf (cs ++ c :: rest) = s.isPrefixOf cs := by
  induction s generalizing cs with
  | nil => simp
  | cons d s ih =>
    obtain ⟨hd, hs⟩ := not_or.1 (List.mem_cons.not.1 hc)
    cases cs with
    | nil => simp [List.isPrefixOf, Ne.symm hd]
    | cons e cs => simp [List.isPrefixOf, ih hs]

theorem literalLength_append {literals : List String} (hc : ∀ s ∈ literals, c ∉ s.toList) :
    literalLength literals (cs ++ c :: rest) = literalLength literals cs := by
  rw [literalLength, literalLength, List.find?_congr fun s hs => isPrefixOf_append (hc s hs)]

/-- A word is not longer than the text that starts with it. -/
theorem length_le_of_isPrefixOf {s : String} (h : s.toList.isPrefixOf cs = true) :
    s.length ≤ cs.length := by
  rw [← String.length_toList]
  exact (List.isPrefixOf_iff_prefix.1 h).length_le

theorem wordLength_append {words : List String} (hwords : MadeOf isWordChar words)
    (hc : isWordChar c = false) : wordLength words (cs ++ c :: rest) = wordLength words cs := by
  rw [wordLength, wordLength, List.find?_congr]
  intro s hs
  have hmem : c ∉ s.toList := fun hmem => by simp [hwords s hs c hmem] at hc
  rw [isPrefixOf_append hmem]
  -- a whole word ends in `cs`, or where `c` ends it
  cases hstarts : s.toList.isPrefixOf cs with
  | false => rfl
  | true =>
    rw [List.drop_append_of_le_length (length_le_of_isPrefixOf hstarts)]
    cases cs.drop s.length with
    | nil => simp [hc]
    | cons d ds => rfl

/-- The character belongs to no numeral. -/
def EndsNumeral (c : Char) : Prop := c ∉ numeralChars

theorem EndsNumeral.isDigit (hc : EndsNumeral c) : isDigit c = false := by
  cases h : Token.isDigit c with
  | false => rfl
  | true => exact absurd (List.mem_append_left _ (mem_digits h)) hc

theorem exponentLength_append (hc : EndsNumeral c) :
    exponentLength (cs ++ c :: rest) = exponentLength cs := by
  have hdigits (ds : List Char) :
      runLength Token.isDigit (ds ++ c :: rest) = runLength Token.isDigit ds :=
    runLength_append hc.isDigit
  have hnone := hdigits []
  simp only [EndsNumeral, numeralChars, List.mem_append, List.mem_cons, not_or] at hc
  match cs with
  | [] => simp [exponentLength, hc]
  | [e] =>
    simp only [List.cons_append, List.nil_append] at hnone ⊢
    simp [exponentLength, hc, hnone]
  | e :: d :: ds =>
    have hunsigned := hdigits (d :: ds)
    rcases eq_or_ne d '+' with rfl | hplus
    · simp [exponentLength, hdigits]
    · rcases eq_or_ne d '-' with rfl | hminus
      · simp [exponentLength, hdigits]
      · simp only [List.cons_append] at hunsigned ⊢
        simp [exponentLength, hplus, hminus, hunsigned]

theorem runLength_le (p : Char → Bool) (cs : List Char) : runLength p cs ≤ cs.length :=
  (List.takeWhile_prefix p).length_le

theorem pointLength_le (cs : List Char) : pointLength cs ≤ cs.length := by
  have hwhole := runLength_le isDigit cs
  unfold pointLength
  dsimp only
  split
  next fraction hfraction =>
    have hle := runLength_le isDigit fraction
    have hlength := congrArg List.length hfraction
    rw [List.length_drop, List.length_cons] at hlength
    split
    next => exact Nat.zero_le _
    next => omega
  next => exact Nat.zero_le _

theorem pointLength_append (hc : EndsNumeral c) :
    pointLength (cs ++ c :: rest) = pointLength cs := by
  have hpoint : c ≠ '.' := fun h => hc (by rw [h]; decide)
  simp only [pointLength, runLength_append hc.isDigit,
    List.drop_append_of_le_length (runLength_le isDigit cs)]
  cases cs.drop (runLength isDigit cs) with
  | nil => simp [hpoint]
  | cons d ds =>
    rcases eq_or_ne d '.' with rfl | hd
    · simp [runLength_append hc.isDigit]
    · simp [hd]

theorem withExponent_append {n : Nat} (hc : EndsNumeral c) (hn : n ≤ cs.length) :
    withExponent (cs ++ c :: rest) n = withExponent cs n := by
  rw [withExponent, withExponent, List.drop_append_of_le_length hn, exponentLength_append hc]

theorem pointNumeral_append (hc : EndsNumeral c) :
    pointNumeral.size (cs ++ c :: rest) = pointNumeral.size cs := by
  simp only [pointNumeral, pointLength_append hc, withExponent_append hc (pointLength_le cs)]

theorem plainNumeral_append (hc : EndsNumeral c) :
    plainNumeral.size (cs ++ c :: rest) = plainNumeral.size cs := by
  simp only [plainNumeral, runLength_append hc.isDigit,
    withExponent_append hc (runLength_le isDigit cs)]

theorem anyWord_append (hc : isWordChar c = false) :
    anyWord.size (cs ++ c :: rest) = anyWord.size cs := by
  cases cs with
  | nil =>
    have hstart : isWordStart c = false := (Bool.or_eq_false_iff.1 hc).1
    simp [anyWord, hstart]
  | cons d ds => exact if_congr Iff.rfl (runLength_append hc) rfl

end

/-! ## Gaps and blanks -/

/-- No character of a word is blank. -/
theorem isBlank_of_isWordChar {c : Char} (h : isWordChar c = true) : isBlank c = false := by
  have small : ∀ n < 123, isWordChar (Char.ofNat n) = true → isBlank (Char.ofNat n) = false := by
    decide
  have hlow : ∀ {low high : Char}, low ≤ c ∧ c ≤ high → c.toNat ≤ high.toNat := fun h => h.2
  have hbound : c.toNat < 123 := by
    simp only [isWordChar, isWordStart, isDigit, Bool.or_eq_true, Bool.and_eq_true,
      decide_eq_true_eq, beq_iff_eq] at h
    rcases h with ((h | h) | rfl) | h
    · exact Nat.lt_succ_of_le h.2
    · exact Nat.lt_of_le_of_lt h.2 (by decide)
    · decide
    · exact Nat.lt_of_le_of_lt h.2 (by decide)
  rw [← Char.ofNat_toNat c] at h ⊢
  exact small c.toNat hbound h

theorem isBlank_of_isSignChar {c : Char} (h : isSignChar c = true) : isBlank c = false := by
  have hall : ∀ c ∈ signChars, isBlank c = false := forall_mem_of_all (by decide)
  exact hall c (List.contains_iff_mem.1 h)

theorem isBlank_of_mem_numeralChars : ∀ c ∈ numeralChars, isBlank c = false :=
  forall_mem_of_all (by decide)

theorem eq_false_of_isGap {p : Char → Bool} {c : Char}
    (hp : ∀ c, p c = true → isBlank c = false) (hc : isGap c = true) : p c = false := by
  cases h : p c with
  | false => rfl
  | true => exact absurd (isBlank_of_isGap hc) (by simp [hp c h])

/-- A pattern takes the same characters in front of a gap whatever stands behind it. -/
theorem size_append_gap {p : Pattern} (hp : p ∈ patterns) {g : Char} (hg : isGap g = true)
    (cs rest : List Char) : p.size (cs ++ g :: rest) = p.size cs := by
  have hword : isWordChar g = false := eq_false_of_isGap (fun _ => isBlank_of_isWordChar) hg
  have hsign : isSignChar g = false := eq_false_of_isGap (fun _ => isBlank_of_isSignChar) hg
  have hnumeral : EndsNumeral g := fun hmem => by
    cases (isBlank_of_mem_numeralChars g hmem).symm.trans (isBlank_of_isGap hg)
  refine patterns_induct (motive := fun p => p.size _ = p.size cs) ?_ ?_ ?_ ?_ ?_ ?_ hp
  · exact pointNumeral_append hnumeral
  · exact plainNumeral_append hnumeral
  · intro literals t hliterals
    refine literalLength_append fun s hs hmem => ?_
    simp [hliterals s hs g hmem] at hsign
  · intro words make hwords
    exact wordLength_append hwords hword
  · exact anyWord_append hword
  · exact runLength_append (by simp [hg])

/-! ## What patterns take -/

theorem exponentLength_le (cs : List Char) : exponentLength cs ≤ cs.length := by
  unfold exponentLength
  split
  next e rest =>
    split
    next =>
      split
      next digits =>
        have hle := runLength_le isDigit digits
        simp only [List.length_cons]
        split <;> omega
      next digits =>
        have hle := runLength_le isDigit digits
        simp only [List.length_cons]
        split <;> omega
      next =>
        have hle := runLength_le isDigit rest
        simp only [List.length_cons]
        split <;> omega
    next => exact Nat.zero_le _
  next => exact Nat.zero_le _

theorem withExponent_le {cs : List Char} {n : Nat} (hn : n ≤ cs.length) :
    withExponent cs n ≤ cs.length := by
  have hle := exponentLength_le (cs.drop n)
  rw [List.length_drop] at hle
  rw [withExponent]
  split <;> omega

/-- A length found among texts is the length of one of them, or zero. -/
theorem length_of_find? (starts : String → Bool) (texts : List String) :
    ((texts.find? starts).map String.length).getD 0 = 0 ∨ ∃ s ∈ texts, starts s = true ∧
      ((texts.find? starts).map String.length).getD 0 = s.length := by
  cases hfind : texts.find? starts with
  | none => exact .inl rfl
  | some s => exact .inr ⟨s, List.mem_of_find?_eq_some hfind, List.find?_some hfind, rfl⟩

/-- A sign pattern takes one of its signs or nothing. -/
theorem take_literalLength (literals : List String) (cs : List Char) :
    literalLength literals cs = 0 ∨
      ∃ s ∈ literals, s.toList.isPrefixOf cs = true ∧ literalLength literals cs = s.length :=
  length_of_find? _ literals

/-- A word pattern takes one of its words or nothing. -/
theorem take_wordLength (words : List String) (cs : List Char) :
    wordLength words cs = 0 ∨
      ∃ s ∈ words, s.toList.isPrefixOf cs = true ∧ wordLength words cs = s.length := by
  rcases length_of_find? _ words with hnone | ⟨s, hs, hstarts, hsize⟩
  · exact .inl hnone
  · exact .inr ⟨s, hs, (Bool.and_eq_true_iff.1 hstarts).1, hsize⟩

theorem take_of_isPrefixOf {s : String} {cs : List Char} (h : s.toList.isPrefixOf cs = true) :
    cs.take s.length = s.toList := by
  rw [← String.length_toList]
  exact (List.prefix_iff_eq_take.1 (List.isPrefixOf_iff_prefix.1 h)).symm

/-- No pattern takes more characters than there are. -/
theorem size_le {p : Pattern} (hp : p ∈ patterns) (cs : List Char) : p.size cs ≤ cs.length := by
  refine patterns_induct (motive := fun p => p.size cs ≤ cs.length) ?_ ?_ ?_ ?_ ?_ ?_ hp
  · exact withExponent_le (pointLength_le cs)
  · exact withExponent_le (runLength_le isDigit cs)
  · intro literals t _
    rcases take_literalLength literals cs with hnone | ⟨s, -, hstarts, hsize⟩
    · exact hnone.trans_le (Nat.zero_le _)
    · exact hsize.trans_le (length_le_of_isPrefixOf hstarts)
  · intro words make _
    rcases take_wordLength words cs with hnone | ⟨s, -, hstarts, hsize⟩
    · exact hnone.trans_le (Nat.zero_le _)
    · exact hsize.trans_le (length_le_of_isPrefixOf hstarts)
  · simp only [anyWord]
    split
    next => exact runLength_le isWordChar cs
    next => exact Nat.zero_le _
  · exact runLength_le _ cs

/-- The token stands for characters that belong to no other. -/
def isJunk : Token → Bool
  | .junk _ => true
  | _ => false

/-- Only junk holds blanks. -/
theorem solid_of_pattern {p : Pattern} (hp : p ∈ patterns) (cs : List Char)
    (hjunk : (p.token (cs.take (p.size cs))).isJunk = false) :
    ∀ c ∈ cs.take (p.size cs), isBlank c = false := by
  revert hjunk
  refine patterns_induct (motive := fun p => (p.token (cs.take (p.size cs))).isJunk = false →
    ∀ c ∈ cs.take (p.size cs), isBlank c = false) ?_ ?_ ?_ ?_ ?_ ?_ hp
  · intro _ c hc
    rcases Nat.eq_zero_or_pos (pointNumeral.size cs) with hnone | hsome
    · simp [hnone] at hc
    · obtain ⟨ds, ds', exponent, htake, hne, hds, hds', hexponent⟩ := take_pointNumeral hsome
      rw [htake] at hc
      exact isBlank_of_mem_numeralChars c ((IsNumeral.point hne hds hds' hexponent).subset hc)
  · intro _ c hc
    rcases Nat.eq_zero_or_pos (plainNumeral.size cs) with hnone | hsome
    · simp [hnone] at hc
    · obtain ⟨ds, exponent, htake, hne, hds, hexponent⟩ := take_plainNumeral hsome
      rw [htake] at hc
      exact isBlank_of_mem_numeralChars c ((IsNumeral.whole hne hds hexponent).subset hc)
  · intro literals t hliterals _ c hc
    simp only [sign] at hc
    rcases take_literalLength literals cs with hnone | ⟨s, hs, hstarts, hsize⟩
    · simp [hnone] at hc
    · rw [hsize, take_of_isPrefixOf hstarts] at hc
      exact isBlank_of_isSignChar (hliterals s hs c hc)
  · intro words make hwords _ c hc
    simp only [oneOf] at hc
    rcases take_wordLength words cs with hnone | ⟨s, hs, hstarts, hsize⟩
    · simp [hnone] at hc
    · rw [hsize, take_of_isPrefixOf hstarts] at hc
      exact isBlank_of_isWordChar (hwords s hs c hc)
  · intro _ c hc
    simp only [anyWord] at hc
    split at hc
    next =>
      rw [take_runLength] at hc
      exact isBlank_of_isWordChar (List.mem_takeWhile_imp hc)
    next => simp at hc
  · rintro ⟨⟩

end Token

/-! ## Lexemes -/

namespace Lexeme

open Text

/-- The lexeme in front of a gap does not depend on what stands behind the gap. -/
theorem first?_append_gap {g : Char} (hg : isGap g = true) (cs rest : List Char) :
    first? (cs ++ g :: rest) = first? cs := by
  have hsize : ∀ p ∈ Token.patterns, p.size (cs ++ g :: rest) = p.size cs := fun p hp =>
    Token.size_append_gap hp hg cs rest
  have hfind : (Token.patterns.find? fun p => 0 < p.size (cs ++ g :: rest)) =
      Token.patterns.find? fun p => 0 < p.size cs :=
    List.find?_congr fun p hp => by rw [hsize p hp]
  rw [first?, first?, hfind]
  refine Option.map_congr fun p hp => ?_
  have hmem := List.mem_of_find?_eq_some hp
  rw [hsize p hmem, List.take_append_of_le_length (Token.size_le hmem cs)]

/-- A text with a gap in it is cut piece by piece. -/
theorem scan_append {g : Char} (hg : isGap g = true) (cs rest : List Char) :
    scan (cs ++ g :: rest) = scan cs ++ scan rest := by
  induction cs using scan.induct with
  | case1 => rw [List.nil_append, scan_gap hg, scan_nil, List.nil_append]
  | case2 c cs gap ih => rw [List.cons_append, scan_gap gap, scan_gap gap, ih]
  | case3 c cs gap l found ih =>
    have hlength : l.chars.length - 1 ≤ cs.length := by
      obtain ⟨p, hp, rfl⟩ := Option.map_eq_some_iff.1 found
      simp
    have hfound : first? (c :: (cs ++ g :: rest)) = some l :=
      (first?_append_gap hg (c :: cs) rest).trans found
    rw [List.cons_append, scan_lexeme gap hfound, scan_lexeme gap found,
      List.drop_append_of_le_length hlength, ih, List.cons_append]
  | case4 c cs gap found ih =>
    obtain ⟨l, hl⟩ := exists_first? (Bool.eq_false_iff.2 gap) cs
    cases found.symm.trans hl

theorem scan_gaps_append {gaps : List Char} (hgaps : ∀ c ∈ gaps, isGap c = true)
    (cs : List Char) : scan (gaps ++ cs) = scan cs := by
  induction gaps with
  | nil => rfl
  | cons g gaps ih =>
    rw [List.cons_append, scan_gap (hgaps g List.mem_cons_self)]
    exact ih fun c hc => hgaps c (List.mem_cons_of_mem _ hc)

theorem scan_append_gaps {gaps : List Char} (hgaps : ∀ c ∈ gaps, isGap c = true)
    (cs : List Char) : scan (cs ++ gaps) = scan cs := by
  cases gaps with
  | nil => rw [List.append_nil]
  | cons g gaps =>
    have hnil := scan_gaps_append (fun c hc => hgaps c (List.mem_cons_of_mem _ hc)) []
    rw [List.append_nil, scan_nil] at hnil
    rw [scan_append (hgaps g List.mem_cons_self), hnil, List.append_nil]

/-- The characters of a lexeme stand at the front. -/
theorem first?_chars {cs : List Char} {l : Lexeme} (h : first? cs = some l) :
    ∃ p ∈ Token.patterns, 0 < p.size cs ∧
      l = ⟨cs.take (p.size cs), p.token (cs.take (p.size cs))⟩ := by
  obtain ⟨p, hp, rfl⟩ := Option.map_eq_some_iff.1 h
  exact ⟨p, List.mem_of_find?_eq_some hp, by simpa using List.find?_some hp, rfl⟩

/-- Without junk, the only blanks are gaps. -/
theorem isGap_of_isBlank {cs : List Char} (hjunk : ∀ l ∈ scan cs, l.token.isJunk = false) :
    ∀ c ∈ cs, isBlank c = true → isGap c = true := by
  induction cs using scan.induct with
  | case1 =>
    intro c hc
    cases hc
  | case2 d cs gap ih =>
    rw [scan_gap gap] at hjunk
    intro c hc hblank
    rcases List.mem_cons.1 hc with rfl | hc
    · exact gap
    · exact ih hjunk c hc hblank
  | case3 d cs gap l found ih =>
    rw [scan_lexeme gap found] at hjunk
    obtain ⟨p, hp, hpos, rfl⟩ := first?_chars found
    have hsolid := Token.solid_of_pattern hp (d :: cs) (hjunk _ List.mem_cons_self)
    -- a blank stands behind the lexeme
    intro c hc hblank
    rw [← List.take_append_drop (p.size (d :: cs)) (d :: cs)] at hc
    rcases List.mem_append.1 hc with hc | hc
    · cases hblank.symm.trans (hsolid c hc)
    · refine ih (fun l hl => hjunk l (List.mem_cons_of_mem _ hl)) c ?_ hblank
      obtain ⟨n, hn⟩ := Nat.exists_eq_add_of_lt hpos
      have hle := Token.size_le hp (d :: cs)
      rw [List.length_take_of_le hle, hn, Nat.zero_add, Nat.add_sub_cancel]
      rwa [hn, Nat.zero_add, List.drop_succ_cons] at hc
  | case4 d cs gap found ih =>
    obtain ⟨l, hl⟩ := exists_first? (Bool.eq_false_iff.2 gap) cs
    cases found.symm.trans hl

/-- Without junk, trimming takes away nothing but gaps. -/
theorem scan_dropAround {cs : List Char} (hjunk : ∀ l ∈ scan cs, l.token.isJunk = false) :
    scan (dropAround isBlank cs) = scan cs := by
  have hgaps := isGap_of_isBlank hjunk
  obtain ⟨front, back, hcs, hfront, hback⟩ := exists_dropAround isBlank cs
  have hfrontGaps : ∀ c ∈ front, isGap c = true := fun c hc =>
    hgaps c (by rw [hcs]; exact List.mem_append_left _ hc) (hfront c hc)
  have hbackGaps : ∀ c ∈ back, isGap c = true := fun c hc =>
    hgaps c (by rw [hcs]; exact List.mem_append_right _ (List.mem_append_right _ hc)) (hback c hc)
  calc scan (dropAround isBlank cs)
      = scan (front ++ (dropAround isBlank cs ++ back)) := by
        rw [scan_gaps_append hfrontGaps, scan_append_gaps hbackGaps]
    _ = scan cs := by rw [← hcs]

/-! ## Texts -/

/-- Without junk, a text has the lexemes that it has after trimming. -/
theorem scan_trim {text : String} (hjunk : ∀ t ∈ Token.ofChars text.toList, t.isJunk = false) :
    scan (trim text).toList = scan text.toList := by
  rw [trim, String.toList_ofList, scan_dropAround]
  exact fun l hl => hjunk l.token (List.mem_map_of_mem hl)

/-- Texts joined by blanks have the lexemes of the texts, in order. -/
theorem scan_intercalate (texts : List String) :
    scan (" ".intercalate texts).toList = texts.flatMap fun text => scan text.toList := by
  have hscan (words : List (List Char)) : scan ([' '].intercalate words) = words.flatMap scan := by
    induction words with
    | nil => exact scan_nil
    | cons word words ih =>
      cases words with
      | nil => simp
      | cons next words =>
        rw [List.intercalate_cons_cons, List.append_assoc, List.singleton_append,
          scan_append (by decide), ih]
        rfl
  have hblank : " ".toList = [' '] := rfl
  rw [String.toList_intercalate, hblank, hscan, List.flatMap_map]

end Lexeme

end Reckoner
