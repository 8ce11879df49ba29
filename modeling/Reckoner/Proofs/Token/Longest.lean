import Reckoner.Proofs.Token.Front
import Reckoner.Proofs.Token.Guarded

/-!
# Longest lexemes

The patterns are tried in order, and the first that takes a character makes the lexeme, however much
a later one would take.  All the same a lexeme is as long as it can be.  No numeral at the front of
a text is longer than the one that is taken (`longest_numeral`): what stands behind a run of digits
decides between the two numeral patterns, and an exponent that is cut short is none.  Only two signs
start alike, and the longer one is tried first (`longest_sign`).  Where neither a numeral nor a sign
nor a word starts, everything up to the next gap is junk (`first?_junk`).
-/

namespace Reckoner

/-- The characters are the longest at the front of others that satisfy a condition. -/
structure Longest (p : List Char → Prop) (taken cs : List Char) : Prop where
  front : taken <+: cs
  holds : p taken
  longest : ∀ other, other <+: cs → p other → other.length ≤ taken.length

theorem Longest.unique {p : List Char → Prop} {taken other cs : List Char} (h : Longest p taken cs)
    (h' : Longest p other cs) : taken = other := by
  have hlength : taken.length = other.length :=
    Nat.le_antisymm (h'.longest taken h.front h.holds) (h.longest other h'.front h'.holds)
  exact (List.prefix_of_prefix_length_le h.front h'.front hlength.le).eq_of_length hlength

namespace Token

open Text

/-! ## Runs -/

section
variable {p : Char → Bool} {front cs rest : List Char}

theorem length_le_runLength (hfront : front <+: cs) (h : ∀ c ∈ front, p c = true) :
    front.length ≤ runLength p cs := by
  obtain ⟨rest, rfl⟩ := hfront
  rw [runLength, List.takeWhile_append_of_pos h, List.length_append]
  exact Nat.le_add_right _ _

/-- A run is the longest of its kind. -/
theorem longest_takeWhile (p : Char → Bool) (cs : List Char) :
    Longest (fun taken => ∀ c ∈ taken, p c = true) (cs.takeWhile p) cs where
  front := List.takeWhile_prefix p
  holds _ := List.mem_takeWhile_imp
  longest _ := length_le_runLength

end

/-! ## Numerals -/

/-- The characters start with a digit, or with a point and a digit. -/
def NumeralFront : List Char → Prop
  | '.' :: d :: _ => isDigit d = true
  | c :: _ => isDigit c = true
  | [] => False

theorem numeralFront_digit {c : Char} (hc : isDigit c = true) (rest : List Char) :
    NumeralFront (c :: rest) := by
  have hpoint : c ≠ '.' := by
    rintro rfl
    cases hc
  rw [NumeralFront]
  · exact hc
  · exact fun _ _ heq => absurd heq hpoint

/-- A numeral starts with a digit, or with a point and a digit. -/
theorem IsNumeral.numeralFront {n : List Char} (h : IsNumeral n) (rest : List Char) :
    NumeralFront (n ++ rest) := by
  cases h with
  | whole hne hds _ =>
    obtain ⟨d, ds, rfl⟩ := List.exists_cons_of_ne_nil hne
    exact numeralFront_digit (hds d List.mem_cons_self) _
  | @point ds ds' exponent hne hds hds' _ =>
    cases ds with
    | cons d ds => exact numeralFront_digit (hds d List.mem_cons_self) _
    | nil =>
      obtain ⟨d, ds', rfl⟩ := List.exists_cons_of_ne_nil (hne.resolve_left fun h => h rfl)
      exact hds' d List.mem_cons_self

/-- Where a numeral may start, one does. -/
theorem NumeralFront.exists_isNumeral {cs : List Char} (h : NumeralFront cs) :
    ∃ n, n <+: cs ∧ IsNumeral n ∧ 0 < n.length := by
  have hone {d : Char} (hd : isDigit d = true) : Digits [d] := List.forall_mem_singleton.2 hd
  unfold NumeralFront at h
  split at h
  next d rest =>
    have hpoint :=
      IsNumeral.point (.inr (List.cons_ne_nil d [])) (List.forall_mem_nil _) (hone h) .none
    exact ⟨['.', d], ⟨rest, rfl⟩, hpoint, Nat.two_pos⟩
  next c rest _ =>
    exact ⟨[c], ⟨rest, rfl⟩, .whole (List.cons_ne_nil c []) (hone h) .none, Nat.one_pos⟩
  next => exact h.elim

/-- An exponent starts with its letter. -/
theorem IsExponent.head {x : List Char} (h : IsExponent x) (hne : x ≠ []) (rest : List Char) :
    ∀ c ∈ (x ++ rest).head?, isDigit c = false ∧ c ≠ '.' := by
  have hletter : ∀ {e : Char}, e = 'e' ∨ e = 'E' → isDigit e = false ∧ e ≠ '.' := by
    rintro e (rfl | rfl) <;> decide
  cases h with
  | none => exact absurd rfl hne
  | plain he _ _ =>
    rintro _ ⟨⟩
    exact hletter he
  | signed he _ _ _ =>
    rintro _ ⟨⟩
    exact hletter he

/-- No exponent at the front is longer than the one that is taken. -/
theorem IsExponent.length_le {x cs : List Char} (h : IsExponent x) (hfront : x <+: cs) :
    x.length ≤ exponentLength cs := by
  obtain ⟨rest, rfl⟩ := hfront
  cases h with
  | none => exact Nat.zero_le _
  | @plain e ds he hne hds =>
    have hrun := length_le_runLength (List.prefix_append ds rest) hds
    have hpos := List.length_pos_iff.2 hne
    obtain ⟨d, ds, rfl⟩ := List.exists_cons_of_ne_nil hne
    obtain ⟨hminus, hplus⟩ := signless_of_mem_digits d (mem_digits (hds d List.mem_cons_self))
    simp only [List.cons_append, List.length_cons] at hrun hpos ⊢
    simp [exponentLength, he, hminus, hplus]
    split <;> omega
  | @signed e sign ds he hsign hne hds =>
    have hrun := length_le_runLength (List.prefix_append ds rest) hds
    have hpos := List.length_pos_iff.2 hne
    rcases hsign with rfl | rfl
    · simp [exponentLength, he]
      split <;> omega
    · simp [exponentLength, he]
      split <;> omega

/-- The length of the numeral at the front of a text. -/
def numeralLength (cs : List Char) : Nat :=
  if 0 < pointNumeral.size cs then pointNumeral.size cs else plainNumeral.size cs

theorem le_withExponent (cs : List Char) (n : Nat) : n ≤ withExponent cs n := by
  rw [withExponent]
  split <;> omega

/-- Both patterns take at least the digits at the front, if there are any. -/
theorem runLength_le_numeralLength (cs : List Char) : runLength isDigit cs ≤ numeralLength cs := by
  rw [numeralLength]
  split
  next hpoint =>
    refine le_trans ?_ (le_withExponent cs (pointLength cs))
    have hlength : pointLength cs ≠ 0 := withExponent_pos hpoint
    simp only [pointLength] at hlength ⊢
    split at hlength
    next =>
      split at hlength
      next => exact absurd rfl hlength
      next hsome =>
        rw [if_neg hsome]
        omega
    next => exact absurd rfl hlength
  next => exact le_withExponent cs (runLength isDigit cs)

/-- No numeral at the front is longer than the one that is taken. -/
theorem IsNumeral.length_le {n cs : List Char} (h : IsNumeral n) (hfront : n <+: cs) :
    n.length ≤ numeralLength cs := by
  cases h with
  | @whole ds exponent hne hds hexponent =>
    by_cases hnone : exponent = []
    · subst hnone
      rw [List.append_nil] at hfront ⊢
      exact (length_le_runLength hfront hds).trans (runLength_le_numeralLength cs)
    · -- the exponent's letter ends the digits and is no point
      obtain ⟨rest, rfl⟩ := hfront
      have hhead := hexponent.head hnone rest
      rw [List.append_assoc]
      have hrun : runLength isDigit (ds ++ (exponent ++ rest)) = ds.length :=
        runLength_of_stop hds fun c hc => (hhead c hc).1
      have hlength : pointLength (ds ++ (exponent ++ rest)) = 0 := by
        simp only [pointLength, hrun, List.drop_left]
        cases hcs : exponent ++ rest with
        | nil => rfl
        | cons c cs => simp [(hhead c (by rw [hcs]; rfl)).2]
      have hpoint : pointNumeral.size (ds ++ (exponent ++ rest)) = 0 := by
        simp only [pointNumeral, hlength]
        rfl
      have hds : ds.length ≠ 0 := (List.length_pos_iff.2 hne).ne'
      have hexp := hexponent.length_le (List.prefix_append exponent rest)
      simp only [numeralLength, hpoint, Nat.lt_irrefl, if_false, plainNumeral, hrun, withExponent,
        hds, List.drop_left, List.length_append]
      omega
  | @point ds ds' exponent hne hds hds' hexponent =>
    obtain ⟨rest, rfl⟩ := hfront
    rw [List.append_assoc, List.cons_append, List.append_assoc]
    have hrun : runLength isDigit (ds ++ '.' :: (ds' ++ (exponent ++ rest))) = ds.length :=
      runLength_of_stop hds (by rintro _ ⟨⟩; rfl)
    have hfraction := length_le_runLength (List.prefix_append ds' (exponent ++ rest)) hds'
    have hlength : pointLength (ds ++ '.' :: (ds' ++ (exponent ++ rest))) =
        ds.length + 1 + runLength isDigit (ds' ++ (exponent ++ rest)) := by
      have hsome : ¬(ds.length = 0 ∧ runLength isDigit (ds' ++ (exponent ++ rest)) = 0) := by
        rintro ⟨hwhole, hnone⟩
        rw [hnone, Nat.le_zero] at hfraction
        exact hne.elim (absurd (List.length_eq_zero_iff.1 hwhole))
          (absurd (List.length_eq_zero_iff.1 hfraction))
      simp only [pointLength, hrun, List.drop_left]
      simp only [Bool.and_eq_true, decide_eq_true_eq, hsome, if_false]
    have hle := le_withExponent (ds ++ '.' :: (ds' ++ (exponent ++ rest)))
      (ds.length + 1 + runLength isDigit (ds' ++ (exponent ++ rest)))
    have hpoint : pointNumeral.size (ds ++ '.' :: (ds' ++ (exponent ++ rest))) =
        withExponent (ds ++ '.' :: (ds' ++ (exponent ++ rest)))
          (ds.length + 1 + runLength isDigit (ds' ++ (exponent ++ rest))) := by
      simp only [pointNumeral, hlength]
    rw [numeralLength, hpoint, if_pos (by omega)]
    simp only [List.length_append, List.length_cons]
    by_cases hnone : exponent = []
    · subst hnone
      simp only [List.nil_append, List.length_nil] at hle hfraction ⊢
      omega
    · -- the exponent's letter ends the digits behind the point
      have hhead := hexponent.head hnone rest
      have hexp := hexponent.length_le (List.prefix_append exponent rest)
      have hexact : runLength isDigit (ds' ++ (exponent ++ rest)) = ds'.length :=
        runLength_of_stop hds' fun c hc => (hhead c hc).1
      have hdrop : (ds ++ '.' :: (ds' ++ (exponent ++ rest))).drop (ds.length + 1 + ds'.length) =
          exponent ++ rest := by
        rw [Nat.add_assoc, List.drop_length_add_append, Nat.add_comm, List.drop_succ_cons,
          List.drop_left]
      rw [hexact, withExponent, if_neg (by omega), hdrop]
      omega

/-- The numeral at the front of a text, if there is one. -/
theorem longest_numeral {cs : List Char} (h : NumeralFront cs) :
    Longest IsNumeral (cs.take (numeralLength cs)) cs where
  front := List.take_prefix _ _
  holds := by
    obtain ⟨n, hfront, hn, hpos⟩ := h.exists_isNumeral
    have hlength : 0 < numeralLength cs := hpos.trans_le (hn.length_le hfront)
    rw [numeralLength] at hlength ⊢
    split at hlength
    next hpoint =>
      obtain ⟨ds, ds', exponent, htake, hne, hds, hds', hexponent⟩ := take_pointNumeral hpoint
      rw [if_pos hpoint, htake]
      exact .point hne hds hds' hexponent
    next hpoint =>
      obtain ⟨ds, exponent, htake, hne, hds, hexponent⟩ := take_plainNumeral hlength
      rw [if_neg hpoint, htake]
      exact .whole hne hds hexponent
  longest n hfront hn := by
    rw [List.length_take]
    exact Nat.le_min.2 ⟨hn.length_le hfront, hfront.length_le⟩

/-- The token of a numeral. -/
def numeralToken (cs : List Char) : Token :=
  if '.' ∈ cs then floatToken cs else integerToken cs

/-! ## Signs -/

/-- The signs and their tokens. -/
def signTokens : List (List Char × Token) :=
  [(['('], .parenOpen), ([')'], .parenClose), (['^'], .caret), (['*', '*'], .caret),
    (['-'], .minus), (['+'], .plus), (['*'], .star), (['/'], .slash), (['%'], .percent),
    (['"'], .unit .inch), (['\''], .unit .foot)]

/-- The characters are a sign. -/
def IsSign (cs : List Char) : Prop := cs ∈ signTokens.map Prod.fst

/-- A sign at the front is the longest, unless it is a star before another one. -/
theorem longest_sign {s rest : List Char} (hs : IsSign s)
    (hstar : s = ['*'] → rest.head? ≠ some '*') : Longest IsSign s (s ++ rest) where
  front := List.prefix_append s rest
  holds := hs
  longest other hfront hother := by
    have htable : ∀ s ∈ signTokens.map Prod.fst, ∀ o ∈ signTokens.map Prod.fst,
        s <+: o → s.length < o.length → s = ['*'] ∧ o = ['*', '*'] := by decide
    by_contra hlength
    have hshorter : s.length < other.length := Nat.lt_of_not_le hlength
    have hprefix := List.prefix_of_prefix_length_le (List.prefix_append s rest) hfront hshorter.le
    obtain ⟨rfl, rfl⟩ := htable s hs other hother hprefix hshorter
    obtain ⟨after, hafter⟩ := hfront
    have hrest : '*' :: after = rest := (List.cons.inj hafter).2
    exact hstar rfl (by rw [← hrest]; rfl)

end Token

namespace Lexeme

open Token Text

/-! ## What the first lexeme is -/

/-- Where a numeral starts, the lexeme is the longest one. -/
theorem first?_numeral {cs : List Char} (h : NumeralFront cs) :
    first? cs = some ⟨cs.take (numeralLength cs), numeralToken (cs.take (numeralLength cs))⟩ := by
  obtain ⟨n, hfront, hn, hpos⟩ := h.exists_isNumeral
  have hlength : 0 < numeralLength cs := hpos.trans_le (hn.length_le hfront)
  rw [numeralLength] at hlength ⊢
  by_cases hpoint : 0 < pointNumeral.size cs
  · obtain ⟨ds, ds', exponent, htake, -⟩ := take_pointNumeral hpoint
    have hmem : '.' ∈ cs.take (pointNumeral.size cs) := by
      rw [htake]
      exact List.mem_append_right _ List.mem_cons_self
    rw [if_pos hpoint, numeralToken, if_pos hmem]
    exact first?_of_split [] rfl (List.forall_mem_nil _) hpoint
  · rw [if_neg hpoint] at hlength ⊢
    obtain ⟨ds, exponent, htake, -, hds, hexponent⟩ := take_plainNumeral hlength
    have hmem : '.' ∉ cs.take (plainNumeral.size cs) := by
      rw [htake]
      exact Guarded.point_not_mem hds hexponent
    have hzero : ∀ q ∈ [pointNumeral], q.size cs = 0 :=
      List.forall_mem_singleton.2 (Nat.eq_zero_of_not_pos hpoint)
    rw [numeralToken, if_neg hmem]
    exact first?_of_split [pointNumeral] rfl hzero hlength

/-- Where a sign stands, the lexeme is the longest one. -/
theorem exists_sign {c : Char} (hc : isSignChar c = true) (rest : List Char) :
    ∃ s t, (s, t) ∈ signTokens ∧ Longest IsSign s (c :: rest) ∧
      first? (c :: rest) = some ⟨s, t⟩ := by
  have hone {t : Token} (hmem : ([c], t) ∈ signTokens) (hstar : c = '*' → rest.head? ≠ some '*')
      (hfirst : first? (c :: rest) = some ⟨[c], t⟩) : ∃ s t, (s, t) ∈ signTokens ∧
        Longest IsSign s (c :: rest) ∧ first? (c :: rest) = some ⟨s, t⟩ :=
    ⟨[c], t, hmem, longest_sign (List.mem_map_of_mem (f := Prod.fst) hmem)
      fun heq => hstar (List.cons.inj heq).1, hfirst⟩
  have hother {t : Token} (hmem : ([c], t) ∈ signTokens) (hne : c ≠ '*')
      (hfirst : first? (c :: rest) = some ⟨[c], t⟩) : ∃ s t, (s, t) ∈ signTokens ∧
        Longest IsSign s (c :: rest) ∧ first? (c :: rest) = some ⟨s, t⟩ :=
    hone hmem (fun hstar => absurd hstar hne) hfirst
  have hmem : c ∈ signChars := List.contains_iff_mem.1 hc
  simp only [signChars, List.mem_cons, List.not_mem_nil, or_false] at hmem
  rcases hmem with rfl | rfl | rfl | rfl | rfl | rfl | rfl | rfl | rfl | rfl
  · exact hother (by simp [signTokens]) (by decide) (first?_parenOpen rest)
  · exact hother (by simp [signTokens]) (by decide) (first?_parenClose rest)
  · exact hother (by simp [signTokens]) (by decide) (first?_caret rest)
  · by_cases hstar : rest.head? = some '*'
    · obtain ⟨after, rfl⟩ := List.head?_eq_some_iff.1 hstar
      exact ⟨['*', '*'], .caret, by simp [signTokens], longest_sign (by simp [IsSign, signTokens])
        fun heq => absurd heq (by decide), first?_twoStars after⟩
    · exact hone (by simp [signTokens]) (fun _ => hstar) (first?_star rest hstar)
  · exact hother (by simp [signTokens]) (by decide) (first?_minus rest)
  · exact hother (by simp [signTokens]) (by decide) (first?_plus rest)
  · exact hother (by simp [signTokens]) (by decide) (first?_slash rest)
  · exact hother (by simp [signTokens]) (by decide) (first?_percent rest)
  · exact hother (t := .unit .inch) (by simp [signTokens]) (by decide)
      (first?_unitSign rest (by simp [Spelling.signs]))
  · exact hother (t := .unit .foot) (by simp [signTokens]) (by decide)
      (first?_unitSign rest (by simp [Spelling.signs]))

/-- Where nothing else starts, everything up to the next gap is the lexeme. -/
theorem first?_junk {c : Char} {rest : List Char} (hgap : isGap c = false)
    (hword : isWordStart c = false) (hsign : isSignChar c = false)
    (hnumeral : ¬NumeralFront (c :: rest)) :
    let solid := (c :: rest).takeWhile fun d => !isGap d
    first? (c :: rest) = some ⟨solid, .junk (String.ofList solid)⟩ := by
  intro solid
  have hdigit : isDigit c = false :=
    Bool.eq_false_iff.2 fun hdigit => hnumeral (numeralFront_digit hdigit rest)
  have hwordChar : isWordChar c = false := by rw [isWordChar, hword, hdigit]; rfl
  have hsigns {literals : List String} {t : Token} (h : MadeOf isSignChar literals) :
      (sign literals t).size (c :: rest) = 0 :=
    sign_size_eq_zero (fun s hs hmem => by cases hsign.symm.trans (h s hs c hmem)) rest
  have hpoint : pointNumeral.size (c :: rest) = 0 := by
    refine Nat.eq_zero_of_not_pos fun hpos => hnumeral ?_
    obtain ⟨ds, ds', exponent, htake, hne, hds, hds', hexponent⟩ := take_pointNumeral hpos
    have hfront := (IsNumeral.point hne hds hds' hexponent).numeralFront
      ((c :: rest).drop (pointNumeral.size (c :: rest)))
    rwa [← htake, List.take_append_drop] at hfront
  have hzero : ∀ q ∈ [pointNumeral, plainNumeral] ++ signPatterns ++ wordPatterns ++
      unitSignPatterns ++ [anyWord], q.size (c :: rest) = 0 := by
    simp only [List.forall_mem_append]
    refine ⟨⟨⟨⟨?_, ?_⟩, ?_⟩, ?_⟩, ?_⟩
    · rw [List.forall_mem_cons, List.forall_mem_cons]
      exact ⟨hpoint, plainNumeral_size_eq_zero hdigit rest, List.forall_mem_nil _⟩
    · intro q hq
      obtain ⟨literals, t, rfl, hliterals⟩ := signPatterns_sort hq
      exact hsigns hliterals
    · exact fun q hq => wordPatterns_size_eq_zero hq hwordChar rest
    · intro q hq
      obtain ⟨spelling, hspelling, rfl⟩ := List.mem_map.1 hq
      refine hsigns fun s hs d hd => ?_
      rw [List.mem_singleton.1 hs, String.toList_ofList, List.mem_singleton] at hd
      exact hd ▸ signs_madeOf spelling hspelling
    · exact List.forall_mem_singleton.2 (by simp [anyWord, hword])
  have hsize : 0 < anyJunk.size (c :: rest) := by simp [anyJunk, runLength, hgap]
  have hsplit : patterns = [pointNumeral, plainNumeral] ++ signPatterns ++ wordPatterns ++
      unitSignPatterns ++ [anyWord] ++ [anyJunk] := rfl
  rw [first?_of_split _ hsplit hzero hsize]
  simp only [anyJunk, take_runLength]
  rfl

end Lexeme

end Reckoner
