import Mathlib.Data.List.TakeWhile
import Reckoner.Proofs.Number.Canonical
import Reckoner.Token.Lexeme

/-!
# Numerals among the lexemes

The characters that a numeral pattern takes are digits, with a point before, among or after them or
without one, and a whole exponent or none.  Such characters denote a double
(`exists_readFloat?`), so reading a numeral never fails.  What the two patterns take is a numeral
with a point (`take_pointNumeral`) or one without (`take_plainNumeral`).
-/

namespace Reckoner.Token

open Text Numeral

/-! ## Digits -/

/-- The digits from `0` to `9`. -/
def digits : List Char := ['0', '1', '2', '3', '4', '5', '6', '7', '8', '9']

theorem mem_digits {c : Char} (h : isDigit c = true) : c ∈ digits := by
  have small : ∀ n < 58, 48 ≤ n → Char.ofNat n ∈ digits := by decide
  simp only [isDigit, Bool.and_eq_true, decide_eq_true_eq] at h
  have hlow : 48 ≤ c.toNat := h.1
  have hhigh : c.toNat ≤ 57 := h.2
  rw [← Char.ofNat_toNat c]
  exact small c.toNat (Nat.lt_succ_of_le hhigh) hlow

/-- The characters are digits. -/
def Digits (cs : List Char) : Prop := ∀ c ∈ cs, isDigit c = true

instance (cs : List Char) : Decidable (Digits cs) :=
  decidable_of_iff (cs.all isDigit = true) List.all_eq_true

theorem digits_takeWhile (cs : List Char) : Digits (cs.takeWhile isDigit) := by
  intro c hc
  exact List.mem_takeWhile_imp hc

/-- Only the characters of the list are tried, not all characters. -/
theorem forall_mem_of_all {p : Char → Prop} [DecidablePred p] {cs : List Char}
    (h : (cs.all fun c => decide (p c)) = true) : ∀ c ∈ cs, p c := by
  intro c hc
  exact of_decide_eq_true (List.all_eq_true.1 h c hc)

theorem digitValue?_of_mem : ∀ c ∈ digits, digitValue? c = some (asciiDigitValue c) :=
  forall_mem_of_all (by decide)

/-- A run of digits goes on after such a text neither with a digit nor with an underscore. -/
def Stops (rest : List Char) : Prop := ∀ c ∈ rest.head?, digitValue? c = none ∧ c ≠ '_'

theorem digitRun_append {ds rest : List Char} (hds : Digits ds) (hrest : Stops rest)
    (afterDigit : Bool) :
    digitRun afterDigit (ds ++ rest) = (ds.map asciiDigitValue, rest) := by
  induction ds generalizing afterDigit with
  | nil =>
    cases rest with
    | nil => rfl
    | cons c rest =>
      obtain ⟨hvalue, hne⟩ := hrest c rfl
      have hunderscore : (c == '_') = false := beq_eq_false_iff_ne.2 hne
      rw [List.nil_append, digitRun, hvalue, hunderscore, Bool.and_false]
      rfl
  | cons d ds ih =>
    have hd := digitValue?_of_mem d (mem_digits (hds d List.mem_cons_self))
    rw [List.cons_append, digitRun, hd, ih fun c hc => hds c (List.mem_cons_of_mem _ hc)]
    rfl

/-! ## Parts of a numeral -/

/-- The characters of an exponent: none, or its letter, a sign or none, and digits. -/
inductive IsExponent : List Char → Prop where
  | none : IsExponent []
  | plain {e : Char} {ds : List Char} :
    e = 'e' ∨ e = 'E' → ds ≠ [] → Digits ds → IsExponent (e :: ds)
  | signed {e sign : Char} {ds : List Char} :
    e = 'e' ∨ e = 'E' → sign = '+' ∨ sign = '-' → ds ≠ [] → Digits ds →
    IsExponent (e :: sign :: ds)

/-- The characters of a numeral. -/
inductive IsNumeral : List Char → Prop where
  | whole {ds exponent : List Char} :
    ds ≠ [] → Digits ds → IsExponent exponent → IsNumeral (ds ++ exponent)
  | point {ds ds' exponent : List Char} :
    ds ≠ [] ∨ ds' ≠ [] → Digits ds → Digits ds' → IsExponent exponent →
    IsNumeral (ds ++ '.' :: (ds' ++ exponent))

theorem IsExponent.stops {cs : List Char} (h : IsExponent cs) : Stops cs := by
  cases h with
  | none => exact nofun
  | plain he _ _ =>
    rintro c ⟨⟩
    rcases he with rfl | rfl <;> decide
  | signed he _ _ _ =>
    rintro c ⟨⟩
    rcases he with rfl | rfl <;> decide

theorem digitRun_digits {ds : List Char} (h : Digits ds) (afterDigit : Bool) :
    digitRun afterDigit ds = (ds.map asciiDigitValue, []) := by
  have hrun := digitRun_append h (show Stops [] from nofun) afterDigit
  rwa [List.append_nil] at hrun

theorem splitSign_of_ne {c : Char} (hminus : c ≠ '-') (hplus : c ≠ '+') (cs : List Char) :
    splitSign (c :: cs) = (false, c :: cs) := by
  rw [splitSign]
  · intro _ h
    cases h
    exact hminus rfl
  · intro _ h
    cases h
    exact hplus rfl

theorem signless_of_mem_digits : ∀ d ∈ digits, d ≠ '-' ∧ d ≠ '+' := forall_mem_of_all (by decide)

/-- An exponent without a sign is read as its digits. -/
theorem readExponent?_plain {e : Char} {ds : List Char} (he : e = 'e' ∨ e = 'E') (hne : ds ≠ [])
    (hds : Digits ds) : readExponent? (e :: ds) = some (ofAsciiDigits ds : Int) := by
  have hletter : (decide (e = 'e') || decide (e = 'E')) = true := by
    rcases he with rfl | rfl <;> rfl
  obtain ⟨d, ds, rfl⟩ := List.exists_cons_of_ne_nil hne
  obtain ⟨hminus, hplus⟩ := signless_of_mem_digits d (mem_digits (hds d List.mem_cons_self))
  rw [readExponent?, if_pos hletter, splitSign_of_ne hminus hplus]
  simp only [digitRun_digits hds]
  rfl

/-- An exponent with a sign is read as its digits, or as the opposite. -/
theorem readExponent?_signed {e sign : Char} {ds : List Char} (he : e = 'e' ∨ e = 'E')
    (hsign : sign = '+' ∨ sign = '-') (hne : ds ≠ []) (hds : Digits ds) :
    readExponent? (e :: sign :: ds) =
      some (if sign = '-' then -(ofAsciiDigits ds : Int) else ofAsciiDigits ds) := by
  have hletter : (decide (e = 'e') || decide (e = 'E')) = true := by
    rcases he with rfl | rfl <;> rfl
  obtain ⟨d, ds, rfl⟩ := List.exists_cons_of_ne_nil hne
  rw [readExponent?, if_pos hletter]
  rcases hsign with rfl | rfl
  · simp only [splitSign, digitRun_digits hds]
    rfl
  · simp only [splitSign, digitRun_digits hds]
    rfl

theorem exists_readExponent? {cs : List Char} (h : IsExponent cs) :
    ∃ n, readExponent? cs = some n := by
  cases h with
  | none => exact ⟨0, rfl⟩
  | plain he hne hds => exact ⟨_, readExponent?_plain he hne hds⟩
  | signed he hsign hne hds => exact ⟨_, readExponent?_signed he hsign hne hds⟩

/-! ## Reading a numeral -/

/-- The characters of numerals. -/
def numeralChars : List Char := digits ++ ['.', 'e', 'E', '+', '-']

theorem Digits.subset {ds : List Char} (h : Digits ds) : ds ⊆ numeralChars := by
  intro c hc
  exact List.mem_append_left _ (mem_digits (h c hc))

theorem IsExponent.subset {cs : List Char} (h : IsExponent cs) : cs ⊆ numeralChars := by
  cases h with
  | none => exact List.nil_subset _
  | plain he _ hds =>
    refine List.cons_subset.2 ⟨?_, hds.subset⟩
    rcases he with rfl | rfl <;> decide
  | signed he hsign _ hds =>
    refine List.cons_subset.2 ⟨?_, List.cons_subset.2 ⟨?_, hds.subset⟩⟩
    · rcases he with rfl | rfl <;> decide
    · rcases hsign with rfl | rfl <;> decide

theorem IsNumeral.subset {cs : List Char} (h : IsNumeral cs) : cs ⊆ numeralChars := by
  cases h with
  | whole _ hds hexponent => exact List.append_subset.2 ⟨hds.subset, hexponent.subset⟩
  | point _ hds hds' hexponent =>
    refine List.append_subset.2 ⟨hds.subset, List.cons_subset.2 ⟨by decide, ?_⟩⟩
    exact List.append_subset.2 ⟨hds'.subset, hexponent.subset⟩

theorem dropWhile_eq_self {p : Char → Bool} {cs : List Char} (h : ∀ c ∈ cs, p c = false) :
    cs.dropWhile p = cs := by
  refine List.dropWhile_eq_self_iff.2 fun hl => ?_
  rw [h _ (List.getElem_mem hl)]
  exact Bool.false_ne_true

theorem dropAround_eq_self {p : Char → Bool} {cs : List Char} (h : ∀ c ∈ cs, p c = false) :
    dropAround p cs = cs := by
  rw [dropAround, dropWhile_eq_self h, dropTrailing,
    dropWhile_eq_self fun c hc => h c (List.mem_reverse.1 hc), List.reverse_reverse]

/-- A numeral starts with a digit or a point. -/
theorem IsNumeral.exists_cons {cs : List Char} (h : IsNumeral cs) :
    ∃ c rest, cs = c :: rest ∧ c ∈ '.' :: digits := by
  cases h with
  | whole hne hds _ =>
    obtain ⟨d, ds, rfl⟩ := List.exists_cons_of_ne_nil hne
    exact ⟨d, _, rfl, List.mem_cons_of_mem _ (mem_digits (hds d List.mem_cons_self))⟩
  | @point ds ds' exponent _ hds _ _ =>
    cases ds with
    | nil => exact ⟨'.', _, rfl, List.mem_cons_self⟩
    | cons d ds =>
      exact ⟨d, _, rfl, List.mem_cons_of_mem _ (mem_digits (hds d List.mem_cons_self))⟩

/-- An exponent does not start with a point. -/
theorem IsExponent.fractionRun {cs : List Char} (h : IsExponent cs) :
    Numeral.fractionRun cs = ([], cs) := by
  cases h with
  | none => rfl
  | plain he _ _ => rcases he with rfl | rfl <;> rfl
  | signed he _ _ _ => rcases he with rfl | rfl <;> rfl

/-- What reading a numeral finds: digits before and after a point, not both none, and an
exponent. -/
theorem IsNumeral.exists_parts {cs : List Char} (h : IsNumeral cs) :
    ∃ whole after fraction exponent n, digitRun false cs = (whole, after) ∧
      fractionRun after = (fraction, exponent) ∧ (whole.isEmpty && fraction.isEmpty) = false ∧
      readExponent? exponent = some n := by
  cases h with
  | @whole ds exponent hne hds hexponent =>
    obtain ⟨n, hn⟩ := exists_readExponent? hexponent
    obtain ⟨d, ds, rfl⟩ := List.exists_cons_of_ne_nil hne
    exact ⟨_, _, _, _, n, digitRun_append hds hexponent.stops false, hexponent.fractionRun, rfl, hn⟩
  | @point ds ds' exponent hne hds hds' hexponent =>
    obtain ⟨n, hn⟩ := exists_readExponent? hexponent
    have stops : Stops ('.' :: (ds' ++ exponent)) := by
      rintro c ⟨⟩
      decide
    refine ⟨_, _, _, _, n, digitRun_append hds stops false,
      digitRun_append hds' hexponent.stops false, ?_, hn⟩
    rcases hne with hne | hne
    · obtain ⟨d, ds, rfl⟩ := List.exists_cons_of_ne_nil hne
      rfl
    · obtain ⟨d, ds', rfl⟩ := List.exists_cons_of_ne_nil hne
      exact Bool.and_false _

/-- The double that the parts of a numeral make. -/
theorem readFloat?_of_parts {cs after exponent : List Char} {whole fraction : List Nat} {n : Int}
    (h : IsNumeral cs) (hwhole : digitRun false cs = (whole, after))
    (hfraction : fractionRun after = (fraction, exponent))
    (hsome : (whole.isEmpty && fraction.isEmpty) = false)
    (hexponent : readExponent? exponent = some n) :
    readFloat? (String.ofList cs) =
      some (Double.ofDecimal false (ofDigits (whole ++ fraction)) (n - fraction.length)) := by
  have hgaps : ∀ c ∈ numeralChars, isGap c = false := forall_mem_of_all (by decide)
  have hstart : ∀ c ∈ '.' :: digits, c ≠ '-' ∧ c ≠ '+' ∧ c.toLower ≠ 'i' ∧ c.toLower ≠ 'n' :=
    forall_mem_of_all (by decide)
  obtain ⟨c, rest, rfl, hc⟩ := h.exists_cons
  obtain ⟨hminus, hplus, hi, hn⟩ := hstart c hc
  have noWord : ∀ {first : Char} {word : List Char}, c.toLower ≠ first →
      String.ofList ((c :: rest).map Char.toLower) ≠ String.ofList (first :: word) := by
    intro first word hne heq
    have hcons := String.ofList_injective heq
    exact hne (List.cons.inj hcons).1
  rw [readFloat?, String.toList_ofList, dropAround_eq_self fun d hd => hgaps d (h.subset hd),
    splitSign_of_ne hminus hplus]
  dsimp only
  split
  next word => exact absurd word (noWord hi)
  next word => exact absurd word (noWord hi)
  next word => exact absurd word (noWord hn)
  next => simp [hwhole, hfraction, hsome, hexponent]

/-- The characters of a numeral denote a double. -/
theorem exists_readFloat? {cs : List Char} (h : IsNumeral cs) :
    ∃ x, readFloat? (String.ofList cs) = some x := by
  obtain ⟨whole, after, fraction, exponent, n, hwhole, hfraction, hsome, hexponent⟩ :=
    h.exists_parts
  exact ⟨_, readFloat?_of_parts h hwhole hfraction hsome hexponent⟩

/-- The double of a numeral without a point. -/
theorem readFloat?_whole {ds exponent : List Char} {n : Int} (hne : ds ≠ []) (hds : Digits ds)
    (h : IsExponent exponent) (hn : readExponent? exponent = some n) :
    readFloat? (String.ofList (ds ++ exponent)) =
      some (Double.ofDecimal false (ofAsciiDigits ds) n) := by
  have hsome : ((ds.map asciiDigitValue).isEmpty && ([] : List Nat).isEmpty) = false := by
    obtain ⟨d, ds, rfl⟩ := List.exists_cons_of_ne_nil hne
    rfl
  rw [readFloat?_of_parts (.whole hne hds h) (digitRun_append hds h.stops false) h.fractionRun hsome
    hn, List.append_nil, List.length_nil, Int.natCast_zero, Int.sub_zero]
  rfl

/-! ## The numeral patterns -/

theorem take_runLength (p : Char → Bool) (cs : List Char) :
    cs.take (runLength p cs) = cs.takeWhile p :=
  (List.prefix_iff_eq_take.1 (List.takeWhile_prefix p)).symm

theorem ne_nil_of_runLength {p : Char → Bool} {cs : List Char} (h : runLength p cs ≠ 0) :
    cs.takeWhile p ≠ [] := fun hnil => h (congrArg List.length hnil)

/-- Digits are taken together with what stands in front of them, or nothing is. -/
theorem take_digits_after (front ds : List Char) :
    ∃ taken, (front ++ ds).take
        (if runLength isDigit ds = 0 then 0 else runLength isDigit ds + front.length) = taken ∧
      (taken = [] ∨ ∃ ds', taken = front ++ ds' ∧ ds' ≠ [] ∧ Digits ds') := by
  refine ⟨_, rfl, ?_⟩
  split
  next => exact .inl rfl
  next hrun =>
    refine .inr ⟨ds.takeWhile isDigit, ?_, ne_nil_of_runLength hrun, digits_takeWhile ds⟩
    rw [Nat.add_comm, List.take_length_add_append, take_runLength]

theorem isExponent_take (cs : List Char) : IsExponent (cs.take (exponentLength cs)) := by
  unfold exponentLength
  split
  next e rest =>
    split
    next hletter =>
      have he : e = 'e' ∨ e = 'E' := by simpa using hletter
      split
      next ds =>
        obtain ⟨taken, htaken, rfl | ⟨ds', rfl, hne, hds⟩⟩ := take_digits_after [e, '+'] ds
        · exact htaken ▸ .none
        · exact htaken ▸ .signed he (.inl rfl) hne hds
      next ds =>
        obtain ⟨taken, htaken, rfl | ⟨ds', rfl, hne, hds⟩⟩ := take_digits_after [e, '-'] ds
        · exact htaken ▸ .none
        · exact htaken ▸ .signed he (.inr rfl) hne hds
      next =>
        obtain ⟨taken, htaken, rfl | ⟨ds', rfl, hne, hds⟩⟩ := take_digits_after [e] rest
        · exact htaken ▸ .none
        · exact htaken ▸ .plain he hne hds
    next => exact .none
  next => exact .none

/-- A length with an exponent takes what the length takes, and an exponent. -/
theorem take_withExponent (cs : List Char) {n : Nat} (h : n ≠ 0) :
    ∃ exponent, cs.take (withExponent cs n) = cs.take n ++ exponent ∧ IsExponent exponent := by
  rw [withExponent, if_neg h, List.take_add]
  exact ⟨_, rfl, isExponent_take _⟩

theorem take_pointLength {cs : List Char} (h : pointLength cs ≠ 0) :
    ∃ ds ds', cs.take (pointLength cs) = ds ++ '.' :: ds' ∧ (ds ≠ [] ∨ ds' ≠ []) ∧ Digits ds ∧
      Digits ds' := by
  simp only [pointLength] at h ⊢
  split at h
  next rest hrest =>
    split at h
    next => exact absurd rfl h
    next hsome =>
      refine ⟨cs.takeWhile isDigit, rest.takeWhile isDigit, ?_, ?_, digits_takeWhile cs,
        digits_takeWhile rest⟩
      · rw [if_neg hsome, Nat.add_assoc, List.take_add, take_runLength, hrest, Nat.add_comm,
          List.take_succ_cons, take_runLength]
      · simp only [Bool.and_eq_true, decide_eq_true_eq, not_and_or] at hsome
        exact hsome.imp ne_nil_of_runLength ne_nil_of_runLength
  next => exact absurd rfl h

theorem withExponent_pos {cs : List Char} {n : Nat} (h : 0 < withExponent cs n) : n ≠ 0 := by
  rintro rfl
  cases h

/-- A numeral with a point. -/
theorem take_pointNumeral {cs : List Char} (h : 0 < pointNumeral.size cs) :
    ∃ ds ds' exponent, cs.take (pointNumeral.size cs) = ds ++ '.' :: (ds' ++ exponent) ∧
      (ds ≠ [] ∨ ds' ≠ []) ∧ Digits ds ∧ Digits ds' ∧ IsExponent exponent := by
  have hlength := withExponent_pos h
  obtain ⟨ds, ds', htake, hne, hds, hds'⟩ := take_pointLength hlength
  obtain ⟨exponent, hexp, hexponent⟩ := take_withExponent cs hlength
  refine ⟨ds, ds', exponent, hexp.trans ?_, hne, hds, hds', hexponent⟩
  rw [htake, List.append_assoc, List.cons_append]

/-- A numeral without a point. -/
theorem take_plainNumeral {cs : List Char} (h : 0 < plainNumeral.size cs) :
    ∃ ds exponent, cs.take (plainNumeral.size cs) = ds ++ exponent ∧ ds ≠ [] ∧ Digits ds ∧
      IsExponent exponent := by
  have hlength := withExponent_pos h
  obtain ⟨exponent, hexp, hexponent⟩ := take_withExponent cs hlength
  refine ⟨cs.takeWhile isDigit, exponent, hexp.trans ?_, ne_nil_of_runLength hlength,
    digits_takeWhile cs, hexponent⟩
  rw [take_runLength]

end Reckoner.Token
