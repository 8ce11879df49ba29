import Mathlib.Data.List.Induction
import Mathlib.Tactic.FieldSimp
import Mathlib.Tactic.Ring
import Reckoner.Proofs.Document.Read
import Reckoner.Proofs.Number.LowestTerms
import Reckoner.Rates.Price

/-!
# Prices as they are read

A price is read by joining the digits on both sides of the comma, without the zeros at the end, to
one integer, which counts by a power of ten (`parse_of_signed`).  For a sign, digits and a comma
among them this is the number that is written (`parse_amount`), as long as the integer does not have
too many digits.

Two sorts of texts show that the parts are only looked at together.  Without a digit in front of the
comma, zeros behind it leave nothing to read.  And a sign behind a comma that comes first is taken
for the sign of the whole, and as a decimal place (`Misplaced`).  Of all texts in ASCII exactly the
prices but the first sort, and the second sort, are read (`parse_ok_iff`).
-/

namespace Reckoner

open Text Token

/-! ## Figures -/

theorem ofDigits_append (xs ys : List Nat) :
    ofDigits (xs ++ ys) = ofDigits xs * 10 ^ ys.length + ofDigits ys := by
  induction ys using List.reverseRecOn with
  | nil => simp [ofDigits]
  | append_singleton ys d ih =>
    rw [← List.append_assoc, ofDigits_concat, ofDigits_concat, ih, List.length_append,
      List.length_singleton, Nat.pow_succ]
    ring

theorem ofAsciiDigits_append (cs ds : List Char) :
    ofAsciiDigits (cs ++ ds) = ofAsciiDigits cs * 10 ^ ds.length + ofAsciiDigits ds := by
  rw [ofAsciiDigits, List.map_append, ofDigits_append, List.length_map, ofAsciiDigits,
    ofAsciiDigits]

/-- A price as it is printed: digits, and digits behind a decimal comma if there is one. -/
structure Figure where
  whole : List Char
  fraction : Option (List Char)
  whole_ne_nil : whole ≠ [] := by decide
  whole_digits : Digits whole := by decide
  fraction_digits : ∀ ds ∈ fraction, Digits ds := by decide

namespace Figure

/-- The digits behind the comma. -/
def decimals (f : Figure) : List Char := f.fraction.getD []

/-- The characters of a figure. -/
def chars (f : Figure) : List Char := f.whole ++ f.fraction.elim [] (',' :: ·)

/-- The number that a figure denotes. -/
def value (f : Figure) : ℚ :=
  ofAsciiDigits f.whole + ofAsciiDigits f.decimals / 10 ^ f.decimals.length

/-- The characters of figures. -/
theorem mem_chars {f : Figure} {c : Char} (h : c ∈ f.chars) : c ∈ ',' :: digits := by
  rcases List.mem_append.1 h with h | h
  · exact List.mem_cons_of_mem _ (mem_digits (f.whole_digits c h))
  · cases hfraction : f.fraction with
    | none =>
      rw [hfraction] at h
      cases h
    | some ds =>
      rw [hfraction] at h
      rcases List.mem_cons.1 h with rfl | h
      · exact List.mem_cons_self
      · exact List.mem_cons_of_mem _ (mem_digits (f.fraction_digits ds hfraction c h))

theorem forall_mem_chars {p : Char → Prop} [DecidablePred p] (f : Figure)
    (h : ((',' :: digits).all fun c => decide (p c)) = true) : ∀ c ∈ f.chars, p c := fun c hc =>
  forall_mem_of_all h c (mem_chars hc)

end Figure

/-- A run of digits is split into what counts of a fraction and the zeros at its end. -/
theorem exists_dropTrailing_zeros (ds : List Char) :
    ∃ zeros : Nat, ds = dropTrailing (· == '0') ds ++ List.replicate zeros '0' := by
  have hzeros : ds.reverse.takeWhile (· == '0') =
      List.replicate (ds.reverse.takeWhile (· == '0')).length '0' := by
    rw [List.eq_replicate_iff]
    exact ⟨rfl, fun c hc => by simpa using List.mem_takeWhile_imp hc⟩
  refine ⟨(ds.reverse.takeWhile (· == '0')).length, ?_⟩
  calc ds = (ds.reverse.takeWhile (· == '0') ++ ds.reverse.dropWhile (· == '0')).reverse := by
        rw [List.takeWhile_append_dropWhile, List.reverse_reverse]
    _ = dropTrailing (· == '0') ds ++ (ds.reverse.takeWhile (· == '0')).reverse := by
        rw [List.reverse_append, dropTrailing]
    _ = _ := by rw [hzeros, List.reverse_replicate, List.length_replicate]

theorem ofAsciiDigits_replicate_zero (n : Nat) : ofAsciiDigits (List.replicate n '0') = 0 := by
  induction n with
  | zero => rfl
  | succ n ih => rw [List.replicate_succ, Document.ofAsciiDigits_zero_cons, ih]

namespace Price

/-! ## Reading a price -/

/-- The signs in front of a price, none among them. -/
def signs : List (Option Char) := [none, some '+', some '-']

/-- A number with a sign in front of it. -/
def signed (sign : Option Char) (q : ℚ) : ℚ := if sign = some '-' then -q else q

section
variable {sign : Option Char} {ds : List Char}

theorem isSign_of_mem_signs (hsign : sign ∈ signs) {c : Char} (hc : sign = some c) :
    c = '+' ∨ c = '-' := by simpa [signs, hc] using hsign

/-- A sign and digits, together an integer, if they are not too many. -/
theorem readInt_signed (hsign : sign ∈ signs) (hne : ds ≠ []) (hds : Digits ds) :
    Numeral.readInt (String.ofList (sign.toList ++ ds)) =
      if digitLimit < ds.length then .error (.tooLong ds.length)
      else .ok (if sign = some '-' then -(ofAsciiDigits ds : Int) else ofAsciiDigits ds) := by
  have hgap : ∀ c ∈ sign.toList ++ ds, isGap c = false := by
    intro c hc
    rcases List.mem_append.1 hc with hc | hc
    · rcases isSign_of_mem_signs hsign (Option.mem_toList.1 hc) with rfl | rfl <;> rfl
    · exact Document.forall_mem_digits (p := fun c => isGap c = false) hds (by decide) c hc
  have hsplit : Numeral.splitSign (sign.toList ++ ds) = (sign == some '-', ds) := by
    obtain ⟨d, ds, rfl⟩ := List.exists_cons_of_ne_nil hne
    obtain ⟨hminus, hplus⟩ := signless_of_mem_digits d (mem_digits (hds d List.mem_cons_self))
    simp only [signs, List.mem_cons, List.not_mem_nil, or_false] at hsign
    rcases hsign with rfl | rfl | rfl
    · exact splitSign_of_ne hminus hplus ds
    · rfl
    · rfl
  have hpresent : (ds.map asciiDigitValue).isEmpty = false := by simpa using hne
  rw [Numeral.readInt, String.toList_ofList, dropAround_eq_self hgap, hsplit]
  simp only [digitRun_digits hds, hpresent, List.length_map, List.head?_nil, List.isEmpty_nil]
  rw [if_neg (by decide)]
  by_cases hlong : digitLimit < ds.length
  · rw [if_pos hlong, if_pos hlong]
  · rw [if_neg hlong, if_neg hlong, if_pos trivial]
    by_cases hminus : sign = some '-'
    · subst hminus
      rfl
    · have hflag : (sign == some '-') = false := beq_eq_false_iff_ne.2 hminus
      rw [hflag, if_neg hminus]
      rfl

theorem isSignedDigits_signed (hsign : sign ∈ signs) (hne : ds ≠ []) (hds : Digits ds) :
    isSignedDigits (sign.toList ++ ds) = true := by
  have hunsigned : ∀ c ∈ ds, isSign c = false :=
    Document.forall_mem_digits (p := fun c => isSign c = false) hds (by decide)
  have hlike : ∀ c ∈ ds, isDigitLike c = true :=
    Document.forall_mem_digits (p := fun c => isDigitLike c = true) hds (by decide)
  have hsigns : ∀ c ∈ sign.toList, isSign c = true := fun c hc => by
    rcases isSign_of_mem_signs hsign (Option.mem_toList.1 hc) with rfl | rfl <;> rfl
  rw [isSignedDigits, List.dropWhile_append_of_pos hsigns, dropWhile_eq_self hunsigned,
    Bool.and_eq_true]
  exact ⟨by rw [List.isEmpty_eq_false_iff.2 hne]; rfl, List.all_eq_true.2 hlike⟩

/-- What is joined over the comma is an integer, if its digits are not too many, and it counts by a
power of ten. -/
theorem parse_of_signed {s : String} {whole kept : List Char} (hsign : sign ∈ signs)
    (hne : ds ≠ []) (hds : Digits ds) (hsplit : splitComma (trim s).toList = (whole, kept))
    (hjoined : whole ++ kept = sign.toList ++ ds) :
    parse s =
      if digitLimit < ds.length then .error (.longNumeral ds.length)
      else (Ratio.ofRat (signed sign (ofAsciiDigits ds / 10 ^ kept.length))).mapError
        (.ofFailure (trim s)) := by
  have hden : ((10 ^ kept.length : Nat) : Int) ≠ 0 :=
    Int.natCast_ne_zero.2 (Nat.pow_pos (by decide)).ne'
  have hvalue :
      ((if sign = some '-' then -(ofAsciiDigits ds : Int) else ofAsciiDigits ds : Int) : ℚ) /
        ((10 ^ kept.length : Nat) : Int) = signed sign (ofAsciiDigits ds / 10 ^ kept.length) := by
    unfold signed
    split <;> push_cast <;> ring
  have hmake := Ratio.make_eq
    (if sign = some '-' then -(ofAsciiDigits ds : Int) else ofAsciiDigits ds) hden
  rw [hvalue] at hmake
  simp only [parse, hsplit, hjoined, isSignedDigits_signed hsign hne hds, if_true,
    readInt_signed hsign hne hds]
  by_cases hlong : digitLimit < ds.length
  · rw [if_pos hlong, if_pos hlong]
  · rw [if_neg hlong, if_neg hlong, ← hmake]
    rfl

end

/-! ## The comma -/

theorem splitComma_none {cs : List Char} (h : ',' ∉ cs) : splitComma cs = (cs, []) := by
  have hall : cs.takeWhile (· != ',') = cs :=
    List.takeWhile_eq_self_iff.2 fun c hc => bne_iff_ne.2 fun heq => h (heq ▸ hc)
  rw [splitComma, hall, List.drop_eq_nil_of_le (Nat.le_succ _)]
  rfl

theorem splitComma_some {whole : List Char} (h : ',' ∉ whole) (fraction : List Char) :
    splitComma (whole ++ ',' :: fraction) = (whole, dropTrailing (· == '0') fraction) := by
  have hwhole : ∀ c ∈ whole, (c != ',') = true := fun c hc => bne_iff_ne.2 fun heq => h (heq ▸ hc)
  have htake : (whole ++ ',' :: fraction).takeWhile (· != ',') = whole := by
    rw [List.takeWhile_append_of_pos hwhole, List.takeWhile_cons_of_neg (by decide),
      List.append_nil]
  rw [splitComma, htake, List.drop_length_add_append]
  rfl

/-- The zeros at the end do not make a run longer. -/
theorem length_dropTrailing_le (ds : List Char) :
    (dropTrailing (· == '0') ds).length ≤ ds.length := by
  obtain ⟨zeros, hzeros⟩ := exists_dropTrailing_zeros ds
  have hlength := congrArg List.length hzeros
  rw [List.length_append] at hlength
  omega

theorem comma_not_mem_digits {ds : List Char} (h : Digits ds) : ',' ∉ ds := fun hmem => by
  cases h ',' hmem

theorem digits_dropTrailing {ds : List Char} (h : Digits ds) :
    Digits (dropTrailing (· == '0') ds) := by
  intro c hc
  obtain ⟨zeros, hzeros⟩ := exists_dropTrailing_zeros ds
  exact h c (hzeros ▸ List.mem_append_left _ hc)

/-- The zeros at the end of a fraction do not change what is written. -/
theorem value_of_kept (whole decimals : List Char) :
    (ofAsciiDigits (whole ++ dropTrailing (· == '0') decimals) : ℚ) /
        10 ^ (dropTrailing (· == '0') decimals).length =
      ofAsciiDigits whole + ofAsciiDigits decimals / 10 ^ decimals.length := by
  obtain ⟨zeros, hzeros⟩ := exists_dropTrailing_zeros decimals
  generalize dropTrailing (· == '0') decimals = kept at hzeros ⊢
  have hdecimals : ofAsciiDigits decimals = ofAsciiDigits kept * 10 ^ zeros := by
    rw [hzeros, ofAsciiDigits_append, ofAsciiDigits_replicate_zero, List.length_replicate,
      Nat.add_zero]
  have hlength : decimals.length = kept.length + zeros := by
    rw [hzeros, List.length_append, List.length_replicate]
  rw [hdecimals, hlength, ofAsciiDigits_append]
  push_cast
  rw [pow_add]
  field_simp

/-! ## Texts that are read -/

/-- A price as it may be written: a sign or none, and digits with a comma before, among or after
them or without one. -/
structure Amount where
  sign : Option Char
  whole : List Char
  fraction : Option (List Char)
  sign_mem : sign ∈ signs := by decide
  whole_digits : Digits whole := by decide
  fraction_digits : ∀ ds ∈ fraction, Digits ds := by decide
  some_digit : whole ≠ [] ∨ fraction.getD [] ≠ [] := by decide

namespace Amount

/-- The digits behind the comma. -/
def decimals (a : Amount) : List Char := a.fraction.getD []

/-- The characters of a price. -/
def chars (a : Amount) : List Char := a.sign.toList ++ (a.whole ++ a.fraction.elim [] (',' :: ·))

/-- The number that is written. -/
def value (a : Amount) : ℚ :=
  signed a.sign (ofAsciiDigits a.whole + ofAsciiDigits a.decimals / 10 ^ a.decimals.length)

/-- The digits that are read: all but the zeros at the end of the fraction. -/
def figures (a : Amount) : List Char := a.whole ++ dropTrailing (· == '0') a.decimals

/-- A digit stands in front of the comma, or one that is not zero behind it. -/
def Counts (a : Amount) : Prop := a.whole ≠ [] ∨ ∃ c ∈ a.decimals, c ≠ '0'

theorem decimals_digits (a : Amount) : Digits a.decimals := by
  unfold decimals
  cases h : a.fraction with
  | none => exact List.forall_mem_nil _
  | some ds => exact a.fraction_digits ds h

end Amount

/-- A comma with a sign directly behind it, and digits not all of which are zero. -/
structure Misplaced where
  sign : Char
  digits : List Char
  sign_mem : some sign ∈ signs := by decide
  digits_digits : Digits digits := by decide
  some_digit : ∃ c ∈ digits, c ≠ '0'

namespace Misplaced

/-- The characters of such a text. -/
def chars (m : Misplaced) : List Char := ',' :: m.sign :: m.digits

/-- The digits that are read: all but the zeros at the end. -/
def figures (m : Misplaced) : List Char := dropTrailing (· == '0') m.digits

/-- The number that is read: the sign counts for the whole, and as a decimal place. -/
def value (m : Misplaced) : ℚ :=
  signed (some m.sign) (ofAsciiDigits m.digits / 10 ^ (m.digits.length + 1))

end Misplaced

theorem dropTrailing_ne_nil_iff {ds : List Char} :
    dropTrailing (· == '0') ds ≠ [] ↔ ∃ c ∈ ds, c ≠ '0' := by
  simp [dropTrailing, List.dropWhile_eq_nil_iff]

theorem dropTrailing_cons {p : Char → Bool} {c : Char} (hc : p c = false) (cs : List Char) :
    dropTrailing p (c :: cs) = c :: dropTrailing p cs := by
  rw [dropTrailing, dropTrailing, List.reverse_cons, List.dropWhile_append]
  split
  next hnil =>
    rw [List.isEmpty_iff] at hnil
    rw [hnil, List.dropWhile_cons_of_neg (by simp [hc])]
    rfl
  next => rw [List.reverse_append, List.reverse_singleton, List.singleton_append]

/-- A sign is no zero, so it is not dropped. -/
theorem dropTrailing_sign_cons {c : Char} (hsign : some c ∈ signs) (cs : List Char) :
    dropTrailing (· == '0') (c :: cs) = c :: dropTrailing (· == '0') cs := by
  refine dropTrailing_cons (p := (· == '0')) ?_ cs
  rcases isSign_of_mem_signs hsign rfl with rfl | rfl <;> rfl

theorem comma_ne_sign {sign : Option Char} (hsign : sign ∈ signs) : ',' ∉ sign.toList := by
  intro hmem
  rcases isSign_of_mem_signs hsign (Option.mem_toList.1 hmem) with h | h <;> cases h

theorem splitComma_amount (a : Amount) : splitComma a.chars =
    (a.sign.toList ++ a.whole, dropTrailing (· == '0') a.decimals) := by
  have hcomma : ',' ∉ a.sign.toList ++ a.whole := fun hmem =>
    (List.mem_append.1 hmem).elim (comma_ne_sign a.sign_mem) (comma_not_mem_digits a.whole_digits)
  unfold Amount.chars Amount.decimals
  rw [← List.append_assoc]
  cases a.fraction with
  | none =>
    rw [Option.elim_none, List.append_nil, splitComma_none hcomma]
    rfl
  | some ds => exact splitComma_some hcomma ds

theorem splitComma_misplaced (m : Misplaced) : splitComma m.chars =
    ([], m.sign :: dropTrailing (· == '0') m.digits) := by
  have hkept := dropTrailing_sign_cons m.sign_mem m.digits
  have hsplit := splitComma_some List.not_mem_nil (m.sign :: m.digits)
  rwa [List.nil_append, hkept] at hsplit

/-- A price is read as the number that is written, unless no digit of it counts or too many do. -/
theorem parse_amount {s : String} {a : Amount} (hs : (trim s).toList = a.chars) (h : a.Counts) :
    parse s =
      if digitLimit < a.figures.length then .error (.longNumeral a.figures.length)
      else (Ratio.ofRat a.value).mapError (.ofFailure (trim s)) := by
  have hdigits : Digits a.figures :=
    List.forall_mem_append.2 ⟨a.whole_digits, digits_dropTrailing a.decimals_digits⟩
  have hne : a.figures ≠ [] := by
    rcases h with h | h
    · exact List.append_ne_nil_of_left_ne_nil h _
    · exact List.append_ne_nil_of_right_ne_nil _ (dropTrailing_ne_nil_iff.2 h)
  rw [parse_of_signed a.sign_mem hne hdigits (by rw [hs, splitComma_amount])
    (List.append_assoc ..), Amount.figures, value_of_kept, Amount.value]

/-- A figure is read as the number that it denotes, if its digits are not too many and the number
fits. -/
theorem parse_figure (f : Figure) (hshort : f.whole.length + f.decimals.length ≤ digitLimit) :
    parse (String.ofList f.chars) =
      (Ratio.ofRat f.value).mapError (.ofFailure (String.ofList f.chars)) := by
  let a : Amount :=
    { sign := none
      whole := f.whole
      fraction := f.fraction
      whole_digits := f.whole_digits
      fraction_digits := f.fraction_digits
      some_digit := .inl f.whole_ne_nil }
  have htrim : trim (String.ofList f.chars) = String.ofList f.chars := by
    rw [trim, String.toList_ofList, dropAround_eq_self (f.forall_mem_chars (by decide))]
  have hchars : (trim (String.ofList f.chars)).toList = a.chars := by
    rw [htrim, String.toList_ofList]
    rfl
  have hfigures : ¬digitLimit < a.figures.length := by
    have hkept := length_dropTrailing_le f.decimals
    have hlength : a.figures.length =
        f.whole.length + (dropTrailing (· == '0') f.decimals).length := List.length_append
    omega
  rw [parse_amount hchars (.inl f.whole_ne_nil), if_neg hfigures, htrim]
  rfl

/-- A sign behind a comma that comes first is read as the sign of the whole. -/
theorem parse_misplaced {s : String} {m : Misplaced} (hs : (trim s).toList = m.chars) :
    parse s =
      if digitLimit < m.figures.length then .error (.longNumeral m.figures.length)
      else (Ratio.ofRat m.value).mapError (.ofFailure (trim s)) := by
  have hne := dropTrailing_ne_nil_iff.2 m.some_digit
  have hkept := value_of_kept [] m.digits
  have hvalue : (ofAsciiDigits (dropTrailing (· == '0') m.digits) : ℚ) /
      10 ^ (m.sign :: dropTrailing (· == '0') m.digits).length =
      ofAsciiDigits m.digits / 10 ^ (m.digits.length + 1) := by
    have hnil : ofAsciiDigits [] = 0 := rfl
    rw [List.nil_append, hnil, Nat.cast_zero, zero_add] at hkept
    rw [List.length_cons, pow_succ, pow_succ, ← div_div, ← div_div, hkept]
  have hsplit : splitComma (trim s).toList = ([], m.sign :: dropTrailing (· == '0') m.digits) := by
    rw [hs, splitComma_misplaced]
  rw [parse_of_signed m.sign_mem hne (digits_dropTrailing m.digits_digits) hsplit rfl, hvalue,
    Misplaced.value, Misplaced.figures]

/-- A price is refused as unwritable if its value does not fit and is too long for the message of an
overflow, which would have been a rate out of range. -/
theorem parse_eq_unwritable_iff {s : String} {a : Amount} (hs : (trim s).toList = a.chars)
    (h : a.Counts) (hshort : a.figures.length ≤ digitLimit) :
    parse s = .error .unwritable ↔ ¬Fits a.value ∧ ¬Ratio.Written a.value := by
  rw [parse_amount hs h, if_neg (Nat.not_lt.2 hshort)]
  by_cases fits : Fits a.value
  · obtain ⟨r, hr, -⟩ := Ratio.exists_ofRat fits
    rw [hr]
    exact ⟨nofun, fun unfit => absurd fits unfit.1⟩
  · have hfail : Ratio.ofRat a.value = .error (.outOfRange a.value.num a.value.den) := dif_neg fits
    rw [hfail, and_iff_right fits, Except.mapError, Except.error.injEq, QuoteFault.ofFailure]
    by_cases written : Ratio.Written a.value
    · rw [Ratio.report_of_writable written]
      exact ⟨nofun, fun long => absurd written long⟩
    · rw [Ratio.report_of_not_writable written]
      exact ⟨fun _ => written, fun _ => rfl⟩

/-! ## No other texts are read -/

theorem isDigitLike_of_ascii {c : Char} (h : c.toNat < 128) : isDigitLike c = isDigit c := by
  have small : ∀ n < 128, isDigitLike (Char.ofNat n) = isDigit (Char.ofNat n) := by decide
  rw [← Char.ofNat_toNat c]
  exact small c.toNat h

/-- What is read as an integer is digits with one sign at most in front of them. -/
theorem exists_signed {cs : List Char} {n : Int} (ascii : ∀ c ∈ cs, c.toNat < 128)
    (hsigned : isSignedDigits cs = true) (hn : Numeral.readInt (String.ofList cs) = .ok n) :
    ∃ sign ∈ signs, ∃ ds, ds ≠ [] ∧ Digits ds ∧ cs = sign.toList ++ ds := by
  obtain ⟨hne, hlike⟩ := Bool.and_eq_true_iff.1 hsigned
  have hds : Digits (cs.dropWhile isSign) := by
    intro c hc
    rw [← isDigitLike_of_ascii (ascii c (List.dropWhile_subset _ hc))]
    exact List.all_eq_true.1 hlike c hc
  have hne : cs.dropWhile isSign ≠ [] := by simpa using hne
  have hcs : cs = cs.takeWhile isSign ++ cs.dropWhile isSign := List.takeWhile_append_dropWhile.symm
  have hsigns : ∀ c ∈ cs.takeWhile isSign, c = '+' ∨ c = '-' := fun c hc => by
    simpa [isSign] using List.mem_takeWhile_imp hc
  generalize cs.takeWhile isSign = front at hcs hsigns
  generalize cs.dropWhile isSign = ds at hcs hds hne
  match front with
  | [] => exact ⟨none, by decide, ds, hne, hds, hcs⟩
  | [c] =>
    refine ⟨some c, ?_, ds, hne, hds, hcs⟩
    rcases hsigns c List.mem_cons_self with rfl | rfl <;> decide
  | c :: d :: front =>
    -- the second sign is no digit
    have hgap : ∀ x ∈ cs, isGap x = false := by
      intro x hx
      rw [hcs] at hx
      rcases List.mem_append.1 hx with hx | hx
      · rcases hsigns x hx with rfl | rfl <;> rfl
      · exact Document.forall_mem_digits (p := fun c => isGap c = false) hds (by decide) x hx
    have hsecond : Numeral.digitRun false (d :: front ++ ds) = ([], d :: front ++ ds) := by
      rcases hsigns d (by simp) with rfl | rfl <;> rfl
    rw [Numeral.readInt, String.toList_ofList, dropAround_eq_self hgap, hcs] at hn
    rcases hsigns c List.mem_cons_self with rfl | rfl
    · simp only [List.cons_append, Numeral.splitSign] at hn hsecond
      rw [hsecond] at hn
      cases hn
    · simp only [List.cons_append, Numeral.splitSign] at hn hsecond
      rw [hsecond] at hn
      cases hn

theorem digits_of_kept {fraction : List Char} (h : Digits (dropTrailing (· == '0') fraction)) :
    Digits fraction := by
  obtain ⟨zeros, hzeros⟩ := exists_dropTrailing_zeros fraction
  rw [hzeros]
  exact List.forall_mem_append.2 ⟨h, fun c hc => by rw [List.eq_of_mem_replicate hc]; rfl⟩

/-- Digits around a comma, with a sign in front or without one, are a price that counts. -/
theorem exists_amount {sign : Option Char} {whole fraction : List Char} (hsign : sign ∈ signs)
    (hdigits : Digits (whole ++ dropTrailing (· == '0') fraction))
    (hne : whole ++ dropTrailing (· == '0') fraction ≠ []) :
    ∃ a : Amount, sign.toList ++ whole ++ ',' :: fraction = a.chars ∧ a.Counts := by
  obtain ⟨hwhole, hkept⟩ := List.forall_mem_append.1 hdigits
  have hcounts : whole ≠ [] ∨ ∃ c ∈ fraction, c ≠ '0' := by
    rw [← dropTrailing_ne_nil_iff]
    by_cases h : whole = []
    · exact .inr fun hnil => hne (by rw [h, hnil]; rfl)
    · exact .inl h
  have hsome : whole ≠ [] ∨ fraction ≠ [] := hcounts.imp_right fun ⟨c, hc, _⟩ =>
    List.ne_nil_of_mem hc
  refine ⟨⟨sign, whole, some fraction, hsign, hwhole, ?_, hsome⟩, ?_, hcounts⟩
  · rintro _ ⟨⟩
    exact digits_of_kept hkept
  · rw [Amount.chars, Option.elim_some, List.append_assoc]

/-- A text whose joined digits are read is a price, or has its sign behind the comma. -/
theorem amount_or_misplaced {cs : List Char} {sign : Option Char} {ds : List Char}
    (hsign : sign ∈ signs) (hne : ds ≠ []) (hds : Digits ds)
    (hjoined : (splitComma cs).1 ++ (splitComma cs).2 = sign.toList ++ ds) :
    (∃ a : Amount, cs = a.chars ∧ a.Counts) ∨ ∃ m : Misplaced, cs = m.chars := by
  by_cases hcomma : ',' ∈ cs
  · obtain ⟨front, fraction, rfl, hfront⟩ := List.eq_append_cons_of_mem hcomma
    rw [splitComma_some hfront] at hjoined
    cases sign with
    | none =>
      rw [Option.toList_none, List.nil_append] at hjoined
      subst hjoined
      exact .inl (exists_amount hsign hds hne)
    | some c =>
      cases front with
      | cons d whole =>
        obtain ⟨rfl, rfl⟩ := List.cons.inj hjoined
        exact .inl (exists_amount hsign hds hne)
      | nil =>
        -- the sign is the first character behind the comma
        have hkept : dropTrailing (· == '0') fraction = c :: ds := hjoined
        obtain ⟨zeros, hzeros⟩ := exists_dropTrailing_zeros fraction
        rw [hkept, List.cons_append] at hzeros
        subst hzeros
        rw [dropTrailing_sign_cons hsign] at hkept
        have htail : dropTrailing (· == '0') (ds ++ List.replicate zeros '0') = ds :=
          (List.cons.inj hkept).2
        exact .inr ⟨⟨c, ds ++ List.replicate zeros '0', hsign,
          digits_of_kept (by rw [htail]; exact hds),
          dropTrailing_ne_nil_iff.1 (by rw [htail]; exact hne)⟩, rfl⟩
  · have hcs : cs = sign.toList ++ ds := by simpa [splitComma_none hcomma] using hjoined
    have hnone : ∀ fraction ∈ (none : Option (List Char)), Digits fraction := nofun
    refine .inl ⟨⟨sign, ds, none, hsign, hds, hnone, .inl hne⟩, ?_, .inl hne⟩
    rw [hcs, Amount.chars, Option.elim_none, List.append_nil]

theorem mem_of_mem_dropTrailing {p : Char → Bool} {cs : List Char} {c : Char}
    (h : c ∈ dropTrailing p cs) : c ∈ cs := by
  have hmem := List.dropWhile_subset _ (List.mem_reverse.1 h)
  exact List.mem_reverse.1 hmem

theorem mem_of_mem_joined {cs : List Char} {c : Char}
    (h : c ∈ (splitComma cs).1 ++ (splitComma cs).2) : c ∈ cs := by
  simp only [splitComma, List.mem_append] at h
  rcases h with h | h
  · exact List.takeWhile_subset _ h
  · exact List.drop_subset _ _ (mem_of_mem_dropTrailing h)

theorem mem_of_mem_trim {s : String} {c : Char} (h : c ∈ (trim s).toList) : c ∈ s.toList := by
  rw [trim, String.toList_ofList, dropAround] at h
  exact List.dropWhile_subset _ (mem_of_mem_dropTrailing h)

/-- If a text is read, what is joined over the comma is an integer. -/
theorem joined_of_parse {s : String} {r : Ratio} (h : parse s = .ok r) :
    let joined := (splitComma (trim s).toList).1 ++ (splitComma (trim s).toList).2
    isSignedDigits joined = true ∧ ∃ n, Numeral.readInt (String.ofList joined) = .ok n := by
  intro joined
  rw [parse] at h
  dsimp only at h
  split at h
  next hsigned =>
    split at h
    next => cases h
    next => cases h
    next n hn => exact ⟨hsigned, n, hn⟩
  next => cases h

theorem short_ofRat_eq_ok_iff {ds : List Char} {q : ℚ} {r : Ratio} {long : QuoteFault}
    {f : Ratio.Failure → QuoteFault} :
    (if digitLimit < ds.length then .error long else (Ratio.ofRat q).mapError f) = .ok r ↔
      ds.length ≤ digitLimit ∧ r.toRat = q := by
  by_cases hlong : digitLimit < ds.length
  · rw [if_pos hlong]
    exact ⟨nofun, fun h => absurd h.1 (Nat.not_le.2 hlong)⟩
  · rw [if_neg hlong, mapError_eq_ok_iff, Ratio.ofRat_eq_ok_iff,
      and_iff_right (Nat.le_of_not_lt hlong)]

/-- A text in ASCII is read in two cases, and its value is exact.  Either it is a price, and a digit
in front of the comma or one other than zero behind it counts.  Or a comma comes first and the sign
stands behind it.  In both cases there is a limit to the digits, in which zeros at the end of a
fraction do not count. -/
theorem parse_ok_iff (s : String) (ascii : ∀ c ∈ s.toList, c.toNat < 128) (r : Ratio) :
    parse s = .ok r ↔
      (∃ a : Amount, (trim s).toList = a.chars ∧ a.Counts ∧ a.figures.length ≤ digitLimit ∧
        r.toRat = a.value) ∨
      ∃ m : Misplaced, (trim s).toList = m.chars ∧ m.figures.length ≤ digitLimit ∧
        r.toRat = m.value := by
  constructor
  · intro h
    obtain ⟨hsigned, n, hn⟩ := joined_of_parse h
    obtain ⟨sign, hsign, ds, hne, hds, hjoined⟩ :=
      exists_signed (fun c hc => ascii c (mem_of_mem_trim (mem_of_mem_joined hc))) hsigned hn
    rcases amount_or_misplaced hsign hne hds hjoined with ⟨a, ha, hcounts⟩ | ⟨m, hm⟩
    · rw [parse_amount ha hcounts, short_ofRat_eq_ok_iff] at h
      exact .inl ⟨a, ha, hcounts, h⟩
    · rw [parse_misplaced hm, short_ofRat_eq_ok_iff] at h
      exact .inr ⟨m, hm, h⟩
  · rintro (⟨a, ha, hcounts, h⟩ | ⟨m, hm, h⟩)
    · rwa [parse_amount ha hcounts, short_ofRat_eq_ok_iff]
    · rwa [parse_misplaced hm, short_ofRat_eq_ok_iff]

/-- A minus behind the comma makes a twentieth negative, and zeros behind it are no number. -/
theorem parse_minus_behind_comma :
    (∀ c ∈ " ,-50".toList, c.toNat < 128) ∧ (∃ r, parse " ,-50" = .ok r ∧ r.toRat = -1 / 20) ∧
      parse ",0" = .error (.notDecimal ",0") := by
  have hascii : ∀ c ∈ " ,-50".toList, c.toNat < 128 := forall_mem_of_all (by decide)
  let m : Misplaced := { sign := '-', digits := ['5', '0'], some_digit := ⟨'5', by simp⟩ }
  have htrim : (trim " ,-50").toList = m.chars := by decide
  have hvalue : m.value = -1 / 20 := by
    have hdigits : ofAsciiDigits m.digits = 50 := by decide
    have hlength : m.digits.length = 2 := rfl
    rw [Misplaced.value, signed, if_pos rfl, hdigits, hlength]
    norm_num
  obtain ⟨r, hr⟩ : ∃ r : Ratio, r.toRat = -1 / 20 :=
    ⟨⟨-1, 20, by decide, by decide, by decide, by decide⟩, by norm_num [Ratio.toRat_eq_div]⟩
  have hshort : m.figures.length ≤ digitLimit := by decide +kernel
  have hparse : parse " ,-50" = .ok r :=
    (parse_ok_iff _ hascii r).2 (.inr ⟨m, htrim, hshort, hr.trans hvalue.symm⟩)
  exact ⟨hascii, ⟨r, hparse, hr⟩, by decide⟩

end Price

end Reckoner
