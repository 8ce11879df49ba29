import Reckoner.Proofs.Measure.Convert
import Reckoner.Proofs.Text.Figure
import Reckoner.Quantity

/-!
# What the text of a quantity tells

The text of a whole number of a fixed unit is a figure, the letter of the magnitude that the figure
counts, and the symbol of the unit, one right behind the other.  The figure can always be told from
what follows it.  The letter cannot always be told from the symbol, because some symbols are the
letter of a magnitude followed by another symbol or by nothing (`ending_eq_iff`).  So each text is
that of one quantity, of two quantities that are the same amount, as a kilometre and a thousand
metres are, or of two that are not, as a metre and a million are (`text_ofWhole_eq_iff`).
-/

namespace Reckoner

/-! ## Magnitudes -/

/-- What the figure in the text of a whole number counts. -/
inductive Magnitude where
  | ones
  | thousands
  | millions
  deriving DecidableEq

namespace Magnitude

/-- How many ones a magnitude has. -/
def size : Magnitude → Int
  | .ones => 1
  | .thousands => 1000
  | .millions => 1000000

/-- The letter that stands for a magnitude. -/
def letter : Magnitude → String
  | .ones => ""
  | .thousands => "k"
  | .millions => "m"

/-- The magnitude in which a whole number is shown. -/
def ofInt (n : Int) : Magnitude :=
  if 1000000 ≤ n.natAbs && n.natAbs % 1000000 == 0 then .millions
  else if 1000 ≤ n.natAbs && n.natAbs % 1000 == 0 then .thousands
  else .ones

theorem size_dvd (n : Int) : (ofInt n).size ∣ n := by
  simp only [ofInt, Bool.and_eq_true, decide_eq_true_eq, beq_iff_eq]
  split
  next h => exact Int.dvd_natAbs.1 (Int.natCast_dvd_natCast.2 (Nat.dvd_of_mod_eq_zero h.2))
  next =>
    split
    next h => exact Int.dvd_natAbs.1 (Int.natCast_dvd_natCast.2 (Nat.dvd_of_mod_eq_zero h.2))
    next => exact one_dvd n

/-- A figure that is no multiple of a thousand is shown in the magnitude that it counts. -/
theorem ofInt_mul {i : Int} (h : ¬1000 ∣ i) (m : Magnitude) : ofInt (m.size * i) = m := by
  simp only [ofInt, Bool.and_eq_true, decide_eq_true_eq, beq_iff_eq]
  cases m with
  | ones => rw [size, if_neg (by omega), if_neg (by omega)]
  | thousands => rw [size, if_neg (by omega), if_pos (by omega)]
  | millions => rw [size, if_pos (by omega)]

/-- Only zero and what is no multiple of a thousand is written out. -/
theorem not_dvd_of_ones {n : Int} (h : ofInt n = .ones) : n = 0 ∨ ¬1000 ∣ n := by
  simp only [ofInt, Bool.and_eq_true, decide_eq_true_eq, beq_iff_eq] at h
  split at h
  next => cases h
  next =>
    split at h
    next => cases h
    next => omega

theorem ofInt_zero : ofInt 0 = .ones := rfl

end Magnitude

/-! ## Endings -/

namespace FixedUnit

/-- The symbol of a unit, if there is one. -/
def symbolOf (u : Option FixedUnit) : String := u.elim "" symbol

/-- Every fixed unit, and none. -/
def choices : List (Option FixedUnit) := none :: all.map some

theorem mem_choices (u : Option FixedUnit) : u ∈ choices := by
  cases u with
  | none => exact List.mem_cons_self
  | some u => exact List.mem_cons_of_mem _ (List.mem_map_of_mem u.mem_all)

/-- Units whose symbol is a letter followed by the symbol of another unit that is as many times
smaller as the letter says. -/
def multiples : List (Option FixedUnit × Magnitude × Option FixedUnit) :=
  [(some .kilometre, .thousands, some .metre), (some .kilogram, .thousands, some .gram)]

/-- Units whose symbol is a letter followed by the symbol of another unit, or by nothing, although
they are no such multiple. -/
def lookalikes : List (Option FixedUnit × Magnitude × Option FixedUnit) :=
  [(some .squareKilometre, .thousands, some .squareMetre),
    (some .metre, .millions, none),
    (some .millimetre, .millions, some .metre),
    (some .squareMillimetre, .millions, some .squareMetre),
    (some .millilitre, .millions, some .litre),
    (some .cubicMillimetre, .millions, some .cubicMetre)]

theorem symbolOf_inj_all : ∀ u ∈ choices, ∀ v ∈ choices, symbolOf u = symbolOf v → u = v := by
  decide

theorem symbolOf_injective {u v : Option FixedUnit} (h : symbolOf u = symbolOf v) : u = v :=
  symbolOf_inj_all u (mem_choices u) v (mem_choices v) h

theorem symbolOf_thousands_all : ∀ u ∈ choices, ∀ v ∈ choices,
    symbolOf u = Magnitude.thousands.letter ++ symbolOf v →
      (u, .thousands, v) ∈ multiples ++ lookalikes := by decide

theorem symbolOf_millions_all : ∀ u ∈ choices, ∀ v ∈ choices,
    symbolOf u = Magnitude.millions.letter ++ symbolOf v →
      (u, .millions, v) ∈ multiples ++ lookalikes := by decide

theorem symbolOf_pair_all : ∀ e ∈ multiples ++ lookalikes,
    e.2.1 ≠ .ones ∧ symbolOf e.1 = e.2.1.letter ++ symbolOf e.2.2 := by decide

/-- Which symbols are the letter of a magnitude followed by another symbol or by nothing. -/
theorem symbolOf_eq_letter_append_iff {u v : Option FixedUnit} {m : Magnitude} :
    m ≠ .ones ∧ symbolOf u = m.letter ++ symbolOf v ↔ (u, m, v) ∈ multiples ++ lookalikes := by
  refine ⟨fun ⟨hm, h⟩ => ?_, symbolOf_pair_all _⟩
  cases m with
  | ones => exact absurd rfl hm
  | thousands => exact symbolOf_thousands_all u (mem_choices u) v (mem_choices v) h
  | millions => exact symbolOf_millions_all u (mem_choices u) v (mem_choices v) h

end FixedUnit

/-- What stands behind the figure: the letter of the magnitude, then the symbol. -/
def Magnitude.ending (m : Magnitude) (u : Option FixedUnit) : String :=
  m.letter ++ FixedUnit.symbolOf u

namespace Magnitude

open FixedUnit (symbolOf multiples lookalikes)

/-- An ending does not go on with the figure. -/
theorem head_ending (m : Magnitude) (u : Option FixedUnit) :
    ∀ c ∈ (m.ending u).toList.head?, isFigureChar c = false := by
  have hall : ∀ u ∈ FixedUnit.choices, [ones, thousands, millions].all (fun m =>
      (m.ending u).toList.head?.all fun c => !isFigureChar c) = true := by decide
  have hm : m ∈ [ones, thousands, millions] := by cases m <;> decide
  have hending := List.all_eq_true.1 (hall u (FixedUnit.mem_choices u)) m hm
  intro c hc
  rw [Option.mem_def.1 hc, Option.all_some, Bool.not_eq_true'] at hending
  exact hending

theorem eq_of_letter_append_eq {m n : Magnitude} {s t : String} (hm : m ≠ .ones) (hn : n ≠ .ones)
    (h : m.letter ++ s = n.letter ++ t) : m = n := by
  have hhead := congrArg (fun s : String => s.toList.head?) h
  cases m with
  | ones => exact absurd rfl hm
  | thousands =>
    cases n with
    | ones => exact absurd rfl hn
    | thousands => rfl
    | millions => simp [letter] at hhead
  | millions =>
    cases n with
    | ones => exact absurd rfl hn
    | thousands => simp [letter] at hhead
    | millions => rfl

/-- Two endings are the same only if they have the same letter and symbol, or if one has no letter
and its symbol is the letter of the other one followed by the other symbol. -/
theorem ending_eq_iff {m n : Magnitude} {u v : Option FixedUnit} :
    m.ending u = n.ending v ↔ (m = n ∧ u = v) ∨
      (m = .ones ∧ (u, n, v) ∈ multiples ++ lookalikes) ∨
      (n = .ones ∧ (v, m, u) ∈ multiples ++ lookalikes) := by
  simp only [← FixedUnit.symbolOf_eq_letter_append_iff, ending]
  constructor
  · intro h
    by_cases heq : m = n
    · rw [heq] at h
      exact .inl ⟨heq, FixedUnit.symbolOf_injective ((String.append_right_inj _).1 h)⟩
    by_cases hm : m = .ones
    · rw [hm, letter, String.empty_append] at h
      exact .inr (.inl ⟨hm, fun hn => heq (hm.trans hn.symm), h⟩)
    by_cases hn : n = .ones
    · rw [hn, letter, String.empty_append] at h
      exact .inr (.inr ⟨hn, hm, h.symm⟩)
    exact absurd (eq_of_letter_append_eq hm hn h) heq
  · rintro (⟨rfl, rfl⟩ | ⟨rfl, -, h⟩ | ⟨rfl, -, h⟩)
    · rfl
    · rw [h, letter, String.empty_append]
    · rw [h, letter, String.empty_append]

end Magnitude

/-! ## Texts -/

/-- The text of a whole number is its figure and the letter of its magnitude. -/
theorem Number.wholeText_eq (n : Int) : wholeText n =
    toString (n / (Magnitude.ofInt n).size) ++ (Magnitude.ofInt n).letter := by
  simp only [wholeText, Magnitude.ofInt]
  split
  next => rfl
  next =>
    split
    next => rfl
    next => rw [Magnitude.size, Int.ediv_one, Magnitude.letter, String.append_empty]

namespace Quantity

open Magnitude (ofInt)
open FixedUnit (multiples lookalikes)

/-- A whole number of a fixed unit or of none. -/
def ofWhole (n : Int) (u : Option FixedUnit) : Quantity := ⟨.whole n, u.map .fixed⟩

variable {i j : Int} {u v : Option FixedUnit}

theorem text_ofWhole (n : Int) (u : Option FixedUnit) :
    (ofWhole n u).text = toString (n / (ofInt n).size) ++ (ofInt n).ending u := by
  have hsymbol : (u.map Measure.fixed).elim "" Measure.symbol = FixedUnit.symbolOf u := by
    cases u <;> rfl
  rw [text, ofWhole, hsymbol, Number.text, Number.wholeText_eq, String.append_assoc,
    Magnitude.ending]

/-- Two texts are the same if the figures and the endings are. -/
theorem text_ofWhole_eq_iff_parts : (ofWhole i u).text = (ofWhole j v).text ↔
    i / (ofInt i).size = j / (ofInt j).size ∧ (ofInt i).ending u = (ofInt j).ending v := by
  rw [text_ofWhole, text_ofWhole]
  constructor
  · intro h
    have hlist := congrArg String.toList h
    rw [String.toList_append, String.toList_append] at hlist
    obtain ⟨hfigure, hending⟩ := append_inj_of_head isFigureChar_of_mem_toString
      isFigureChar_of_mem_toString (Magnitude.head_ending _ _) (Magnitude.head_ending _ _) hlist
    refine ⟨?_, String.toList_inj.1 hending⟩
    rw [← figureValue_toString (i / _), hfigure, figureValue_toString]
  · rintro ⟨hfigure, hending⟩
    rw [hfigure, hending]

/-- So many of a unit, written out, read like as many thousands or millions of another unit, whose
symbol is the shorter by the letter. -/
def ReadsLike (pairs : List (Option FixedUnit × Magnitude × Option FixedUnit)) (i : Int)
    (u : Option FixedUnit) (j : Int) (v : Option FixedUnit) : Prop :=
  ¬1000 ∣ i ∧ ∃ m, (u, m, v) ∈ pairs ∧ j = m.size * i

theorem text_eq_of_readsLike (h : ReadsLike (multiples ++ lookalikes) i u j v) :
    (ofWhole i u).text = (ofWhole j v).text := by
  obtain ⟨hi, m, hm, rfl⟩ := h
  have hones : ofInt i = .ones := by
    have := Magnitude.ofInt_mul hi .ones
    rwa [Magnitude.size, one_mul] at this
  have hsize : m.size ≠ 0 := by cases m <;> decide
  rw [text_ofWhole_eq_iff_parts, hones, Magnitude.ofInt_mul hi m, Magnitude.ending_eq_iff]
  refine ⟨?_, .inr (.inl ⟨rfl, hm⟩)⟩
  rw [Magnitude.size, Int.ediv_one, Int.mul_ediv_cancel_left i hsize]

/-- If the figures are the same and the first number is written out, then the second one is as many
times as large as its magnitude has ones. -/
theorem readsLike_of_ones (hi : ofInt i = .ones)
    (hfigure : i / (ofInt i).size = j / (ofInt j).size)
    (hpair : (u, ofInt j, v) ∈ multiples ++ lookalikes) :
    ReadsLike (multiples ++ lookalikes) i u j v := by
  have hmul : j = (ofInt j).size * i := by
    rw [hi, Magnitude.size, Int.ediv_one] at hfigure
    rw [hfigure, Int.mul_ediv_cancel' (Magnitude.size_dvd j)]
  refine ⟨?_, ofInt j, hpair, hmul⟩
  rcases Magnitude.not_dvd_of_ones hi with hzero | hdvd
  · have hj := (FixedUnit.symbolOf_eq_letter_append_iff.2 hpair).1
    rw [hmul, hzero, mul_zero] at hj
    exact absurd Magnitude.ofInt_zero hj
  · exact hdvd

/-- When the texts of two quantities are the same. -/
theorem text_ofWhole_eq_iff : (ofWhole i u).text = (ofWhole j v).text ↔
    (i = j ∧ u = v) ∨ ReadsLike (multiples ++ lookalikes) i u j v ∨
      ReadsLike (multiples ++ lookalikes) j v i u := by
  constructor
  · intro h
    obtain ⟨hfigure, hending⟩ := text_ofWhole_eq_iff_parts.1 h
    rcases Magnitude.ending_eq_iff.1 hending with ⟨hsize, huv⟩ | ⟨hi, hpair⟩ | ⟨hj, hpair⟩
    · rw [hsize] at hfigure
      have hdvd := hsize ▸ Magnitude.size_dvd i
      exact .inl ⟨(Int.ediv_left_inj hdvd (Magnitude.size_dvd j)).1 hfigure, huv⟩
    · exact .inr (.inl (readsLike_of_ones hi hfigure hpair))
    · exact .inr (.inr (readsLike_of_ones hj hfigure.symm hpair))
  · rintro (⟨rfl, rfl⟩ | h | h)
    · rfl
    · exact text_eq_of_readsLike h
    · exact (text_eq_of_readsLike h).symm

theorem readsLike_append {pairs rest : List (Option FixedUnit × Magnitude × Option FixedUnit)} :
    ReadsLike (pairs ++ rest) i u j v ↔ ReadsLike pairs i u j v ∨ ReadsLike rest i u j v := by
  simp only [ReadsLike, List.mem_append, or_and_right, exists_or, and_or_left]

/-! ## Amounts -/

/-- So many of one unit are as much as so many of another one of its category. -/
inductive SameAmount : Int → Option FixedUnit → Int → Option FixedUnit → Prop where
  | of {i j : Int} {a b : FixedUnit} {f g : ℚ} : a.category = b.category → a.scale? = some f →
    b.scale? = some g → i * f = j * g → SameAmount i (some a) j (some b)

theorem SameAmount.symm (h : SameAmount i u j v) : SameAmount j v i u := by
  cases h with
  | of hcategory hf hg heq => exact .of hcategory.symm hg hf heq.symm

theorem sameAmount_of_multiples (h : ReadsLike multiples i u j v) : SameAmount i u j v := by
  obtain ⟨-, m, hm, rfl⟩ := h
  simp only [multiples, List.mem_cons, Prod.mk.injEq, List.not_mem_nil, or_false] at hm
  rcases hm with ⟨rfl, rfl, rfl⟩ | ⟨rfl, rfl, rfl⟩ <;> refine .of rfl rfl rfl ?_
  · simp [Fraction.whole, Magnitude.size, mul_comm]
  · simp [Fraction.whole, Magnitude.size, mul_comm]

theorem not_sameAmount_mul {a b : FixedUnit} {f g : ℚ} {n : Int} (ha : a.scale? = some f)
    (hb : b.scale? = some g) (hne : f ≠ n * g) (hi : i ≠ 0) :
    ¬SameAmount i (some a) (n * i) (some b) := by
  generalize hj : n * i = j
  intro h
  cases h with
  | of _ hf hg heq =>
    cases ha.symm.trans hf
    cases hb.symm.trans hg
    refine hne (mul_left_cancel₀ (Int.cast_ne_zero.2 hi) (heq.trans ?_))
    rw [← hj, Int.cast_mul, mul_comm (n : ℚ), mul_assoc]

theorem not_sameAmount_of_lookalikes (h : ReadsLike lookalikes i u j v) :
    ¬SameAmount i u j v := by
  obtain ⟨hi, m, hm, rfl⟩ := h
  have hzero : i ≠ 0 := fun hz => hi (hz ▸ dvd_zero _)
  simp only [lookalikes, List.mem_cons, Prod.mk.injEq, List.not_mem_nil, or_false] at hm
  rcases hm with h | h | h | h | h | h <;> obtain ⟨rfl, rfl, rfl⟩ := h
  case inr.inl => exact nofun
  all_goals
    refine not_sameAmount_mul rfl rfl ?_ hzero
    norm_num [Fraction.whole, Fraction.raised, Fraction.cube, Fraction.times,
      Fraction.cubicMetre, Magnitude.size]

/-- Two quantities whose texts are the same are one quantity, or the same amount in two units, or
one of them is a lookalike of the other; and lookalikes have the same text although they are not the
same amount. -/
theorem text_determines_amount (i j : Int) (u v : Option FixedUnit) :
    ((ofWhole i u).text = (ofWhole j v).text → (i = j ∧ u = v) ∨ SameAmount i u j v ∨
      ReadsLike lookalikes i u j v ∨ ReadsLike lookalikes j v i u) ∧
    (ReadsLike lookalikes i u j v →
      (ofWhole i u).text = (ofWhole j v).text ∧ ¬SameAmount i u j v) := by
  refine ⟨fun h => ?_, fun h => ?_⟩
  · rw [text_ofWhole_eq_iff, readsLike_append, readsLike_append] at h
    rcases h with h | (h | h) | h | h
    · exact .inl h
    · exact .inr (.inl (sameAmount_of_multiples h))
    · exact .inr (.inr (.inl h))
    · exact .inr (.inl (sameAmount_of_multiples h).symm)
    · exact .inr (.inr (.inr h))
  · exact ⟨text_ofWhole_eq_iff.2 (.inr (.inl (readsLike_append.2 (.inr h)))),
      not_sameAmount_of_lookalikes h⟩

/-- A metre is no million, but both are written `1m`. -/
theorem text_of_metre_and_million : ¬∀ i j : Int, FitsInt64 i → FitsInt64 j →
    ∀ u v : Option FixedUnit, (ofWhole i u).text = (ofWhole j v).text →
      (i = j ∧ u = v) ∨ SameAmount i u j v := by
  intro h
  have htext : (ofWhole 1 (some .metre)).text = (ofWhole 1000000 none).text := by decide
  rcases h 1 1000000 (by decide) (by decide) _ _ htext with ⟨hij, -⟩ | hsame
  · cases hij
  · cases hsame

end Quantity
end Reckoner
