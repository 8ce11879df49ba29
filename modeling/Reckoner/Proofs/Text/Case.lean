import Mathlib.Data.List.Basic
import Reckoner.Text.Case

/-!
# Texts in lower case

A character is *settled* if the case tables have no lower case for it.  What the tables map a
character to is settled: the images of a run are met by no run of the table, which is decided for
every two runs from their ends and steps.  So taking the lower case of a text twice is the same as
taking it once, and keys that are kept in lower case stay as they are when they are stored again.
-/

namespace Reckoner.Text

/-! ## Runs -/

namespace CaseRun

/-- The code point that a run gives for one of its own. -/
def image (run : CaseRun) (n : Nat) : Nat := (n + run.shift).toNat

/-- No image of one run lies in another: they lie apart, or the images fall between the steps of the
other run. -/
def misses (run other : CaseRun) : Bool :=
  (run.image run.last).blt other.first || other.last.blt (run.image run.first) ||
    ((run.step == 2 || run.first == run.last) && other.step == 2 &&
      (run.image run.first + other.first) % 2 == 1)

/-- The images of a run are characters without an expansion. -/
def isSound (run : CaseRun) : Bool :=
  (0 < run.first + run.shift && run.last + run.shift < 0x130) ||
    (0x130 < run.first + run.shift && run.last + run.shift < 0xd800) ||
    (0xdfff < run.first + run.shift && run.last + run.shift < 0x110000)

variable {run other : CaseRun} {n : Nat}

theorem contains_iff :
    run.contains n = true ↔ run.first ≤ n ∧ n ≤ run.last ∧ (n - run.first) % run.step = 0 := by
  simp [contains, and_assoc]

theorem contains_image_eq_false (sound : run.isSound = true) (misses : run.misses other = true)
    (h : run.contains n = true) : other.contains (run.image n) = false := by
  obtain ⟨lo, hi, mod⟩ := contains_iff.1 h
  rw [Bool.eq_false_iff, ne_eq, contains_iff]
  rintro ⟨olo, ohi, omod⟩
  simp only [isSound, CaseRun.misses, image, Bool.or_eq_true, Bool.and_eq_true, Nat.blt_eq,
    decide_eq_true_eq, beq_iff_eq] at sound misses olo ohi omod
  rcases misses with (apart | apart) | ⟨⟨narrow, two⟩, odd⟩
  · omega
  · omega
  · rw [two] at omod
    rcases narrow with narrow | narrow
    · rw [narrow] at mod
      omega
    · omega

theorem isValidChar_image (sound : run.isSound = true) (h : run.contains n = true) :
    (run.image n).isValidChar ∧ run.image n ≠ 0x130 := by
  obtain ⟨lo, hi, -⟩ := contains_iff.1 h
  simp only [isSound, Bool.or_eq_true, Bool.and_eq_true, decide_eq_true_eq] at sound
  simp only [image, Nat.isValidChar]
  omega

end CaseRun

theorem lowerRuns_sound : lowerRuns.all CaseRun.isSound = true := by decide

theorem lowerRuns_misses : (lowerRuns.all fun run => lowerRuns.all run.misses) = true := by
  decide +kernel

/-! ## Settled characters -/

/-- The tables have no lower case for a character. -/
structure Settled (c : Char) : Prop where
  /-- No run contains it. -/
  apart : ∀ run ∈ lowerRuns, run.contains c.toNat = false
  /-- It has no expansion. -/
  single : c.toNat ≠ 0x130

theorem toNat_ofNat {n : Nat} (h : n.isValidChar) : (Char.ofNat n).toNat = n := by
  rw [Char.ofNat, dif_pos h]
  rfl

theorem toLower_eq_self {c : Char} (h : c.toNat < 65 ∨ 90 < c.toNat) : c.toLower = c := by
  refine dif_neg ?_
  rintro ⟨lo, hi⟩
  have lo := UInt32.le_iff_toNat_le.1 lo
  have hi := UInt32.le_iff_toNat_le.1 hi
  have : c.val.toNat = c.toNat := rfl
  have : 'A'.val.toNat = 65 := rfl
  have : 'Z'.val.toNat = 90 := rfl
  omega

namespace Settled

variable {c : Char}

/-- No code point of the runs is that of a settled character. -/
theorem ne_of_any {n : Nat} (h : Settled c) (listed : lowerRuns.any (·.contains n) = true) :
    c.toNat ≠ n := by
  rintro rfl
  obtain ⟨run, hrun, contained⟩ := List.any_eq_true.1 listed
  rw [h.apart run hrun] at contained
  cases contained

theorem not_capital (h : Settled c) : c.toNat < 65 ∨ 90 < c.toNat := by
  have capitals : ∀ n < 91, 65 ≤ n → lowerRuns.any (·.contains n) = true := by decide
  by_contra between
  exact h.ne_of_any (capitals c.toNat (by omega) (by omega)) rfl

theorem not_sigma (h : Settled c) : c.toNat ≠ 0x3a3 := h.ne_of_any (by decide)

theorem lookup_eq_none (h : c.toNat ≠ 0x130) : lowerExpansions.lookup c.toNat = none := by
  simp [lowerExpansions, List.lookup_cons, beq_eq_false_iff_ne.2 h]

theorem lowerChar_eq (h : Settled c) : lowerChar c = [c] := by
  rw [lowerChar]
  split
  next => rw [toLower_eq_self h.not_capital]
  next =>
    have : lowerRuns.find? (·.contains c.toNat) = none :=
      List.find?_eq_none.2 fun run hrun => Bool.eq_false_iff.1 (h.apart run hrun)
    rw [mapCase, lookup_eq_none h.single, this]

/-- A small letter or sign of the first block. -/
theorem of_ascii (h : c.toNat < 0x80) (small : c.toNat < 65 ∨ 90 < c.toNat) : Settled c where
  apart run hrun := by
    by_contra contained
    rw [Bool.not_eq_false, CaseRun.contains_iff] at contained
    have starts : ∀ run ∈ lowerRuns, run.first = 65 ∧ run.last = 90 ∨ 0x80 ≤ run.first := by
      decide +kernel
    have := starts run hrun
    omega
  single := by omega

end Settled

/-- What the tables map a character to is settled. -/
theorem settled_of_mem_lowerChar {c d : Char} (h : d ∈ lowerChar c) : Settled d := by
  rw [lowerChar] at h
  split at h
  next ascii =>
    obtain rfl := List.mem_singleton.1 h
    have table : ∀ n < 0x80, (Char.ofNat n).toLower.toNat < 0x80 ∧
        ((Char.ofNat n).toLower.toNat < 65 ∨ 90 < (Char.ofNat n).toLower.toNat) := by decide
    obtain ⟨low, small⟩ := table c.toNat ascii
    rw [Char.ofNat_toNat] at low small
    exact .of_ascii low small
  next =>
    by_cases expands : c.toNat = 0x130
    · rw [mapCase, expands] at h
      rcases List.mem_pair.1 h with rfl | rfl <;> exact ⟨by decide +kernel, by decide⟩
    · rw [mapCase, Settled.lookup_eq_none expands] at h
      simp only at h
      split at h
      next run found =>
        obtain rfl := List.mem_singleton.1 h
        have mem := List.mem_of_find?_eq_some found
        have contained := List.find?_some found
        have sound := List.all_eq_true.1 lowerRuns_sound run mem
        obtain ⟨valid, single⟩ := CaseRun.isValidChar_image sound contained
        refine ⟨fun other hother => ?_, ?_⟩
        · have all := List.all_eq_true.1 lowerRuns_misses run mem
          have misses := List.all_eq_true.1 all other hother
          have := CaseRun.contains_image_eq_false sound misses contained
          rwa [← toNat_ofNat valid] at this
        · rwa [← toNat_ofNat valid] at single
      next absent =>
        obtain rfl := List.mem_singleton.1 h
        exact ⟨fun run hrun => Bool.eq_false_iff.2 (List.find?_eq_none.1 absent run hrun), expands⟩

/-! ## Texts -/

theorem settled_of_mem_lowerChars {before : Bool} {cs : List Char} {d : Char}
    (h : d ∈ lowerChars before cs) : Settled d := by
  induction cs generalizing before with
  | nil => cases h
  | cons c rest ih =>
    rw [lowerChars] at h
    rcases List.mem_append.1 h with h | h
    · split at h
      next =>
        obtain rfl := List.mem_singleton.1 h
        exact ⟨by decide +kernel, by decide⟩
      next => exact settled_of_mem_lowerChar h
    · exact ih h

theorem lowerChars_eq_self {before : Bool} {cs : List Char} (h : ∀ c ∈ cs, Settled c) :
    lowerChars before cs = cs := by
  induction cs generalizing before with
  | nil => rfl
  | cons c rest ih =>
    obtain ⟨hc, hrest⟩ := List.forall_mem_cons.1 h
    have : lowerChar c = [c] := hc.lowerChar_eq
    simp [lowerChars, hc.not_sigma, this, ih hrest]

/-- A text in lower case is its own lower case. -/
theorem lower_lower (s : String) : lower (lower s) = lower s := by
  rw [lower, lower, String.toList_ofList, lowerChars_eq_self fun _ h => settled_of_mem_lowerChars h]

end Reckoner.Text
