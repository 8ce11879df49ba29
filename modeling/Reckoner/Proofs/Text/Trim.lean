import Mathlib.Data.List.TakeWhile
import Reckoner.Text.Blank

/-!
# Trimmed texts

A text is *tight* if it begins and ends with something that counts.  Dropping what does not count at
the two ends makes a text tight, unless nothing in it counts, and leaves a tight text as it is.
Tight texts may be joined with anything between them.
-/

namespace Reckoner.Text

variable {p : Char → Bool} {cs ds : List Char}

theorem isGap_eq_false {c : Char} (h : isBlank c = false) : isGap c = false :=
  (Bool.or_eq_false_iff.1 h).1

/-- What is dropped at the two ends. -/
theorem exists_dropAround (p : Char → Bool) (cs : List Char) :
    ∃ front back, cs = front ++ (dropAround p cs ++ back) ∧ (∀ c ∈ front, p c = true) ∧
      ∀ c ∈ back, p c = true := by
  have hback : dropAround p cs ++ ((cs.dropWhile p).reverse.takeWhile p).reverse =
      cs.dropWhile p := by
    rw [dropAround, dropTrailing, ← List.reverse_append, List.takeWhile_append_dropWhile,
      List.reverse_reverse]
  refine ⟨cs.takeWhile p, ((cs.dropWhile p).reverse.takeWhile p).reverse, ?_, ?_, ?_⟩
  · rw [hback, List.takeWhile_append_dropWhile]
  · exact fun c hc => List.mem_takeWhile_imp hc
  · exact fun c hc => List.mem_takeWhile_imp (List.mem_reverse.1 hc)

/-- The text begins and ends with characters outside `p`. -/
structure Tight (p : Char → Bool) (cs : List Char) : Prop where
  first : ∃ c ∈ cs.head?, p c = false
  last : ∃ c ∈ cs.getLast?, p c = false

theorem Tight.exists_mem (h : Tight p cs) : ∃ c ∈ cs, p c = false := by
  obtain ⟨c, hc, hp⟩ := h.first
  exact ⟨c, List.mem_of_mem_head? hc, hp⟩

theorem Tight.reverse (h : Tight p cs) : Tight p cs.reverse where
  first := by simpa using h.last
  last := by simpa using h.first

theorem Tight.dropWhile_eq (h : Tight p cs) : cs.dropWhile p = cs := by
  obtain ⟨c, hc, hp⟩ := h.first
  obtain ⟨rest, rfl⟩ := List.head?_eq_some_iff.1 hc
  exact List.dropWhile_cons_of_neg (by simp [hp])

theorem Tight.dropAround_eq (h : Tight p cs) : dropAround p cs = cs := by
  rw [dropAround, h.dropWhile_eq, dropTrailing, h.reverse.dropWhile_eq, List.reverse_reverse]

/-- What is left after dropping from the front begins with something that counts. -/
theorem exists_head?_dropWhile (h : ∃ c ∈ cs, p c = false) :
    ∃ c ∈ (cs.dropWhile p).head?, p c = false := by
  induction cs with
  | nil =>
    obtain ⟨c, hc, _⟩ := h
    cases hc
  | cons d cs ih =>
    cases hd : p d with
    | false => exact ⟨d, by simp [hd], hd⟩
    | true =>
      obtain ⟨c, hc, hp⟩ := h
      rw [List.dropWhile_cons_of_pos hd]
      rcases List.mem_cons.1 hc with rfl | hc
      · rw [hd] at hp
        cases hp
      · exact ih ⟨c, hc, hp⟩

/-- Dropping at the end does not change where a text begins. -/
theorem head?_dropTrailing (h : ∃ c ∈ cs.head?, p c = false) :
    (dropTrailing p cs).head? = cs.head? := by
  obtain ⟨c, hc, hp⟩ := h
  obtain ⟨rest, rfl⟩ := List.head?_eq_some_iff.1 hc
  rw [dropTrailing, List.reverse_cons, List.dropWhile_append]
  split
  next => simp [hp]
  next => simp

theorem tight_dropAround (h : ∃ c ∈ cs, p c = false) : Tight p (dropAround p cs) := by
  have hfront := exists_head?_dropWhile h
  obtain ⟨c, hc, hp⟩ := hfront
  have hmem : c ∈ (cs.dropWhile p).reverse := List.mem_reverse.2 (List.mem_of_mem_head? hc)
  have hback := exists_head?_dropWhile ⟨c, hmem, hp⟩
  refine ⟨?_, ?_⟩
  · rw [dropAround, head?_dropTrailing ⟨c, hc, hp⟩]
    exact ⟨c, hc, hp⟩
  · rw [dropAround, dropTrailing, List.getLast?_reverse]
    exact hback

theorem dropAround_of_forall (h : ∀ c ∈ cs, p c = true) : dropAround p cs = [] := by
  rw [dropAround, List.dropWhile_eq_nil_iff.2 h]
  rfl

/-- What does not count is dropped around a tight text. -/
theorem Tight.dropAround_append {front back : List Char} (h : Tight p cs)
    (hfront : ∀ c ∈ front, p c = true) (hback : ∀ c ∈ back, p c = true) :
    dropAround p (front ++ (cs ++ back)) = cs := by
  have hstart : (cs ++ back).dropWhile p = cs ++ back := by
    obtain ⟨c, hc, hp⟩ := h.first
    obtain ⟨rest, rfl⟩ := List.head?_eq_some_iff.1 hc
    exact List.dropWhile_cons_of_neg (by simp [hp])
  have hback : ∀ c ∈ back.reverse, p c = true := fun c hc => hback c (List.mem_reverse.1 hc)
  rw [dropAround, List.dropWhile_append_of_pos hfront, hstart, dropTrailing, List.reverse_append,
    List.dropWhile_append_of_pos hback, h.reverse.dropWhile_eq, List.reverse_reverse]

theorem Tight.append (h : Tight p cs) (h' : Tight p ds) (between : List Char) :
    Tight p (cs ++ (between ++ ds)) where
  first := by
    obtain ⟨c, hc, hp⟩ := h.first
    exact ⟨c, by simp [List.head?_append, Option.mem_def.1 hc], hp⟩
  last := by
    obtain ⟨c, hc, hp⟩ := h'.last
    exact ⟨c, by simp [List.getLast?_append, Option.mem_def.1 hc], hp⟩

/-- Tight texts are joined to a tight text. -/
theorem tight_intercalate {texts : List (List Char)} (hne : texts ≠ [])
    (h : ∀ text ∈ texts, Tight p text) (separator : List Char) :
    Tight p (separator.intercalate texts) := by
  induction texts with
  | nil => exact absurd rfl hne
  | cons text texts ih =>
    have htext := h text List.mem_cons_self
    cases texts with
    | nil => simpa using htext
    | cons next texts =>
      rw [List.intercalate_cons_cons, List.append_assoc]
      exact htext.append (ih (List.cons_ne_nil _ _) fun t ht => h t (List.mem_cons_of_mem _ ht)) _

end Reckoner.Text
