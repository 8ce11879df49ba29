import Reckoner.Proofs.Text.Trim
import Reckoner.Text.Line

/-!
# Texts with their line ends unified

After its line ends are unified a text has no carriage returns, and a text without any stays as it
is, so unifying twice is unifying once (`unifyLineEnds_idem`).  Two texts may be unified apart,
unless one ends and the other begins with the halves of a line end (`unifyLineEnds_append`).

Every line end is made of blanks and stays a blank.  A trimmed text neither begins with a line feed
nor ends with a carriage return, so what is trimmed off is unified apart from the rest: trimming and
unifying may be exchanged (`dropAround_unifyLineEnds`).
-/

namespace Reckoner.Text

variable {p : Char → Bool} {cs ds : List Char}

/-! ## Carriage returns -/

theorem unifyLineEnds_of_not_mem (h : '\r' ∉ cs) : unifyLineEnds cs = cs := by
  fun_induction unifyLineEnds cs with
  | case1 cs ih => exact absurd List.mem_cons_self h
  | case2 cs _ ih => exact absurd List.mem_cons_self h
  | case3 c cs _ _ ih => rw [ih fun hmem => h (List.mem_cons_of_mem _ hmem)]
  | case4 => rfl

theorem not_mem_unifyLineEnds (cs : List Char) : '\r' ∉ unifyLineEnds cs := by
  have hfeed : ('\r' : Char) ≠ '\n' := by decide
  fun_induction unifyLineEnds cs with
  | case1 cs ih => exact List.not_mem_cons_of_ne_of_not_mem hfeed ih
  | case2 cs _ ih => exact List.not_mem_cons_of_ne_of_not_mem hfeed ih
  | case3 c cs _ hne ih =>
    refine List.not_mem_cons_of_ne_of_not_mem ?_ ih
    rintro rfl
    exact hne rfl
  | case4 => exact List.not_mem_nil

@[simp] theorem unifyLineEnds_idem (cs : List Char) :
    unifyLineEnds (unifyLineEnds cs) = unifyLineEnds cs :=
  unifyLineEnds_of_not_mem (not_mem_unifyLineEnds cs)

/-! ## Parts -/

/-- Two texts are unified apart, unless a line end runs from one into the other. -/
theorem unifyLineEnds_append (h : cs.getLast? ≠ some '\r' ∨ ds.head? ≠ some '\n') :
    unifyLineEnds (cs ++ ds) = unifyLineEnds cs ++ unifyLineEnds ds := by
  fun_induction unifyLineEnds cs with
  | case1 cs ih =>
    rw [List.cons_append, List.cons_append, unifyLineEnds, List.cons_append]
    cases cs with
    | nil => rfl
    | cons c cs => rw [ih (by simpa using h)]
  | case2 cs hcs ih =>
    cases cs with
    | nil =>
      have hds : ds.head? ≠ some '\n' := by simpa using h
      cases ds with
      | nil => rfl
      | cons d ds =>
        rw [List.singleton_append, unifyLineEnds]
        · rfl
        · rintro _ ⟨⟩
          exact hds rfl
    | cons c cs =>
      rw [List.cons_append, unifyLineEnds, ih (by simpa using h)]
      · rfl
      · rintro _ ⟨⟩
        exact hcs _ rfl
  | case3 c cs hpair hne ih =>
    rw [List.cons_append, unifyLineEnds, List.cons_append]
    · cases cs with
      | nil => rfl
      | cons d cs => rw [ih (by simpa using h)]
    · rintro _ rfl
      exact fun _ => hne rfl
    · exact hne
  | case4 => rfl

/-! ## Blanks -/

theorem isBlank_unifyLineEnds (h : ∀ c ∈ cs, isBlank c = true) :
    ∀ c ∈ unifyLineEnds cs, isBlank c = true := by
  have hfeed : isBlank '\n' = true := rfl
  fun_induction unifyLineEnds cs with
  | case1 cs ih =>
    exact List.forall_mem_cons.2 ⟨hfeed, ih fun c hc =>
      h c (List.mem_cons_of_mem _ (List.mem_cons_of_mem _ hc))⟩
  | case2 cs _ ih =>
    exact List.forall_mem_cons.2 ⟨hfeed, ih fun c hc => h c (List.mem_cons_of_mem _ hc)⟩
  | case3 c cs _ _ ih =>
    obtain ⟨hc, hcs⟩ := List.forall_mem_cons.1 h
    exact List.forall_mem_cons.2 ⟨hc, ih hcs⟩
  | case4 => exact nofun

theorem ne_lineEnd {c : Char} (hc : isBlank c = false) : c ≠ '\r' ∧ c ≠ '\n' := by
  constructor <;>
  · rintro rfl
    cases hc

/-- A character that is no blank stays where it is. -/
theorem mem_unifyLineEnds {c : Char} (hc : isBlank c = false) (h : c ∈ cs) :
    c ∈ unifyLineEnds cs := by
  obtain ⟨hreturn, hfeed⟩ := ne_lineEnd hc
  fun_induction unifyLineEnds cs with
  | case1 cs ih =>
    have h := List.mem_of_ne_of_mem hfeed (List.mem_of_ne_of_mem hreturn h)
    exact List.mem_cons_of_mem _ (ih h)
  | case2 cs _ ih => exact List.mem_cons_of_mem _ (ih (List.mem_of_ne_of_mem hreturn h))
  | case3 d cs _ _ ih =>
    rcases List.mem_cons.1 h with rfl | h
    · exact List.mem_cons_self
    · exact List.mem_cons_of_mem _ (ih h)
  | case4 => cases h

/-- A text that begins and ends with something else than blanks still does so. -/
theorem Tight.unifyLineEnds (h : Tight isBlank cs) : Tight isBlank (unifyLineEnds cs) where
  first := by
    obtain ⟨c, hc, hblank⟩ := h.first
    obtain ⟨rest, rfl⟩ := List.head?_eq_some_iff.1 hc
    obtain ⟨hreturn, -⟩ := ne_lineEnd hblank
    have hsingle : '\r' ∉ [c] := by simpa using hreturn.symm
    rw [← List.singleton_append, unifyLineEnds_append (.inl (by simpa using hreturn)),
      unifyLineEnds_of_not_mem hsingle]
    exact ⟨c, rfl, hblank⟩
  last := by
    obtain ⟨c, hc, hblank⟩ := h.last
    obtain ⟨front, rfl⟩ := List.getLast?_eq_some_iff.1 hc
    obtain ⟨hreturn, hfeed⟩ := ne_lineEnd hblank
    have hsingle : '\r' ∉ [c] := by simpa using hreturn.symm
    rw [unifyLineEnds_append (.inr (by simpa using hfeed)), unifyLineEnds_of_not_mem hsingle]
    exact ⟨c, List.getLast?_concat, hblank⟩

/-- Trimming and unifying may be exchanged. -/
theorem dropAround_unifyLineEnds (cs : List Char) :
    dropAround isBlank (unifyLineEnds cs) = unifyLineEnds (dropAround isBlank cs) := by
  by_cases hcs : ∀ c ∈ cs, isBlank c = true
  · rw [dropAround_of_forall hcs, dropAround_of_forall (isBlank_unifyLineEnds hcs)]
    rfl
  · have hmem : ∃ c ∈ cs, isBlank c = false := by simpa using hcs
    have htight := tight_dropAround hmem
    obtain ⟨front, back, hsplit, hfront, hback⟩ := exists_dropAround isBlank cs
    -- neither the front nor the back shares a line end with what lies between them
    have hstart : (dropAround isBlank cs ++ back).head? ≠ some '\n' := by
      obtain ⟨c, hc, hblank⟩ := htight.first
      rw [List.head?_append, Option.mem_def.1 hc]
      simpa using (ne_lineEnd hblank).2
    have hend : (dropAround isBlank cs).getLast? ≠ some '\r' := by
      obtain ⟨c, hc, hblank⟩ := htight.last
      rw [Option.mem_def.1 hc]
      simpa using (ne_lineEnd hblank).1
    calc dropAround isBlank (unifyLineEnds cs)
        = dropAround isBlank (unifyLineEnds front ++
            (unifyLineEnds (dropAround isBlank cs) ++ unifyLineEnds back)) := by
          rw [← unifyLineEnds_append (.inl hend), ← unifyLineEnds_append (.inr hstart), ← hsplit]
      _ = unifyLineEnds (dropAround isBlank cs) :=
          htight.unifyLineEnds.dropAround_append (isBlank_unifyLineEnds hfront)
            (isBlank_unifyLineEnds hback)

theorem trim_unifyLineEnds (s : String) :
    trim (String.ofList (unifyLineEnds s.toList)) =
      String.ofList (unifyLineEnds (trim s).toList) := by
  rw [trim, trim, String.toList_ofList, String.toList_ofList, dropAround_unifyLineEnds]

theorem isAllBlank_unifyLineEnds (s : String) :
    isAllBlank (String.ofList (unifyLineEnds s.toList)) = isAllBlank s := by
  rw [Bool.eq_iff_iff, isAllBlank, isAllBlank, String.toList_ofList, List.all_eq_true,
    List.all_eq_true]
  refine ⟨fun h c hc => ?_, isBlank_unifyLineEnds⟩
  by_contra hblank
  have hblank := Bool.eq_false_iff.2 hblank
  cases hblank.symm.trans (h c (mem_unifyLineEnds hblank hc))

end Reckoner.Text
