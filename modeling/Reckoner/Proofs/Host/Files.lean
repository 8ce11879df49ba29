import Mathlib.Data.List.Basic
import Reckoner.Host.Basic

/-!
# What writing a file changes

Whatever stands in a tree of files still stands there after something is put at another place
(`node?_put_of_ne`), and a way through folders stays open as long as these are folders
(`walk_of_isFolder`).  A written file is therefore found again under its path, with the text that
was written (`text?_of_write`).  Folders are made only where nothing stands, so making them hides
nothing (`extends_makeFolders`).

From this follows what saving does: the file of its path holds the saved text or the text that it
held before (`text?_save`), and no other file is touched (`keptBut_save`).
-/

namespace Reckoner

namespace FileTree

variable {tree files : FileTree} {place other : Place} {node found : FileNode} {path text : String}

/-- The text of a file as it is stored; none if the path does not lead to a file with a text. -/
def text? (tree : FileTree) (path : String) : Option String :=
  match tree.at? path with
  | some (.file (.text text)) => some text
  | _ => none

theorem text?_eq_some_iff :
    tree.text? path = some text ↔ tree.at? path = some (.file (.text text)) := by
  unfold text?
  split
  next stored h => simp [h]
  next h =>
    refine ⟨nofun, fun h' => ?_⟩
    exact absurd h' (h text)

/-- A text is read as it is stored, apart from its line ends. -/
theorem read?_of_text? (h : tree.text? path = some text) :
    tree.read? path = some (.text (String.ofList (Text.unifyLineEnds text.toList))) := by
  rw [read?, text?_eq_some_iff.1 h]

theorem node?_put_self (tree : FileTree) (place : Place) (node : FileNode) :
    (tree.put place node).node? place = some node := by
  simp [put, node?]

theorem lookup_filter_ne {entries : List (Place × FileNode)} (hne : other ≠ place) :
    (entries.filter fun (p, _) => p != place).lookup other = entries.lookup other := by
  induction entries with
  | nil => rfl
  | cons entry rest ih =>
    obtain ⟨p, node⟩ := entry
    by_cases hplace : p = place
    · have hother : (other == p) = false := beq_eq_false_iff_ne.2 (hplace ▸ hne)
      rw [List.filter_cons_of_neg (by simp [hplace]), ih, List.lookup_cons, hother]
    · rw [List.filter_cons_of_pos (by simp [hplace]), List.lookup_cons, List.lookup_cons, ih]

/-- Putting something at a place leaves what stands at the others. -/
theorem node?_put_of_ne (hne : other ≠ place) (h : tree.node? other = some found)
    (node : FileNode) : (tree.put place node).node? other = some found := by
  have hlookup : (tree.put place node).entries.lookup other = tree.entries.lookup other := by
    rw [put, List.lookup_cons, beq_eq_false_iff_ne.2 hne]
    exact lookup_filter_ne hne
  unfold node? at h ⊢
  rw [hlookup]
  split at h
  next => exact h
  next =>
    split at h
    next within =>
      -- the place is a folder as the root or because something lies in it
      rw [if_pos ?_]
      · exact h
      rw [Bool.or_eq_true, List.any_eq_true] at within ⊢
      refine within.imp_right fun ⟨entry, hmem, hin⟩ => ?_
      by_cases hplace : entry.1 = place
      · exact ⟨(place, node), List.mem_cons_self, hplace ▸ hin⟩
      · refine ⟨entry, List.mem_cons_of_mem _ (List.mem_filter.2 ⟨hmem, ?_⟩), hin⟩
        exact bne_iff_ne.2 hplace
    next => cases h

/-! ## Walking -/

/-- A tree in which all folders of another one are folders is walked like it. -/
theorem walk_of_isFolder (h : ∀ q, tree.isFolder q = true → files.isFolder q = true)
    {names : List String} {start : Place} (hwalk : tree.walk start names = some place) :
    files.walk start names = some place := by
  induction names generalizing start with
  | nil => exact hwalk
  | cons name rest ih =>
    rw [walk] at hwalk ⊢
    split at hwalk
    next hfolder =>
      rw [if_pos (h start hfolder)]
      exact ih hwalk
    next => cases hwalk

theorem locate?_of_isFolder (hstart : files.start = tree.start)
    (h : ∀ q, tree.isFolder q = true → files.isFolder q = true)
    (hlocate : tree.locate? path = some place) : files.locate? path = some place := by
  unfold locate? at hlocate ⊢
  split at hlocate
  next => cases hlocate
  next hpath =>
    have horigin : files.origin path = tree.origin path := by rw [origin, origin, hstart]
    rw [if_neg hpath, horigin]
    exact walk_of_isFolder h hlocate

/-! ## Writing -/

/-- A file is written at the place that its path leads to, then as before. -/
theorem exists_of_write (h : tree.write path text = some files) :
    ∃ place, files.locate? path = some place ∧ files = tree.put place (.file (.text text)) := by
  unfold write at h
  split at h
  next => cases h
  next place hlocate =>
    have hput : tree.node? place ≠ some .folder ∧
        tree.put place (.file (.text text)) = files := by
      split at h
      next => cases h
      next => cases h
      next hnode _ => exact ⟨hnode, Option.some.inj h⟩
    obtain ⟨hnode, rfl⟩ := hput
    -- every folder on the way is another place than that of the file
    have hfolders : ∀ q, tree.isFolder q = true →
        (tree.put place (.file (.text text))).isFolder q = true := by
      intro q hq
      rw [isFolder, beq_iff_eq] at hq ⊢
      have hne : q ≠ place := by
        rintro rfl
        exact hnode hq
      exact node?_put_of_ne hne hq _
    exact ⟨place, locate?_of_isFolder (show _ = tree.start from rfl) hfolders hlocate, rfl⟩

/-- A written file is found under its path, with the text that was written. -/
theorem text?_of_write (h : tree.write path text = some files) : files.text? path = some text := by
  obtain ⟨place, hlocate, rfl⟩ := exists_of_write h
  rw [text?_eq_some_iff, at?, hlocate]
  exact node?_put_self tree place _

/-- Where nothing can be written there is no file with a text. -/
theorem text?_of_write_eq_none (h : tree.write path text = none) : tree.text? path = none := by
  rw [Option.eq_none_iff_forall_ne_some]
  intro stored hstored
  obtain ⟨place, hlocate, hnode⟩ := Option.bind_eq_some_iff.1 (text?_eq_some_iff.1 hstored)
  rw [write, hlocate] at h
  simp only [hnode] at h
  cases h

/-! ## Making folders -/

/-- One tree holds everything that another one holds, where it stands there. -/
structure Extends (tree files : FileTree) : Prop where
  start : files.start = tree.start
  node? : ∀ {place node}, tree.node? place = some node → files.node? place = some node

theorem Extends.refl (tree : FileTree) : tree.Extends tree where
  start := rfl
  node? h := h

theorem Extends.trans {middle : FileTree} (h : tree.Extends middle) (h' : middle.Extends files) :
    tree.Extends files :=
  ⟨h'.start.trans h.start, fun hnode => h'.node? (h.node? hnode)⟩

theorem extends_put (h : tree.node? place = none) (node : FileNode) :
    tree.Extends (tree.put place node) where
  start := rfl
  node? := by
    intro other found hfound
    refine node?_put_of_ne ?_ hfound node
    rintro rfl
    cases h.symm.trans hfound

theorem Extends.text? (h : tree.Extends files) (htext : tree.text? path = some text) :
    files.text? path = some text := by
  obtain ⟨place, hlocate, hnode⟩ := Option.bind_eq_some_iff.1 (text?_eq_some_iff.1 htext)
  have hfolders : ∀ q, tree.isFolder q = true → files.isFolder q = true := by
    intro q hq
    rw [isFolder, beq_iff_eq] at hq ⊢
    exact h.node? hq
  rw [text?_eq_some_iff, at?, locate?_of_isFolder h.start hfolders hlocate]
  exact h.node? hnode

theorem extends_makeFoldersFrom {names : List String}
    (h : tree.makeFoldersFrom place names = some files) : tree.Extends files := by
  induction names generalizing tree place with
  | nil =>
    rw [makeFoldersFrom] at h
    split at h
    next =>
      cases h
      exact .refl _
    next => cases h
    next hnone =>
      cases h
      exact extends_put hnone _
  | cons name rest ih =>
    rw [makeFoldersFrom] at h
    split at h
    next => exact ih h
    next => cases h
    next hnone => exact (extends_put hnone _).trans (ih h)

theorem extends_makeFolders (h : tree.makeFolders path = some files) : tree.Extends files := by
  unfold makeFolders at h
  split at h
  next => cases h
  next => exact extends_makeFoldersFrom h

end FileTree

namespace FileTree

variable {tree files : FileTree} {place : Place} {path text : String}

/-! ## Files that are not touched -/

/-- What the file at a place holds; none if there is no file. -/
def file? (tree : FileTree) (place : Place) : Option FileContent :=
  match tree.node? place with
  | some (.file content) => some content
  | _ => none

/-- Every file of the one tree is in the other as it was, and there is no other one, except that the
file of a path may hold a text. -/
def KeptBut (tree files : FileTree) (path text : String) : Prop :=
  ∀ place, files.file? place = tree.file? place ∨
    (files.locate? path = some place ∧ files.file? place = some (.text text))

theorem KeptBut.refl (tree : FileTree) (path text : String) : tree.KeptBut tree path text :=
  fun _ => .inl rfl

/-- Files are entries of the tree. -/
theorem file?_eq_lookup (tree : FileTree) (place : Place) :
    tree.file? place =
      match tree.entries.lookup place with
      | some (.file content) => some content
      | _ => none := by
  rw [file?, node?]
  cases tree.entries.lookup place with
  | some node => rfl
  | none =>
    -- what is no entry is a folder, if it is anything
    dsimp only
    split
    next hfile =>
      split at hfile <;> cases hfile
    next => rfl

theorem file?_put_of_ne {other : Place} (hne : other ≠ place) (node : FileNode) :
    (tree.put place node).file? other = tree.file? other := by
  rw [file?_eq_lookup, file?_eq_lookup, put, List.lookup_cons, beq_eq_false_iff_ne.2 hne]
  simp only
  rw [lookup_filter_ne hne]

theorem file?_put_self (tree : FileTree) (place : Place) (content : FileContent) :
    (tree.put place (.file content)).file? place = some content := by
  rw [file?, node?_put_self]

theorem file?_put_folder (h : tree.node? place = none) (other : Place) :
    (tree.put place .folder).file? other = tree.file? other := by
  by_cases hne : other = place
  · subst hne
    rw [file?, file?, node?_put_self, h]
  · exact file?_put_of_ne hne _

/-- Making folders touches no file. -/
theorem file?_makeFoldersFrom {names : List String}
    (h : tree.makeFoldersFrom place names = some files) (other : Place) :
    files.file? other = tree.file? other := by
  induction names generalizing tree place with
  | nil =>
    rw [makeFoldersFrom] at h
    split at h
    next =>
      cases h
      rfl
    next => cases h
    next hnone =>
      cases h
      exact file?_put_folder hnone other
  | cons name rest ih =>
    rw [makeFoldersFrom] at h
    split at h
    next => exact ih h
    next => cases h
    next hnone => exact (ih h).trans (file?_put_folder hnone other)

theorem file?_makeFolders (h : tree.makeFolders path = some files) (other : Place) :
    files.file? other = tree.file? other := by
  unfold makeFolders at h
  split at h
  next => cases h
  next => exact file?_makeFoldersFrom h other

/-- Writing touches no other file. -/
theorem keptBut_write (h : tree.write path text = some files) : tree.KeptBut files path text := by
  obtain ⟨place, hlocate, hfiles⟩ := exists_of_write h
  intro other
  by_cases hne : other = place
  · subst hne
    exact .inr ⟨hlocate, hfiles ▸ file?_put_self tree other _⟩
  · exact .inl (hfiles ▸ file?_put_of_ne hne _)

end FileTree

/-! ## Saving -/

/-- Files are saved in a tree of the same files with more folders. -/
theorem Host.save_cases (host : Host) (path text : String) :
    (host.save path text).files = host.files ∨
      ∃ files, host.files.Extends files ∧ (∀ place, files.file? place = host.files.file? place) ∧
        (host.save path text).files = (files.write path text).getD files := by
  simp only [save]
  split
  next => exact .inl rfl
  next files hfolders =>
    refine .inr ⟨files, ?_⟩
    split at hfolders
    next =>
      cases hfolders
      exact ⟨.refl _, fun _ => rfl, rfl⟩
    next =>
      exact ⟨FileTree.extends_makeFolders hfolders, FileTree.file?_makeFolders hfolders, rfl⟩


/-- After saving, the file of the path holds the text, or it is as it was: still without a text if
it had none, and still with the same text otherwise. -/
theorem Host.text?_save (host : Host) (path text : String) :
    (host.save path text).files.text? path = some text ∨
      (host.save path text).files.text? path = host.files.text? path := by
  rcases host.save_cases path text with hsame | ⟨files, hextends, -, hfiles⟩
  · exact .inr (by rw [hsame])
  rw [hfiles]
  cases hwrite : files.write path text with
  | some written => exact .inl (FileTree.text?_of_write hwrite)
  | none =>
    -- a text that was there before would still be there, and could be overwritten
    have hnone := FileTree.text?_of_write_eq_none hwrite
    refine .inr (hnone.trans (Eq.symm ?_))
    rw [Option.eq_none_iff_forall_ne_some]
    intro stored hstored
    cases hnone.symm.trans (hextends.text? hstored)

/-- Saving touches no file but that of its path. -/
theorem Host.keptBut_save (host : Host) (path text : String) :
    host.files.KeptBut (host.save path text).files path text := by
  rcases host.save_cases path text with hsame | ⟨files, -, hfile, hfiles⟩
  · rw [hsame]
    exact .refl _ _ _
  rw [hfiles]
  cases hwrite : files.write path text with
  | none => exact fun place => .inl (hfile place)
  | some written =>
    exact fun place => (FileTree.keptBut_write hwrite place).imp_left fun h => h.trans (hfile place)

end Reckoner
