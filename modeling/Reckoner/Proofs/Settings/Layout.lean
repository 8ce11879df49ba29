import Reckoner.Proofs.Settings.Store
import Reckoner.Settings.Layout

/-!
# What a settings file gives

A line of a settings file begins a block, sets a key in the block that is being read, or does
neither; `Draft.Takes` keeps the three apart.  From it follows that no block bears an empty name or
that of the base, that all keys are in lower case, and that nothing is inherited from a base that no
line begins.  So a plain file answers for each of its blocks with what the block sets itself.  All
of this holds of what is read in front of a line that is refused, too.
-/

namespace Reckoner.Settings

open Text

namespace Draft

variable {d d' : Draft} {line : List Char}

/-- What a line that is taken in does to the blocks. -/
inductive Takes (line : List Char) (d d' : Draft) : Prop where
  /-- It sets no key. -/
  | nothing (store : d'.store = d.store) (heading : d'.heading = d.heading)
      (entries : d'.entries.names = d.entries.names)
  /-- It sets a key. -/
  | setting (name : String) (store : d'.store = d.store) (heading : d'.heading = d.heading)
      (entries : d'.entries.names = lower name :: d.entries.names)
  /-- It begins a block. -/
  | block (name : String) (named : headingName? (dropAround isBlank line) = some name)
      (store : d'.store = d.close) (heading : d'.heading = some name)
      (entries : d'.entries = if name = Store.baseName then d.close.base.reverse else [])

theorem continueWith_takes (d : Draft) (line body : List Char) :
    Takes line d (d.continueWith body) := by
  unfold continueWith
  split
  next eq => exact .nothing rfl rfl (by rw [eq]; rfl)
  next => exact .nothing rfl rfl rfl

theorem begin_takes {indent : Nat}
    (h : { d with indent := indent }.begin (dropAround isBlank line) = .ok d') :
    Takes line d d' := by
  unfold begin at h
  split at h
  next name named =>
    unfold openBlock at h
    dsimp only at h
    split at h
    next => cases h
    next =>
      cases h
      exact .block name named rfl rfl rfl
  next =>
    split at h
    next => cases h
    next =>
      split at h
      next =>
        cases h
        exact .nothing rfl rfl rfl
      next name text _ =>
        dsimp only at h
        split at h
        next => cases h
        next =>
          cases h
          exact .setting (String.ofList name) rfl rfl rfl

theorem read_takes (h : d.read line = .ok d') : Takes line d d' := by
  unfold read at h
  dsimp only at h
  split at h
  next =>
    cases h
    exact .nothing rfl rfl rfl
  next =>
    split at h
    next =>
      cases h
      split
      next => exact continueWith_takes d line []
      next => exact .nothing rfl rfl rfl
    next =>
      split at h
      next =>
        cases h
        exact continueWith_takes d line _
      next => exact begin_takes h

/-- What holds at the start and is kept by every line holds where the reading ends. -/
theorem readLines_keeps {P : Draft → Prop} {lines : List (List Char)} (start : P d)
    (keep : ∀ line ∈ lines, ∀ d d', P d → Takes line d d' → P d') :
    P (d.readLines lines).1 := by
  induction lines generalizing d with
  | nil => exact start
  | cons line rest ih =>
    unfold readLines
    split
    next next eq =>
      have := keep line (.head _) d next start (read_takes eq)
      exact ih this fun line hline => keep line (.tail _ hline)
    next => exact start

/-- The reading ends at a line if those in front of it have been taken in and it is refused. -/
theorem readLines_eq_error_iff {lines : List (List Char)} {e : SettingsFault} :
    d.readLines lines = (d', some e) ↔ ∃ before line after, lines = before ++ line :: after ∧
      d.readLines before = (d', none) ∧ d'.read line = .error e := by
  constructor
  · intro h
    induction lines generalizing d with
    | nil => cases h
    | cons line rest ih =>
      unfold readLines at h
      split at h
      next next taken =>
        obtain ⟨before, refused, after, rfl, front, fault⟩ := ih h
        refine ⟨line :: before, refused, after, rfl, ?_, fault⟩
        rw [readLines, taken]
        exact front
      next fault =>
        cases h
        exact ⟨[], line, rest, rfl, rfl, fault⟩
  · rintro ⟨before, line, after, rfl, front, fault⟩
    induction before generalizing d with
    | nil =>
      cases front
      rw [List.nil_append, readLines, fault]
    | cons first rest ih =>
      rw [List.cons_append]
      unfold readLines at front ⊢
      split at front
      next taken => exact ih front
      next => cases front

theorem headingName?_ne_empty {name : String} (h : headingName? line = some name) : name ≠ "" := by
  rintro rfl
  unfold headingName? at h
  split at h
  next =>
    split at h
    next => cases h
    next filled => exact filled (by simpa using congrArg String.toList (Option.some.inj h))
  next => cases h

end Draft

/-! ## Tidy stores -/

/-- All keys are in lower case. -/
def Lowered (entries : Entries String) : Prop := ∀ key ∈ entries.names, lower key = key

/-- The blocks bear names of their own, and all keys are in lower case. -/
structure Store.Tidy (store : Store) : Prop where
  named : ∀ name own, store.blocks.value? name = some own → name ≠ "" ∧ name ≠ baseName
  base : Lowered store.base
  blocks : ∀ name own, store.blocks.value? name = some own → Lowered own

theorem Store.Tidy.put {store : Store} (h : store.Tidy) {name : String} {entries : Entries String}
    (filled : name ≠ "") (lowered : Lowered entries) : (store.put name entries).Tidy := by
  unfold Store.put
  split
  next => exact { h with base := lowered }
  next other =>
    refine ⟨fun key own eq => ?_, h.base, fun key own eq => ?_⟩
    all_goals
      simp only at eq
      rw [Entries.value?_enter] at eq
      split at eq
    next same => exact same ▸ ⟨filled, other⟩
    next => exact h.named key own eq
    next => exact Option.some.inj eq ▸ lowered
    next => exact h.blocks key own eq

namespace Draft

/-- What has been read is tidy. -/
structure Tidy (d : Draft) : Prop where
  store : d.store.Tidy
  heading : d.heading ≠ some ""
  entries : Lowered d.entries

variable {d d' : Draft} {line : List Char}

theorem Tidy.close (h : d.Tidy) : d.close.Tidy := by
  unfold Draft.close
  split
  next => exact h.store
  next name eq =>
    refine h.store.put (fun empty => h.heading (empty ▸ eq)) fun key hkey => h.entries key ?_
    simpa [Entries.names] using hkey

theorem Tidy.takes (h : d.Tidy) (step : Takes line d d') : d'.Tidy := by
  cases step with
  | nothing store heading entries =>
    refine ⟨store ▸ h.store, heading ▸ h.heading, ?_⟩
    rw [Lowered, entries]
    exact h.entries
  | setting name store heading entries =>
    refine ⟨store ▸ h.store, heading ▸ h.heading, ?_⟩
    rw [Lowered, entries]
    exact List.forall_mem_cons.2 ⟨lower_lower name, h.entries⟩
  | block name named store heading entries =>
    refine ⟨store ▸ h.close, ?_, ?_⟩
    · rw [heading]
      exact fun eq => headingName?_ne_empty named (Option.some.inj eq)
    · rw [entries]
      split
      next =>
        intro key hkey
        exact h.close.base key (by simpa [Entries.names] using hkey)
      next => exact fun key hkey => absurd hkey List.not_mem_nil

theorem tidy_start : start.Tidy where
  store := ⟨nofun, nofun, nofun⟩
  heading := by decide
  entries := nofun

end Draft

/-! ## The settings in a file -/

/-- The lines of a file that are read. -/
def linesOf : FileContent → List (List Char)
  | .text s => lines s
  | .garbled front => lines front
  | .sealed => []

/-- What is wrong with a file all of whose lines have been taken in: some of them are of no use, or
bytes that are no text follow. -/
def endFault? : FileContent → Draft → Option SettingsFault
  | .text _, d => if d.faulty then some .badLine else none
  | .garbled _, _ => some .undecodable
  | .sealed, _ => none

theorem Store.ofFile_eq {content : FileContent} {d : Draft} {fault : Option SettingsFault}
    (h : Draft.start.readLines (linesOf content) = (d, fault)) :
    ofFile content = (d.close, fault.or (endFault? content d)) := by
  cases content with
  | text s => rw [ofFile, read, show Draft.start.readLines (lines s) = _ from h, endFault?]
  | garbled front => rw [ofFile, show Draft.start.readLines (lines front) = _ from h, endFault?]
  | sealed =>
    cases h
    rfl

/-- Why a file is refused, and the settings that are left of it. -/
inductive Store.Refused (content : FileContent) : Store → SettingsFault → Prop where
  /-- A line is refused.  The settings in front of it are left, whatever follows it. -/
  | line {before after : List (List Char)} {line : List Char} {d : Draft} {e : SettingsFault} :
    linesOf content = before ++ line :: after → Draft.start.readLines before = (d, none) →
    d.read line = .error e → Refused content d.close e
  /-- There is a fault at the end.  The settings in all lines are left. -/
  | ending {d : Draft} {e : SettingsFault} :
    Draft.start.readLines (linesOf content) = (d, none) → endFault? content d = some e →
    Refused content d.close e

/-- A file is refused in one of the ways, and what has been read by then is left. -/
theorem Store.ofFile_eq_some_iff {content : FileContent} {store : Store} {e : SettingsFault} :
    ofFile content = (store, some e) ↔ Refused content store e := by
  constructor
  · intro h
    rcases hread : Draft.start.readLines (linesOf content) with ⟨d, _ | f⟩
    · rw [ofFile_eq hread, Option.none_or, Prod.mk.injEq] at h
      obtain ⟨rfl, fault⟩ := h
      exact .ending hread fault
    · rw [ofFile_eq hread, Option.some_or, Prod.mk.injEq, Option.some.injEq] at h
      obtain ⟨rfl, rfl⟩ := h
      obtain ⟨before, line, after, hlines, front, refused⟩ := Draft.readLines_eq_error_iff.1 hread
      exact .line hlines front refused
  · rintro (⟨hlines, front, refused⟩ | ⟨hread, fault⟩)
    · exact ofFile_eq (Draft.readLines_eq_error_iff.2 ⟨_, _, _, hlines, front, refused⟩)
    · rw [ofFile_eq hread, fault, Option.none_or]

/-- Wherever the reading ends, the settings read by then are those of the file. -/
theorem Store.ofFile_fst (content : FileContent) :
    (ofFile content).1 = (Draft.start.readLines (linesOf content)).1.close := by
  rw [ofFile_eq rfl]

/-- The settings in a file are tidy. -/
theorem Store.tidy_ofFile (content : FileContent) : (ofFile content).1.Tidy := by
  rw [ofFile_fst]
  exact (Draft.readLines_keeps Draft.tidy_start fun _ _ _ _ tidy step => tidy.takes step).close

/-- Nothing is inherited unless a line begins the base. -/
theorem Store.base_ofFile {content : FileContent}
    (unnamed : ∀ line ∈ linesOf content,
      Draft.headingName? (dropAround isBlank line) ≠ some baseName) :
    (ofFile content).1.base = [] := by
  rw [ofFile_fst]
  have kept {d : Draft} (h : d.store.base = [] ∧ d.heading ≠ some baseName) :
      d.close.base = [] := by
    unfold Draft.close
    split
    next => exact h.1
    next name eq =>
      have other : name ≠ baseName := by
        rintro rfl
        exact h.2 eq
      rw [Store.put, if_neg other]
      exact h.1
  refine kept (Draft.readLines_keeps
    (P := fun d => d.store.base = [] ∧ d.heading ≠ some baseName) ⟨rfl, by decide⟩ ?_)
  intro line hline d d' h step
  cases step with
  | nothing store heading => exact ⟨store ▸ h.1, heading ▸ h.2⟩
  | setting _ store heading => exact ⟨store ▸ h.1, heading ▸ h.2⟩
  | block name named store heading =>
    refine ⟨store ▸ kept h, ?_⟩
    rw [heading, ← named]
    exact unnamed line hline

/-! ## Plain files -/

/-- What a file sets for a key in a block, as far as it can be read. -/
def written? (content : FileContent) (name key : String) : Option String :=
  ((Store.ofFile content).1.blocks.value? name).bind (·.value? key)

/-- The settings in a file inherit nothing and refer to nothing. -/
structure PlainFile (content : FileContent) : Prop where
  base : (Store.ofFile content).1.base = []
  plain : ∀ name key value, written? content name key = some value → PlainText value

theorem PlainFile.of_store {content : FileContent} {store : Store}
    (read : (Store.ofFile content).1 = store) (base : store.base = [])
    (plain : ∀ block ∈ store.blocks, ∀ entry ∈ block.2, PlainText entry.2) : PlainFile content where
  base := by rw [read, base]
  plain name key value h := by
    rw [written?, read] at h
    obtain ⟨own, found, set⟩ := Option.bind_eq_some_iff.1 h
    exact plain _ (Entries.mem_of_value? found) _ (Entries.mem_of_value? set)

/-- A file in which no line begins the base inherits nothing. -/
theorem PlainFile.of_unnamed {content : FileContent}
    (unnamed : ∀ line ∈ linesOf content,
      Draft.headingName? (dropAround isBlank line) ≠ some Store.baseName)
    (plain : ∀ name key value, written? content name key = some value → PlainText value) :
    PlainFile content :=
  ⟨Store.base_ofFile unnamed, plain⟩

/-- A plain file answers for each of its blocks with what the block sets. -/
theorem PlainFile.answers {content : FileContent} {name : String} (h : PlainFile content)
    (has : (Store.ofFile content).1.blocks.has name = true) :
    (Store.ofFile content).1.Answers name (written? content name) := by
  obtain ⟨own, found⟩ := Option.isSome_iff_exists.1 has
  have tidy := Store.tidy_ofFile content
  have eq : written? content name = own.value? := by
    funext key
    exact congrArg (·.bind (·.value? key)) found
  refine ⟨tidy.named name own found, h.base, ⟨own, found, eq.symm⟩, h.plain name, ?_⟩
  intro key value hvalue
  refine tidy.blocks name own found key ?_
  rw [← List.contains_iff_mem, Entries.contains_names, Entries.has, ← eq, hvalue,
    Option.isSome_some]

end Reckoner.Settings
