import Mathlib.Logic.Function.Basic
import Reckoner.Proofs.Text.Case
import Reckoner.Settings.Reference

/-!
# The answers of a block

A text without a per cent sign holds no reference: it may be stored and stands for itself.  In a
store whose base is empty and in which a block sets such texts only, `Store.Answers` says what the
block answers for every key.  Listing the keys and looking them up agree with it, and setting a key
changes the answer for that key of that block and no other.
-/

namespace Reckoner

theorem Entries.contains_names {α : Type} (entries : Entries α) (name : String) :
    entries.names.contains name = entries.has name := by
  unfold Entries.has
  induction entries with
  | nil => rfl
  | cons entry rest ih =>
    rw [names, List.map_cons, List.contains_cons, ← names, ih, value?_cons]
    by_cases h : name = entry.1
    · simp [h]
    · simp [h]

theorem Entries.mem_of_value? {α : Type} {entries : Entries α} {name : String} {a : α}
    (h : entries.value? name = some a) : (name, a) ∈ entries := by
  induction entries with
  | nil => cases h
  | cons entry rest ih =>
    rw [value?_cons] at h
    split at h
    next same =>
      cases h
      exact same ▸ .head _
    next => exact .tail _ (ih h)

namespace Settings

open Text

/-! ## Texts without references -/

/-- The text has no per cent sign. -/
def PlainText (text : String) : Prop := '%' ∉ text.toList

instance : DecidablePred PlainText := fun _ => inferInstanceAs (Decidable (¬_))

namespace Reference

variable {cs : List Char} {text : String}

theorem dropDoubled_plain (h : '%' ∉ cs) : dropDoubled cs = cs := by
  induction cs with
  | nil => rfl
  | cons c rest ih =>
    obtain ⟨hc, hrest⟩ := List.ne_and_not_mem_of_not_mem_cons h
    rw [dropDoubled, ih hrest]
    exact fun _ eq _ => hc eq.symm

theorem dropReferences_plain (h : '%' ∉ cs) : dropReferences cs = cs := by
  induction cs with
  | nil => rw [dropReferences]
  | cons c rest ih =>
    obtain ⟨hc, hrest⟩ := List.ne_and_not_mem_of_not_mem_cons h
    rw [dropReferences, ih hrest]
    exact fun _ eq _ => hc eq.symm

/-- A text without a per cent sign may be stored. -/
theorem check_plain (h : PlainText text) : check text = .ok () := by
  rw [check, dropDoubled_plain h, dropReferences_plain h, List.idxOf?_eq_none_iff.2 h]

theorem ofChars_plain (h : '%' ∉ cs) : Part.ofChars cs = cs.map .plain := by
  induction cs with
  | nil => rw [Part.ofChars, List.map_nil]
  | cons c rest ih =>
    obtain ⟨hc, hrest⟩ := List.ne_and_not_mem_of_not_mem_cons h
    rw [Part.ofChars, ih hrest, List.map_cons]
    · exact fun _ eq _ => hc eq.symm
    · exact fun _ eq _ => hc eq.symm
    · exact fun eq => hc eq.symm

theorem resolve_plain (value? : String → Option String) (cs : List Char) :
    resolve value? depthLimit (cs.map .plain) = .ok cs := by
  have each : (cs.mapM fun c => (.ok [c] : Except SettingsFault (List Char))) =
      .ok (cs.map ([·])) := List.mapM_pure
  rw [depthLimit, resolve, List.mapM_map]
  refine (congrArg (· >>= fun texts => pure texts.flatten) each).trans ?_
  exact congrArg Except.ok ((List.flatMap_def ..).symm.trans (List.flatMap_singleton' cs))

/-- A text without a per cent sign stands for itself. -/
theorem fill_plain (value? : String → Option String) (h : PlainText text) :
    fill value? text = .ok text := by
  rw [fill, ofChars_plain h, resolve_plain]
  exact congrArg Except.ok String.ofList_toList

end Reference

/-! ## Answers -/

/-- The block of a name sets plain texts under keys in lower case, and nothing else is inherited:
the store answers for it as `answer` says. -/
structure Store.Answers (store : Store) (name : String) (answer : String → Option String) :
    Prop where
  /-- The name stands for the block itself and not for the base. -/
  named : name ≠ "" ∧ name ≠ baseName
  base : store.base = []
  block : ∃ own, store.blocks.value? name = some own ∧ own.value? = answer
  plain : ∀ key text, answer key = some text → PlainText text
  lowered : ∀ key text, answer key = some text → lower key = key

namespace Store.Answers

variable {store : Store} {name other key text : String} {answer answer' : String → Option String}

theorem exists_block (h : store.Answers name answer) :
    ∃ own, store.block name = .ok own ∧ own.value? = answer := by
  obtain ⟨own, found, eq⟩ := h.block
  exact ⟨own, by rw [Store.block, found], eq⟩

theorem unique (h : store.Answers name answer) (h' : store.Answers name answer') :
    answer = answer' := by
  obtain ⟨own, found, rfl⟩ := h.block
  obtain ⟨own', found', rfl⟩ := h'.block
  rw [found] at found'
  cases found'
  rfl

/-- The keys that are listed are those with an answer. -/
theorem keys (h : store.Answers name answer) :
    ∃ keys, store.keys name = .ok keys ∧ ∀ key, keys.contains key = (answer key).isSome := by
  obtain ⟨own, found, rfl⟩ := h.exists_block
  refine ⟨own.names, ?_, own.contains_names⟩
  rw [Store.keys, found, h.base]
  exact congrArg Except.ok (List.append_nil _)

theorem written? (h : store.Answers name answer) (key : String) :
    store.written? name key = .ok (answer key) := by
  obtain ⟨own, found, rfl⟩ := h.exists_block
  rw [Store.written?, found, h.base]
  exact congrArg Except.ok (Option.or_none)

theorem value? (h : store.Answers name answer) (key : String) :
    store.value? name key = .ok (answer key) := by
  rw [Store.value?, h.written?]
  obtain ⟨own, found, -⟩ := h.exists_block
  cases eq : answer key with
  | none => rfl
  | some text =>
    rw [found]
    have filled := Reference.fill_plain (fun k => (own.value? k).or (store.base.value? k))
      (h.plain key text eq)
    exact congrArg (· >>= fun text => pure (some text)) filled

/-- Entering a plain text changes the answer for its key. -/
theorem entered {own : Entries String} (h : store.Answers name own.value?) (key : String)
    (plain : PlainText text) :
    Answers { store with blocks := store.blocks.enter name (own.enter (lower key) text) } name
      (Function.update own.value? (lower key) (some text)) where
  named := h.named
  base := h.base
  block := by
    refine ⟨own.enter (lower key) text, ?_, ?_⟩
    · rw [Entries.value?_enter, if_pos rfl]
    · funext other
      rw [Entries.value?_enter, Function.update_apply]
  plain := by
    intro other text' eq
    rw [Function.update_apply] at eq
    split at eq
    next =>
      cases eq
      exact plain
    next => exact h.plain other text' eq
  lowered := by
    intro other text' eq
    rw [Function.update_apply] at eq
    split at eq
    next same => rw [same, lower_lower]
    next => exact h.lowered other text' eq

/-- What is entered in one block changes nothing in another. -/
theorem entered_elsewhere (h : store.Answers other answer) (different : other ≠ name)
    (entries : Entries String) :
    Answers { store with blocks := store.blocks.enter name entries } other answer := by
  obtain ⟨own, eq, agree⟩ := h.block
  refine { h with block := ⟨own, ?_, agree⟩ }
  rwa [Entries.value?_enter, if_neg different]

/-- Setting a key changes the answer for it and for no other, and no other block. -/
theorem set (h : store.Answers name answer) (key : String) (plain : PlainText text) :
    ∃ store', store.set name key text = .ok store' ∧
      store'.Answers name (Function.update answer (lower key) (some text)) ∧
      ∀ other answer', other ≠ name → store.Answers other answer' →
        store'.Answers other answer' := by
  obtain ⟨own, found, rfl⟩ := h.exists_block
  have unnamed : ¬(name = "" || name = baseName) := by simp [h.named]
  refine ⟨_, ?_, h.entered key plain, fun other _ different answers =>
    answers.entered_elsewhere different _⟩
  rw [Store.set, Reference.check_plain plain]
  show store.enter name key text = _
  rw [Store.enter, if_neg unnamed, found]
  rfl

end Store.Answers

end Settings

end Reckoner
