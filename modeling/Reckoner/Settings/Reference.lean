import Reckoner.Settings.Store

/-!
# References in settings

The text of a setting may refer to other keys: `%(key)s` stands for the value of the key in the same
block, and a doubled per cent sign for a single one.  A value found in this way may refer further,
through at most ten texts.  A per cent sign that begins neither of the two is refused, when the text
is stored as well as when it is looked up.
-/

namespace Reckoner.Settings

/-- A part of a text with references. -/
inductive Part where
  /-- A character that stands for itself. -/
  | plain (c : Char)
  /-- The value of a key. -/
  | reference (key : String)
  /-- A per cent sign that begins nothing; nothing is made of what follows it. -/
  | broken
  deriving DecidableEq, Repr

namespace Part

/-- The key of a reference, after its opening bracket, and what follows the reference. -/
def key? (cs : List Char) : Option (List Char × List Char) :=
  let key := cs.takeWhile (· != ')')
  match cs.drop key.length with
  | ')' :: 's' :: rest => if key.isEmpty then none else some (key, rest)
  | _ => none

theorem key?_length {cs key rest : List Char} (h : key? cs = some (key, rest)) :
    rest.length < cs.length := by
  unfold key? at h
  dsimp only at h
  split at h
  · rename_i tail heq
    split at h
    · cases h
    · simp only [Option.some.injEq, Prod.mk.injEq] at h
      have := congrArg List.length heq
      simp only [List.length_drop, List.length_cons] at this
      rw [← h.2]
      omega
  · cases h

/-- The parts of a text. -/
def ofChars : List Char → List Part
  | [] => []
  | '%' :: '%' :: rest => plain '%' :: ofChars rest
  | '%' :: '(' :: rest =>
    match _h : key? rest with
    | some (key, after) => reference (String.ofList key) :: ofChars after
    | none => [broken]
  | '%' :: _ => [broken]
  | c :: rest => plain c :: ofChars rest
termination_by cs => cs.length
decreasing_by
  · simp only [List.length_cons]; omega
  · have := key?_length _h
    simp only [List.length_cons]
    omega
  · simp

end Part

namespace Reference

/-- Through how many texts a value may be found. -/
def depthLimit : Nat := 10

/-- The text that parts stand for.  References are followed through as many texts as the limit
allows. -/
def resolve (value? : String → Option String) : Nat → List Part → Except SettingsFault (List Char)
  | 0, _ => .error .deepReference
  | limit + 1, parts => do
    let texts ← parts.mapM fun part =>
      match part with
      | .plain c => .ok [c]
      | .broken => .error .badReference
      | .reference key =>
        match value? (Text.lower key) with
        | none => .error .danglingReference
        | some text =>
          if text.toList.contains '%' then resolve value? limit (Part.ofChars text.toList)
          else .ok text.toList
    pure texts.flatten

/-- The value of a text whose references are answered by `value?`. -/
def fill (value? : String → Option String) (text : String) : Except SettingsFault String := do
  pure (String.ofList (← resolve value? depthLimit (Part.ofChars text.toList)))

/-! ## Texts to be stored -/

/-- A text without its doubled per cent signs. -/
def dropDoubled : List Char → List Char
  | '%' :: '%' :: rest => dropDoubled rest
  | c :: rest => c :: dropDoubled rest
  | [] => []

/-- A text without its references. -/
def dropReferences : List Char → List Char
  | [] => []
  | '%' :: '(' :: rest =>
    match _h : Part.key? rest with
    | some (_, after) => dropReferences after
    | none => '%' :: dropReferences ('(' :: rest)
  | c :: rest => c :: dropReferences rest
termination_by cs => cs.length
decreasing_by
  · have := Part.key?_length _h
    simp only [List.length_cons]
    omega
  · simp
  · simp

/-- A text that may be stored: with doubled signs and references taken out, no per cent sign is
left.  The refusal tells where in what is left the first one stands. -/
def check (text : String) : Except SettingsFault Unit :=
  match (dropReferences (dropDoubled text.toList)).idxOf? '%' with
  | some position => .error (.badPercent text position)
  | none => .ok ()

end Reference

/-- The value of a key in a block, with references filled in. -/
def Store.value? (store : Store) (name key : String) : Except SettingsFault (Option String) := do
  match ← store.written? name key with
  | none => pure none
  | some text => do
    let own ← store.block name
    pure (some (← Reference.fill (fun k => (own.value? k).or (store.base.value? k)) text))

/-- Sets a key of a block to a text whose references are well formed. -/
def Store.set (store : Store) (name key text : String) : Except SettingsFault Store := do
  Reference.check text
  store.enter name key text

end Reckoner.Settings
