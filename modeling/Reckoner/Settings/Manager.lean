import Reckoner.Host.Basic
import Reckoner.Settings.Layout
import Reckoner.Settings.Reference
import Reckoner.Settings.Value
import Reckoner.Text.Banner

/-!
# The manager of settings

A manager reads the settings file at its path and answers for one block of it.  Every block but the
home block takes over what the home block sets and it does not.  Then the overrides are set.  Keys
that name the file and the block themselves are not open to overrides.
-/

namespace Reckoner.Settings

open Text

/-- How much a manager says. -/
structure Voice where
  /-- It says what it does. -/
  debug : Bool
  /-- It says which keys it takes over. -/
  verbose : Bool
  /-- It does not say what it reads and overrides. -/
  silent : Bool
  deriving DecidableEq, Repr

/-- A manager of settings. -/
structure Manager where
  path : String
  block : String
  store : Store
  voice : Voice
  deriving DecidableEq, Repr

/-- Values that take the place of what the file says. -/
abbrev Overrides := List (String × Value)

/-- A step of a manager that may print and may fail.  What it has changed before it fails stays
changed. -/
abbrev Step := ExceptT SettingsFault (StateM (Manager × String))

/-- The block that the others take over from. -/
def homeBlock : String := "default"

namespace Step

/-- Prints a text. -/
def say (text : String) : Step Unit := modify fun (m, printed) => (m, printed ++ text)

/-- Prints a text if a condition holds. -/
def sayIf (condition : Bool) (text : String) : Step Unit := if condition then say text else pure ()

/-- The manager as it is now. -/
def manager : Step Manager := do pure (← get).1

/-- The store of the manager as it is now. -/
def store : Step Store := do pure (← get).1.store

/-- Gives the manager another store. -/
def setStore (store : Store) : Step Unit :=
  modify fun (m, printed) => ({ m with store := store }, printed)

/-- Fails with a fault, if there is one. -/
def failIf : Option SettingsFault → Step Unit
  | some fault => throw fault
  | none => pure ()

/-- A result that changes nothing. -/
def ofExcept {α : Type} (result : Except SettingsFault α) : Step α := ExceptT.mk (pure result)

/-- Runs a step on a manager: its result, the manager after it and what was printed. -/
def start {α : Type} (step : Step α) (m : Manager) :
    Except SettingsFault α × Manager × String :=
  step.run (m, "")

end Step

namespace Manager

/-! ## Reading and setting -/

/-- The text of a key; the key may be in any case. -/
def lookup (m : Manager) (key : String) : Except SettingsFault (Option String) := do
  let keys ← m.store.keys m.block
  if keys.contains (lower key) then m.store.value? m.block (lower key) else pure none

/-- The block sets or inherits a key. -/
def exists? (m : Manager) (key : String) : Except SettingsFault Bool := do
  let keys ← m.store.keys m.block
  pure (keys.contains (lower key))

/-- Notes that a key is not set, and what is given instead. -/
def noteAbsent (key : String) : Option Value → Step Unit
  | some v => do
    let text ← Step.ofExcept v.write
    Step.say (Banner.plain s!"Key [{key}] NOT found, returning default [{text}]").text
  | none => Step.say { Banner.plain s!"Key [{key}] NOT found" with spaced := true }.text

/-- The text that stands for the absence of a value to be given instead. -/
def noDefault : Value := .text "@@@_None_@@@"

/-- The value of a key as one of a kind.  If it is not set, the value given instead is converted, or
there is nothing when none is given. -/
def get (key : String) (instead : Value) (silent : Bool) (kind : String) : Step Value := do
  match ← Step.ofExcept ((← Step.manager).lookup key) with
  | some text => Step.ofExcept (do (Value.text text).as (← Kind.find? kind))
  | none =>
    if instead = noDefault then
      if !silent then noteAbsent key none
      pure .nothing
    else
      if !silent then noteAbsent key (some instead)
      Step.ofExcept (do instead.as (← Kind.find? kind))

/-- Sets a key of the block. -/
def set (key : String) (value : Value) : Step Unit := do
  let m ← Step.manager
  let text ← Step.ofExcept value.write
  Step.setStore (← Step.ofExcept (m.store.set m.block key text))

/-! ## Loading -/

/-- The block is in the file. -/
def requireBlock (name : String) : Step Unit := do
  if (← Step.store).blocks.has name then pure () else throw (.unknownBlock name)

/-- Takes over a key of the home block. -/
def inherit (key : String) : Step Unit := do
  let m ← Step.manager
  let say := m.voice.debug && m.voice.verbose
  if say then
    let shown := (← Step.ofExcept (m.store.value? homeBlock key)).getD ""
    Step.say s!"Inserting default key [{key}] = [{shown}] into [{m.block}]\n"
  let text := (← Step.ofExcept (m.store.written? homeBlock key)).getD ""
  Step.setStore (← Step.ofExcept (m.store.set m.block key text))

/-- Takes over what the home block sets and the block does not. -/
def inheritAll : Step Unit := do
  let m ← Step.manager
  if m.block = homeBlock then pure ()
  else do
    let own ← Step.ofExcept (m.store.keys m.block)
    for key in ← Step.ofExcept (m.store.keys homeBlock) do
      if own.contains key then pure () else inherit key

/-- A key that names the file or the block itself. -/
def isFixedKey (key : String) : Bool := key == "config_path" || key == "config_block_id"

/-- Sets an override. -/
def overrideKey (key : String) (value : Value) : Step Unit := do
  let silent := (← Step.manager).voice.silent
  if isFixedKey key then Step.sayIf (!silent) s!"Skipping override of [{key}], it's immutable\n"
  else do
    let text ← Step.ofExcept value.write
    Step.sayIf (!silent) s!"Overriding [{key}] with [{text}]\n"
    set key value

/-- Sets the overrides in order. -/
def overrideAll (overrides : Overrides) : Step Unit := do
  if overrides.isEmpty then
    Step.sayIf (← Step.manager).voice.debug "Skipping cli_args processing\n"
  else
    for (key, value) in overrides do
      overrideKey key value

/-- Reads the settings file, for another block if one is named, and sets the overrides. -/
def load (files : FileTree) (block : Option String) (overrides : Overrides) : Step Unit := do
  let ⟨path, old, _, voice⟩ ← Step.manager
  match files.read? path with
  | none => throw (.noFile path)
  | some content => do
    let heading := s!"Initializing configuration_manager [{path}]"
    Step.sayIf (!voice.silent) { Banner.plain heading with spaced := true }.text
    let name := block.getD old
    let (store, fault) := Store.ofFile content
    modify fun (m, printed) => ({ m with block := name, store := store }, printed)
    Step.failIf fault
    requireBlock homeBlock
    requireBlock name
    Step.sayIf (voice.debug && voice.verbose && !voice.silent)
      s!"Path: {path}\nBlock ID: {name}\n\n"
    inheritAll
    overrideAll overrides

end Manager

end Reckoner.Settings
