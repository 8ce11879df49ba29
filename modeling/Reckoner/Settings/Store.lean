import Reckoner.Entries
import Reckoner.Fault.Settings
import Reckoner.Text.Case

/-!
# Stored settings

Settings stand in blocks, each of which sets keys to texts.  The base holds what every block
inherits: a block answers with its own text for a key and otherwise with that of the base.  Keys are
kept in lower case.
-/

namespace Reckoner.Settings

/-- The settings of a file. -/
structure Store where
  /-- What every block inherits. -/
  base : Entries String
  /-- The blocks by their names. -/
  blocks : Entries (Entries String)
  deriving DecidableEq, Repr

namespace Store

/-- No settings. -/
def empty : Store := ⟨[], []⟩

/-- The name under which the base is written. -/
def baseName : String := "DEFAULT"

/-- What a block sets itself. -/
def block (store : Store) (name : String) : Except SettingsFault (Entries String) :=
  match store.blocks.value? name with
  | some entries => .ok entries
  | none => .error (.noBlock name)

/-- The keys that a block sets or inherits, its own first. -/
def keys (store : Store) (name : String) : Except SettingsFault (List String) := do
  let own ← store.block name
  pure (own.names ++ store.base.names.filter fun key => !own.has key)

/-- The text of a key in a block, as it was written; the key is in lower case. -/
def written? (store : Store) (name key : String) : Except SettingsFault (Option String) := do
  let own ← store.block name
  pure ((own.value? key).or (store.base.value? key))

/-- Puts a block, or the base, in place of the one of its name. -/
def put (store : Store) (name : String) (entries : Entries String) : Store :=
  if name = baseName then { store with base := entries }
  else { store with blocks := store.blocks.enter name entries }

/-- Sets a key of a block to a text.  A block without name stands for the base, as does the name of
the base. -/
def enter (store : Store) (name key text : String) : Except SettingsFault Store :=
  if name = "" || name = baseName then
    .ok { store with base := store.base.enter (Text.lower key) text }
  else do
    let own ← store.block name
    pure { store with blocks := store.blocks.enter name (own.enter (Text.lower key) text) }

end Store

end Reckoner.Settings
