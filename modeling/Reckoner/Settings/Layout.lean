import Reckoner.Host.Files
import Reckoner.Settings.Store
import Reckoner.Text.Blank
import Reckoner.Text.Line

/-!
# The layout of a settings file

A settings file is read line by line.  A line in square brackets is the heading of a block; any
other line sets a key, with an equals sign or a colon between the key and its text.  A line that
stands further in than the one that began the last setting continues its text, and so does a blank
line.  Lines that begin with a number sign or a semicolon are remarks.

When reading ends at a fault, the settings in front of it are there all the same.
-/

namespace Reckoner.Settings

open Text

/-- A settings file read up to some line. -/
structure Draft where
  /-- The blocks that are complete. -/
  store : Store
  /-- The heading of the block that is being read. -/
  heading : Option String
  /-- What that block has set so far, newest first. -/
  entries : Entries String
  /-- The newest setting may be continued. -/
  growing : Bool
  /-- How far in the line stood that began the last setting or block. -/
  indent : Nat
  /-- A line was of no use; the file will be refused once all of it has been read. -/
  faulty : Bool

namespace Draft

/-- Nothing has been read. -/
def start : Draft := ⟨.empty, none, [], false, 0, false⟩

/-- The blocks read so far, the last one included.  Blanks at the end of a text do not count. -/
def close (d : Draft) : Store :=
  match d.heading with
  | none => d.store
  | some name => d.store.put name (d.entries.reverse.map fun (key, text) => (key, trimEnd text))

/-- Continues the newest setting with a line. -/
def continueWith (d : Draft) (line : List Char) : Draft :=
  match d.entries with
  | (key, text) :: rest => { d with entries := (key, text ++ "\n" ++ String.ofList line) :: rest }
  | [] => d

/-- The name in a heading: what stands between an opening bracket at the front of the line and the
last closing bracket of it. -/
def headingName? : List Char → Option String
  | '[' :: rest =>
    match (dropTrailing (· != ']') rest).dropLast with
    | [] => none
    | name => some (String.ofList name)
  | _ => none

/-- The sign parts a key from its text. -/
def isDivider (c : Char) : Bool := c == '=' || c == ':'

/-- The key and the text of a setting. -/
def setting? (line : List Char) : Option (List Char × List Char) :=
  let key := line.takeWhile (!isDivider ·)
  match line.drop key.length with
  | [] => none
  | _ :: text => some (dropTrailing isBlank key, dropAround isBlank text)

/-- Begins a block; the base may be taken up again, any other block may not. -/
def openBlock (d : Draft) (name : String) : Except SettingsFault Draft :=
  let store := d.close
  if store.blocks.has name then .error .repeatedBlock
  else
    let entries := if name = Store.baseName then store.base.reverse else []
    .ok { d with store := store, heading := some name, entries := entries, growing := false }

/-- Takes in a line that begins a block or a setting. -/
def begin (d : Draft) (line : List Char) : Except SettingsFault Draft :=
  match headingName? line with
  | some name => d.openBlock name
  | none =>
    if d.heading.isNone then .error .noHeading
    else
      match setting? line with
      | none => .ok { d with faulty := true }
      | some (name, text) =>
        let key := lower (String.ofList name)
        if d.entries.has key then .error .repeatedKey
        else .ok { d with
          entries := (key, String.ofList text) :: d.entries
          growing := !name.isEmpty
          faulty := d.faulty || name.isEmpty }

/-- The line is a remark. -/
def isRemark (line : List Char) : Bool := line.head? == some '#' || line.head? == some ';'

/-- Takes in a line. -/
def read (d : Draft) (line : List Char) : Except SettingsFault Draft :=
  let body := dropAround isBlank line
  if isRemark body then .ok d
  else if body.isEmpty then .ok (if d.growing then d.continueWith [] else d)
  else
    let indent := (line.takeWhile isBlank).length
    if d.growing && d.indent < indent then .ok (d.continueWith body)
    else { d with indent := indent }.begin body

/-- Takes in lines up to one that is refused, and tells why it is. -/
def readLines (d : Draft) : List (List Char) → Draft × Option SettingsFault
  | [] => (d, none)
  | line :: rest =>
    match d.read line with
    | .ok next => next.readLines rest
    | .error fault => (d, some fault)

end Draft

namespace Store

/-- The settings in the text of a file, and what is wrong with it.  A line that is refused ends the
reading; lines of no use are reported when all of the text has been read. -/
def read (text : String) : Store × Option SettingsFault :=
  let (d, fault) := Draft.start.readLines (lines text)
  (d.close, fault.or (if d.faulty then some .badLine else none))

/-- The settings in a file, and why it cannot be read to its end.  A file that may not be read
counts as an empty one. -/
def ofFile : FileContent → Store × Option SettingsFault
  | .text s => read s
  | .garbled front =>
    let (d, fault) := Draft.start.readLines (lines front)
    (d.close, fault.or (some .undecodable))
  | .sealed => (.empty, none)

end Store

end Reckoner.Settings
