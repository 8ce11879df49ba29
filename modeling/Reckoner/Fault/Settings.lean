import Reckoner.Number.Numeral
import Reckoner.Text.Quoted

/-!
# Faulty settings

Why a settings file cannot be read or a setting cannot be answered.
-/

namespace Reckoner

/-- Why settings fail. -/
inductive SettingsFault where
  /-- There is no settings file at the path. -/
  | noFile (path : String)
  /-- The selected block is not in the file. -/
  | unknownBlock (block : String)
  /-- A key is looked up in a block that is not there. -/
  | noBlock (block : String)
  /-- A line stands before the first block heading. -/
  | noHeading
  /-- A line is neither a heading, a setting nor a continuation. -/
  | badLine
  /-- A key is set twice in a block. -/
  | repeatedKey
  /-- A block heading occurs twice. -/
  | repeatedBlock
  /-- The bytes of the file are no text. -/
  | undecodable
  /-- A stored value holds a reference that is not well formed. -/
  | badReference
  /-- A reference names a key that is not set. -/
  | danglingReference
  /-- References lead through too many values. -/
  | deepReference
  /-- A value to be stored holds a per cent sign that starts no reference. -/
  | badPercent (value : String) (position : Nat)
  /-- A value is asked for as a kind of value that does not exist. -/
  | unknownKind (kind : String)
  /-- A text is not an integer. -/
  | notInteger (text : String)
  /-- A text has too many digits for an integer. -/
  | longNumeral (digits : Nat)
  /-- An integer has too many digits for a text. -/
  | unwritable
  /-- An infinity is asked for as an integer. -/
  | infinite
  /-- A NaN is asked for as an integer. -/
  | notANumber
  /-- An integer larger than all doubles is asked for as a number. -/
  | tooLarge
  /-- A text is not a number. -/
  | notNumber (text : String)
  /-- Nothing is given where an integer is asked for. -/
  | absentInteger
  /-- Nothing is given where a number is asked for. -/
  | absentNumber
  deriving DecidableEq, Repr

/-- The message of a fault; the faults of a file's text have none. -/
def SettingsFault.message : SettingsFault → String
  | .noFile path => s!"Configuration file not found: [{path}]"
  | .unknownBlock block => s!"Configuration block doesn't exist: [{block}] Check spelling?"
  | .badPercent value position =>
    s!"invalid interpolation syntax in {Text.quoted value} at position {position}"
  | .unknownKind kind =>
    s!"Return type [{kind}] is invalid.  Accepts: 'boolean', 'float', 'int' and 'string'"
  | .notInteger text => s!"invalid literal for int() with base 10: {Text.quoted text}"
  | .unwritable => Numeral.unwritableMessage
  | .longNumeral digits => Numeral.tooLongMessage digits
  | .infinite => "cannot convert float infinity to integer"
  | .notANumber => "cannot convert float NaN to integer"
  | .tooLarge => "int too large to convert to float"
  | .notNumber text => s!"could not convert string to float: {Text.quoted text}"
  | .absentInteger =>
    "int() argument must be a string, a bytes-like object or a real number, not 'NoneType'"
  | .absentNumber => "float() argument must be a string or a real number, not 'NoneType'"
  | _ => ""

end Reckoner
