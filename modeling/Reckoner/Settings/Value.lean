import Reckoner.Fault.Settings
import Reckoner.Number.Numeral
import Reckoner.Number.Shortest
import Reckoner.Text.Case

/-!
# Values of settings

A setting is stored as a text and asked for as a value of some kind.  A value given in place of an
absent setting goes through the same conversion, whatever it is.
-/

namespace Reckoner.Settings

/-- A value of a setting. -/
inductive Value where
  | nothing
  | flag (b : Bool)
  | integer (n : Int)
  | real (x : Float)
  | text (s : String)
  deriving DecidableEq

/-- A value as a text. -/
def Value.toText : Value → String
  | .nothing => "None"
  | .flag true => "True"
  | .flag false => "False"
  | .integer n => toString n
  | .real x => Double.text x
  | .text s => s

/-- A value can be written: it is no integer of too many digits. -/
def Value.isWritable : Value → Bool
  | .integer n => n.natAbs < Nat.pow 10 digitLimit
  | _ => true

/-- The text of a value that can be written. -/
def Value.write (v : Value) : Except SettingsFault String :=
  if v.isWritable then .ok v.toText else .error .unwritable

/-- A kind of value that can be asked for. -/
inductive Kind where
  | boolean
  | float
  | integer
  | string
  deriving DecidableEq, Repr

/-- The kind of a name in any case.  What begins like the name of the integers or of the texts means
these. -/
def Kind.find? (name : String) : Except SettingsFault Kind :=
  let key := Text.lower name
  if key = "boolean" then .ok .boolean
  else if key = "float" then .ok .float
  else if key.startsWith "int" then .ok .integer
  else if key.startsWith "str" then .ok .string
  else .error (.unknownKind key)

namespace Value

/-- A text that says yes. -/
def isYes (s : String) : Bool :=
  match Text.lower (Text.trim s) with
  | "true" | "yes" | "1" => true
  | _ => false

/-- A value as a flag. -/
def toFlag : Value → Except SettingsFault Bool
  | .flag b => .ok b
  | v => v.write.map isYes

/-- A value as an integer. -/
def toInteger : Value → Except SettingsFault Int
  | .nothing => .error .absentInteger
  | .flag b => .ok (if b then 1 else 0)
  | .integer n => .ok n
  | .real x =>
    match Double.truncate? x with
    | some n => .ok n
    | none => .error (if x.isNaN then .notANumber else .infinite)
  | .text s =>
    match Numeral.readInt s with
    | .ok n => .ok n
    | .error .malformed => .error (.notInteger s)
    | .error (.tooLong digits) => .error (.longNumeral digits)

/-- A value as a double. -/
def toReal : Value → Except SettingsFault Float
  | .nothing => .error .absentNumber
  | .flag b => .ok (Double.ofInt (if b then 1 else 0))
  | .integer n => if (Double.ofInt n).isFinite then .ok (Double.ofInt n) else .error .tooLarge
  | .real x => .ok x
  | .text s =>
    match Numeral.readFloat? s with
    | some x => .ok x
    | none => .error (.notNumber s)

/-- A value as one of a kind; what is asked for as a text stays as it is. -/
def as (v : Value) : Kind → Except SettingsFault Value
  | .boolean => v.toFlag.map .flag
  | .float => v.toReal.map .real
  | .integer => v.toInteger.map .integer
  | .string => .ok v

end Value

end Reckoner.Settings
