import Reckoner.Expr.Operator
import Reckoner.Fault.Calculation
import Reckoner.Fault.Settings
import Reckoner.Number.Basic
import Reckoner.Number.Shortest

/-!
# Faults

Everything that can go wrong, by cause, and the message of each cause.  A failed calculation is one
fault among others: it is reported to the user and the program goes on, while any other fault ends
what the program is doing.
-/

namespace Reckoner

/-- Why the text of a rate is refused. -/
inductive QuoteFault where
  /-- The text is not made of digits with a sign and a comma. -/
  | notDecimal (text : String)
  /-- The digits cannot be read as an integer. -/
  | notInteger (digits : String)
  /-- The digits are too many to be read as an integer. -/
  | longNumeral (digits : Nat)
  /-- The rate does not fit its words. -/
  | outOfRange (text : String)
  /-- The rate does not fit its words, and is too long for a report to say so. -/
  | unwritable
  deriving DecidableEq, Repr

/-- Why a text is refused whose rate cannot be made. -/
def QuoteFault.ofFailure (text : String) (e : Ratio.Failure) : QuoteFault :=
  match e.report with
  | .unwritable => .unwritable
  | _ => .outOfRange text

/-- The message of a refused rate. -/
def QuoteFault.message : QuoteFault → String
  | .notDecimal text => s!"Not a decimal-comma number: [{text}]"
  | .notInteger digits => (SettingsFault.notInteger digits).message
  | .longNumeral digits => Numeral.tooLongMessage digits
  | .outOfRange text => s!"Rate out of range: [{text}]"
  | .unwritable => Numeral.unwritableMessage

/-- What can go wrong. -/
inductive Fault where
  /-- An expression has no value. -/
  | calculation (e : CalcError)
  /-- A numeral of an expression has too many digits. -/
  | longNumeral (digits : Nat)
  /-- An exact result does not fit its words. -/
  | ratio (e : Ratio.Failure)
  /-- A double was to be used as an exact number. -/
  | inexact (x : Float)
  /-- An operator was given one operand but takes another number of them. -/
  | notUnary (op : Opcode)
  /-- An operator was given two operands but takes another number of them. -/
  | notBinary (op : Opcode)
  /-- No operand was left where one was due. -/
  | missingOperand
  /-- The text of a rate is refused. -/
  | quote (e : QuoteFault)
  /-- A document is refused. -/
  | document (e : DocumentFault)
  /-- A document declares entities, which is not allowed. -/
  | entityDeclared
  /-- The bytes of a file are no text. -/
  | undecodable
  /-- There are no bytes for what an answer holds. -/
  | unencodable
  /-- There is no time zone of this name. -/
  | unknownZone (name : String)
  /-- A date lies outside the years that dates are written for. -/
  | dateOutOfRange
  /-- Settings fail. -/
  | settings (e : SettingsFault)
  /-- A setting that should hold a path is absent. -/
  | missingPath
  /-- The terminal failed to deliver a line. -/
  | brokenInput
  deriving DecidableEq

/-- The fault of a failed operation on ratios; a division by zero is a failed calculation. -/
def Fault.ofRatio : Ratio.Failure → Fault
  | .divisionByZero => .calculation .divisionByZero
  | e => .ratio e

/-- The fault of a number without exact ratio. -/
def Fault.ofInexact : Number.Inexact → Fault
  | .float x => .inexact x
  | .ratio e => .ofRatio e

/-- The message of a fault. -/
def Fault.message : Fault → String
  | .calculation e => e.message
  | .longNumeral digits => Numeral.tooLongMessage digits
  | .ratio e => e.message
  | .inexact x => s!"Cannot cast float {Double.text x} to rational"
  | .notUnary op => s!"[OpCode.{op.name}] is not a unary operator"
  | .notBinary op => s!"[OpCode.{op.name}] is not a binary operator"
  | .missingOperand => "missing operand"
  | .quote e => e.message
  | .document e => e.problem.message
  | .entityDeclared => "entities are disabled"
  | .undecodable | .unencodable => ""
  | .unknownZone name => name
  | .dateOutOfRange => "date value out of range"
  | .settings e => e.message
  | .missingPath => "expected str, bytes or os.PathLike object, not NoneType"
  | .brokenInput => ""

end Reckoner
