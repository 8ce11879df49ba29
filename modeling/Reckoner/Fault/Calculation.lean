import Reckoner.Fault.Document

/-!
# Failed calculations

Why an expression has no value.  Each cause belongs to one of six kinds, and a kind has a message
of its own that is shown unless the cause says more.
-/

namespace Reckoner

/-- The kinds of failed calculations; `general` stands for all of them. -/
inductive CalcErrorKind where
  | general
  | divisionByZero
  | exponentWithUnit
  | differentUnits
  | unitsOnBothSides
  | conversion
  | missingUnit
  deriving DecidableEq, Repr

/-- The message of a kind. -/
def CalcErrorKind.message : CalcErrorKind → String
  | .general => "Calculation error"
  | .divisionByZero => "Division by zero"
  | .exponentWithUnit => "Exponent cannot have a unit"
  | .differentUnits => "Different unit types"
  | .unitsOnBothSides => "Cannot operate with units"
  | .conversion => "Conversion error"
  | .missingUnit => "Missing unit"

/-- The text of an error of a kind: the given message, or the kind's own when that is empty. -/
def CalcErrorKind.text (kind : CalcErrorKind) (given : Option String) : String :=
  match given with
  | some message => if message.isEmpty then kind.message else message
  | none => kind.message

/-- Why a request to the service fails. -/
inductive RequestFailure where
  /-- The service could not be reached. -/
  | connection
  /-- The service did not answer in time. -/
  | timeout
  /-- The service answered with an error status. -/
  | status
  deriving DecidableEq, Repr

/-- Why exchange rates could not be loaded. -/
inductive LoadFailure where
  /-- The service did not answer. -/
  | request (why : RequestFailure)
  /-- The answer is not a rates document. -/
  | document (fault : DocumentFault)
  deriving DecidableEq, Repr

/-- Why a cross rate cannot be formed from two rates. -/
inductive RateFailure where
  /-- The rate to divide by is zero. -/
  | zero
  /-- The cross rate is not representable. -/
  | outOfRange
  deriving DecidableEq, Repr

/-- Why a conversion fails. -/
inductive ConversionFailure where
  /-- No rule leads from one unit to the other. -/
  | noPath
  /-- No exchange rates are at hand. -/
  | noRates
  /-- A currency has no rate. -/
  | unknownCode (code : String)
  /-- The rates do not combine. -/
  | unusable (why : RateFailure)
  /-- The rates could not be loaded. -/
  | unavailable (why : LoadFailure)
  deriving DecidableEq, Repr

/-- Why an expression has no value. -/
inductive CalcError where
  | divisionByZero
  | exponentWithUnit
  | differentUnits
  | unitsOnBothSides
  | conversion (why : ConversionFailure)
  | missingUnit
  deriving DecidableEq, Repr

/-- The kind of an error. -/
def CalcError.kind : CalcError → CalcErrorKind
  | .divisionByZero => .divisionByZero
  | .exponentWithUnit => .exponentWithUnit
  | .differentUnits => .differentUnits
  | .unitsOnBothSides => .unitsOnBothSides
  | .conversion _ => .conversion
  | .missingUnit => .missingUnit

/-- What a failed conversion adds to the message of its kind. -/
def ConversionFailure.detail : ConversionFailure → Option String
  | .noPath => none
  | .noRates => some "no currency rates available"
  | .unknownCode code => some s!"no exchange rate for [{code}]"
  | .unusable _ => none
  | .unavailable _ => some "exchange rates unavailable"

/-- The message of an error. -/
def CalcError.message (e : CalcError) : String :=
  match e with
  | .conversion why =>
    match why.detail with
    | some detail => e.kind.message ++ ": " ++ detail
    | none => e.kind.message
  | _ => e.kind.message

end Reckoner
