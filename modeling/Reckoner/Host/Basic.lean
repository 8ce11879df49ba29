import Reckoner.Calendar.Zone
import Reckoner.Fault.Calculation
import Reckoner.Host.Files
import Reckoner.Host.Path
import Reckoner.Number.Basic

/-!
# The host

What the program finds around it and what it leaves there: files, variables, the clock with the time
zones, the service that answers its requests, and the terminal.
-/

namespace Reckoner

/-- What becomes of a request to the service. -/
inductive Reply where
  /-- No answer comes. -/
  | lost (why : RequestFailure)
  /-- An answer with its status and its text. -/
  | answer (status : Int) (text : String)
  /-- An answer with its status, in which half of a surrogate pair stands alone.  There are no bytes
  for what it holds. -/
  | unpaired (status : Int)
  deriving DecidableEq, Repr

/-- The status of an answer is an error. -/
def isErrorStatus (status : Int) : Bool := 400 ≤ status && status < 600

/-- The text of an answer, none if what it holds is no text. -/
def Reply.text : Reply → Except RequestFailure (Option String)
  | .lost why => .error why
  | .answer status text => if isErrorStatus status then .error .status else .ok (some text)
  | .unpaired status => if isErrorStatus status then .error .status else .ok none

/-- A request to the service. -/
structure Request where
  url : String
  /-- How many seconds to wait for the answer. -/
  patience : Number
  headers : List (String × String)
  body : String
  deriving DecidableEq

/-- What the terminal remembers of the lines typed. -/
structure Terminal where
  /-- The remembered entries, oldest first. -/
  history : List String
  /-- Whether each line is remembered by itself; open until it is decided. -/
  remembersLines : Option Bool
  /-- The prompts shown. -/
  prompts : List String
  /-- History can be loaded from a file. -/
  loads : Bool
  /-- History can be saved to a file. -/
  saves : Bool
  deriving DecidableEq, Repr

/-- A terminal at which nothing was typed. -/
def Terminal.fresh : Terminal := ⟨[], none, [], true, true⟩

/-- What surrounds the program. -/
structure Host where
  files : FileTree
  /-- The folder of the program's own files. -/
  programFolder : String
  /-- The variables with their values. -/
  environment : List (String × String)
  now : Calendar.Instant
  /-- The time zones that are known. -/
  zones : Calendar.Zones
  /-- What becomes of the next requests; of any further one nothing comes. -/
  replies : List Reply
  /-- The requests made, oldest first. -/
  requests : List Request
  terminal : Terminal
  /-- What the program has written to its output. -/
  printed : String

namespace Host

/-- The value of a variable. -/
def value? (host : Host) (name : String) : Option String := host.environment.lookup name

/-- What a path stands for. -/
def expand (host : Host) (path : String) : String := Path.expand host.value? path

/-- Writes to the output. -/
def print (host : Host) (text : String) : Host := { host with printed := host.printed ++ text }

/-- Writes a line to the output. -/
def printLine (host : Host) (text : String) : Host := host.print (text ++ "\n")

/-- Makes a request and takes what becomes of it. -/
def send (host : Host) (request : Request) : Reply × Host :=
  let made := { host with requests := host.requests ++ [request] }
  match host.replies with
  | [] => (.lost .connection, made)
  | reply :: rest => (reply, { made with replies := rest })

/-- Writes a file and the folders that it lies in, if that is possible. -/
def save (host : Host) (path text : String) : Host :=
  let folder := Path.parent path
  match if folder.isEmpty then some host.files else host.files.makeFolders folder with
  | none => host
  | some files => { host with files := (files.write path text).getD files }

end Host

end Reckoner
