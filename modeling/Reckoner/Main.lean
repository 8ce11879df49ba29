import Reckoner.Shell.Program
import Std.Time.DateTime.Timestamp

/-!
# The command

Runs the program on the real host.  The files that a run may read are read before it, and those that
it has changed are written after it.  No request leaves the host: every one of them is lost.
-/

namespace Reckoner.Main

/-- What is shown when help is asked for or the command line is refused. -/
def usage : String :=
  "usage: unitcalc [-h] [--config CONFIG] [--set KEY=VALUE] [--offline] [--debug]\n" ++
    "                [expression ...]"

/-- The variables in the text of an environment. -/
def variablesOf (text : String) : List (String × String) :=
  (text.splitOn "\x00").filterMap fun assignment =>
    match assignment.splitOn "=" with
    | name :: first :: rest => some (name, "=".intercalate (first :: rest))
    | _ => none

/-- What a file holds, if there is one. -/
def contentOf (path : String) : IO (Option FileContent) := do
  try
    match String.fromUTF8? (← IO.FS.readBinFile path) with
    | some text => pure (some (.text text))
    | none => pure (some (.garbled ""))
  catch
    | .permissionDenied .. => pure (some .sealed)
    | _ => pure none

/-- The place of a path, as it is written. -/
def placeOf (start : Place) (path : String) : Place :=
  let origin := if path.startsWith "/" then [] else start
  (FileTree.names path).foldl FileTree.stepTo origin

/-- The host with what is really at a path. -/
def survey (host : Host) (path : String) : IO Host := do
  match ← contentOf path with
  | some content =>
    let files := host.files.put (placeOf host.files.start path) (.file content)
    pure { host with files := files }
  | none => pure host

/-- The host as the program finds it. -/
def hostAtStart : IO Host := do
  let environment ← match ← contentOf "/proc/self/environ" with
    | some (.text text) => pure (variablesOf text)
    | _ => pure []
  let folder := placeOf [] (← IO.currentDir).toString
  let now := (← Std.Time.Timestamp.now).toSecondsSinceUnixEpoch
  pure (Settings.install
    { files := ⟨folder, [(folder, .folder)]⟩
      programFolder := (← IO.appDir).toString
      environment := environment
      now := ⟨now.val⟩
      zones := Calendar.Zone.given
      replies := []
      requests := []
      terminal := .fresh
      printed := "" })

/-- Shows what was printed. -/
def showPrinted (desk : Desk) : IO Desk := do
  IO.print desk.host.printed
  (← IO.getStdout).flush
  pure { desk with host := { desk.host with printed := "" } }

/-- Writes the files that differ from what was found. -/
def writeChanges (found : FileTree) (host : Host) : IO Unit := do
  for (place, node) in host.files.entries do
    match node with
    | .file (.text text) =>
      if found.node? place == some node then pure ()
      else
        let path := "/" ++ "/".intercalate place
        try
          IO.FS.createDirAll (Path.parent path)
          IO.FS.writeFile path text
        catch _ => pure ()
    | _ => pure ()

/-- Reports a fault that ends the run. -/
def report (fault : Fault) : IO UInt32 := do
  IO.eprintln fault.message
  pure 1

/-- What the terminal delivers next. -/
def nextTyped : IO Typed := do
  let line ← (← IO.getStdin).getLine
  if line.isEmpty then pure .endOfInput
  else pure (.line (if line.endsWith "\n" then (line.dropEnd 1).toString else line))

/-- A session at the terminal. -/
partial def talk (p : Program.Plan) (s : Session) (desk : Desk) :
    IO (Except Fault Unit × Desk) := do
  IO.print s.prompt
  (← IO.getStdout).flush
  let (result, after) := (s.receive p.source p.debug (← nextTyped)).start desk
  let next ← showPrinted after
  match result with
  | .error fault => pure (.error fault, next)
  | .ok none => pure (.ok (), next)
  | .ok (some rest) => talk p rest next

/-- A whole session at the terminal. -/
def hold (p : Program.Plan) (path : String) (desk : Desk) : IO (Except Fault Nat × Desk) := do
  let file := (some path).filter (!·.isEmpty)
  let (result, last) ← talk p .empty
    (← showPrinted { desk with host := Session.begin file p.debug desk.host })
  match result with
  | .error fault => pure (.error fault, last)
  | .ok _ => pure (.ok 0, { last with host := Session.finish file last.host })

/-- The file of the history, if a session is to be held. -/
def historyOf (p : Program.Plan) (host : Host) : Except Fault String :=
  if p.line.expression.isEmpty then Program.historyFile p.manager host else .ok ""

/-- Carries out a plan. -/
def carryOut (p : Program.Plan) (desk : Desk) : IO UInt32 := do
  match historyOf p desk.host with
  | .error fault => report fault
  | .ok history => do
    let mut host ← survey desk.host history
    if let some path := p.service.bind (·.path.toOption) then host ← survey host path
    let found := host.files
    let (result, last) ←
      if p.line.expression.isEmpty then hold p history { desk with host := host }
      else pure ((Program.carryOut p []).start { desk with host := host })
    let shown ← showPrinted last
    writeChanges found shown.host
    match result with
    | .error fault => report fault
    | .ok code => pure (UInt32.ofNat code)

/-- A run on the command line's words. -/
def run (arguments : List String) : IO UInt32 := do
  match CommandLine.read arguments with
  | .error code => do
    IO.eprintln usage
    pure (UInt32.ofNat code)
  | .ok line => do
    let start ← hostAtStart
    let host ← survey start ((Program.wish line).manager start).path
    let (result, desk) := (Program.plan line).start ⟨host, .untried⟩
    let shown ← showPrinted desk
    match result with
    | .error fault => report fault
    | .ok p => carryOut p shown

end Reckoner.Main

def main (arguments : List String) : IO UInt32 := Reckoner.Main.run arguments
