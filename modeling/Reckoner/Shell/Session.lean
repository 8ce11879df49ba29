import Reckoner.Grammar.Buffer
import Reckoner.Shell.Once
import Reckoner.Text.Banner

/-!
# Sessions

In a session lines are typed until they form an expression together.  Its value is shown, the lines
are remembered as one entry, and the next expression begins.  An interrupt drops the lines of an
unfinished expression; when there are none, it ends the session.
-/

namespace Reckoner

/-- What comes from the terminal. -/
inductive Typed where
  | line (text : String)
  | interrupt
  | endOfInput
  /-- The terminal fails. -/
  | failure
  deriving DecidableEq, Repr

/-- The lines of an unfinished expression, trimmed, and their tokens. -/
structure Session where
  lines : List String
  buffer : Grammar.Buffer

namespace Session

/-- No line is pending. -/
def empty : Session := ⟨[], .empty⟩

/-- What the terminal shows before a line is typed. -/
def prompt (s : Session) : String := if s.buffer.isEmpty then ">> " else ".. "

/-- The entry under which the pending lines are remembered. -/
def entry (s : Session) : String := " ".intercalate s.lines

/-- The session with one more pending line. -/
def extend (s : Session) (text : String) : Except Fault Session := do
  let tokens ← Token.tokenize text
  pure ⟨s.lines ++ [Text.trim text], s.buffer.extend tokens⟩

/-- The session without its pending lines. -/
def clear (s : Session) : Session := ⟨[], s.buffer.reset⟩

/-! ## The terminal -/

/-- Changes what the terminal remembers. -/
def onTerminal (f : Terminal → Terminal) : Calculation Desk Unit :=
  modify fun desk => { desk with host := { desk.host with terminal := f desk.host.terminal } }

/-- Remembers an entry. -/
def remember (text : String) : Calculation Desk Unit :=
  onTerminal fun t => { t with history := t.history ++ [text] }

/-- Shows a prompt. -/
def showPrompt (s : Session) : Calculation Desk Unit :=
  onTerminal fun t => { t with prompts := t.prompts ++ [s.prompt] }

/-- Remembers the entries in a file, if it can be read. -/
def loadHistory (host : Host) (path : String) : Host :=
  match host.files.read? path with
  | some (.text text) =>
    if host.terminal.loads then
      let entries := (Text.lines text).map String.ofList
      { host with terminal := { host.terminal with history := host.terminal.history ++ entries } }
    else host
  | _ => host

/-- Writes the remembered entries to a file, if it can be written. -/
def saveHistory (host : Host) (path : String) : Host :=
  if host.terminal.saves then
    host.save path (String.join (host.terminal.history.map (· ++ "\n")))
  else host

/-! ## The course of a session -/

/-- Takes in what was typed.  The result is the session as it goes on, or none when it ends. -/
def receive (source : Option (RateSource Desk)) (debug : Bool) (s : Session) :
    Typed → Calculation Desk (Option Session)
  | .failure => throw .brokenInput
  | .interrupt | .endOfInput => do
    Desk.printLine ""
    pure (if s.buffer.isEmpty then none else some s.clear)
  | .line text =>
    if Text.isAllBlank text then pure (some s)
    else do
      let next ← Calculation.ofExcept (s.extend text)
      let (outcome, parsed) := next.buffer.run
      let tried : Session := { next with buffer := parsed }
      if debug then
        modify fun desk => { desk with host := desk.host.print (parsed.report outcome) }
      match outcome.tree? with
      | none => pure (some tried)
      | some e => do
        let _ ← Shell.showValue source debug e
        remember tried.entry
        pure (some tried.clear)

/-- Shows the prompt and takes in what is typed then. -/
def turn (source : Option (RateSource Desk)) (debug : Bool) (s : Session) (typed : Typed) :
    Calculation Desk (Option Session) := do
  s.showPrompt
  s.receive source debug typed

/-- A session in which the given things are typed and then the input ends, until the session
does. -/
def converse (source : Option (RateSource Desk)) (debug : Bool) (s : Session) :
    List Typed → Calculation Desk Unit
  | [] => do
    match ← s.turn source debug .endOfInput with
    | none => pure ()
    | some rest => do
      let _ ← rest.turn source debug .endOfInput
      pure ()
  | typed :: more => do
    match ← s.turn source debug typed with
    | none => pure ()
    | some next => next.converse source debug more

/-- The release of the program. -/
def version : String := "0.1.0"

/-- What is shown first when debugging. -/
def welcome : String := (Text.Banner.plain s!"unitcalc {version}, Ctrl-D to quit").text

/-- Before the first prompt: lines are not remembered by themselves, earlier entries are. -/
def begin (history : Option String) (debug : Bool) (host : Host) : Host :=
  let quiet := { host with terminal := { host.terminal with remembersLines := some false } }
  let loaded := match history with
    | some path => loadHistory quiet path
    | none => quiet
  if debug then loaded.print welcome else loaded

/-- After the last prompt. -/
def finish (history : Option String) (host : Host) : Host :=
  match history with
  | some path => saveHistory host path
  | none => host

/-- A whole session, with the file of its history; an empty path is none.  It gives the exit
code. -/
def run (source : Option (RateSource Desk)) (history : Option String) (debug : Bool)
    (script : List Typed) : Calculation Desk Nat := do
  let file := history.filter (!·.isEmpty)
  modify fun desk => { desk with host := begin file debug desk.host }
  empty.converse source debug script
  modify fun desk => { desk with host := finish file desk.host }
  pure 0

end Session

end Reckoner
