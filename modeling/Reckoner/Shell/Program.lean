import Reckoner.Settings.Registry
import Reckoner.Shell.CommandLine
import Reckoner.Shell.Pairs
import Reckoner.Shell.Session

/-!
# The program

Reads the command line and the settings, and then shows what the expression on the command line
comes to, or holds a session when there is none.
-/

namespace Reckoner.Program

open Settings

/-- How a run ends. -/
inductive Ending where
  /-- The command line was refused, or help was asked for. -/
  | usage (code : Nat)
  /-- The work was done. -/
  | exit (code : Nat)
  deriving DecidableEq, Repr

/-- The value of a setting, or the one given instead. -/
def setting (m : Manager) (key : String) (instead : Value) (kind : String) :
    Except Fault Value :=
  ((Manager.get key instead true kind).start m).1.mapError .settings

/-- The text of a setting, or the one given instead. -/
def textSetting (m : Manager) (key instead : String) : Except Fault String := do
  pure (← setting m key (.text instead) "string").toText

/-- The folder of the kept bulletin, if one is set. -/
def folderSetting (m : Manager) (host : Host) : Except Fault (Option String) := do
  pure ((← (m.lookup "cache_dir").mapError .settings).map host.expand)

/-- How many seconds to wait for an answer. -/
def patienceSetting (m : Manager) : Except Fault Number := do
  match ← setting m "currency_request_timeout_secs" (.integer 10) "float" with
  | .real x => pure (.float x)
  | _ => pure Service.usualPatience

/-- The service that the settings describe. -/
def service (m : Manager) (host : Host) (debug : Bool) : Except Fault Service := do
  let folder ← folderSetting m host
  let url ← textSetting m "currency_service_url" Service.bankUrl
  let patience ← patienceSetting m
  let base ← textSetting m "currency_base" Service.usualBase
  let file ← textSetting m "currency_cache_file" Service.usualFile
  let zone ← textSetting m "currency_timezone" Service.usualZone
  pure ⟨folder, file, url, patience, base, zone, debug⟩

/-- What the command line wishes of the settings. -/
def wish (line : CommandLine) : Wish :=
  { Wish.plain with
    path := line.config
    voice := { Wish.plain.voice with debug := line.debug }
    overrides := (Pairs.ofArguments line.assignments).map fun (key, text) => (key, .text text) }

/-- The manager of the settings. -/
def manager (line : CommandLine) : Calculation Desk Manager := do
  let (result, _, printed) := Registry.empty.request (← get).host (wish line)
  modify fun desk => { desk with host := desk.host.print printed }
  Calculation.ofExcept (result.mapError .settings)

/-- Debugging is asked for, on the command line or by the settings. -/
def isDebugging (line : CommandLine) (m : Manager) : Except Fault Bool :=
  if line.debug then .ok true
  else do
    match ← setting m "app_debug" (.flag false) "boolean" with
    | .flag b => pure b
    | _ => pure false

/-- The file in which a session's history is kept; it is empty if there is none. -/
def historyFile (m : Manager) (host : Host) : Except Fault String := do
  pure (host.expand (← textSetting m "history_file" ""))

/-- What a run does after the command line and the settings have been read. -/
structure Plan where
  line : CommandLine
  manager : Manager
  debug : Bool
  /-- Where rates come from, unless none are to be loaded. -/
  service : Option Service

/-- The source of rates of a plan. -/
def Plan.source (p : Plan) : Option (RateSource Desk) := p.service.map Service.toSource

/-- Reads the settings that a command line names. -/
def plan (line : CommandLine) : Calculation Desk Plan := do
  let m ← manager line
  let debug ← Calculation.ofExcept (isDebugging line m)
  if line.offline then pure ⟨line, m, debug, none⟩
  else do
    let found ← Calculation.ofExcept (service m (← get).host debug)
    pure ⟨line, m, debug, some found⟩

/-- Carries out a plan, with a script of what is typed if there is no expression. -/
def carryOut (p : Plan) (script : List Typed) : Calculation Desk Nat := do
  if p.line.expression.isEmpty then
    let history ← Calculation.ofExcept (historyFile p.manager (← get).host)
    Session.run p.source (some history) p.debug script
  else Shell.runOnce p.source p.debug (" ".intercalate p.line.expression)

/-- A run of the program. -/
def run (arguments : List String) (script : List Typed) : Calculation Desk Ending := do
  match CommandLine.read arguments with
  | .error code => pure (.usage code)
  | .ok line => pure (.exit (← carryOut (← plan line) script))

end Reckoner.Program
