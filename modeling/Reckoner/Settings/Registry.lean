import Reckoner.Settings.Manager

/-!
# The shared manager

The program has one manager of settings.  Whoever asks for it first has it made; later requests get
the same one, whatever they ask for, until it is discarded.
-/

namespace Reckoner.Settings

/-- What is wished of a manager that is to be made. -/
structure Wish where
  path : Option String
  block : String
  /-- The variable that names the file when no path is given. -/
  variableName : String
  voice : Voice
  overrides : Overrides

/-- The variable that names the settings file. -/
def pathVariable : String := "UNITCALC_CONFIG_PATH"

/-- Nothing in particular is wished. -/
def Wish.plain : Wish := ⟨none, homeBlock, pathVariable, ⟨false, false, true⟩, []⟩

/-- Where the program's own settings file lies in its folder. -/
def ownFile : String := "/conf/unitcalc.ini"

/-- The text of the program's own settings file. -/
def ownText : String := "[default]
app_debug                     = False

# where the exchange rate cache lives; ~ and $VARS are expanded
cache_dir                     = ~/.cache/unitcalc
history_file                  = ~/.cache/unitcalc/history.txt

currency_service_url          = http://www.mnb.hu/arfolyamok.asmx
currency_request_timeout_secs = 10
currency_base                 = HUF
currency_cache_file           = rates.xml
currency_timezone             = Europe/Budapest
"

/-- A host on which the program's own settings file lies in the folder of the program. -/
def install (host : Host) : Host := host.save (host.programFolder ++ ownFile) ownText

/-- The path that a wish leads to: the one given, the one that the variable names unless it is
empty, or that of the program's own file. -/
def Wish.path? (wish : Wish) (host : Host) : Option String :=
  match wish.path with
  | some path => some path
  | none => (host.value? wish.variableName).filter (!·.isEmpty)

/-- The manager that a wish begins with, before anything is read. -/
def Wish.manager (wish : Wish) (host : Host) : Manager :=
  let path := (wish.path? host).getD (host.programFolder ++ ownFile)
  ⟨host.expand (Text.trim path), wish.block, .empty, wish.voice⟩

/-- Loads the manager of a wish. -/
def Wish.load (wish : Wish) (host : Host) : Step Unit := do
  Step.sayIf (wish.voice.debug && wish.path.isNone && (wish.path? host).isSome)
    s!"Using [{wish.variableName}] to locate the configuration file\n"
  Manager.load host.files none wish.overrides

/-- The managers made so far. -/
structure Registry where
  /-- The last manager made. -/
  last : Option Manager
  /-- The last manager is shared by further requests. -/
  shared : Bool
  /-- How many managers were made. -/
  made : Nat

namespace Registry

/-- No manager has been made. -/
def empty : Registry := ⟨none, false, 0⟩

/-- Gives up the shared manager; the flag tells whether there was one. -/
def discard (r : Registry) : Bool × Registry := (r.shared, { r with shared := false })

/-- Makes a manager; where that fails, none is shared. -/
def make (r : Registry) (host : Host) (wish : Wish) :
    Except SettingsFault Manager × Registry × String :=
  let said :=
    if wish.voice.debug then "Instantiating ConfigurationManager() singleton...\n\n" else ""
  match (wish.load host).start (wish.manager host) with
  | (.ok _, m, printed) => (.ok m, ⟨some m, true, r.made + 1⟩, said ++ printed)
  | (.error e, _, printed) => (.error e, { r with shared := false }, said ++ printed)

/-- The shared manager; it is made if there is none. -/
def request (r : Registry) (host : Host) (wish : Wish) :
    Except SettingsFault Manager × Registry × String :=
  match r.shared, r.last with
  | true, some m =>
    (.ok m, r, if m.voice.debug then "Reusing ConfigurationManager() singleton...\n" else "")
  | _, _ => r.make host wish

/-- Runs a step on the last manager made, if there is one. -/
def work {α : Type} (r : Registry) (step : Step α) :
    Option (Except SettingsFault α × Registry × String) :=
  r.last.map fun m =>
    match step.start m with
    | (result, changed, printed) => (result, { r with last := some changed }, printed)

end Registry

end Reckoner.Settings
