import Reckoner.Host.Basic
import Reckoner.Rates.Bulletin
import Reckoner.Rates.Envelope

/-!
# The rates service

The bank that publishes the bulletins answers requests for the current one.  A bulletin is kept in a
file and serves as long as its date is that of today or of yesterday.  Rates are loaded when they
are first asked for.  What was loaded is remembered, and so is a failure to load; any other fault on
the way is not.
-/

namespace Reckoner

/-- How the service is reached and where its bulletins are kept. -/
structure Service where
  /-- The folder of the kept bulletin, if the settings name one. -/
  folder : Option String
  /-- The file of the kept bulletin, seen from its folder. -/
  file : String
  url : String
  /-- How many seconds to wait for an answer. -/
  patience : Number
  /-- The currency that the rates are prices in. -/
  base : String
  /-- The zone in which the service counts its days. -/
  zone : String
  /-- Requests are announced. -/
  debug : Bool

/-- What has come of loading the rates. -/
inductive Memory where
  | untried
  | loaded (table : RateTable)
  | failed (why : LoadFailure)
  deriving DecidableEq

/-- The host together with what is remembered of the rates. -/
structure Desk where
  host : Host
  memory : Memory

namespace Service

/-! ## The service of the bank -/

/-- Where the bank answers requests. -/
def bankUrl : String := "http://www.mnb.hu/arfolyamok.asmx"

/-- How many seconds an answer of the bank may take. -/
def usualPatience : Number := .whole 10

/-- The file in which a bulletin of the bank is kept. -/
def usualFile : String := "rates.xml"

/-- The zone of the bank. -/
def usualZone : String := "Europe/Budapest"

/-- The currency of the bank. -/
def usualBase : String := "HUF"

/-- The service of the bank, its bulletins kept in a folder. -/
def bank (folder : Option String) : Service :=
  ⟨folder, usualFile, bankUrl, usualPatience, usualBase, usualZone, false⟩

/-- What a request asks for. -/
def requestBody : String :=
  "<soapenv:Envelope xmlns:soapenv=\"http://schemas.xmlsoap.org/soap/envelope/\" " ++
    "xmlns:web=\"http://www.mnb.hu/webservices/\">" ++
    "<soapenv:Header/>" ++
    "<soapenv:Body><web:GetCurrentExchangeRates/></soapenv:Body>" ++
    "</soapenv:Envelope>"

/-- What goes with a request. -/
def requestHeaders : List (String × String) :=
  [("Content-Type", "text/xml;charset=UTF-8"),
    ("SOAPAction",
      "\"http://www.mnb.hu/webservices/MNBArfolyamServiceSoap/GetCurrentExchangeRates\"")]

/-- The request for the current bulletin. -/
def request (service : Service) : Request :=
  ⟨service.url, service.patience, requestHeaders, requestBody⟩

/-! ## The kept bulletin -/

/-- The path of the kept bulletin. -/
def path (service : Service) : Except Fault String :=
  match service.folder with
  | some folder => .ok (Path.join folder service.file)
  | none => .error .missingPath

/-- A date is that of today or of yesterday. -/
def isFresh (service : Service) (host : Host) (date : String) : Except Fault Bool := do
  let today ← Calendar.dateText host.zones service.zone host.now 0
  let yesterday ← Calendar.dateText host.zones service.zone host.now (-1)
  pure (date == today || date == yesterday)

/-- The bulletin in a text; none if the text holds none. -/
def bulletin? (text : String) : Except Fault (Option Bulletin) :=
  match Bulletin.read text with
  | .ok b => .ok (some b)
  | .error (.document _) => .ok none
  | .error fault => .error fault

/-- The kept bulletin; none if there is none or it cannot serve any more. -/
def kept? (service : Service) (host : Host) : Except Fault (Option Bulletin) := do
  match host.files.read? (← service.path) with
  | none | some .sealed => pure none
  | some (.garbled _) => throw .undecodable
  | some (.text text) =>
    match ← bulletin? text with
    | none => pure none
    | some b => do
      let fresh ← service.isFresh host b.date
      pure (if fresh then some b else none)

/-! ## Loading -/

/-- The outcome of loading: the rates, or why there are none.  Faults that are no outcome stand
beside it. -/
abbrev Outcome := Except Fault (Except LoadFailure RateTable)

/-- The rates of a bulletin. -/
def ratesOf (b : Bulletin) : Outcome := do
  pure (.ok (← b.table.mapError .ofRatio))

/-- The document in an answer and the bulletin in that document. -/
def readAnswer (text : String) : Except Fault (String × Bulletin) := do
  let document ← Envelope.unwrap text
  pure (document, ← Bulletin.read document)

/-- Takes in an answer: its document is kept, then its rates are formed. -/
def takeAnswer (path text : String) (host : Host) : Outcome × Host :=
  match readAnswer text with
  | .error (.document fault) => (.ok (.error (.document fault)), host)
  | .error fault => (.error fault, host)
  | .ok (document, b) => (ratesOf b, host.save path document)

/-- The host after a request is announced, if that is wanted. -/
def announced (service : Service) (host : Host) : Host :=
  if service.debug then host.printLine s!"Fetching exchange rates from {service.url}..." else host

/-- Requests the current bulletin. -/
def fetch (service : Service) (path : String) (host : Host) : Outcome × Host :=
  let (reply, asked) := (service.announced host).send service.request
  match reply.text with
  | .error why => (.ok (.error (.request why)), asked)
  | .ok none => (.error .unencodable, asked)
  | .ok (some text) => takeAnswer path text asked

/-- Loads the rates, from the kept bulletin if it serves, else from the service. -/
def load (service : Service) (host : Host) : Outcome × Host :=
  match service.path, service.kept? host with
  | .error fault, _ => (.error fault, host)
  | _, .error fault => (.error fault, host)
  | _, .ok (some b) => (ratesOf b, host)
  | .ok path, .ok none => service.fetch path host

/-- What is remembered of an outcome. -/
def Outcome.memory : Outcome → Memory
  | .ok (.ok table) => .loaded table
  | .ok (.error why) => .failed why
  | .error _ => .untried

/-- A failure to load, seen by a conversion. -/
def unavailable (why : LoadFailure) : Fault := .calculation (.conversion (.unavailable why))

/-- The rates that an outcome gives. -/
def Outcome.rates : Outcome → Except Fault RateTable
  | .ok (.ok table) => .ok table
  | .ok (.error why) => .error (unavailable why)
  | .error fault => .error fault

/-- The rates: those remembered, or else what loading gives. -/
def rates (service : Service) : Calculation Desk RateTable := fun desk =>
  match desk.memory with
  | .loaded table => (.ok table, desk)
  | .failed why => (.error (unavailable why), desk)
  | .untried =>
    let (outcome, host) := service.load desk.host
    (Outcome.rates outcome, ⟨host, Outcome.memory outcome⟩)

/-- How much of the second currency one unit of the first is worth. -/
def rate (service : Service) (source target : String) : Calculation Desk Ratio := do
  let table ← service.rates
  Calculation.ofExcept ((table.rate service.base source target).mapError .calculation)

/-- The service as a source of rates. -/
def toSource (service : Service) : RateSource Desk := ⟨service.rate⟩

end Service

end Reckoner
