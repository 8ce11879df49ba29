import Reckoner.Document.Check
import Reckoner.Document.Read

/-!
# Service envelopes

The service wraps a bulletin into an envelope, as a text inside three elements.  The namespaces of
the service are dropped, so that its choice of prefixes does not matter.
-/

namespace Reckoner.Envelope

/-- The namespaces of the service, all of which leave names bare. -/
def namespaces : Xml.ShortNames :=
  [("http://schemas.xmlsoap.org/soap/envelope/", none),
    ("http://www.mnb.hu/webservices/", none),
    ("http://www.w3.org/2001/XMLSchema-instance", none)]

/-- The text of the result. -/
def checkResponse (d : Datum) : Checked String := do
  let parts ← d.parts
  Datum.required parts "GetCurrentExchangeRatesResult" "result" Datum.asText

/-- The response in the body. -/
def checkBody (d : Datum) : Checked String := do
  let parts ← d.parts
  Datum.required parts "GetCurrentExchangeRatesResponse" "response" checkResponse

/-- The body of an envelope. -/
def check (d : Datum) : Checked String := do
  let parts ← d.parts
  Datum.required parts "Body" "body" checkBody

/-- The document inside an envelope. -/
def unwrap (envelope : String) : Except Fault String := do
  let data ← Document.read ⟨[], some namespaces⟩ envelope
  ((check (data.body "Envelope")).orFault (some envelope)).mapError .document

end Reckoner.Envelope
