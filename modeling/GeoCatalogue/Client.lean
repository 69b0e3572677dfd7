import GeoCatalogue.Description
import GeoCatalogue.Http
import GeoCatalogue.Settings.Basic
import GeoCatalogue.Xml.Document

/-!
# Clients

A **client** asks one service. It fetches the description of the service
when it is first needed, keeps it, and builds the requests of a search
from its templates. A description takes the place of the one before only
when it has been fetched and read completely.

* `Client.fetch` – a request and the body of the reply;
* `Client.describe` – the description, fetched if there is none or if a
  fetch is forced;
* `Client.search` – the document that a search gives.

Each of these gives an `Exchange`: the result, the client afterwards, and
what was sent and told on the way.
-/
namespace GeoCatalogue

open Text Journal Xml

/-- **A client of a service.** -/
structure Client where
  /-- The address of the description. -/
  url : String
  /-- The settings of the client. -/
  settings : Settings
  /-- The description in use. -/
  description : Option Description := none
  /-- The requests sent so far. -/
  history : List Request := []
  /-- How many descriptions have been read. -/
  descriptions : Nat := 0
  /-- How many templates have been read. -/
  templates : Nat := 0

/-- **What comes of asking.** -/
structure Exchange (α : Type) where
  /-- The result. -/
  result : Except Fault α
  /-- The client afterwards. -/
  client : Client
  /-- The requests sent. -/
  requests : List Request := []
  /-- The records left. -/
  records : List Record := []

/-- An exchange that goes on with a result, if there is one. -/
def Exchange.andThen {α β : Type} (x : Exchange α)
    (next : Client → α → Exchange β) : Exchange β :=
  match x.result with
  | .error fault => { x with result := .error fault }
  | .ok value =>
    let y := next x.client value
    { y with requests := x.requests ++ y.requests,
             records := x.records ++ y.records }

namespace Client

/-- The media type of descriptions. -/
def descriptionType : String := "application/opensearchdescription+xml"

/-- The printed client. -/
def text (c : Client) : String :=
  "OpenSearchClient(" ++ quoted c.url ++ ")"

/-- How often requests are repeated, and after which time the first
repetition comes. -/
def retries (c : Client) : Quantity × String :=
  (c.settings.httpRetries, "0.1")

/-- The request for an address. -/
def request (c : Client) (url accept : String) : Request :=
  ⟨url, accept, c.settings.httpTimeout.text⟩

/-- **A request and the body of its reply.** -/
def fetch (service : Service) (c : Client) (url accept : String) :
    Exchange String :=
  let sent := c.request url accept
  let reply := service c.history sent
  let after := { c with history := c.history ++ [sent] }
  match reply.body with
  | .ok body => ⟨.ok body, after, [sent], []⟩
  | .error defect =>
    ⟨.error (.reply defect), after, [sent],
      if defect.isRecorded then
        [⟨.error, .client, "OpenSearch request failed: " ++ quoted url ++
          ": " ++ reply.explanation⟩]
      else []⟩

/-- The client with a description in use. -/
def use (c : Client) (d : Description) : Client :=
  { c with
    description := some d
    descriptions := c.descriptions + 1
    templates := c.templates + d.registry.size }

/-- The description in a body. -/
def readDescription (c : Client) (body : String) : Exchange Description :=
  match Element.parse body with
  | .error defect => ⟨.error (.document defect), c, [], []⟩
  | .ok root =>
    match Description.ofElement c.descriptions c.templates root with
    | .error cause => ⟨.error (.failure cause), c, [],
        Description.notices root⟩
    | .ok d => ⟨.ok d, c.use d, [], Description.notices root⟩

/-- The description, fetched anew. -/
def reload (service : Service) (c : Client) : Exchange Description :=
  let exchange := (c.fetch service c.url descriptionType).andThen
    readDescription
  let notice : Record := ⟨.debug, .client,
    "Getting OpenSearch description from " ++ c.url⟩
  { exchange with records := notice :: exchange.records }

/-- **The description of the service.** -/
def describe (service : Service) (c : Client) (force : Bool) :
    Exchange Description :=
  match c.description with
  | none => c.reload service
  | some d => if force then c.reload service else ⟨.ok d, c, [], []⟩

/-- The media type that a search with a template asks for. -/
def accepted (t : UrlTemplate) : String :=
  if t.mediaType = "" then "application/xml" else t.mediaType

/-- The document in a body. -/
def readDocument (c : Client) (body : String) : Exchange Element :=
  match Element.parse body with
  | .error defect => ⟨.error (.document defect), c, [], []⟩
  | .ok root => ⟨.ok root, c, [], []⟩

/-- A search with a template of a description. -/
def searchIn (service : Service) (t : UrlTemplate) (values : Values)
    (c : Client) (d : Description) : Exchange Element :=
  let built := d.registry.buildNotices t values
  match d.registry.build t values with
  | .error cause => ⟨.error (.failure cause), c, [], built⟩
  | .ok uri =>
    let exchange := (c.fetch service uri (accepted t)).andThen readDocument
    let notice : Record := ⟨.info, .client, "OpenSearch request: " ++ uri⟩
    { exchange with records := built ++ notice :: exchange.records }

/-- **The document that a search gives.** The request is built from the
description in use, and sent only if it can be built. -/
def search (service : Service) (c : Client) (t : UrlTemplate)
    (values : Values) : Exchange Element :=
  (c.describe service false).andThen (searchIn service t values)

end Client

end GeoCatalogue
