import Telemetry.Decimal.Reader
import Telemetry.Http.Refusal
import Telemetry.Metric.Wire
import Telemetry.Server.Endpoint
import Telemetry.Storage.Backend
import Telemetry.Text.Percent

namespace Telemetry.Server

open Telemetry Http

/-! What each endpoint does with a request whose body has been decoded. Storage alone adds up
counters. -/

variable {State : Type}

def bodyLimit : Nat := 2 * 1024 * 1024

def answer (result : Except Refusal Response) : Response :=
  match result with
  | .ok response => response
  | .error refusal => refusal.toResponse

def refuse {α : Type} (kind : RefusalKind) (message : String) : Except Refusal α :=
  .error ⟨kind, message⟩

def jsonType : String := "application/json"

/-- Accepts bodies that are said to be JSON. -/
def requireJson (request : Request) : Except Refusal Unit :=
  let contentType := (request.header? "content-type").getD ""
  if contentType.startsWith jsonType then .ok ()
  else refuse .badRequest s!"wrong content type: '{contentType}'"

def readBody {α : Type} (read : Bytes → Except Failure α) (request : Request) :
    Except Refusal α := do
  requireJson request
  match read request.body with
  | .ok value => return value
  | .error failure => refuse .badRequest ("invalid JSON: " ++ failure.message)

/-- Does something with a body, unless it is too large to be read. -/
def withBody (request : Request) (respond : State → Response × State) (state : State) :
    Response × State :=
  if bodyLimit < request.body.length then
    (.plain 413 "Failed to buffer the request body: length limit exceeded", state)
  else respond state

/-- The text that a percent-encoded part of a path stands for. -/
def decodePart (name part : String) : Except Response String :=
  match Text.Percent.decodeText? part with
  | some text => .ok text
  | none => .error (.plain 400 s!"Invalid URL: Invalid UTF-8 in \x60{name}\x60")

def spelledMetric (kind name value : String) : Except Refusal Metric :=
  match Kind.ofName kind with
  | .gauge =>
    match Decimal.readDouble? value with
    | some value => .ok (.gauge name value)
    | none => refuse .badRequest s!"invalid gauge value '{value}'"
  | .counter =>
    match Decimal.readInt64? value with
    | some delta => .ok (.counter name delta)
    | none => refuse .badRequest s!"invalid counter delta '{value}'"
  | unknown => .ok (.query name unknown)

def namedMetric (kind name value : String) : Except Response Metric := do
  let kind ← decodePart "kind" kind
  let name ← decodePart "name" name
  let value ← decodePart "value" value
  (spelledMetric kind name value).mapError Refusal.toResponse

def namedQuery (kind name : String) : Except Response Metric := do
  let kind ← decodePart "kind" kind
  let name ← decodePart "name" name
  return .query name (Kind.ofName kind)

/-- The order of metrics in the listing: by id, then by the name of the kind. -/
def listedBefore (metric other : Metric) : Bool :=
  decide (metric.id < other.id) ||
    (metric.id = other.id && decide (metric.kind.name ≤ other.kind.name))

def listing (metrics : List Metric) : String :=
  String.join ((metrics.mergeSort listedBefore).map fun metric => metric.line ++ "\n")

def orRefusal {α : Type} (result : Except Failure α) (respond : α → Response) : Response :=
  answer ((result.mapError Refusal.ofFailure).map respond)

def saveOne (backend : Backend State) (key : String) (metric : Metric) (response : Response)
    (state : State) : Response × State :=
  let (result, state) := backend.save metric key state
  (orRefusal result fun () => response, state)

def saveBody (backend : Backend State) (key : String) (request : Request) (state : State) :
    Response × State :=
  match readBody Metric.ofWire request with
  | .error refusal => (refusal.toResponse, state)
  | .ok metric => saveOne backend key metric (.json 200 metric.toWire) state

def saveBatch (backend : Backend State) (key : String) (request : Request) (state : State) :
    Response × State :=
  match readBody Metric.listOfWire request with
  | .error refusal => (refusal.toResponse, state)
  | .ok metrics =>
    let (result, state) := backend.saveMany key metrics state
    (orRefusal result fun () => .json 200 (Metric.listToWire metrics), state)

def saveNamed (backend : Backend State) (key kind name value : String) (state : State) :
    Response × State :=
  match namedMetric kind name value with
  | .error response => (response, state)
  | .ok metric => saveOne backend key metric (.withType 200 "text/plain" []) state

def findBody (backend : Backend State) (key : String) (request : Request) (state : State) :
    Response :=
  answer do
    let query ← readBody Metric.ofWire request
    return orRefusal (backend.find (.query query.id query.kind) key state) fun metric =>
      .json 200 metric.toWire

def plainValue (metric : Metric) : Response :=
  match metric.valueText with
  | some text => .withType 200 "text/plain" (Bytes.ofText text)
  | none => (Refusal.mk .internal s!"metric '{metric.id}' has no value").toResponse

def findNamed (backend : Backend State) (key kind name : String) (state : State) : Response :=
  match namedQuery kind name with
  | .error response => response
  | .ok query => orRefusal (backend.find query key state) plainValue

def page (backend : Backend State) (state : State) : Response :=
  orRefusal (backend.all state) fun metrics =>
    .withType 200 "text/html; charset=utf-8" (Bytes.ofText (listing metrics))

def health (backend : Backend State) (state : State) : Response :=
  orRefusal (backend.check state) fun () => .empty 200

/-- Answers a request to an endpoint that takes its method. -/
def Endpoint.respond (endpoint : Endpoint) (backend : Backend State) (key : String)
    (request : Request) (state : State) : Response × State :=
  match endpoint with
  | .listing => (page backend state, state)
  | .ping => (health backend state, state)
  | .update => withBody request (saveBody backend key request) state
  | .updates => withBody request (saveBatch backend key request) state
  | .updateNamed kind name value => saveNamed backend key kind name value state
  | .lookup => withBody request (fun state => (findBody backend key request state, state)) state
  | .lookupNamed kind name => (findNamed backend key kind name state, state)

end Telemetry.Server
