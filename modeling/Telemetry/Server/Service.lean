import Telemetry.Http.Compression
import Telemetry.Network.Subnet
import Telemetry.Rsa.Block
import Telemetry.Server.Handler

namespace Telemetry.Server

open Telemetry Http

/-! Requests from outside to inside: the sender's address is checked first, then the body is
decoded, then an endpoint answers, and at the end the response may be compressed. -/

variable {State : Type}

structure Settings where
  /-- The key under which metrics are signed and checked. -/
  key : String
  /-- The key that opens sealed bodies. -/
  decryptor : Option Rsa.PrivateKey
  /-- The addresses that may talk to the server, if not all. -/
  subnet : Option Subnet

def realIpHeader : String := "X-Real-IP"

def claimedAddress? (request : Request) : Option Address :=
  (request.header? (lower realIpHeader)).bind fun text => Address.ofText? (Text.trim text)

def Settings.admit (settings : Settings) (request : Request) : Except Refusal Unit :=
  match settings.subnet with
  | none => .ok ()
  | some subnet =>
    match claimedAddress? request with
    | none => refuse .forbidden s!"missing or invalid {realIpHeader} header"
    | some address =>
      if subnet.contains address then .ok ()
      else
        let address := address.text
        refuse .forbidden s!"{address} is not in the trusted subnet"

def encodedLimit : Nat := 4 * 1024 * 1024

def isGzipped (request : Request) : Bool :=
  match request.header? "content-encoding" with
  | some encoding => lower encoding = "gzip"
  | none => false

/-- The octets in a body: what its sealing, if it opens, and its compression left of them. -/
def decodeBody (decryptor : Option Rsa.PrivateKey) (gzipped : Bool) (body : Bytes) :
    Except Refusal Bytes := do
  if encodedLimit < body.length then
    refuse .badRequest "failed to read body: length limit exceeded"
  else
    let packed ← if gzipped then
      (Gzip.decompress body).mapError fun fault =>
        ⟨.badRequest, "failed to decompress body: " ++ (Failure.io (.gzip fault)).message⟩
      else pure body
    match decryptor with
    | none => return packed
    | some key => return (key.decrypt packed).toOption.getD packed

def Settings.decode (settings : Settings) (request : Request) : Except Refusal Request := do
  if isGzipped request || settings.decryptor.isSome then
    let body ← decodeBody settings.decryptor (isGzipped request) request.body
    return { request with body := body }
  else return request

/-- Admits and decodes a request before it is responded to, and compresses what it is answered. -/
def Settings.around (settings : Settings) (request : Request)
    (respond : Request → State → Response × State) (state : State) : Response × State :=
  let decoded := do
    settings.admit request
    settings.decode request
  let (response, state) := match decoded with
    | .ok decoded => respond decoded state
    | .error refusal => (refusal.toResponse, state)
  (response.compressedFor request, state)

/-- Answers a request. A request for the head of a response is answered without the body; one with a
method that its endpoint does not take learns those that it does. -/
def Settings.serve (settings : Settings) (backend : Backend State) (request : Request)
    (state : State) : Response × State :=
  match Endpoint.ofPath? request.path with
  | none => settings.around request (fun _ state => (.empty 404, state)) state
  | some endpoint =>
    if endpoint.takes request.method then
      let (response, state) :=
        settings.around request (endpoint.respond backend settings.key) state
      (if request.method = "HEAD" then { response with body := [] } else response, state)
    else
      let (response, state) := settings.around request (fun _ state => (.empty 405, state)) state
      (response.addHeader "allow" endpoint.allowed, state)

end Telemetry.Server
