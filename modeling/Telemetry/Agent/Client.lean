import Telemetry.Agent.Delivery
import Telemetry.Http.Message

namespace Telemetry

open Telemetry Http

/-! The way of reports over HTTP. -/

structure Client where
  url : String
  /-- The address that requests are said to come from. -/
  host : Address

namespace Client

def path : DeliveryMode → String
  | .single => "/update/"
  | .batch => "/updates/"

def request? (client : Client) (mode : DeliveryMode) (body : Bytes) : Option Request :=
  Request.ofParts? "POST" (client.url ++ path mode)
    [("content-type", Bytes.ofText "application/json"), ("content-encoding", Bytes.ofText "gzip"),
      ("x-real-ip", Bytes.ofText client.host.text)] body

def outcome (response : Response) : Except Failure Unit :=
  if 400 ≤ response.status then .error (.http (.status response.status)) else .ok ()

/-- Sends bodies to a server, of which nothing is heard if it cannot be reached. -/
def transport {World : Type} (client : Client)
    (server : Request → World → Option (Response × World)) : Transport World :=
  fun mode body site =>
    match client.request? mode body with
    | none => (⟨0, .error (.http .invalidUrl)⟩, site)
    | some request =>
      match server request site.world with
      | none => (⟨0, .error (.http .unreachable)⟩, site)
      | some (response, world) => (⟨0, outcome response⟩, { site with world := world })

end Client

end Telemetry
