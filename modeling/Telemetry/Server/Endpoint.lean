import Telemetry.Text.Blank

namespace Telemetry.Server

open Telemetry

/-! The paths that the server answers. -/

inductive Endpoint where
  | listing
  | ping
  | update
  | updates
  /-- Saves the metric that the path spells out. -/
  | updateNamed (kind name value : String)
  | lookup
  | lookupNamed (kind name : String)
  deriving DecidableEq, Repr

namespace Endpoint

/-- The endpoint at a path. Of the parts that vary, only the last must not be empty. -/
def ofPath? (path : String) : Option Endpoint :=
  match Text.pieces '/' path with
  | ["", ""] => some .listing
  | ["", "ping"] => some .ping
  | ["", "update", ""] => some .update
  | ["", "updates", ""] => some .updates
  | ["", "update", kind, name, value] =>
    if value = "" then none else some (.updateNamed kind name value)
  | ["", "value", ""] => some .lookup
  | ["", "value", kind, name] => if name = "" then none else some (.lookupNamed kind name)
  | _ => none

/-- Whether an endpoint only reads what its path names. -/
def isRead : Endpoint → Bool
  | .listing | .ping | .lookupNamed _ _ => true
  | _ => false

/-- What may be asked of an endpoint. -/
def takes (endpoint : Endpoint) (method : String) : Bool :=
  if endpoint.isRead then method = "GET" || method = "HEAD" else method = "POST"

def allowed (endpoint : Endpoint) : String := if endpoint.isRead then "GET,HEAD" else "POST"

end Endpoint

end Telemetry.Server
