import Telemetry.Failure
import Telemetry.Http.Message
import Telemetry.Json.Value

namespace Telemetry.Http

open Telemetry

/-! Requests that are answered with an error. -/

inductive RefusalKind where
  | badRequest
  | forbidden
  | notFound
  | notImplemented
  | internal
  deriving DecidableEq, Repr

namespace RefusalKind

def status : RefusalKind → Nat
  | .badRequest => 400
  | .forbidden => 403
  | .notFound => 404
  | .notImplemented => 501
  | .internal => 500

def title : RefusalKind → String
  | .badRequest => "Bad Request"
  | .forbidden => "Forbidden"
  | .notFound => "Not Found"
  | .notImplemented => "Not Implemented"
  | .internal => "Internal Error"

end RefusalKind

structure Refusal where
  kind : RefusalKind
  message : String
  deriving DecidableEq, Repr

namespace Refusal

/-- Failures of the client keep their kind, all others are internal. -/
def ofFailure (failure : Failure) : Refusal :=
  match failure with
  | .badRequest _ => ⟨.badRequest, failure.message⟩
  | .notFound _ => ⟨.notFound, failure.message⟩
  | .notImplemented _ => ⟨.notImplemented, failure.message⟩
  | _ => ⟨.internal, failure.message⟩

def text (refusal : Refusal) : String := refusal.kind.title ++ ": " ++ refusal.message

def body (refusal : Refusal) : Bytes :=
  Json.writeObject [("error", Json.writeText refusal.message),
    ("status", Bytes.ofText (Decimal.natText refusal.kind.status))]

def toResponse (refusal : Refusal) : Response := .json refusal.kind.status refusal.body

end Refusal

end Telemetry.Http
