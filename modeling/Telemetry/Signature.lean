import Telemetry.Digest.Hmac
import Telemetry.Metric.Basic

namespace Telemetry.Signature

open Telemetry

/-! Signatures over the canonical text of a metric. An empty key signs nothing and accepts
everything; an unsigned metric is accepted under every key. -/

/-- The lowercase hexadecimal signature of a text. -/
def sign (text key : String) : String :=
  Hex.encode (Hmac.digest (Bytes.ofText key) (Bytes.ofText text))

def attach (metric : Metric) (key : String) : Except Failure Metric :=
  if key = "" then .ok metric
  else metric.canonical.map fun text => { metric with hash := some (sign text key) }

/-- Accepts a metric whose signature, read as hexadecimal digits in either case, is that of its
canonical text. -/
def verify (metric : Metric) (key : String) : Except Failure Unit :=
  match metric.signature with
  | none => .ok ()
  | some signature =>
    if key = "" then .ok ()
    else match Hex.decode signature with
      | none => .error (.badRequest (.malformedSignature metric.id))
      | some provided => do
        let text ← metric.canonical
        if provided = Hmac.digest (Bytes.ofText key) (Bytes.ofText text) then .ok ()
        else .error (.badRequest (.wrongSignature metric.id))

end Telemetry.Signature
