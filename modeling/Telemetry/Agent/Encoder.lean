import Telemetry.Gzip.Member
import Telemetry.Metric.Wire
import Telemetry.Rsa.Block
import Telemetry.Signature

namespace Telemetry

open Telemetry

/-! The bodies of an agent's requests: metrics are signed, written as JSON, sealed if they travel
alone and there is a key for it, and compressed. -/

structure Encoder where
  key : String
  encryptor : Option Rsa.PublicKey

namespace Encoder

/-- Seals a body, or leaves it as it is if there is no key or the body does not fit. -/
def sealBody (encoder : Encoder) (filler body : Bytes) : Bytes :=
  match encoder.encryptor with
  | none => body
  | some key => (key.encrypt filler body).toOption.getD body

def encodeOne (encoder : Encoder) (filler : Bytes) (metric : Metric) : Except Failure Bytes :=
  (Signature.attach metric encoder.key).map fun signed =>
    Gzip.compress (encoder.sealBody filler signed.toWire)

/-- The body for a whole batch, which is not sealed. -/
def encodeAll (encoder : Encoder) (metrics : List Metric) : Except Failure Bytes :=
  (metrics.mapM fun metric => Signature.attach metric encoder.key).map fun signed =>
    Gzip.compress (Metric.listToWire signed)

end Encoder

end Telemetry
