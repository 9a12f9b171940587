import Telemetry.Digest.Sha256

namespace Telemetry.Hmac

open Telemetry

/-! Keyed digests: HMAC over SHA-256. -/

def blockSize : Nat := 64

/-- The key of one block: longer keys are digested first, shorter ones filled with zeros. -/
def blockKey (key : Bytes) : Bytes :=
  let key := if blockSize < key.length then Sha256.digest key else key
  key ++ List.replicate (blockSize - key.length) 0

def digest (key message : Bytes) : Bytes :=
  let key := blockKey key
  let inner := Sha256.digest (key.map (· ^^^ 0x36) ++ message)
  Sha256.digest (key.map (· ^^^ 0x5c) ++ inner)

@[simp] theorem length_digest (key message : Bytes) : (digest key message).length = 32 := rfl

end Telemetry.Hmac
