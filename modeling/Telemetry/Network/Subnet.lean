import Telemetry.Network.Address
import Telemetry.Decimal.Reader
import Telemetry.Text.Blank
import Telemetry.Failure

namespace Telemetry

open Telemetry

/-! Address ranges: all addresses of one family that share the first bits with a given one. -/

structure Subnet where
  network : Address
  length : Nat
  length_le : length ≤ network.width
  deriving DecidableEq

namespace Subnet

/-- The word of a given width whose first bits, so many, are set. -/
def mask (width length : Nat) : BitVec width :=
  if length = 0 then 0 else BitVec.allOnes width <<< (width - length)

/-- Whether an address is of the range's family and shares its first bits. -/
def contains (subnet : Subnet) (address : Address) : Bool :=
  match subnet.network, address with
  | .v4 network, .v4 bits =>
    network &&& mask 32 subnet.length = bits &&& mask 32 subnet.length
  | .v6 network, .v6 bits =>
    network &&& mask 128 subnet.length = bits &&& mask 128 subnet.length
  | _, _ => false

/-- Reads an address, a slash and the number of shared bits. -/
def ofText (text : String) : Except Failure Subnet :=
  match Text.splitOnce? '/' (Text.trimChars text.toList) with
  | none => .error (.config (.notCidr text))
  | some (network, length) =>
    let written := String.ofList network
    match Address.ofText? written with
    | none => .error (.config (.subnetAddress written))
    | some network =>
      match Decimal.readNat? 255 length with
      | none => .error (.config (.prefixLength (String.ofList length)))
      | some length =>
        if length_le : length ≤ network.width then .ok ⟨network, length, length_le⟩
        else .error (.config (.prefixTooLong length network.width network.text))

def text (subnet : Subnet) : String :=
  subnet.network.text ++ "/" ++ Decimal.natText subnet.length

end Subnet

end Telemetry
