import Telemetry.Decimal.Reader
import Telemetry.Failure
import Telemetry.Network.Address
import Telemetry.Text.Blank

namespace Telemetry

open Telemetry

/-! Places on the network, written as a host and a number with a colon between them, and what can be
reached there. -/

structure Socket where
  address : Address
  /-- Which of the services at the address is meant. -/
  service : UInt16
  deriving DecidableEq, Repr

structure Network where
  /-- The address that a name stands for. -/
  resolve : String → Option Address
  /-- The own address that an address is talked to from. -/
  route : Address → Except SystemError Address
  listen : Socket → Except SystemError Unit

namespace Socket

def splitService? (written : List Char) : Option (List Char × List Char) :=
  (Text.splitOnce? ':' written.reverse).map fun (service, host) =>
    (host.reverse, service.reverse)

def readService? (written : List Char) : Option UInt16 :=
  (Decimal.readNat? 0xFFFF written).map UInt16.ofNat

/-- An address as a host; one with colons may stand in brackets. -/
def literal? (host : List Char) : Option Address :=
  match host with
  | '[' :: rest =>
    match rest.reverse with
    | ']' :: inner => match Address.ofText? (String.ofList inner.reverse) with
      | some (.v6 bits) => some (.v6 bits)
      | _ => none
    | _ => none
  | _ => Address.ofText? (String.ofList host)

end Socket

namespace Network

/-- The place that a text means. -/
def locate (network : Network) (text : String) : Except SystemError Socket :=
  match Socket.splitService? text.toList with
  | none => .error .invalidSocketAddress
  | some (host, service) =>
    match Socket.readService? service with
    | none => .error .invalidPort
    | some service =>
      match (Socket.literal? host).or (network.resolve (String.ofList host)) with
      | some address => .ok ⟨address, service⟩
      | none => .error .nameUnresolved

end Network

end Telemetry
