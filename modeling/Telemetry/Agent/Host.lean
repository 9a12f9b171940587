import Telemetry.Config.Basic
import Telemetry.Network.Socket

namespace Telemetry

open Telemetry

/-! The address that an agent reports under: the one it is told, else the one that the server is
talked to from. -/

/-- The server without its scheme and without slashes at its end. -/
def bareServer (server : String) : String :=
  let bare := Text.trimStartsOf "https://".toList (Text.trimStartsOf "http://".toList server.toList)
  Text.trimEndOf '/' (String.ofList bare)

/-- The own address that the server is talked to from. -/
def Network.discoverHost (network : Network) (server : String) : Except Failure Address :=
  let target := bareServer server
  match network.locate target >>= fun socket => network.route socket.address with
  | .ok address => .ok address
  | .error cause => .error (.network (.noRoute target cause))

/-- The address to report under; an agent that finds out none takes the loopback. -/
def AgentConfig.resolveHost (config : AgentConfig) (network : Network) : Address :=
  config.hostAddress.getD ((network.discoverHost config.address).toOption.getD .loopback)

end Telemetry
