import Telemetry.Network.Socket
import Telemetry.Server.Service
import Telemetry.Storage.Vault

namespace Telemetry.Server

open Telemetry Http

/-! A server from its start to its end. -/

structure Running where
  settings : Settings
  vault : Vault

def openVault (config : StorageConfig) (machine : Machine) : Except Failure Vault × Machine :=
  match Vault.opened (Storage.ofConfig config machine) with
  | (.ok vault, machine) =>
    (.ok (if vault.storage.needsSnapshots then vault.startTask else vault), machine)
  | failed => failed

def Settings.ofConfig (config : ServerConfig) (disk : Disk) : Except Failure Settings := do
  let decryptor ← config.cryptoKey.mapM fun path =>
    Rsa.PrivateKey.ofFile path (disk.readText path)
  return ⟨config.hashKey, decryptor, ← config.subnet⟩

def listen (network : Network) (address : String) : Except Failure Unit :=
  match network.locate address >>= network.listen with
  | .ok () => .ok ()
  | .error cause => .error (.network (.bind address cause))

/-- Starts a server: storage first, then keys and subnet, then the listening. The answer is the
server, or what went wrong and the machine as it is then. -/
def start (network : Network) (config : ServerConfig) (machine : Machine) :
    Except Failure Running × Machine :=
  match config.validate with
  | .error failure => (.error failure, machine)
  | .ok () =>
    match openVault config.storage machine with
    | (.error failure, machine) => (.error failure, machine)
    | (.ok vault, machine) =>
      let settings := do
        let settings ← Settings.ofConfig config machine.disk
        listen network config.address
        return settings
      (settings.map (⟨·, vault⟩), machine)

namespace Running

def serve (server : Running) (request : Request) : Response × Running :=
  let (response, state) :=
    server.settings.serve Storage.backend request server.vault.state
  (response, { server with vault := server.vault.withState state })

/-- Stops the server, which writes the last snapshot if it is one that writes them. -/
def stop (server : Running) : Machine := server.vault.stop.2.close

end Running

def startAndStop (network : Network) (config : ServerConfig) (machine : Machine) :
    Except Failure Unit × Machine :=
  match start network config machine with
  | (.error failure, machine) => (.error failure, machine)
  | (.ok server, _) => (.ok (), server.stop)

end Telemetry.Server
