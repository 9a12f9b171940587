import Telemetry.CommandLine.ConfigFile
import Telemetry.CommandLine.Options
import Telemetry.Config.File

namespace Telemetry.CommandLine

open Telemetry

/-! The command line of the server. -/

structure ServerArguments where
  address : Option String
  storeInterval : Option Duration
  storeFile : Option String
  restore : Option Bool
  databaseDsn : Option String
  storage : Option BackendKind
  keyValuePath : Option String
  key : Option String
  cryptoKey : Option String
  trustedSubnet : Option String
  config : Option String
  debug : Bool
  checkConfig : Bool
  deriving DecidableEq, Repr

namespace ServerArguments

def parameters : List Parameter := [
  ⟨"address", some 'a', some "ADDRESS", .text⟩,
  ⟨"store-interval", some 'i', some "STORE_INTERVAL", .duration⟩,
  ⟨"store-file", some 'f', some "STORE_FILE", .path⟩,
  ⟨"restore", some 'r', some "RESTORE", .boolean⟩,
  ⟨"database-dsn", some 'd', some "DATABASE_DSN", .text⟩,
  ⟨"storage", none, some "STORAGE", .choice ["file", "database", "kv"]⟩,
  ⟨"kv-path", none, some "KV_PATH", .path⟩,
  ⟨"key", some 'k', some "KEY", .text⟩,
  ⟨"crypto-key", none, some "CRYPTO_KEY", .path⟩,
  ⟨"trusted-subnet", some 't', some "TRUSTED_SUBNET", .text⟩,
  ⟨"config", some 'c', some "CONFIG", .path⟩,
  ⟨"debug", none, some "RUNMETRICS_DEBUG", .flag⟩,
  ⟨"check-config", none, none, .flag⟩]

def ofValues (values : Values) : ServerArguments where
  address := values.text? "address"
  storeInterval := values.duration? "store-interval"
  storeFile := values.text? "store-file"
  restore := values.boolean? "restore"
  databaseDsn := values.text? "database-dsn"
  storage := (values.text? "storage").bind BackendKind.ofName?
  keyValuePath := values.text? "kv-path"
  key := values.text? "key"
  cryptoKey := values.text? "crypto-key"
  trustedSubnet := values.text? "trusted-subnet"
  config := values.text? "config"
  debug := values.flag "debug"
  checkConfig := values.flag "check-config"

def read (arguments : List String) (environment : String → Option String) :
    Except Refusal ServerArguments :=
  (CommandLine.read parameters arguments environment).map ofValues

def changes (arguments : ServerArguments) : List (ServerConfig → ServerConfig) :=
  [arguments.address.map fun address config => { config with address },
    arguments.storeInterval.map fun interval config =>
      { config with storage.storeInterval := interval },
    arguments.storeFile.map fun path config => { config with storage.storeFile := path },
    arguments.restore.map fun restore config => { config with storage.restore := restore },
    arguments.databaseDsn.map fun dsn config => { config with storage.databaseDsn := some dsn },
    arguments.storage.map fun kind config => { config with storage.backend := some kind },
    arguments.keyValuePath.map fun path config =>
      { config with storage.keyValuePath := some path },
    arguments.key.map fun hashKey config => { config with hashKey },
    arguments.cryptoKey.map fun path config => { config with cryptoKey := some path },
    arguments.trustedSubnet.map fun cidr config => { config with trustedSubnet := some cidr },
    if arguments.debug then some fun config => { config with debug := true } else none].filterMap id

def override (arguments : ServerArguments) (config : ServerConfig) : ServerConfig :=
  arguments.changes.foldl (fun config change => change config) config

/-- The configuration of a file, if there is one, with the changes of the arguments. -/
def configure (arguments : ServerArguments) (content : Option String) :
    Except Failure ServerConfig := do
  let config ← match content with
    | some text => ServerConfig.ofText text
    | none => .ok ServerConfig.standard
  let config := arguments.override config
  config.validate
  return config

def load (arguments : ServerArguments) (disk : Disk) (environment : String → Option String) :
    Except Failure ServerConfig := do
  arguments.configure (← readConfigFile disk environment "server" arguments.config)

end ServerArguments

def serverReport (config : ServerConfig) : String :=
  let subnet := match config.subnet with
    | .ok (some subnet) => "  Trusted subnet: " ++ subnet.text ++ "\n"
    | _ => ""
  "Configuration is valid!\n" ++
  "  Address: " ++ config.address ++ "\n" ++
  "  Storage: " ++ config.storage.effective.title ++ "\n" ++ subnet

end Telemetry.CommandLine
