import Telemetry.Duration.Basic
import Telemetry.Network.Subnet

namespace Telemetry

open Telemetry

/-! Configurations of the agent and of the server, their defaults and what makes them valid. -/

inductive LogLevel where
  | trace
  | debug
  | info
  | warn
  | error
  deriving DecidableEq, Repr

def LogLevel.name : LogLevel → String
  | .trace => "trace"
  | .debug => "debug"
  | .info => "info"
  | .warn => "warn"
  | .error => "error"

def LogLevel.ofName? (name : String) : Option LogLevel :=
  [.trace, .debug, .info, .warn, .error].find? fun (level : LogLevel) => level.name = name

structure Logging where
  level : LogLevel
  structured : Bool
  deriving DecidableEq, Repr

def Logging.standard : Logging := ⟨.info, false⟩

/-- Whether a report sends one request for each metric or one for all. -/
inductive DeliveryMode where
  | single
  | batch
  deriving DecidableEq, Repr

namespace DeliveryMode

def name : DeliveryMode → String
  | .single => "single"
  | .batch => "batch"

def title : DeliveryMode → String
  | .single => "Single"
  | .batch => "Batch"

def ofName? (name : String) : Option DeliveryMode :=
  [.single, .batch].find? fun (mode : DeliveryMode) => mode.name = name

end DeliveryMode

inductive BackendKind where
  | file
  | database
  | keyValue
  deriving DecidableEq, Repr

namespace BackendKind

def name : BackendKind → String
  | .file => "file"
  | .database => "database"
  | .keyValue => "kv"

def title : BackendKind → String
  | .file => "File"
  | .database => "Database"
  | .keyValue => "Kv"

def ofName? (name : String) : Option BackendKind :=
  [.file, .database, .keyValue].find? fun (kind : BackendKind) => kind.name = name

end BackendKind

def defaultAddress : String := "localhost:8080"

structure AgentConfig where
  address : String
  pollInterval : Duration
  reportInterval : Duration
  rateLimit : Nat
  hashKey : String
  cryptoKey : Option String
  /-- The address that reports carry, found out if it is not given. -/
  hostAddress : Option Address
  deliveryMode : DeliveryMode
  requestTimeout : Duration
  logging : Logging
  debug : Bool
  deriving DecidableEq, Repr

namespace AgentConfig

def standard : AgentConfig where
  address := defaultAddress
  pollInterval := .ofSeconds 2
  reportInterval := .ofSeconds 10
  rateLimit := 100
  hashKey := ""
  cryptoKey := none
  hostAddress := none
  deliveryMode := .batch
  requestTimeout := .ofSeconds 5
  logging := .standard
  debug := false

def validate (config : AgentConfig) : Except Failure Unit :=
  if Text.trim config.address = "" then .error (.config .emptyServerAddress)
  else if config.pollInterval.isZero then .error (.config .zeroPollInterval)
  else if config.reportInterval.isZero then .error (.config .zeroReportInterval)
  else if config.rateLimit = 0 then .error (.config .zeroRateLimit)
  else .ok ()

def serverUrl (config : AgentConfig) : String :=
  let url := Text.trimEndOf '/' config.address
  if config.address.startsWith "http://" || config.address.startsWith "https://" then url
  else "http://" ++ url

end AgentConfig

structure StorageConfig where
  /-- The backend that is asked for, if one is. -/
  backend : Option BackendKind
  storeFile : String
  /-- The time between snapshots; none at all means a snapshot after each write. -/
  storeInterval : Duration
  restore : Bool
  databaseDsn : Option String
  maxConnections : Nat
  keyValuePath : Option String
  deriving DecidableEq, Repr

namespace StorageConfig

def standard : StorageConfig where
  backend := none
  storeFile := "/tmp/devops-metrics-db.json"
  storeInterval := .ofSeconds 300
  restore := true
  databaseDsn := none
  maxConnections := 5
  keyValuePath := none

/-- The backend to open: the one asked for, else the database if there is a name for one. -/
def effective (config : StorageConfig) : BackendKind :=
  match config.backend, config.databaseDsn with
  | some kind, _ => kind
  | none, some _ => .database
  | none, none => .file

end StorageConfig

structure ServerConfig where
  address : String
  hashKey : String
  cryptoKey : Option String
  /-- The agents that may talk to the server, if not all. -/
  trustedSubnet : Option String
  storage : StorageConfig
  logging : Logging
  debug : Bool
  deriving DecidableEq, Repr

namespace ServerConfig

def standard : ServerConfig where
  address := defaultAddress
  hashKey := ""
  cryptoKey := none
  trustedSubnet := none
  storage := .standard
  logging := .standard
  debug := false

/-- The addresses of the agents that may talk to the server; a blank text leaves all in. -/
def subnet (config : ServerConfig) : Except Failure (Option Subnet) :=
  match config.trustedSubnet.map Text.trim with
  | none => .ok none
  | some text => if text = "" then .ok none else (Subnet.ofText text).map some

def validate (config : ServerConfig) : Except Failure Unit := do
  if Text.trim config.address = "" then .error (.config .emptyListenAddress)
  else
    let _ ← config.subnet
    if config.storage.effective = .database then
      if config.storage.databaseDsn.isNone then .error (.config .missingDsn)
      else if config.storage.maxConnections = 0 then .error (.config .zeroConnections)
      else .ok ()
    else .ok ()

end ServerConfig

end Telemetry
