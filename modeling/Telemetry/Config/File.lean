import Telemetry.Config.Basic
import Telemetry.Duration.Reader
import Telemetry.Yaml.Document

namespace Telemetry

open Telemetry Yaml

/-! What a configuration file sets. A file may leave out any field; what it leaves out keeps its
default. Fields that are not known are passed over, known ones come once. -/

namespace Config

def members (node : Node) : Option (List (String × Node)) := do
  let entries ← node.entries?
  entries.mapM fun (key, value) => key.text?.map fun name => (name, value)

def field {α : Type} (members : List (String × Node)) (name : String) (reader : Node → Option α) :
    Option (Option α) :=
  match members.filter fun (each, _) => each = name with
  | [] => some none
  | [(_, node)] => (reader node).map some
  | _ => none

def nullable {α : Type} (reader : Node → Option α) (node : Node) : Option (Option α) :=
  match node.scalar? with
  | some scalar => do if ← scalar.isNull? then some none else (reader node).map some
  | none => (reader node).map some

def natural (limit : Nat) (node : Node) : Option Nat := do
  let number ← (← node.scalar?).natural?
  if number < limit then some number else none

def boolean (node : Node) : Option Bool := node.scalar?.bind (·.boolean?)

def duration (node : Node) : Option Duration := do
  (Duration.read (← node.text?).toList).toOption

def address (node : Node) : Option Address := node.text?.bind Address.ofText?

def choice {α : Type} (ofName? : String → Option α) (node : Node) : Option α := do
  ofName? (← (← node.scalar?).choice?)

end Config

open Config

structure LoggingFile where
  level : Option LogLevel
  structured : Option Bool
  deriving DecidableEq, Repr

namespace LoggingFile

def ofNode (node : Node) : Option LoggingFile := do
  let members ← members node
  return {
    level := ← field members "level" (choice LogLevel.ofName?)
    structured := ← field members "structured" boolean }

def complete (file : LoggingFile) : Logging where
  level := file.level.getD Logging.standard.level
  structured := file.structured.getD Logging.standard.structured

end LoggingFile

structure AgentFile where
  address : Option String
  pollInterval : Option Duration
  reportInterval : Option Duration
  rateLimit : Option Nat
  hashKey : Option String
  cryptoKey : Option (Option String)
  hostAddress : Option (Option Address)
  deliveryMode : Option DeliveryMode
  requestTimeout : Option Duration
  logging : Option LoggingFile
  deriving DecidableEq, Repr

namespace AgentFile

def ofNode (node : Node) : Option AgentFile := do
  let members ← members node
  return {
    address := ← field members "address" Node.text?
    pollInterval := ← field members "poll_interval" duration
    reportInterval := ← field members "report_interval" duration
    rateLimit := ← field members "rate_limit" (natural 0x10000000000000000)
    hashKey := ← field members "hash_key" Node.text?
    cryptoKey := ← field members "crypto_key" (nullable Node.text?)
    hostAddress := ← field members "host_address" (nullable Config.address)
    deliveryMode := ← field members "delivery_mode" (choice DeliveryMode.ofName?)
    requestTimeout := ← field members "request_timeout" duration
    logging := ← field members "logging" LoggingFile.ofNode }

def complete (file : AgentFile) : AgentConfig where
  address := file.address.getD AgentConfig.standard.address
  pollInterval := file.pollInterval.getD AgentConfig.standard.pollInterval
  reportInterval := file.reportInterval.getD AgentConfig.standard.reportInterval
  rateLimit := file.rateLimit.getD AgentConfig.standard.rateLimit
  hashKey := file.hashKey.getD AgentConfig.standard.hashKey
  cryptoKey := file.cryptoKey.getD AgentConfig.standard.cryptoKey
  hostAddress := file.hostAddress.getD AgentConfig.standard.hostAddress
  deliveryMode := file.deliveryMode.getD AgentConfig.standard.deliveryMode
  requestTimeout := file.requestTimeout.getD AgentConfig.standard.requestTimeout
  logging := (file.logging.map LoggingFile.complete).getD AgentConfig.standard.logging
  debug := AgentConfig.standard.debug

end AgentFile

structure StorageFile where
  backend : Option (Option BackendKind)
  storeFile : Option String
  storeInterval : Option Duration
  restore : Option Bool
  databaseDsn : Option (Option String)
  maxConnections : Option Nat
  keyValuePath : Option (Option String)
  deriving DecidableEq, Repr

namespace StorageFile

def ofNode (node : Node) : Option StorageFile := do
  let members ← members node
  return {
    backend := ← field members "backend" (nullable (choice BackendKind.ofName?))
    storeFile := ← field members "store_file" Node.text?
    storeInterval := ← field members "store_interval" duration
    restore := ← field members "restore" boolean
    databaseDsn := ← field members "database_dsn" (nullable Node.text?)
    maxConnections := ← field members "max_connections" (natural 0x100000000)
    keyValuePath := ← field members "kv_path" (nullable Node.text?) }

def complete (file : StorageFile) : StorageConfig where
  backend := file.backend.getD StorageConfig.standard.backend
  storeFile := file.storeFile.getD StorageConfig.standard.storeFile
  storeInterval := file.storeInterval.getD StorageConfig.standard.storeInterval
  restore := file.restore.getD StorageConfig.standard.restore
  databaseDsn := file.databaseDsn.getD StorageConfig.standard.databaseDsn
  maxConnections := file.maxConnections.getD StorageConfig.standard.maxConnections
  keyValuePath := file.keyValuePath.getD StorageConfig.standard.keyValuePath

end StorageFile

structure ServerFile where
  address : Option String
  hashKey : Option String
  cryptoKey : Option (Option String)
  trustedSubnet : Option (Option String)
  storage : Option StorageFile
  logging : Option LoggingFile
  deriving DecidableEq, Repr

namespace ServerFile

def ofNode (node : Node) : Option ServerFile := do
  let members ← members node
  return {
    address := ← field members "address" Node.text?
    hashKey := ← field members "hash_key" Node.text?
    cryptoKey := ← field members "crypto_key" (nullable Node.text?)
    trustedSubnet := ← field members "trusted_subnet" (nullable Node.text?)
    storage := ← field members "storage" StorageFile.ofNode
    logging := ← field members "logging" LoggingFile.ofNode }

def complete (file : ServerFile) : ServerConfig where
  address := file.address.getD ServerConfig.standard.address
  hashKey := file.hashKey.getD ServerConfig.standard.hashKey
  cryptoKey := file.cryptoKey.getD ServerConfig.standard.cryptoKey
  trustedSubnet := file.trustedSubnet.getD ServerConfig.standard.trustedSubnet
  storage := (file.storage.map StorageFile.complete).getD ServerConfig.standard.storage
  logging := (file.logging.map LoggingFile.complete).getD ServerConfig.standard.logging
  debug := ServerConfig.standard.debug

end ServerFile

namespace Config

def ofText {α : Type} (ofNode : Node → Option α) (text : String) : Except Failure α :=
  match (Yaml.decode text).bind ofNode with
  | some file => .ok file
  | none => .error (.config .malformedYaml)

end Config

def AgentConfig.ofText (text : String) : Except Failure AgentConfig :=
  (Config.ofText AgentFile.ofNode text).map AgentFile.complete

def StorageConfig.ofText (text : String) : Except Failure StorageConfig :=
  (Config.ofText StorageFile.ofNode text).map StorageFile.complete

def ServerConfig.ofText (text : String) : Except Failure ServerConfig :=
  (Config.ofText ServerFile.ofNode text).map ServerFile.complete

end Telemetry
