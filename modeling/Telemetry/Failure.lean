import Telemetry.Json.Basic
import Telemetry.Decimal.Basic
import Telemetry.Text.Quoted

namespace Telemetry

/-! What can go wrong. A failure is a cause; its text, the category it is logged under and whether
the next attempt may succeed are functions of the cause. -/

inductive SystemError where
  | noSuchFile
  | permissionDenied
  | alreadyExists
  | notDirectory
  | isDirectory
  | invalidArgument
  | nameTooLong
  | directoryNotEmpty
  | familyUnsupported
  | addressInUse
  | addressNotAvailable
  | networkUnreachable
  | nameUnresolved
  | invalidUtf8
  | zeroByte
  | invalidSocketAddress
  | invalidPort
  deriving DecidableEq, Repr

def SystemError.message : SystemError → String
  | .noSuchFile => "No such file or directory (os error 2)"
  | .permissionDenied => "Permission denied (os error 13)"
  | .alreadyExists => "File exists (os error 17)"
  | .notDirectory => "Not a directory (os error 20)"
  | .isDirectory => "Is a directory (os error 21)"
  | .invalidArgument => "Invalid argument (os error 22)"
  | .nameTooLong => "File name too long (os error 36)"
  | .directoryNotEmpty => "Directory not empty (os error 39)"
  | .familyUnsupported => "Address family not supported by protocol (os error 97)"
  | .addressInUse => "Address already in use (os error 98)"
  | .addressNotAvailable => "Cannot assign requested address (os error 99)"
  | .networkUnreachable => "Network is unreachable (os error 101)"
  | .nameUnresolved => "failed to lookup address information: Name or service not known"
  | .invalidUtf8 => "stream did not contain valid UTF-8"
  | .zeroByte => "file name contained an unexpected NUL byte"
  | .invalidSocketAddress => "invalid socket address"
  | .invalidPort => "invalid port value"

/-- Why a request is refused as it stands. -/
inductive Rejection where
  | missingValue (id : String)
  | missingDelta (id : String)
  | noCanonicalForm (id : String)
  | malformedSignature (id : String)
  | wrongSignature (id : String)
  | overflow (id : String)
  | stated (text : String)
  deriving DecidableEq, Repr

def Rejection.message : Rejection → String
  | .missingValue id => s!"no value in update request for gauge '{id}'"
  | .missingDelta id => s!"no delta in update request for counter '{id}'"
  | .noCanonicalForm id => s!"metric '{id}' has no canonical form"
  | .malformedSignature id => s!"malformed hash for '{id}'"
  | .wrongSignature id => s!"wrong hash in request for '{id}'"
  | .overflow id => s!"counter '{id}' would overflow"
  | .stated text => text

/-- What a query did not find. -/
inductive Absence where
  | unknownKind (id kind : String)
  | nothingSaved (kind id : String)
  | stated (text : String)
  deriving DecidableEq, Repr

def Absence.message : Absence → String
  | .unknownKind id kind => s!"no metric '{id}' of type '{kind}'"
  | .nothingSaved kind id => s!"no {kind} '{id}'"
  | .stated text => text

inductive Unsupported where
  | unknownKind (kind : String)
  | stated (text : String)
  deriving DecidableEq, Repr

def Unsupported.message : Unsupported → String
  | .unknownKind kind => s!"no such type of metric: {kind}"
  | .stated text => text

inductive StorageFault where
  | unknownRowKind (id kind : String)
  | stated (text : String)
  deriving DecidableEq, Repr

def StorageFault.message : StorageFault → String
  | .unknownRowKind id kind => s!"row '{id}' has unknown type '{kind}'"
  | .stated text => text

inductive DatabaseFault where
  | poolTimedOut
  | rowNotFound
  | cannotOpen
  | notDatabase
  | readOnly
  | columnType
  deriving DecidableEq, Repr

def DatabaseFault.message : DatabaseFault → String
  | .poolTimedOut => "pool timed out while waiting for an open connection"
  | .rowNotFound => "no rows returned by a query that expected to return at least one row"
  | .cannotOpen => "unable to open database file"
  | .notDatabase => "file is not a database"
  | .readOnly => "attempt to write a readonly database"
  | .columnType => "column holds a value of another type"

inductive Misconfiguration where
  | notCidr (text : String)
  | subnetAddress (text : String)
  | prefixLength (text : String)
  | prefixTooLong (length limit : Nat) (network : String)
  | emptyServerAddress
  | emptyListenAddress
  | zeroPollInterval
  | zeroReportInterval
  | zeroRateLimit
  | zeroConnections
  | missingDsn
  | malformedYaml
  | unreadableFile (path : String) (cause : SystemError)
  | databaseScheme (scheme : String)
  | malformedDsn
  | keyValuePath (path : String)
  | stated (text : String)
  deriving DecidableEq, Repr

def Misconfiguration.message : Misconfiguration → String
  | .notCidr text => s!"trusted subnet '{text}' is not CIDR"
  | .subnetAddress text => s!"invalid subnet address '{text}'"
  | .prefixLength text => s!"invalid prefix length '{text}'"
  | .prefixTooLong length limit network =>
    let length := Decimal.natText length
    let limit := Decimal.natText limit
    s!"prefix length {length} exceeds {limit} for {network}"
  | .emptyServerAddress => "server address must not be empty"
  | .emptyListenAddress => "listen address must not be empty"
  | .zeroPollInterval => "poll_interval must be greater than 0"
  | .zeroReportInterval => "report_interval must be greater than 0"
  | .zeroRateLimit => "rate_limit must be greater than 0"
  | .zeroConnections => "max_connections must be greater than 0"
  | .missingDsn => "database backend requires database_dsn"
  | .malformedYaml => "Failed to parse YAML config: malformed document"
  | .unreadableFile path cause =>
    let path := Text.quotedPath path
    let cause := cause.message
    s!"Failed to read config file {path}: {cause}"
  | .databaseScheme scheme => s!"unsupported database scheme '{scheme}'"
  | .malformedDsn => "invalid database DSN: malformed parameter"
  | .keyValuePath path =>
    let path := Text.quotedPath path
    s!"kv_path {path} needs the `persistent` feature"
  | .stated text => text

inductive NetworkFault where
  | bind (address : String) (cause : SystemError)
  | noRoute (target : String) (cause : SystemError)
  | stated (text : String)
  deriving DecidableEq, Repr

def NetworkFault.message : NetworkFault → String
  | .bind address cause =>
    let cause := cause.message
    s!"Failed to bind HTTP server to {address}: {cause}"
  | .noRoute target cause =>
    let cause := cause.message
    s!"cannot route to {target}: {cause}"
  | .stated text => text

inductive CryptoFault where
  | publicKeyFile (path : String) (cause : SystemError)
  | privateKeyFile (path : String) (cause : SystemError)
  | publicKey
  | privateKey
  | messageTooLong
  | decryption
  | stated (text : String)
  deriving DecidableEq, Repr

def CryptoFault.message : CryptoFault → String
  | .publicKeyFile path cause =>
    let path := Text.quotedPath path
    let cause := cause.message
    s!"error while opening crypto key file {path}: {cause}"
  | .privateKeyFile path cause =>
    let path := Text.quotedPath path
    let cause := cause.message
    s!"error while reading crypto key file {path}: {cause}"
  | .publicKey => "invalid RSA public key: malformed key"
  | .privateKey => "invalid RSA private key: malformed key"
  | .messageTooLong => "error while encrypting payload: message too long"
  | .decryption => "error while decrypting payload: decryption error"
  | .stated text => text

inductive GzipFault where
  | invalidHeader
  | headerTooLong
  | unexpectedEnd
  | incompleteData
  | corruptData
  | checksum
  deriving DecidableEq, Repr

def GzipFault.message : GzipFault → String
  | .invalidHeader => "invalid gzip header"
  | .headerTooLong => "gzip header field too long"
  | .unexpectedEnd => "unexpected end of file"
  | .incompleteData => "incomplete deflate stream"
  | .corruptData => "corrupt deflate stream"
  | .checksum => "corrupt gzip stream does not have a matching checksum"

inductive IoFault where
  | system (cause : SystemError)
  | gzip (cause : GzipFault)
  | statistics (path : String) (cause : SystemError)
  | cpuLine (line : String)
  | noCpuLines
  | stated (text : String)
  deriving DecidableEq, Repr

def IoFault.message : IoFault → String
  | .system cause => cause.message
  | .gzip cause => cause.message
  | .statistics path cause =>
    let cause := cause.message
    s!"failed to read {path}: {cause}"
  | .cpuLine line => s!"malformed cpu line: {line}"
  | .noCpuLines => "no per-core lines in /proc/stat"
  | .stated text => text

def Json.Fault.message : Json.Fault → String
  | .malformed => "malformed text"
  | .mismatch => "unexpected value"
  | .unexpectedEnd => "unexpected end"

/-- How a delivery over HTTP fails: with an answer that tells of an error, with none, or before
there is a request. -/
inductive HttpFault where
  | status (code : Nat)
  | unreachable
  | invalidUrl
  deriving DecidableEq, Repr

inductive Failure where
  | badRequest (cause : Rejection)
  | notFound (cause : Absence)
  | notImplemented (cause : Unsupported)
  | storage (cause : StorageFault)
  | database (cause : DatabaseFault)
  | config (cause : Misconfiguration)
  | network (cause : NetworkFault)
  | http (cause : HttpFault)
  | crypto (cause : CryptoFault)
  | io (cause : IoFault)
  | serialization (cause : Json.Fault)
  | join
  | cancelled
  deriving DecidableEq, Repr

namespace Failure

/-- The text shown to people and, for requests, to clients. -/
def message : Failure → String
  | .badRequest cause => "bad request: " ++ cause.message
  | .notFound cause => "not found: " ++ cause.message
  | .notImplemented cause => "not implemented: " ++ cause.message
  | .storage cause => "Storage error: " ++ cause.message
  | .database cause => "Database error: " ++ cause.message
  | .config cause => "Configuration error: " ++ cause.message
  | .network cause => "Network error: " ++ cause.message
  | .http (.status code) => "HTTP client error: status " ++ Decimal.natText code
  | .http .unreachable => "HTTP client error: server unreachable"
  | .http .invalidUrl => "HTTP client error: invalid URL"
  | .crypto cause => "Crypto error: " ++ cause.message
  | .io cause => "IO error: " ++ cause.message
  | .serialization cause => "Serialization error: " ++ cause.message
  | .join => "Async task join error: task was cancelled"
  | .cancelled => "Operation cancelled"

def category : Failure → String
  | .badRequest _ => "bad_request"
  | .notFound _ => "not_found"
  | .notImplemented _ => "not_implemented"
  | .storage _ | .database _ => "storage"
  | .config _ => "config"
  | .network _ | .http _ => "network"
  | .crypto _ => "crypto"
  | .io _ => "io"
  | .serialization _ => "serialization"
  | .join => "async"
  | .cancelled => "cancelled"

/-- Whether the next scheduled attempt may succeed where this one failed. -/
def recoverable : Failure → Bool
  | .network _ | .cancelled | .http .unreachable | .database .poolTimedOut => true
  | _ => false

/-- Whether the client is at fault. -/
def isClient : Failure → Bool
  | .badRequest _ | .notFound _ | .notImplemented _ => true
  | _ => false

end Failure

end Telemetry
