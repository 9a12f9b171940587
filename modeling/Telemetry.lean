import Telemetry.Agent.Basic
import Telemetry.Agent.Client
import Telemetry.Agent.Clock
import Telemetry.Agent.Collector
import Telemetry.Agent.Delivery
import Telemetry.Agent.Encoder
import Telemetry.Agent.Host
import Telemetry.Agent.Pool
import Telemetry.Agent.Probe
import Telemetry.Agent.Schedule
import Telemetry.Base64
import Telemetry.Binary64.Basic
import Telemetry.Bytes
import Telemetry.CommandLine.Agent
import Telemetry.CommandLine.ConfigFile
import Telemetry.CommandLine.Options
import Telemetry.CommandLine.Server
import Telemetry.Config.Basic
import Telemetry.Config.File
import Telemetry.Decimal.Basic
import Telemetry.Decimal.Reader
import Telemetry.Decimal.Shortest
import Telemetry.Decimal.Written
import Telemetry.Der
import Telemetry.Digest.Hmac
import Telemetry.Digest.Sha256
import Telemetry.Disk
import Telemetry.Duration.Basic
import Telemetry.Duration.Reader
import Telemetry.Failure
import Telemetry.Gzip.Bits
import Telemetry.Gzip.Checksum
import Telemetry.Gzip.Code
import Telemetry.Gzip.Deflate
import Telemetry.Gzip.Inflate
import Telemetry.Gzip.Member
import Telemetry.Hex
import Telemetry.Http.Compression
import Telemetry.Http.Message
import Telemetry.Http.Refusal
import Telemetry.Http.Target
import Telemetry.Json.Basic
import Telemetry.Json.Number
import Telemetry.Json.Skip
import Telemetry.Json.Text
import Telemetry.Json.Value
import Telemetry.Main
import Telemetry.Metric.Basic
import Telemetry.Metric.Sum
import Telemetry.Metric.Wire
import Telemetry.Network.Address
import Telemetry.Network.Socket
import Telemetry.Network.Subnet
import Telemetry.Pem
import Telemetry.Proofs.Agent.Balance
import Telemetry.Proofs.Agent.BatchDelivery
import Telemetry.Proofs.Agent.Cancellation
import Telemetry.Proofs.Agent.Collector
import Telemetry.Proofs.Agent.Dispatch
import Telemetry.Proofs.Agent.Encoding
import Telemetry.Proofs.Agent.Liveness
import Telemetry.Proofs.Agent.Pool
import Telemetry.Proofs.Agent.Probe
import Telemetry.Proofs.Agent.Report
import Telemetry.Proofs.Agent.Samples
import Telemetry.Proofs.Agent.SingleDelivery
import Telemetry.Proofs.Agent.Utilization
import Telemetry.Proofs.Binary64.Approximation
import Telemetry.Proofs.Binary64.Arithmetic
import Telemetry.Proofs.Binary64.Closeness
import Telemetry.Proofs.Binary64.Nearest
import Telemetry.Proofs.Binary64.Rounding
import Telemetry.Proofs.CommandLine.Precedence
import Telemetry.Proofs.Decimal.Digits
import Telemetry.Proofs.Decimal.Numeral
import Telemetry.Proofs.Decimal.Reader
import Telemetry.Proofs.Decimal.Shortest
import Telemetry.Proofs.Decimal.Written
import Telemetry.Proofs.Disk
import Telemetry.Proofs.Gzip.Bits
import Telemetry.Proofs.Gzip.Code
import Telemetry.Proofs.Gzip.Deflate
import Telemetry.Proofs.Gzip.Member
import Telemetry.Proofs.Gzip.Size
import Telemetry.Proofs.Hex
import Telemetry.Proofs.Json.Agreement
import Telemetry.Proofs.Json.Double
import Telemetry.Proofs.Json.Exact
import Telemetry.Proofs.Json.Nearby
import Telemetry.Proofs.Json.Number
import Telemetry.Proofs.Json.Numeral
import Telemetry.Proofs.Json.Text
import Telemetry.Proofs.Json.Value
import Telemetry.Proofs.Metric.Canonical
import Telemetry.Proofs.Metric.Exchange
import Telemetry.Proofs.Metric.Line
import Telemetry.Proofs.Metric.Reception
import Telemetry.Proofs.Metric.Spelled
import Telemetry.Proofs.Metric.Wire
import Telemetry.Proofs.Network.Address
import Telemetry.Proofs.Network.Subnet
import Telemetry.Proofs.Outcome
import Telemetry.Proofs.Rsa.Block
import Telemetry.Proofs.Server.Batch
import Telemetry.Proofs.Server.Effects
import Telemetry.Proofs.Server.Gate
import Telemetry.Proofs.Server.Listing
import Telemetry.Proofs.Server.Requests
import Telemetry.Proofs.Server.Shutdown
import Telemetry.Proofs.Server.Spellings
import Telemetry.Proofs.Server.Startup
import Telemetry.Proofs.Shutdown
import Telemetry.Proofs.Signature
import Telemetry.Proofs.Signature.Acceptance
import Telemetry.Proofs.Storage.Access
import Telemetry.Proofs.Storage.Admission
import Telemetry.Proofs.Storage.Atomicity
import Telemetry.Proofs.Storage.DataSource
import Telemetry.Proofs.Storage.Dump
import Telemetry.Proofs.Storage.FileStore
import Telemetry.Proofs.Storage.Gauges
import Telemetry.Proofs.Storage.Guard
import Telemetry.Proofs.Storage.Interchange
import Telemetry.Proofs.Storage.KeyValue
import Telemetry.Proofs.Storage.Ledger
import Telemetry.Proofs.Storage.Locks
import Telemetry.Proofs.Storage.Lookups
import Telemetry.Proofs.Storage.Overwriting
import Telemetry.Proofs.Storage.Permutation
import Telemetry.Proofs.Storage.Reachable
import Telemetry.Proofs.Storage.Refinement
import Telemetry.Proofs.Storage.Reordering
import Telemetry.Proofs.Storage.Replacement
import Telemetry.Proofs.Storage.Replay
import Telemetry.Proofs.Storage.Restart
import Telemetry.Proofs.Storage.RoundTrip
import Telemetry.Proofs.Storage.Sums
import Telemetry.Proofs.Storage.Synchronous
import Telemetry.Proofs.Storage.Table
import Telemetry.Proofs.Text.Blank
import Telemetry.Proofs.Text.Marks
import Telemetry.Proofs.Text.Order
import Telemetry.Proofs.Text.Percent
import Telemetry.Proofs.Text.Words
import Telemetry.Rsa.Block
import Telemetry.Rsa.Key
import Telemetry.Server.Endpoint
import Telemetry.Server.Handler
import Telemetry.Server.Running
import Telemetry.Server.Service
import Telemetry.Shutdown
import Telemetry.Signature
import Telemetry.Storage.Backend
import Telemetry.Storage.Cell
import Telemetry.Storage.DataSource
import Telemetry.Storage.FileStore
import Telemetry.Storage.KeyValue
import Telemetry.Storage.Open
import Telemetry.Storage.Record
import Telemetry.Storage.Table
import Telemetry.Storage.Vault
import Telemetry.Text.Blank
import Telemetry.Text.Percent
import Telemetry.Text.Printable
import Telemetry.Text.Quoted
import Telemetry.Yaml.Cursor
import Telemetry.Yaml.Document
import Telemetry.Yaml.Node
import Telemetry.Yaml.Scalar
