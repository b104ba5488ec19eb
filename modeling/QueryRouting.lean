import QueryRouting.Ascending
import QueryRouting.Bytes.BigEndian
import QueryRouting.Bytes.Hex
import QueryRouting.Text.CodeRanges
import QueryRouting.Text.Blank
import QueryRouting.Text.ExtendingMark
import QueryRouting.Text.Invisible
import QueryRouting.Text.Numeral
import QueryRouting.Text.Quoted
import QueryRouting.Text.Utf8
import QueryRouting.Calendar.Date
import QueryRouting.Calendar.TimeOfDay
import QueryRouting.Calendar.Instant
import QueryRouting.Address.Ip
import QueryRouting.Address.IpText
import QueryRouting.Address.Endpoint
import QueryRouting.Column.Type
import QueryRouting.Column.Float
import QueryRouting.Column.Uuid
import QueryRouting.Column.Value
import QueryRouting.Key.Error
import QueryRouting.Key.Codec
import QueryRouting.Key.MixHash
import QueryRouting.Key.Fold
import QueryRouting.Key.Routing
import QueryRouting.Consistency
import QueryRouting.TableName
import QueryRouting.Statement
import QueryRouting.Host.Basic
import QueryRouting.Host.Registry
import QueryRouting.Host.Fleet
import QueryRouting.Partition.Basic
import QueryRouting.Partition.Split
import QueryRouting.Event
import QueryRouting.Cluster.Role
import QueryRouting.Cluster.Basic
import QueryRouting.Cluster.Refresh
import QueryRouting.Policy.Distance
import QueryRouting.Policy.Unrouted
import QueryRouting.Policy.Rotation
import QueryRouting.Policy.Shuffle
import QueryRouting.Policy.Generic
import QueryRouting.Policy.Basic
import QueryRouting.Policy.Routed
import QueryRouting.Policy.Plan
import QueryRouting.Policy.Placement
import QueryRouting.Router
import QueryRouting.Json.Token
import QueryRouting.Json.Tree
import QueryRouting.Json.Writer
import QueryRouting.Config.Basic
import QueryRouting.Config.Document
import QueryRouting.Config.Environment
import QueryRouting.Config.Policy
import QueryRouting.Proofs.Text.Blank
import QueryRouting.Proofs.Text.Utf8
import QueryRouting.Proofs.Calendar.Date
import QueryRouting.Proofs.Partition.Lookup
import QueryRouting.Proofs.Partition.Index
import QueryRouting.Proofs.Cluster.Rows
import QueryRouting.Proofs.Cluster.Ingest
import QueryRouting.Proofs.Partition.Disjoint
import QueryRouting.Proofs.Host.Registry
import QueryRouting.Proofs.Policy.Drain
import QueryRouting.Proofs.Policy.Routing
import QueryRouting.Proofs.Policy.Ownership
import QueryRouting.Proofs.Policy.Uniqueness
import QueryRouting.Proofs.Policy.Availability
import QueryRouting.Proofs.Policy.Pulls
import QueryRouting.Proofs.Policy.Discipline
import QueryRouting.Proofs.Session.Basic
import QueryRouting.Proofs.Session.Registration
import QueryRouting.Proofs.Key.Codec
import QueryRouting.Proofs.Key.Canonical
import QueryRouting.Proofs.Cluster.Publication
import QueryRouting.Proofs.Policy.Datacenter
import QueryRouting.Proofs.Policy.Fallback
import QueryRouting.Proofs.Key.Bytewise
import QueryRouting.Proofs.Key.Lossless
import QueryRouting.Proofs.Key.Limbs
import QueryRouting.Proofs.Policy.Batch
import QueryRouting.Proofs.Policy.Level
import QueryRouting.Proofs.Session.Handles
import QueryRouting.Proofs.Calendar.Instant
import QueryRouting.Proofs.Key.Timestamp
import QueryRouting.Proofs.Key.Acceptance
import QueryRouting.Proofs.Key.Separation
import QueryRouting.Proofs.Calendar.Order
import QueryRouting.Proofs.Key.Buffer
import QueryRouting.Proofs.Key.Refusal
import QueryRouting.Proofs.Key.Locality
import QueryRouting.Proofs.Key.Temporal
import QueryRouting.Proofs.Calendar.NextDay
import QueryRouting.Proofs.Key.ConsecutiveDays
import QueryRouting.Proofs.Session.Yields
import QueryRouting.Proofs.Session.Relocation
import QueryRouting.Proofs.Session.Rotation
import QueryRouting.Proofs.Session.Wrapping
import QueryRouting.Proofs.Cluster.Leadership
import QueryRouting.Proofs.Cluster.Accounting
import QueryRouting.Proofs.Cluster.FullName
import QueryRouting.Proofs.Policy.Trace
import QueryRouting.Proofs.Session.Log
import QueryRouting.Proofs.Session.Liveness
import QueryRouting.Proofs.Consistency
import QueryRouting.Proofs.Config.Environment
