import QueryRouting.Address.Endpoint
import QueryRouting.Cluster.Role
import QueryRouting.Consistency
import QueryRouting.Policy.Unrouted
import QueryRouting.Text.Quoted

/-!
# Events

What the router reports while it works.  An event is a value of its own kind; its
severity, its message and its fields as text are read off it.

## Main definitions

* `Event` — the events.
* `Event.severity`, `Event.message`, `Event.fields` — how an event is shown.
-/

namespace QueryRouting

/-- How much attention an event asks for. -/
inductive Severity where
  | debug
  | info
  | warn
  deriving DecidableEq, Repr

/-- The name of a severity. -/
def Severity.name : Severity → String
  | .debug => "DEBUG"
  | .info => "INFO"
  | .warn => "WARN"

/-- Something that happened in the router. -/
inductive Event where
  /-- A host is registered. -/
  | hostRegistered (address : Endpoint) (datacenter rack : String)
  /-- A host is to be registered whose address is known. -/
  | hostKnown (address : Endpoint)
  /-- The host of an address is to be forgotten, if there is one. -/
  | hostUnregistered (address : Endpoint)
  /-- A host that was down is up. -/
  | hostUp (address : Endpoint)
  /-- A host that was up is down. -/
  | hostDown (address : Endpoint)
  /-- An address is to be marked up that no host has. -/
  | unknownHostUp (address : Endpoint)
  /-- An address is to be marked down that no host has. -/
  | unknownHostDown (address : Endpoint)
  /-- The split of one table is published. -/
  | splitPublished (table : String) (partitions : Nat)
  /-- A row names a replica that no registered host is. -/
  | unknownReplica (table : String) (ip : Ip) (role : ReplicaRole)
  /-- The ends in a row make up no range. -/
  | malformedRange (table : String) (startKey endKey : Bytes)
  /-- The split of one table is built from rows. -/
  | splitBuilt (table : String) (partitions : Nat)
  /-- All splits are replaced. -/
  | refreshed (tables rows : Nat)
  /-- The environment asks for a default level that there is none of. -/
  | unknownDefaultLevel (error : UnknownConsistency)
  /-- A policy is built from a configuration. -/
  | policyBuilt (localDatacenter : Option String) (remoteHosts : UInt64) (partitionAware : Bool)
  /-- A statement is not routed. -/
  | unrouted (reason : Unrouted)
  /-- A statement is routed to the hosts of its partition. -/
  | routed (table : String) (key : UInt16) (startKey endKey : Int) (level : Consistency)
      (replicas : Nat)
  deriving DecidableEq, Repr

namespace Event

/-- The severity of an event. -/
def severity : Event → Severity
  | hostRegistered .. | hostUnregistered .. | hostUp .. | splitPublished .. | refreshed ..
  | policyBuilt .. => .info
  | hostDown .. | unknownHostUp .. | unknownHostDown .. | unknownReplica ..
  | malformedRange .. | unknownDefaultLevel .. => .warn
  | hostKnown .. | splitBuilt .. | unrouted .. | routed .. => .debug

/-- The message of an event. -/
def message : Event → String
  | hostRegistered .. => "Registering host"
  | hostKnown .. => "Host already registered"
  | hostUnregistered .. => "Unregistering host"
  | hostUp .. => "Host is up"
  | hostDown .. => "Host is down"
  | unknownHostUp .. => "Cannot mark unknown host up"
  | unknownHostDown .. => "Cannot mark unknown host down"
  | splitPublished .. => "Publishing table split metadata"
  | unknownReplica .. => "Partition replica is not a known host"
  | malformedRange .. => "Skipping partition with malformed key range"
  | splitBuilt .. => "Built table split metadata"
  | refreshed .. => "Refreshed partition metadata"
  | unknownDefaultLevel .. => "Falling back to default consistency"
  | policyBuilt .. => "Building load balancing policy"
  | unrouted reason => reason.message
  | routed .. => "Routing to partition replicas"

/-- The text of the end of a range as the server reports it. -/
def boundaryText (bs : Bytes) : String := if bs.isEmpty then "<empty>" else Hex.encode bs

/-- The text of a datacenter that may not be set. -/
def datacenterText : Option String → String
  | none => "None"
  | some dc => "Some(" ++ Quoted.encode dc ++ ")"

/-- The fields of an event by name, as text. -/
def fields : Event → List (String × String)
  | hostRegistered address datacenter rack =>
    [("address", toString address), ("datacenter", datacenter), ("rack", rack)]
  | hostKnown address | hostUnregistered address | hostUp address | hostDown address
  | unknownHostUp address | unknownHostDown address => [("address", toString address)]
  | splitPublished table partitions | splitBuilt table partitions =>
    [("table", table), ("partitions", toString partitions)]
  | unknownReplica table ip role =>
    [("table", table), ("address", ip.render), ("role", role.name)]
  | malformedRange table startKey endKey =>
    [("table", table), ("start_key", boundaryText startKey), ("end_key", boundaryText endKey)]
  | refreshed tables rows => [("tables", toString tables), ("rows", toString rows)]
  | unknownDefaultLevel error => [("error", error.message)]
  | policyBuilt localDatacenter remoteHosts partitionAware =>
    [("local_datacenter", datacenterText localDatacenter),
      ("used_hosts_per_remote_dc", toString remoteHosts.toNat),
      ("partition_aware", toString partitionAware)]
  | unrouted reason => reason.fields
  | routed table key startKey endKey level replicas =>
    [("table", table), ("key", toString key.toNat), ("start_key", toString startKey),
      ("end_key", toString endKey), ("consistency", level.name), ("replicas", toString replicas)]

end Event

end QueryRouting
