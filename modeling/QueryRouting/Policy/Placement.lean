import QueryRouting.Cluster.Basic
import QueryRouting.Statement

/-!
# The placement of a statement

The partition that owns the key of a bound statement, found step by step: the
statement has bind markers, it has a key, its table has a full name, the table has
a split, the key does not come before the first partition, and the partition has
hosts.  The first step that fails is the reason why the statement is not routed.

## Main definitions

* `Placement` — a partition with hosts, the key that led to it, and the level that counts.
* `Cluster.place` — the steps.
* `Cluster.placeFirst` — the first of several statements that can be placed.
-/

namespace QueryRouting

/-- Where the key of a bound statement is at home. -/
structure Placement where
  table : String
  key : UInt16
  partition : Partition
  level : Consistency
  deriving DecidableEq, Repr

/-- What there is to report about a placement. -/
def Placement.event (p : Placement) : Event :=
  .routed p.table p.key p.partition.startKey p.partition.endKey p.level p.partition.hosts.length

namespace Cluster

/-- The level of a bound statement: its own, or that of its batch, or the default. -/
def levelOf (c : Cluster) (batchLevel : Option Consistency) (b : Bound) : Consistency :=
  (b.level.or batchLevel).getD c.defaultLevel

/-- The placement of a bound statement, or the reason why it has none. -/
def place (c : Cluster) (keyspace : Option String) (batchLevel : Option Consistency) (b : Bound) :
    Except Unrouted Placement :=
  if b.prepared.columns.isEmpty then .error (.noBindMarkers b.prepared.query)
  else match b.key with
    | .error e => .error (.notRoutable e)
    | .ok key =>
      match b.prepared.tableName? keyspace with
      | none => .error (.noKeyspace b.prepared.table)
      | some table =>
        match c.split? table with
        | none => .error (.noSplit table)
        | some split =>
          match split.lookup key.toNat with
          | none => .error (.keyPrecedes table key)
          | some partition =>
            if partition.hosts.isEmpty then .error (.noReplicas table key)
            else .ok ⟨table, key, partition, c.levelOf batchLevel b⟩

/-- The placement of the first statement that has one.  Each statement up to that
one is reported on. -/
def placeFirst (c : Cluster) (keyspace : Option String) :
    List (Bound × Option Consistency) → Option Placement × List Event
  | [] => (none, [])
  | (b, batchLevel) :: later =>
    match c.place keyspace batchLevel b with
    | .ok placement => (some placement, [placement.event])
    | .error reason =>
      let (found, events) := c.placeFirst keyspace later
      (found, .unrouted reason :: events)

/-- The placement of a statement that may be absent, or hold several, or none. -/
def placeStatement (c : Cluster) (keyspace : Option String) (statement : Option Statement) :
    Option Placement × List Event :=
  c.placeFirst keyspace ((statement.map Statement.candidates).getD [])

end Cluster

end QueryRouting
