import QueryRouting.Key.Error

/-!
# Why a statement is not routed

A bound statement is led to the replicas of its partition when every step from its
values to the hosts of a partition succeeds.  Otherwise the first step that fails
is the reason, and the statement is planned like one that names no partition.

## Main definitions

* `Unrouted` — the reasons, in the order of the steps.
* `Unrouted.message`, `Unrouted.fields` — how a reason is shown.
-/

namespace QueryRouting

/-- Why a bound statement is not led to the replicas of its partition. -/
inductive Unrouted where
  /-- It has no bind markers. -/
  | noBindMarkers (query : String)
  /-- It has no partition key. -/
  | notRoutable (error : RoutingError)
  /-- Its table has no keyspace. -/
  | noKeyspace (table : String)
  /-- Its table has no split. -/
  | noSplit (table : String)
  /-- Its key comes before the first partition. -/
  | keyPrecedes (table : String) (key : UInt16)
  /-- Its partition has no hosts. -/
  | noReplicas (table : String) (key : UInt16)
  deriving DecidableEq, Repr

namespace Unrouted

/-- The message of a reason. -/
def message : Unrouted → String
  | noBindMarkers .. => "Statement has no bind markers"
  | notRoutable .. => "Statement is not routable"
  | noKeyspace .. => "No keyspace to qualify table name"
  | noSplit .. => "No split metadata for table"
  | keyPrecedes .. => "Key precedes every partition"
  | noReplicas .. => "Partition has no known replicas"

/-- The fields of a reason by name, as text. -/
def fields : Unrouted → List (String × String)
  | noBindMarkers query => [("query", query)]
  | notRoutable error => [("error", error.message)]
  | noKeyspace table | noSplit table => [("table", table)]
  | keyPrecedes table key | noReplicas table key =>
    [("table", table), ("key", toString key.toNat)]

end Unrouted

end QueryRouting
