import QueryRouting.Policy.Placement
import QueryRouting.Policy.Plan
import QueryRouting.Policy.Shuffle

/-!
# The router

Policies work on one state: the fleet, the clusters with their tables, the
rotations, and chance.  A new plan reads the tables and the registry; it moves a
rotation or uses up chance, and leaves everything else as it is.

## Main definitions

* `Router` — the state.
* `Router.addCluster`, `Router.roundRobin`, `Router.datacenterAware` — new clusters and policies.
* `Policy.plan` — a new plan for a statement.
* `Plan.pull` — pulling the next host from a plan, with what there is to report.
-/

namespace QueryRouting

/-- The state that policies and plans work on. -/
structure Router where
  fleet : Fleet := {}
  /-- The clusters, by number. -/
  clusters : List Cluster := []
  rotations : Rotations := {}
  chance : Chance := default
  deriving Inhabited

namespace Router

/-- The cluster of a number; one without tables for a number that is not in use. -/
def cluster (r : Router) (number : Nat) : Cluster := r.clusters.getD number default

/-- The router with another cluster under a number. -/
def setCluster (r : Router) (number : Nat) (c : Cluster) : Router :=
  { r with clusters := r.clusters.set number c }

/-- A new cluster without tables, and its number. -/
def addCluster (r : Router) (defaultLevel : Consistency) : Nat × Router :=
  (r.clusters.length, { r with clusters := r.clusters ++ [{ defaultLevel := defaultLevel }] })

/-- A new round-robin policy. -/
def roundRobin (r : Router) : Policy × Router :=
  let (rotation, rotations) := r.rotations.fresh
  (.generic (.roundRobin rotation), { r with rotations := rotations })

/-- A new datacenter-aware policy. -/
def datacenterAware (r : Router) (localDatacenter : String) (remoteHosts : Nat) :
    Policy × Router :=
  let (rotation, rotations) := r.rotations.fresh
  (.generic (.datacenterAware rotation localDatacenter remoteHosts),
    { r with rotations := rotations })

/-- The replicas of a placement in the order in which they are tried: as they are,
or in a random order for a relaxed level. -/
def replicaOrder (r : Router) (p : Placement) : List Host × Chance :=
  if p.level.isRelaxed then r.chance.shuffle p.partition.hosts else (p.partition.hosts, r.chance)

end Router

/-- A new plan for a statement.  A policy that leads statements to replicas looks for
a placement, reports on the search, and leaves the statement to the policy it wraps
when there is none. -/
def Policy.plan (r : Router) (keyspace : Option String) (statement : Option Statement) :
    Policy → Plan × Router × List Event
  | .generic policy =>
    let (plan, rotations) := policy.plan r.fleet.registry r.rotations
    (.generic plan, { r with rotations := rotations }, [])
  | .partitionAware child number =>
    match (r.cluster number).placeStatement keyspace statement with
    | (some placement, events) =>
      let (replicas, chance) := r.replicaOrder placement
      (.routed (.start child placement.level.isStrong replicas), { r with chance := chance },
        events)
    | (none, events) =>
      let (plan, r, later) := child.plan r keyspace statement
      (plan, r, events ++ later)

/-- What is reported when the next host is pulled from a plan led by replicas: all replicas
have been looked at and the default plan is asked for, or nothing is planned. -/
def RoutedPlan.reported (r : Router) (plan : RoutedPlan) : List Event :=
  match firstWhere (plan.isEligible r.fleet) plan.pending, plan.fallback with
  | none, none => (plan.child.plan r none none).2.2
  | _, _ => []

/-- The next host of a plan, what is left of the plan, and what is reported meanwhile. -/
def Plan.pull (r : Router) (plan : Plan) : Option Host × Plan × Router × List Event :=
  let (found, later, rotations) := plan.next r.fleet r.rotations
  let events :=
    match plan with
    | generic _ => []
    | routed plan => plan.reported r
  (found, later, { r with rotations := rotations }, events)

end QueryRouting
