import QueryRouting.Host.Fleet
import QueryRouting.Policy.Distance
import QueryRouting.Policy.Rotation

/-!
# Policies that do not look at the statement

Round robin takes all hosts, each plan beginning one further on.  It lists down
hosts too; whoever uses it has to look.  The datacenter-aware policy takes the
hosts of the local datacenter in the same way, then the first few of each other
datacenter, and leaves down hosts out.

A plan is lazy.  Which hosts of the local datacenter it has is fixed when it is
made, the remote ones are read from the registry when the local ones are used up,
and whether a host is up is asked when its turn comes.

## Main definitions

* `GenericPolicy`, `GenericPolicy.distance` — the policies.
* `remoteHosts` — the hosts of other datacenters that a plan may reach.
* `GenericPlan`, `GenericPlan.find` — plans, and pulling the next fitting host from one.
* `GenericPolicy.plan` — a new plan.
-/

namespace QueryRouting

/-- A policy that does not look at the statement. -/
inductive GenericPolicy where
  /-- All hosts in turn. -/
  | roundRobin (rotation : Nat)
  /-- The hosts of one datacenter in turn, then a number of each other one. -/
  | datacenterAware (rotation : Nat) (localDatacenter : String) (remoteHosts : Nat)
  deriving DecidableEq, Repr

/-- The first `count` hosts of each datacenter but the local one, datacenter by
datacenter. -/
def remoteHosts (registry : Registry) (localDatacenter : String) (count : Nat) : List Host :=
  (registry.datacenters.filter (· ≠ localDatacenter)).flatMap fun dc =>
    (registry.inDatacenter dc).take count

/-- The first element that satisfies a condition, and the elements after it. -/
def firstWhere {α : Type} (p : α → Bool) : List α → Option (α × List α)
  | [] => none
  | x :: xs => if p x then some (x, xs) else firstWhere p xs

/-- A plan of a generic policy, as far as it has not been used up. -/
inductive GenericPlan where
  /-- Hosts, up or down. -/
  | everyHost (rest : List Host)
  /-- Hosts of the local datacenter; the remote ones have not been read. -/
  | localHosts (rest : List Host) (localDatacenter : String) (remoteHosts : Nat)
  /-- Remote hosts that have been read. -/
  | remoteHosts (rest : List Host)
  deriving DecidableEq, Repr

namespace GenericPlan

/-- The plan that has nothing left. -/
def exhausted : GenericPlan := .remoteHosts []

/-- The next of the remote hosts that is up and accepted. -/
def findRemote (fleet : Fleet) (accept : Host → Bool) (rest : List Host) :
    Option Host × GenericPlan :=
  match firstWhere (fun h => fleet.isUp h && accept h) rest with
  | some (h, later) => (some h, .remoteHosts later)
  | none => (none, exhausted)

/-- The next host of a plan that is accepted, and the plan after it.  The hosts
before it are passed over for good. -/
def find (fleet : Fleet) (accept : Host → Bool) : GenericPlan → Option Host × GenericPlan
  | everyHost rest =>
    match firstWhere accept rest with
    | some (h, later) => (some h, everyHost later)
    | none => (none, exhausted)
  | localHosts rest dc count =>
    match firstWhere (fun h => fleet.isUp h && accept h) rest with
    | some (h, later) => (some h, localHosts later dc count)
    -- The remote hosts are those of the registry as it is at this pull.
    | none => findRemote fleet accept (QueryRouting.remoteHosts fleet.registry dc count)
  | .remoteHosts rest => findRemote fleet accept rest

/-- The next host of a plan. -/
def next (fleet : Fleet) (plan : GenericPlan) : Option Host × GenericPlan :=
  plan.find fleet fun _ => true

/-- A number of hosts that the plan cannot exceed while the registry stays. -/
def bound (registry : Registry) : GenericPlan → Nat
  | everyHost rest => rest.length
  | localHosts rest dc count =>
    rest.length + (QueryRouting.remoteHosts registry dc count).length
  | .remoteHosts rest => rest.length

end GenericPlan

namespace GenericPolicy

/-- How near a host is. -/
def distance (registry : Registry) (h : Host) : GenericPolicy → Distance
  | roundRobin _ => .local
  | datacenterAware _ localDatacenter count =>
    if h.datacenter = localDatacenter then .local
    else if ((registry.inDatacenter h.datacenter).take count).any h.sameAddress then .remote
    else .ignored

/-- The rotation that the policy moves on. -/
def rotation : GenericPolicy → Nat
  | roundRobin rotation => rotation
  | datacenterAware rotation _ _ => rotation

/-- The hosts that the policy takes in turn. -/
def turnHosts (registry : Registry) : GenericPolicy → List Host
  | roundRobin _ => registry.hosts
  | datacenterAware _ localDatacenter _ => registry.inDatacenter localDatacenter

/-- The plan of a policy that begins with the given hosts. -/
def planOf (hosts : List Host) : GenericPolicy → GenericPlan
  | roundRobin _ => .everyHost hosts
  | datacenterAware _ localDatacenter count => .localHosts hosts localDatacenter count

/-- A new plan.  The rotation moves on when there are hosts to take in turn. -/
def plan (policy : GenericPolicy) (registry : Registry) (rotations : Rotations) :
    GenericPlan × Rotations :=
  let hosts := policy.turnHosts registry
  if hosts.isEmpty then (policy.planOf [], rotations)
  else
    (policy.planOf (hosts.rotateLeft (rotations.count policy.rotation).toNat),
      rotations.advance policy.rotation)

end GenericPolicy

end QueryRouting
