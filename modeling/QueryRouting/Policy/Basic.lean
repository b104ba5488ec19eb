import QueryRouting.Policy.Generic

/-!
# Policies

A policy is a generic one, or wraps another and leads statements to the replicas
of their partition.  Wrapping changes no distance, and for no statement at all a
policy plans like the generic one inside.

## Main definitions

* `Policy` — the policies.
* `Policy.base`, `Policy.distance`, `Policy.defaultPlan` — what comes from the generic policy
  inside.
-/

namespace QueryRouting

/-- A policy that decides which hosts a statement is sent to. -/
inductive Policy where
  | generic (policy : GenericPolicy)
  /-- Replicas of the partition first, as the tables of a cluster say. -/
  | partitionAware (child : Policy) (cluster : Nat)
  deriving DecidableEq, Repr

namespace Policy

/-- The generic policy inside. -/
def base : Policy → GenericPolicy
  | generic policy => policy
  | partitionAware child _ => child.base

/-- How near a host is. -/
def distance (registry : Registry) (h : Host) : Policy → Distance
  | generic policy => policy.distance registry h
  | partitionAware child _ => child.distance registry h

/-- A new plan for no statement. -/
def defaultPlan (registry : Registry) (rotations : Rotations) : Policy → GenericPlan × Rotations
  | generic policy => policy.plan registry rotations
  | partitionAware child _ => child.defaultPlan registry rotations

/-- Whether the policy needs the tables of a cluster. -/
def needsTables : Policy → Bool
  | generic _ => false
  | partitionAware _ _ => true

end Policy

end QueryRouting
