import QueryRouting.Policy.Basic

/-!
# Plans led by replicas

The plan of a statement that is led to the replicas of its partition offers the
replicas first, and then the default plan of the wrapped policy without them.  A
host is offered when it is up and, unless the level is strong, local.

The default plan is asked for when every replica has been looked at, and not
before: a plan that is left within its replicas does not move the rotation.

## Main definitions

* `RoutedPlan` — a plan, as far as it has not been used up.
* `RoutedPlan.isEligible` — whether a host may be offered.
* `RoutedPlan.next` — pulling the next host.
-/

namespace QueryRouting

/-- A plan that offers replicas first. -/
structure RoutedPlan where
  /-- The policy whose default plan comes after the replicas. -/
  child : Policy
  /-- Whether hosts that are not local are offered too. -/
  strong : Bool
  replicas : List Host
  /-- The replicas that have not been looked at. -/
  pending : List Host
  /-- The default plan, once it has been asked for. -/
  fallback : Option GenericPlan
  deriving DecidableEq, Repr

namespace RoutedPlan

/-- A plan of which nothing has been used. -/
def start (child : Policy) (strong : Bool) (replicas : List Host) : RoutedPlan :=
  ⟨child, strong, replicas, replicas, none⟩

/-- Whether a host may be offered: it is up and, unless the level is strong, local. -/
def isEligible (plan : RoutedPlan) (fleet : Fleet) (h : Host) : Bool :=
  fleet.isUp h && (plan.strong || plan.child.distance fleet.registry h = .local)

/-- Whether a host has the address of a replica. -/
def isReplica (plan : RoutedPlan) (h : Host) : Bool := plan.replicas.any h.sameAddress

/-- The default plan: the one in use, or a new one. -/
def fallbackPlan (plan : RoutedPlan) (fleet : Fleet) (rotations : Rotations) :
    GenericPlan × Rotations :=
  match plan.fallback with
  | some fallback => (fallback, rotations)
  | none => plan.child.defaultPlan fleet.registry rotations

/-- The next host of a plan. -/
def next (fleet : Fleet) (rotations : Rotations) (plan : RoutedPlan) :
    Option Host × RoutedPlan × Rotations :=
  match firstWhere (plan.isEligible fleet) plan.pending with
  | some (h, later) => (some h, { plan with pending := later }, rotations)
  | none =>
    -- Every replica has been looked at; only now is the default plan asked for.
    let (fallback, rotations) := plan.fallbackPlan fleet rotations
    let (found, fallback) :=
      fallback.find fleet fun h => !plan.isReplica h && plan.isEligible fleet h
    (found, { plan with pending := [], fallback := some fallback }, rotations)

end RoutedPlan

end QueryRouting
