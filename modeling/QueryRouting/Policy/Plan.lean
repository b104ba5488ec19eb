import QueryRouting.Policy.Routed

/-!
# Plans

The hosts to try for a statement, pulled one at a time.  Pulling reads which hosts
are up and may move a rotation; it changes nothing else.

## Main definitions

* `Plan`, `Plan.next` — a plan, and pulling the next host from it.
* `Plan.take`, `Plan.drain` — pulling several hosts, and all of them.
-/

namespace QueryRouting

/-- The hosts to try for a statement, as far as they have not been pulled. -/
inductive Plan where
  | generic (plan : GenericPlan)
  | routed (plan : RoutedPlan)
  deriving DecidableEq, Repr

namespace Plan

/-- The next host of a plan. -/
def next (fleet : Fleet) (rotations : Rotations) : Plan → Option Host × Plan × Rotations
  | generic plan =>
    let (found, plan) := plan.next fleet
    (found, generic plan, rotations)
  | routed plan =>
    let (found, plan, rotations) := plan.next fleet rotations
    (found, routed plan, rotations)

/-- The next hosts of a plan: `count` of them, or as many as it has. -/
def take (fleet : Fleet) (rotations : Rotations) (plan : Plan) :
    Nat → List Host × Plan × Rotations
  | 0 => ([], plan, rotations)
  | count + 1 =>
    match plan.next fleet rotations with
    | (none, plan, rotations) => ([], plan, rotations)
    | (some h, plan, rotations) =>
      let (hosts, plan, rotations) := plan.take fleet rotations count
      (h :: hosts, plan, rotations)

/-- A number of hosts that the plan cannot exceed while the registry stays. -/
def bound (registry : Registry) : Plan → Nat
  | generic plan => plan.bound registry
  | routed plan =>
    plan.pending.length +
      match plan.fallback with
      | some fallback => fallback.bound registry
      | none => (plan.child.defaultPlan registry {}).1.bound registry

/-- All hosts of a plan while nothing changes.  One pull more than the plan has hosts
finds it at its end. -/
def drain (fleet : Fleet) (rotations : Rotations) (plan : Plan) : List Host × Plan × Rotations :=
  plan.take fleet rotations (plan.bound fleet.registry + 1)

end Plan

end QueryRouting
