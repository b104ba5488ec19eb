import QueryRouting.Proofs.Policy.Level
import QueryRouting.Proofs.Session.Yields

/-!
# Policies that are wrapped twice

A policy that leads statements to replicas asks the one it wraps for distances, for the default
plan, and for a plan when a statement cannot be placed.  When it is wrapped once more around the
same cluster, the new layer places the statements that the old one would have placed, and leaves
the others to it.  Distances and default plans come from the generic policy inside in any case.

So the plans of the two policies differ in the policy that they hold, and in nothing that counts.
Taking the layers off the policies that open plans hold makes the plans equal, and what happens to
a session, and what is pulled from it, is the same with the layers and without them.

## Main definitions

* `RoutedPlan.unwrapped`, `Plan.unwrapped`, `Session.unwrapped` — without the layers.
* `Policy.rotationsAfter` — the rotations when a new plan has been pulled to its end.

## Main results

* `Plan.next_unwrapped` — one pull, and `Plan.drain_unwrapped` all pulls.
* `Session.unwrapped_step`, `Session.unwrapped_run` — actions of a session.
* `Policy.plan_wrapped_twice` — the plans of the two policies are equal without the layers.
* `Session.wrapped_twice` — to wrap twice is to wrap once.
-/

namespace QueryRouting

/-! ### Plans without the layers -/

namespace RoutedPlan

/-- The plan that holds the generic policy inside its child. -/
def unwrapped (plan : RoutedPlan) : RoutedPlan := { plan with child := .generic plan.child.base }

theorem isEligible_unwrapped (plan : RoutedPlan) :
    plan.unwrapped.isEligible = plan.isEligible := by
  funext fleet h
  rw [isEligible, isEligible, Policy.distance_eq plan.child]
  rfl

theorem fallbackPlan_unwrapped (plan : RoutedPlan) :
    plan.unwrapped.fallbackPlan = plan.fallbackPlan := by
  funext fleet rotations
  rw [fallbackPlan, fallbackPlan, Policy.defaultPlan_eq plan.child]
  rfl

/-- A pull asks the child for distances and for the default plan only. -/
theorem next_unwrapped (plan : RoutedPlan) (fleet : Fleet) (rotations : Rotations) :
    plan.unwrapped.next fleet rotations
      = ((plan.next fleet rotations).1, (plan.next fleet rotations).2.1.unwrapped,
        (plan.next fleet rotations).2.2) := by
  rw [next, next, isEligible_unwrapped, fallbackPlan_unwrapped]
  cases hfirst : firstWhere (plan.isEligible fleet) plan.pending with
  | some entry => simp only [unwrapped, hfirst]
  | none =>
    simp only [unwrapped, hfirst]
    rfl

end RoutedPlan

namespace Plan

/-- The plan that holds no layers. -/
def unwrapped : Plan → Plan
  | generic plan => generic plan
  | routed plan => routed plan.unwrapped

@[simp] theorem unwrapped_unwrapped (plan : Plan) : plan.unwrapped.unwrapped = plan.unwrapped := by
  cases plan <;> rfl

/-- **A pull yields the same host with the layers and without them.** -/
theorem next_unwrapped (plan : Plan) (fleet : Fleet) (rotations : Rotations) :
    plan.unwrapped.next fleet rotations
      = ((plan.next fleet rotations).1, (plan.next fleet rotations).2.1.unwrapped,
        (plan.next fleet rotations).2.2) := by
  cases plan with
  | generic plan => rfl
  | routed plan =>
    rw [unwrapped, next, plan.next_unwrapped]
    rfl

theorem take_unwrapped (plan : Plan) (fleet : Fleet) (rotations : Rotations) (count : Nat) :
    plan.unwrapped.take fleet rotations count
      = ((plan.take fleet rotations count).1, (plan.take fleet rotations count).2.1.unwrapped,
        (plan.take fleet rotations count).2.2) := by
  induction count generalizing plan rotations with
  | zero => rfl
  | succ count ih =>
    rw [take, take, next_unwrapped]
    rcases plan.next fleet rotations with ⟨_ | h, later, rotations'⟩
    · rfl
    · simp only [ih]

theorem bound_unwrapped (plan : Plan) (registry : Registry) :
    plan.unwrapped.bound registry = plan.bound registry := by
  cases plan with
  | generic plan => rfl
  | routed plan =>
    rw [bound, Policy.defaultPlan_eq plan.child]
    rfl

/-- **Pulling to the end yields the same hosts**, and leaves the same rotations. -/
theorem drain_unwrapped (plan : Plan) (fleet : Fleet) (rotations : Rotations) :
    plan.unwrapped.drain fleet rotations
      = ((plan.drain fleet rotations).1, (plan.drain fleet rotations).2.1.unwrapped,
        (plan.drain fleet rotations).2.2) := by
  rw [drain, bound_unwrapped, take_unwrapped]
  rfl

end Plan

/-! ### Sessions without the layers -/

namespace Session

variable {s t : Session}

/-- The session whose open plans hold no layers. -/
def unwrapped (s : Session) : Session := { s with plans := s.plans.map Plan.unwrapped }

@[simp] theorem unwrapped_unwrapped (s : Session) : s.unwrapped.unwrapped = s.unwrapped := by
  simp [unwrapped]

theorem pulled_unwrapped (s : Session) (number : Nat) :
    s.unwrapped.pulled number = s.pulled number := by
  rw [pulled, pulled, unwrapped, List.getElem?_map]
  cases s.plans[number]? with
  | none => rfl
  | some plan =>
    simp only [Option.map_some, Option.bind_some, plan.next_unwrapped]

theorem pull_unwrapped (s : Session) (number : Nat) :
    s.unwrapped.pull number = (s.pull number).unwrapped := by
  rw [pull, pull, unwrapped, List.getElem?_map]
  cases s.plans[number]? with
  | none => rfl
  | some plan =>
    simp only [Option.map_some, Plan.pull, plan.next_unwrapped, unwrapped, List.map_set]

/-- **Every action does the same with the layers and without them.**  A plan that it opens may
hold layers again. -/
theorem unwrapped_step (s : Session) (action : Action) :
    (s.unwrapped.step action).unwrapped = (s.step action).unwrapped := by
  have hplans : (s.plans.map Plan.unwrapped).map Plan.unwrapped = s.plans.map Plan.unwrapped :=
    congrArg plans s.unwrapped_unwrapped
  cases action with
  | openPlan policy keyspace statement => simp only [step, unwrapped, List.map_append, hplans]
  | pull number => rw [step, step, pull_unwrapped, unwrapped_unwrapped]
  | _ => exact congrArg (Session.mk _) hplans

/-- Sessions that are equal without the layers stay so. -/
theorem unwrapped_run (h : s.unwrapped = t.unwrapped) (actions : List Action) :
    (s.run actions).unwrapped = (t.run actions).unwrapped := by
  induction actions generalizing s t with
  | nil => exact h
  | cons action later ih =>
    rw [run_cons, run_cons]
    refine ih ?_
    rw [← unwrapped_step, h, unwrapped_step]

/-- What is pulled from them is equal. -/
theorem yieldsOf_eq_of_unwrapped (h : s.unwrapped = t.unwrapped) (number : Nat)
    (actions : List Action) : yieldsOf number s actions = yieldsOf number t actions := by
  induction actions generalizing s t with
  | nil => rfl
  | cons action later ih =>
    have hlater := ih (unwrapped_run h [action])
    by_cases hpull : action = .pull number
    · subst hpull
      rw [yieldsOf_pull, yieldsOf_pull, ← s.pulled_unwrapped, h, t.pulled_unwrapped]
      exact congrArg _ hlater
    · rw [yieldsOf_of_ne hpull, yieldsOf_of_ne hpull]
      exact hlater

end Session

/-! ### Two layers around one cluster -/

namespace Policy

/-- The rotations when a new plan for a statement has been pulled to its end while nothing
changes. -/
def rotationsAfter (policy : Policy) (r : Router) (keyspace : Option String)
    (statement : Option Statement) : Rotations :=
  let planned := policy.plan r keyspace statement
  (planned.1.drain planned.2.1.fleet planned.2.1.rotations).2.2

/-- **The plans of a policy that is wrapped twice** differ in the policies that they hold.  The
new layer places what the old one would have placed, and leaves the rest to it. -/
theorem plan_wrapped_twice (child : Policy) (number : Nat) (r : Router) (keyspace : Option String)
    (statement : Option Statement) :
    let once := partitionAware child number
    let twice := partitionAware once number
    (twice.plan r keyspace statement).1.unwrapped = (once.plan r keyspace statement).1.unwrapped ∧
      (twice.plan r keyspace statement).2.1 = (once.plan r keyspace statement).2.1 := by
  intro once twice
  cases h : (r.cluster number).placeStatement keyspace statement with
  | mk found events =>
    cases found with
    | none =>
      rw [plan_of_no_placement once h]
      exact ⟨rfl, rfl⟩
    | some placement =>
      rw [plan_of_placement once h, plan_of_placement child h]
      exact ⟨rfl, rfl⟩

/-- The reports differ: a statement that cannot be placed is reported on by both layers. -/
theorem events_wrapped_twice (child : Policy) {number : Nat} {r : Router}
    {keyspace : Option String} {statement : Option Statement} {found : Option Placement}
    {events : List Event}
    (h : (r.cluster number).placeStatement keyspace statement = (found, events)) :
    let once := partitionAware child number
    ((partitionAware once number).plan r keyspace statement).2.2
      = match found with
        | some _ => events
        | none => events ++ (once.plan r keyspace statement).2.2 := by
  intro once
  cases found with
  | none => rw [plan_of_no_placement once h]
  | some placement => rw [plan_of_placement once h]

/-- Policies whose plans are equal without the layers yield the same to the end. -/
theorem drained_eq_of_unwrapped {policy other : Policy} {r : Router} {keyspace : Option String}
    {statement : Option Statement}
    (h : (policy.plan r keyspace statement).1.unwrapped
      = (other.plan r keyspace statement).1.unwrapped)
    (hrouter : (policy.plan r keyspace statement).2.1 = (other.plan r keyspace statement).2.1) :
    policy.drained r keyspace statement = other.drained r keyspace statement ∧
      policy.rotationsAfter r keyspace statement = other.rotationsAfter r keyspace statement := by
  let fleet := (other.plan r keyspace statement).2.1.fleet
  let rotations := (other.plan r keyspace statement).2.1.rotations
  have hdrain := congrArg (·.drain fleet rotations) h
  simp only [Plan.drain_unwrapped, Prod.mk.injEq] at hdrain
  rw [drained, drained, rotationsAfter, rotationsAfter, hrouter]
  exact ⟨hdrain.1, hdrain.2.2⟩

end Policy

/-- **To wrap a policy twice is to wrap it once**, but for the reports.  Around one cluster and
any policy, and in any state, both give every host the same distance.  Their plans
for a statement yield the same hosts when they are pulled to the end, at the relaxed level the
same lists of hosts whatever chance brings, and leave the rotations the same.  Two sessions in
which one and the other plan is opened and then the same happens yield the same hosts at every
pull on any plan, and keep the same router: the fleet, the clusters, the rotations and chance. -/
theorem Session.wrapped_twice (s : Session) (child : Policy) (number : Nat)
    (keyspace : Option String) (statement : Option Statement) :
    let once := Policy.partitionAware child number
    let twice := Policy.partitionAware once number
    let opened := fun policy => s.step (.openPlan policy keyspace statement)
    (∀ registry h, twice.distance registry h = once.distance registry h) ∧
      twice.drained s.router keyspace statement = once.drained s.router keyspace statement ∧
      (∀ hosts, twice.MayYield s.router keyspace statement hosts ↔
        once.MayYield s.router keyspace statement hosts) ∧
      twice.rotationsAfter s.router keyspace statement
        = once.rotationsAfter s.router keyspace statement ∧
      (∀ actions plan, yieldsOf plan (opened twice) actions = yieldsOf plan (opened once) actions) ∧
      ∀ actions, ((opened twice).run actions).router = ((opened once).run actions).router := by
  intro once twice opened
  have hdrained : ∀ r : Router,
      twice.drained r keyspace statement = once.drained r keyspace statement ∧
        twice.rotationsAfter r keyspace statement = once.rotationsAfter r keyspace statement := by
    intro r
    obtain ⟨hplan, hrouter⟩ := Policy.plan_wrapped_twice child number r keyspace statement
    exact Policy.drained_eq_of_unwrapped hplan hrouter
  have hopened : (opened twice).unwrapped = (opened once).unwrapped := by
    obtain ⟨hplan, hrouter⟩ := Policy.plan_wrapped_twice child number s.router keyspace statement
    simp only [opened, step, unwrapped, List.map_append, List.map_cons, List.map_nil]
    rw [hplan, hrouter]
  refine ⟨fun _ _ => rfl, (hdrained s.router).1, ?_, (hdrained s.router).2, ?_, ?_⟩
  · intro hosts
    unfold Policy.MayYield
    refine exists_congr fun chance => ?_
    rw [(hdrained { s.router with chance := chance }).1]
  · intro actions plan
    exact yieldsOf_eq_of_unwrapped hopened plan actions
  · intro actions
    have hrouter := congrArg router (unwrapped_run hopened actions)
    exact hrouter

end QueryRouting
