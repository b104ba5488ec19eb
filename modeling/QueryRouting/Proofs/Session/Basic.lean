import QueryRouting.Proofs.Cluster.Ingest
import QueryRouting.Proofs.Policy.Discipline

/-!
# Sessions

A session is a router with the plans that are open on it.  Its actions are everything
that can happen to one: hosts are registered and taken out, go up and down, clusters are
set up, their tables refreshed, published and withdrawn, plans are opened, and hosts are
pulled from them, in any order.

No action but a pull on it changes an open plan, so the pulls on a plan are a chain,
whatever happens between them.

## Main definitions

* `Session`, `Action`, `Session.step`, `Session.run` — sessions and their runs.
* `Session.pulled` — the host that a pull on a plan yields.
* `Session.pullsOf` — the pulls on one plan in the course of a run.

## Main results

* `Session.getElem?_plans_step` — only pulls change an open plan.
* `Session.chain_pullsOf` — the pulls on a plan are a chain.
* `Session.pulls_keep_discipline` — the pulls on a plan keep the discipline, whatever happens.
-/

namespace QueryRouting

/-- A router with the plans that are open on it. -/
structure Session where
  router : Router := {}
  /-- The open plans, by number. -/
  plans : List Plan := []

/-- What can happen to a session. -/
inductive Action where
  /-- A handle is made, and not registered. -/
  | create (spec : HostSpec)
  | add (spec : HostSpec)
  | remove (address : Endpoint)
  | markUp (address : Endpoint)
  | markDown (address : Endpoint)
  /-- A handle goes up, registered or not. -/
  | setUp (h : Host)
  | setDown (h : Host)
  | addCluster (defaultLevel : Consistency)
  /-- A split for one table of a cluster, with any handles. -/
  | publish (cluster : Nat) (table : String) (split : Split)
  | withdraw (cluster : Nat) (table : String)
  | refresh (cluster : Nat) (rows : List PartitionRow)
  /-- A policy with a rotation of its own is made. -/
  | newRotation
  | openPlan (policy : Policy) (keyspace : Option String) (statement : Option Statement)
  | pull (plan : Nat)

namespace Session

/-- The session after a pull on a plan, if it is open. -/
def pull (s : Session) (number : Nat) : Session :=
  match s.plans[number]? with
  | none => s
  | some plan =>
    let (_, plan, router, _) := plan.pull s.router
    { router := router, plans := s.plans.set number plan }

/-- The session with another fleet. -/
def withFleet (s : Session) (fleet : Fleet) : Session :=
  { s with router := { s.router with fleet := fleet } }

/-- The session with another cluster under a number. -/
def withCluster (s : Session) (number : Nat) (c : Cluster) : Session :=
  { s with router := s.router.setCluster number c }

/-- The session after an action. -/
def step (s : Session) : Action → Session
  | .create spec => s.withFleet (s.router.fleet.create spec).2
  | .add spec => s.withFleet (s.router.fleet.add spec).2.1
  | .remove address => s.withFleet (s.router.fleet.remove address).2.1
  | .markUp address => s.withFleet (s.router.fleet.markUp address).1
  | .markDown address => s.withFleet (s.router.fleet.markDown address).1
  | .setUp h => s.withFleet (s.router.fleet.setUp h).2
  | .setDown h => s.withFleet (s.router.fleet.setDown h).2
  | .addCluster level => { s with router := (s.router.addCluster level).2 }
  | .publish number table split =>
    s.withCluster number ((s.router.cluster number).publish table split).1
  | .withdraw number table => s.withCluster number ((s.router.cluster number).withdraw table).2
  | .refresh number rows =>
    s.withCluster number ((s.router.cluster number).refresh s.router.fleet.registry rows).cluster
  | .newRotation => { s with router := { s.router with rotations := s.router.rotations.fresh.2 } }
  | .openPlan policy keyspace statement =>
    { router := (policy.plan s.router keyspace statement).2.1
      plans := s.plans ++ [(policy.plan s.router keyspace statement).1] }
  | .pull number => s.pull number

/-- The session after several actions. -/
def run (s : Session) (actions : List Action) : Session := actions.foldl step s

@[simp] theorem run_nil (s : Session) : s.run [] = s := rfl

@[simp] theorem run_cons (s : Session) (action : Action) (later : List Action) :
    s.run (action :: later) = (s.step action).run later := rfl

@[simp] theorem run_append (s : Session) (early late : List Action) :
    s.run (early ++ late) = (s.run early).run late := by
  rw [run, List.foldl_append]
  rfl

/-- What every action of a run keeps, the run keeps. -/
theorem run_induction {P : Session → Prop} {actions : List Action}
    (hstep : ∀ action ∈ actions, ∀ s : Session, P s → P (s.step action)) {s : Session} (h : P s) :
    P (s.run actions) := by
  induction actions generalizing s with
  | nil => exact h
  | cons action later ih =>
    refine ih (fun action' h' => hstep action' (List.mem_cons_of_mem _ h')) ?_
    exact hstep action List.mem_cons_self s h

/-- The host that a pull on a plan yields. -/
def pulled (s : Session) (number : Nat) : Option Host :=
  s.plans[number]?.bind fun plan => (plan.next s.router.fleet s.router.rotations).1

/-- The pull that an action makes on a plan led by replicas, if it makes one. -/
def pull? (s : Session) (number : Nat) : Action → Option Pull
  | .pull other =>
    if other = number then
      match s.plans[number]? with
      | some (.routed plan) => some ⟨s.router, plan⟩
      | _ => none
    else none
  | _ => none

/-- The pulls on a plan led by replicas in the course of a run. -/
def pullsOf (number : Nat) (s : Session) : List Action → List Pull
  | [] => []
  | action :: later => (s.pull? number action).toList ++ pullsOf number (s.step action) later

variable {s : Session} {number : Nat} {action : Action}

/-! ### Open plans -/

theorem pull_of_routed {plan : RoutedPlan} (h : s.plans[number]? = some (.routed plan)) :
    s.pull number =
      { router := { s.router with rotations := (Pull.mk s.router plan).rotations }
        plans := s.plans.set number (.routed (Pull.mk s.router plan).after) } := by
  rw [pull, h]
  rfl

/-- A pull is one on the plan that is open under the number. -/
theorem pulled_of_routed {plan : RoutedPlan} (h : s.plans[number]? = some (.routed plan)) :
    s.pulled number = (Pull.mk s.router plan).yielded := by
  rw [pulled, h]
  rfl

theorem pull?_of_ne (hother : action ≠ .pull number) : s.pull? number action = none := by
  cases action with
  | pull other =>
    have hne : other ≠ number := fun e => hother (by rw [e])
    rw [pull?, if_neg hne]
  | _ => rfl

theorem pull?_of_routed {plan : RoutedPlan} (h : s.plans[number]? = some (.routed plan)) :
    s.pull? number (.pull number) = some ⟨s.router, plan⟩ := by
  rw [pull?, if_pos rfl, h]

/-- **Only pulls on it change an open plan.** -/
theorem getElem?_plans_step (hopen : number < s.plans.length) (hother : action ≠ .pull number) :
    (s.step action).plans[number]? = s.plans[number]? := by
  cases action with
  | openPlan policy keyspace statement =>
    rw [step, List.getElem?_append_left hopen]
  | pull other =>
    have hne : other ≠ number := fun e => hother (by rw [e])
    rw [step, pull]
    split
    · rfl
    · rw [List.getElem?_set_ne hne]
  | _ => rfl

/-- **The pulls on a plan are a chain**, whatever happens between them. -/
theorem chain_pullsOf {plan : RoutedPlan} (h : s.plans[number]? = some (.routed plan))
    (actions : List Action) : Pull.Chain plan (pullsOf number s actions) := by
  induction actions generalizing s plan with
  | nil => exact trivial
  | cons action later ih =>
    have hopen : number < s.plans.length := (List.getElem?_eq_some_iff.mp h).1
    rw [pullsOf]
    by_cases hpull : action = .pull number
    · subst hpull
      rw [pull?_of_routed h]
      refine ⟨rfl, ih ?_⟩
      rw [step, pull_of_routed h, List.getElem?_set_self hopen]
    · rw [pull?_of_ne hpull]
      exact ih ((getElem?_plans_step hopen hpull).trans h)

/-- **A plan led by replicas is opened**: it is a new one, and one of the layers of the
policy has placed the statement. -/
theorem openPlan_routed {policy : Policy} {keyspace : Option String}
    {statement : Option Statement} {plan : RoutedPlan}
    (hplan : (policy.plan s.router keyspace statement).1 = .routed plan) :
    (s.step (.openPlan policy keyspace statement)).plans[s.plans.length]? = some (.routed plan) ∧
      (s.step (.openPlan policy keyspace statement)).router.fleet = s.router.fleet ∧
      ∃ layer ∈ policy.layers, ∃ placement,
        ((s.router.cluster layer.2).placeStatement keyspace statement).1 = some placement ∧
        plan = .start layer.1 placement.level.isStrong (s.router.replicaOrder placement).1 := by
  have hopened : (s.step (.openPlan policy keyspace statement)).plans[s.plans.length]?
      = some (.routed plan) := by
    rw [step, List.getElem?_concat_length, hplan]
  obtain ⟨hfleet, -, hgeneric | ⟨child, number, placement, hlayer, hfound, hrouted⟩⟩ :=
    policy.plan_cases s.router keyspace statement
  · rw [hgeneric] at hplan
    simp at hplan
  · rw [hrouted] at hplan
    exact ⟨hopened, hfleet, (child, number), hlayer, placement, hfound,
      (Plan.routed.inj hplan).symm⟩

/-- **The pulls on a plan keep the discipline.**  A plan that a policy makes and that is
led by replicas is pulled from in the course of a session, among any other actions. -/
theorem pulls_keep_discipline (s : Session) {policy : Policy} {keyspace : Option String}
    {statement : Option Statement} {plan : RoutedPlan}
    (hplan : (policy.plan s.router keyspace statement).1 = .routed plan) (actions : List Action) :
    Pull.Discipline plan
      (pullsOf s.plans.length (s.step (.openPlan policy keyspace statement)) actions) := by
  obtain ⟨hopened, -, layer, -, placement, -, rfl⟩ := openPlan_routed hplan
  have hchain := chain_pullsOf hopened actions
  exact hchain.discipline

namespace Interleaving

open SmallCluster

def threeHosts : Registry :=
  ((Registry.empty.insert (host 0 1)).insert (host 1 2)).insert (host 2 3)

def session : Session where
  router := SmallCluster.router threeHosts [row [] [] [(.v4 1, .leader), (.v4 2, .follower)]]

/-- The plan that is pulled from. -/
def opening : Action := .openPlan policy none (some (.bound (bound none)))

/-- The follower goes down between two pulls, and the table is withdrawn. -/
def actions : List Action :=
  [.pull 0, .markDown (host 1 2).address, .openPlan policy none none, .pull 1, .withdraw 0 "ks.t",
    .pull 0, .setUp (host 1 2), .pull 0]

end Interleaving

open SmallCluster Interleaving in
/-- The second pull passes over the follower for good and takes the host that is no
replica, the third finds none. -/
theorem pulls_keep_discipline_interleaved :
    (pullsOf 0 (session.step opening) actions).map Pull.yielded
        = [some (host 0 1), some (host 2 3), none] ∧
      Pull.Discipline (.start (.generic (.roundRobin 0)) false [host 0 1, host 1 2])
        (pullsOf 0 (session.step opening) actions) := by
  have hplan : (policy.plan session.router none (some (.bound (bound none)))).1
      = .routed (.start (.generic (.roundRobin 0)) false [host 0 1, host 1 2]) := by
    decide +kernel
  exact ⟨by decide +kernel, pulls_keep_discipline session hplan actions⟩

end Session

end QueryRouting
