import Mathlib.Data.List.Rotate
import QueryRouting.Proofs.Policy.Level
import QueryRouting.Proofs.Session.Registration
import QueryRouting.Proofs.Session.Yields

/-!
# The rotation of a policy in the course of a session

A generic policy is asked for a plan when one is opened that is not led by replicas, and when a
pull on one that is has looked at the last replica.  Each such request moves the rotation of the
policy one step, unless there are no hosts to take in turn, and nothing else does.  So the plans
of round robin begin one host further each time, and as many requests in a row as there are hosts
begin with each host once.

## Main definitions

* `PlanRequest` — a request to a generic policy for a plan.
* `Session.requestsIn` — the requests in the course of a run.

## Main results

* `Session.count_run` — a rotation moves as often as plans are asked for.
* `Session.map_count_requestsIn` — each request finds the rotation one step further.
* `perm_map_turned` — every turn of a list begins with another of its elements.
* `Session.roundRobin_takes_turns` — the plans of round robin.
-/

namespace QueryRouting

/-! ### Requests -/

/-- A request to a generic policy for a plan, with what the policy reads. -/
structure PlanRequest where
  policy : GenericPolicy
  registry : Registry
  rotations : Rotations
  deriving DecidableEq

namespace PlanRequest

/-- The plan that is made. -/
def plan (q : PlanRequest) : GenericPlan := (q.policy.plan q.registry q.rotations).1

/-- Whether a rotation is moved: it is that of the policy, and there are hosts to take in turn. -/
def moves (rotation : Nat) (q : PlanRequest) : Bool :=
  q.policy.rotation = rotation && !(q.policy.turnHosts q.registry).isEmpty

end PlanRequest

namespace GenericPolicy

/-- A request moves the rotation one step, or not at all. -/
theorem count_plan (policy : GenericPolicy) (registry : Registry) (rotations : Rotations)
    (rotation : Nat) :
    (policy.plan registry rotations).2.count rotation
      = if PlanRequest.moves rotation ⟨policy, registry, rotations⟩ then
          rotations.count rotation + 1
        else rotations.count rotation := by
  unfold plan PlanRequest.moves
  by_cases hnone : (policy.turnHosts registry).isEmpty = true
  · simp [hnone]
  · by_cases hrotation : policy.rotation = rotation
    · simp [hnone, hrotation]
    · simp [hnone, hrotation, Ne.symm hrotation]

/-- Round robin moves its rotation when there are hosts. -/
theorem rotations_roundRobin (registry : Registry) (rotations : Rotations)
    (rotation : Nat) :
    ((roundRobin rotation).plan registry rotations).2
      = if registry.hosts = [] then rotations else rotations.advance rotation := by
  unfold plan
  by_cases hnone : registry.hosts = []
  · simp [turnHosts, hnone]
  · simp [turnHosts, hnone, GenericPolicy.rotation]

end GenericPolicy

/-- **A new plan asks the generic policy for one**, or is led by replicas and asks for none. -/
theorem Policy.plan_asks (policy : Policy) (r : Router) (keyspace : Option String)
    (statement : Option Statement) :
    (∃ plan, (policy.plan r keyspace statement).1 = .routed plan ∧
      (policy.plan r keyspace statement).2.1.rotations = r.rotations) ∨
    (policy.plan r keyspace statement).1
        = .generic (policy.base.plan r.fleet.registry r.rotations).1 ∧
      (policy.plan r keyspace statement).2.1.rotations
        = (policy.base.plan r.fleet.registry r.rotations).2 := by
  induction policy with
  | generic policy => exact Or.inr ⟨rfl, rfl⟩
  | partitionAware child number ih =>
    cases h : (r.cluster number).placeStatement keyspace statement with
    | mk found events =>
      cases found with
      | some placement =>
        rw [plan_of_placement child h]
        exact Or.inl ⟨_, rfl, rfl⟩
      | none =>
        rw [plan_of_no_placement child h]
        exact ih

/-- A pull that asks for the default plan asks the generic policy inside the child. -/
theorem Pull.rotations_of_requestsDefault {p : Pull} (h : p.requestsDefault = true) :
    p.rotations = (p.plan.child.base.plan p.router.fleet.registry p.router.rotations).2 := by
  rw [requestsDefault, Bool.and_eq_true, Option.isNone_iff_eq_none, reachesDefault] at h
  obtain ⟨hnone, hreaches⟩ := h
  rcases p.cases with ⟨_, _, _, _, _, _, _, hafter, _⟩ | ⟨_, fallback, _, _, hrotations⟩
  · rw [hafter, hnone] at hreaches
    simp at hreaches
  · rw [hrotations, RoutedPlan.fallbackPlan, hnone, ← Policy.defaultPlan_eq]

namespace Session

variable {s : Session} {rotation : Nat}

/-- The request that an action makes, if it makes one. -/
def request? (s : Session) : Action → Option PlanRequest
  | .openPlan policy keyspace statement =>
    match (policy.plan s.router keyspace statement).1 with
    | .generic _ => some ⟨policy.base, s.registry, s.router.rotations⟩
    | .routed _ => none
  | .pull number =>
    match s.plans[number]? with
    | some (.routed plan) =>
      if (Pull.mk s.router plan).requestsDefault then
        some ⟨plan.child.base, s.registry, s.router.rotations⟩
      else none
    | _ => none
  | _ => none

/-- The requests in the course of a run. -/
def requestsIn (s : Session) : List Action → List PlanRequest
  | [] => []
  | action :: later => (s.request? action).toList ++ requestsIn (s.step action) later

/-! ### Steps of a rotation -/

/-- A request is made on the registry and the rotations of the moment. -/
theorem eq_of_request? {action : Action} {q : PlanRequest} (h : s.request? action = some q) :
    q.registry = s.registry ∧ q.rotations = s.router.rotations := by
  cases action with
  | openPlan policy keyspace statement =>
    rw [request?] at h
    split at h
    · obtain rfl := Option.some.inj h
      exact ⟨rfl, rfl⟩
    · simp at h
  | pull number =>
    rw [request?] at h
    split at h
    · split at h
      · obtain rfl := Option.some.inj h
        exact ⟨rfl, rfl⟩
      · simp at h
    · simp at h
  | _ => simp [request?] at h

/-- A pull on a plan led by replicas makes a request when it asks for the default plan. -/
theorem request?_pull {number : Nat} {plan : RoutedPlan}
    (h : s.plans[number]? = some (.routed plan)) :
    s.request? (.pull number)
      = if (Pull.mk s.router plan).requestsDefault then
          some ⟨plan.child.base, s.registry, s.router.rotations⟩
        else none := by
  rw [request?, h]

/-- The number of requests that move a rotation. -/
def stepsOf (rotation : Nat) (requests : List PlanRequest) : Nat :=
  (requests.filter (·.moves rotation)).length

theorem stepsOf_append (rotation : Nat) (early late : List PlanRequest) :
    stepsOf rotation (early ++ late) = stepsOf rotation early + stepsOf rotation late := by
  rw [stepsOf, List.filter_append, List.length_append]
  rfl

/-- A request that is made now adds its step to the rotation. -/
theorem count_plan_stepsOf (s : Session) (policy : GenericPolicy) (rotation : Nat) :
    (policy.plan s.registry s.router.rotations).2.count rotation
      = s.router.rotations.count rotation
        + UInt64.ofNat (stepsOf rotation [⟨policy, s.registry, s.router.rotations⟩]) := by
  rw [GenericPolicy.count_plan, stepsOf]
  split
  · next hmoves => rw [List.filter_cons_of_pos hmoves]; rfl
  · next hmoves => rw [List.filter_cons_of_neg hmoves]; simp

/-- **An action moves a rotation when it asks for a plan**, and by one step. -/
theorem count_step (s : Session) (action : Action) (rotation : Nat) :
    (s.step action).router.rotations.count rotation
      = s.router.rotations.count rotation
        + UInt64.ofNat (stepsOf rotation (s.request? action).toList) := by
  have hnone : s.router.rotations.count rotation
      = s.router.rotations.count rotation + UInt64.ofNat (stepsOf rotation []) := by
    simp [stepsOf]
  cases action with
  | openPlan policy keyspace statement =>
    rw [step]
    rcases policy.plan_asks s.router keyspace statement with
      ⟨plan, hplan, hrotations⟩ | ⟨hplan, hrotations⟩
    · rw [request?, hplan, hrotations]
      exact hnone
    · rw [request?, hplan, hrotations]
      exact s.count_plan_stepsOf policy.base rotation
  | pull number =>
    cases hplan : s.plans[number]? with
    | none =>
      rw [step, pull, request?, hplan]
      exact hnone
    | some plan =>
      cases plan with
      | generic plan =>
        rw [step, pull, request?, hplan]
        exact hnone
      | routed plan =>
        rw [step, pull_of_routed hplan, request?_pull hplan]
        cases hasks : (Pull.mk s.router plan).requestsDefault with
        | true =>
          simp only [Pull.rotations_of_requestsDefault hasks]
          exact s.count_plan_stepsOf plan.child.base rotation
        | false =>
          simp only [Pull.rotations_eq hasks]
          exact hnone
  | _ => exact hnone

/-- **A rotation moves as often as plans are asked for**, whatever else happens. -/
theorem count_run (s : Session) (actions : List Action) (rotation : Nat) :
    (s.run actions).router.rotations.count rotation
      = s.router.rotations.count rotation
        + UInt64.ofNat (stepsOf rotation (s.requestsIn actions)) := by
  induction actions generalizing s with
  | nil => simp [requestsIn, stepsOf]
  | cons action later ih =>
    rw [run_cons, ih, count_step, requestsIn, stepsOf_append, UInt64.ofNat_add, UInt64.add_assoc]

/-- A request finds the rotation as it is. -/
theorem map_count_request? (s : Session) (action : Action) (rotation : Nat) :
    ((s.request? action).toList.filter (·.moves rotation)).map (·.rotations.count rotation)
      = (List.range (stepsOf rotation (s.request? action).toList)).map fun i =>
        s.router.rotations.count rotation + UInt64.ofNat i := by
  cases hrequest : s.request? action with
  | none => rfl
  | some q =>
    obtain ⟨-, hrotations⟩ := eq_of_request? hrequest
    cases hmoves : q.moves rotation with
    | false => simp [stepsOf, hmoves]
    | true => simp [stepsOf, hmoves, hrotations]

/-- **Each request finds the rotation one step further** than the one before. -/
theorem map_count_requestsIn (s : Session) (actions : List Action) (rotation : Nat) :
    ((s.requestsIn actions).filter (·.moves rotation)).map (·.rotations.count rotation)
      = (List.range (stepsOf rotation (s.requestsIn actions))).map fun i =>
        s.router.rotations.count rotation + UInt64.ofNat i := by
  induction actions generalizing s with
  | nil => rfl
  | cons action later ih =>
    -- The requests of later actions count on from where this action has left the rotation.
    rw [requestsIn, List.filter_append, List.map_append, stepsOf_append, List.range_add,
      List.map_append, List.map_map, map_count_request?, ih, count_step]
    refine congrArg _ (List.map_congr_left fun i _ => ?_)
    rw [Function.comp_apply, UInt64.ofNat_add, UInt64.add_assoc]

end Session

/-! ### Round robin -/

/-- **Every turn of a list begins with another of its elements.** -/
theorem perm_map_turned {α : Type} (xs : List α) (start : Nat) :
    ((List.range xs.length).map fun i => xs[(start + i) % xs.length]?).Perm (xs.map some) := by
  have hrotated : ((List.range xs.length).map fun i => xs[(start + i) % xs.length]?)
      = (xs.rotate start).map some := by
    apply List.ext_getElem
    · simp
    · intro i hi hi'
      rw [List.length_map, List.length_range] at hi
      rw [List.getElem_map, List.getElem_map, List.getElem_range, List.getElem_rotate,
        List.getElem?_eq_getElem (Nat.mod_lt _ (Nat.zero_lt_of_lt hi)), Nat.add_comm start i]
  rw [hrotated]
  exact (xs.rotate_perm start).map some

namespace PlanRequest

/-- The plan of round robin has all hosts, turned to where the rotation has come. -/
theorem plan_roundRobin {q : PlanRequest} {rotation : Nat} (h : q.policy = .roundRobin rotation) :
    let hosts := q.registry.hosts
    let turn := (q.rotations.count rotation).toNat % hosts.length
    q.plan = .everyHost (hosts.drop turn ++ hosts.take turn) := by
  intro hosts turn
  rw [plan, h, GenericPolicy.plan]
  by_cases hnone : hosts = []
  · simp [GenericPolicy.turnHosts, GenericPolicy.planOf, hosts, hnone]
  · simp [GenericPolicy.turnHosts, GenericPolicy.planOf, GenericPolicy.rotation, hosts, turn, hnone,
      GenericPolicy.rotateLeft_eq]

/-- It begins with the host that the rotation has come to. -/
theorem next_plan_roundRobin {q : PlanRequest} {rotation : Nat}
    (h : q.policy = .roundRobin rotation) (fleet : Fleet) :
    (q.plan.next fleet).1
      = q.registry.hosts[(q.rotations.count rotation).toNat % q.registry.hosts.length]? := by
  rw [plan_roundRobin h, ((GenericPlan.Lists.everyHost _).next fleet).1,
    ← List.rotate_eq_drop_append_take_mod, ← List.rotate_mod]
  by_cases hnone : q.registry.hosts = []
  · simp [hnone]
  · exact List.head?_rotate (Nat.mod_lt _ (List.length_pos_of_ne_nil hnone))

end PlanRequest

namespace Session

variable {s : Session} {rotation : Nat}

/-- The count of a rotation some steps on, as long as it does not wrap. -/
theorem toNat_count_add {count : UInt64} {size i : Nat}
    (hwrap : count.toNat + size ≤ UInt64.size) (hi : i < size) :
    (count + UInt64.ofNat i).toNat = count.toNat + i := by
  have hsmall : (UInt64.ofNat i).toNat = i := UInt64.toNat_ofNat_of_lt' (by omega)
  rw [UInt64.toNat_add, hsmall]
  rw [UInt64.size] at hwrap
  omega

/-- The requests of round robin that move its rotation are those made while there are hosts. -/
theorem filter_moves {actions : List Action}
    (hown : ∀ q ∈ (s.requestsIn actions).filter (·.policy.rotation = rotation),
      q.policy = .roundRobin rotation) :
    (s.requestsIn actions).filter (·.moves rotation)
      = ((s.requestsIn actions).filter (·.policy.rotation = rotation)).filter
          (·.registry.hosts ≠ []) := by
  rw [List.filter_filter]
  refine List.filter_congr fun q hq => ?_
  by_cases hrotation : q.policy.rotation = rotation
  · have hpolicy := hown q (List.mem_filter.mpr ⟨hq, by simpa using hrotation⟩)
    cases hhosts : q.registry.hosts <;>
      simp [PlanRequest.moves, hpolicy, GenericPolicy.rotation, GenericPolicy.turnHosts, hhosts]
  · simp [PlanRequest.moves, hrotation]

/-- Pulls on the plan of a generic policy change nothing but the plan. -/
theorem router_run_of_pulls {number : Nat} {plan : GenericPlan} {actions : List Action}
    (h : s.plans[number]? = some (.generic plan))
    (hpulls : ∀ action ∈ actions, action = .pull number) : (s.run actions).router = s.router := by
  induction actions generalizing s plan with
  | nil => rfl
  | cons action later ih =>
    obtain rfl := hpulls action List.mem_cons_self
    rw [run_cons, ih (getElem?_plans_pull h) fun action hmem =>
      hpulls action (List.mem_cons_of_mem _ hmem), step_pull_of_generic h]

/-- **As many requests in a row as there are hosts begin with each host once**, when the hosts
stay registered and the rotation does not wrap. -/
theorem perm_first_of_requests {actions : List Action} {requests : List PlanRequest}
    (hrequests : (s.requestsIn actions).filter (·.policy.rotation = rotation) = requests)
    (hown : ∀ q ∈ requests, q.policy = .roundRobin rotation)
    (hregistry : ∀ q ∈ requests, q.registry = s.registry)
    (hlength : requests.length = s.registry.size)
    (hwrap : (s.router.rotations.count rotation).toNat + s.registry.size ≤ UInt64.size)
    (fleetOf : PlanRequest → Fleet) :
    (requests.map fun q => (q.plan.next (fleetOf q)).1).Perm (s.registry.hosts.map some) := by
  have hsize : s.registry.size = s.registry.hosts.length := s.registry.size_eq
  by_cases hnone : s.registry.hosts = []
  · rw [hsize, hnone, List.length_nil, List.length_eq_zero_iff] at hlength
    rw [hlength, hnone]
    exact List.Perm.refl _
  -- Every request moves the rotation, so each finds it one step further than the one before.
  have hmoves : (s.requestsIn actions).filter (·.moves rotation) = requests := by
    rw [filter_moves (by rwa [hrequests]), hrequests]
    refine List.filter_eq_self.mpr fun q hq => ?_
    rw [hregistry q hq]
    simpa using hnone
  have hcounts := s.map_count_requestsIn actions rotation
  rw [stepsOf, hmoves, hlength, hsize] at hcounts
  have hfirst : (requests.map fun q => (q.plan.next (fleetOf q)).1)
      = (requests.map (·.rotations.count rotation)).map fun count =>
        s.registry.hosts[count.toNat % s.registry.hosts.length]? := by
    rw [List.map_map]
    refine List.map_congr_left fun q hq => ?_
    rw [PlanRequest.next_plan_roundRobin (hown q hq), hregistry q hq]
    rfl
  have hturned : (requests.map fun q => (q.plan.next (fleetOf q)).1)
      = (List.range s.registry.hosts.length).map fun i =>
        s.registry.hosts[((s.router.rotations.count rotation).toNat + i)
          % s.registry.hosts.length]? := by
    rw [hfirst, hcounts, List.map_map]
    refine List.map_congr_left fun i hi => ?_
    rw [hsize] at hwrap
    rw [Function.comp_apply, toNat_count_add hwrap (List.mem_range.mp hi)]
  rw [hturned]
  exact perm_map_turned _ _

/-- **The plans of round robin take turns.**  A new plan has all registered hosts, up or down, in
address order, turned to where the rotation has come, and whatever happens afterwards, the pulls
on it take these hosts one after the other.  To make it moves the rotation one step, unless no
host is registered, and to pull on it moves nothing: in the course of a session the rotation moves
as often as plans are asked for while hosts are registered, by round robin itself or by a policy
around it.  When the registry stays, as many requests in a row as there are hosts begin with each
host once, unless the rotation wraps between them. -/
theorem roundRobin_takes_turns (s : Session) (rotation : Nat) (keyspace : Option String)
    (statement : Option Statement) (actions : List Action)
    (hown : ∀ q ∈ s.requestsIn actions, q.policy.rotation = rotation →
      q.policy = .roundRobin rotation) :
    let policy := Policy.generic (.roundRobin rotation)
    let hosts := s.registry.hosts
    let count := s.router.rotations.count rotation
    let turn := count.toNat % hosts.length
    let turned := hosts.drop turn ++ hosts.take turn
    let opened := s.step (.openPlan policy keyspace statement)
    let requests := (s.requestsIn actions).filter (·.policy.rotation = rotation)
    (policy.drained s.router keyspace statement = turned ∧ turned.Perm hosts) ∧
      (∀ later, yieldsOf s.plans.length opened later
        = (List.range (yieldsOf s.plans.length opened later).length).map (turned[·]?)) ∧
      opened.router = { s.router with
        rotations := if hosts = [] then s.router.rotations
          else s.router.rotations.advance rotation } ∧
      (∀ later, (∀ action ∈ later, action = .pull s.plans.length) →
        (opened.run later).router = opened.router) ∧
      (s.run actions).router.rotations.count rotation
        = count + UInt64.ofNat (requests.filter (·.registry.hosts ≠ [])).length ∧
      ((∀ q ∈ requests, q.registry = s.registry) → requests.length = s.registry.size →
        count.toNat + s.registry.size ≤ UInt64.size →
          ∀ fleetOf : PlanRequest → Fleet,
            (requests.map fun q => (q.plan.next (fleetOf q)).1).Perm (hosts.map some)) := by
  intro policy hosts count turn turned opened requests
  have hplan : ((GenericPolicy.roundRobin rotation).plan s.registry s.router.rotations).1
      = .everyHost turned :=
    PlanRequest.plan_roundRobin (q := ⟨.roundRobin rotation, s.registry, s.router.rotations⟩) rfl
  have hopen : opened.plans[s.plans.length]? = some (.generic (.everyHost turned)) := by
    rw [← hplan]
    exact s.getElem?_plans_openPlan (.roundRobin rotation) keyspace statement
  have hpolicy : ∀ q ∈ requests, q.policy = .roundRobin rotation := by
    intro q hq
    obtain ⟨hmem, hrotation⟩ := List.mem_filter.mp hq
    exact hown q hmem (by simpa using hrotation)
  refine ⟨⟨?_, ?_⟩, ?_, ?_, ?_, ?_, ?_⟩
  · have hall := List.filter_eq_self.mpr fun h (_ : h ∈ turned) => rfl
    rw [Policy.drained, Plan.drain_eq]
    exact (congrArg (GenericPlan.remaining _) hplan).trans hall
  · refine List.perm_append_comm.trans ?_
    rw [List.take_append_drop]
  · intro later
    exact yieldsOf_of_lists hopen (.everyHost turned) later
  · rw [← GenericPolicy.rotations_roundRobin]
    rfl
  · intro later
    exact router_run_of_pulls hopen
  · rw [count_run, stepsOf, filter_moves hpolicy]
  · intro hregistry hlength hwrap fleetOf
    exact perm_first_of_requests rfl hpolicy hregistry hlength hwrap fleetOf

namespace Interleaving

open SmallCluster

/-- A plan is opened without replicas, one is pulled past the only replica that is up, and one is
opened for no statement. -/
def asking : List Action :=
  [.openPlan (.generic (.roundRobin 0)) none none, .pull 0, .markDown (host 1 2).address,
    .openPlan policy none (some (.bound (bound none))), .pull 1, .pull 1, .pull 0, .pull 1,
    .openPlan policy none none]

end Interleaving

open SmallCluster Interleaving in
/-- Three requests in a row, made by round robin and by the policy around it, begin with each of
three hosts once. -/
theorem roundRobin_takes_turns_around_replicas :
    (∀ q ∈ session.requestsIn asking, q.policy = .roundRobin 0) ∧
      (((session.requestsIn asking).filter (·.policy.rotation = 0)).map fun q =>
        (q.plan.next session.router.fleet).1).Perm
          [some (host 0 1), some (host 1 2), some (host 2 3)] := by
  have hown : ∀ q ∈ session.requestsIn asking, q.policy = .roundRobin 0 := by decide +kernel
  obtain ⟨-, -, -, -, -, hturns⟩ :=
    roundRobin_takes_turns session 0 none none asking fun q hq _ => hown q hq
  refine ⟨hown, hturns ?_ ?_ ?_ fun _ => session.router.fleet⟩
  · decide +kernel
  · decide +kernel
  · decide +kernel

end Session

end QueryRouting
