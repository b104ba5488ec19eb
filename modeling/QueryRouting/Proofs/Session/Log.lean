import Mathlib.Data.List.Forall2
import QueryRouting.Proofs.Policy.Batch
import QueryRouting.Proofs.Policy.Trace
import QueryRouting.Proofs.Session.Basic

/-!
# What a session reports

Each action of a session reports what the part of the router that it calls reports, and the log
of a run is what its actions report, one after another.  Nothing is reported while hosts are
pulled from a plan: the default plan is asked for with no statement, and there is nothing to say
on that.  So what there is to say on a statement is said when its plan is opened.

## Main definitions

* `Session.events`, `Session.log` — what an action reports, and a run.

## Main results

* `Session.log_append` — the log of a run in two parts.
* `Plan.events_pull` — pulls report nothing.
* `Session.opening_traced` — what is reported on the plan of a statement.
-/

namespace QueryRouting

/-- **Pulling a host reports nothing**, though it may ask for a default plan. -/
theorem Plan.events_pull (r : Router) (plan : Plan) : (plan.pull r).2.2.2 = [] := by
  cases plan with
  | generic plan => rfl
  | routed plan =>
    have hreported : ((routed plan).pull r).2.2.2 = plan.reported r := rfl
    rw [hreported, RoutedPlan.reported]
    split
    · rw [Policy.plan_none]
    · rfl

namespace Session

/-- What an action reports. -/
def events (s : Session) : Action → List Event
  | .add spec => (s.router.fleet.add spec).2.2
  | .remove address => (s.router.fleet.remove address).2.2
  | .markUp address => (s.router.fleet.markUp address).2
  | .markDown address => (s.router.fleet.markDown address).2
  | .publish number table split => ((s.router.cluster number).publish table split).2
  | .refresh number rows => ((s.router.cluster number).refresh s.router.fleet.registry rows).events
  | .openPlan policy keyspace statement => (policy.plan s.router keyspace statement).2.2
  | .pull number =>
    match s.plans[number]? with
    | some plan => (plan.pull s.router).2.2.2
    | none => []
  | .create _ | .setUp _ | .setDown _ | .addCluster _ | .withdraw _ _ | .newRotation => []

/-- What the actions of a run report, in order. -/
def log (s : Session) : List Action → List Event
  | [] => []
  | action :: later => s.events action ++ log (s.step action) later

theorem log_append (s : Session) (early late : List Action) :
    s.log (early ++ late) = s.log early ++ (s.run early).log late := by
  induction early generalizing s with
  | nil => rfl
  | cons action early ih => rw [List.cons_append, log, log, ih, List.append_assoc, run_cons]

theorem events_pull (s : Session) (number : Nat) : s.events (.pull number) = [] := by
  rw [events]
  split
  · exact Plan.events_pull ..
  · rfl

variable {s : Session} {child : GenericPolicy} {number : Nat} {keyspace : Option String}
  {statement : Option Statement}

/-- A policy around a generic one reports on its search for a placement, and no more. -/
theorem events_openPlan :
    s.events (.openPlan (.partitionAware (.generic child) number) keyspace statement)
      = ((s.router.cluster number).placeStatement keyspace statement).2 := by
  rw [events]
  cases h : (s.router.cluster number).placeStatement keyspace statement with
  | mk found events =>
    cases found with
    | some placement => rw [Policy.plan_of_placement _ h]
    | none =>
      rw [Policy.plan_of_no_placement _ h]
      exact List.append_nil _

/-- **What is reported on the plan of a statement.**  A policy around one that does not look at
statements reports on the bound statements that it looks at, once on each and in their order, for
debugging: the first step that fails, or the route.  The plan is led by replicas exactly when a
route is reported; it is reported last, with the level that counts and with as many replicas as
the plan has.  No pull on the plan reports anything, whatever happens between the pulls. -/
theorem opening_traced (s : Session) (child : GenericPolicy) (number : Nat)
    (keyspace : Option String) (statement : Option Statement) :
    let c := s.router.cluster number
    let opening := Action.openPlan (.partitionAware (.generic child) number) keyspace statement
    let opened := s.step opening
    (∃ examined, c.Examined keyspace statement examined ∧
      List.Forall₂ (fun candidate event => c.Traced keyspace candidate.2 candidate.1 event ∧
        event.severity = .debug ∧
        (event.message = "Routing to partition replicas" ↔ c.Routable keyspace candidate.1))
      examined (s.events opening)) ∧
    ((∃ plan, opened.plans[s.plans.length]? = some (.routed plan)) ↔
      ∃ event ∈ s.events opening, event.message = "Routing to partition replicas") ∧
    (∀ plan, opened.plans[s.plans.length]? = some (.routed plan) →
      ∃ placement : Placement, (s.events opening).getLast? = some placement.event ∧
        plan.replicas.Perm placement.partition.hosts ∧ plan.strong = placement.level.isStrong) ∧
    ∀ actions, (opened.run actions).events (.pull s.plans.length) = [] := by
  intro c opening opened
  have hevents : s.events opening = (c.placeStatement keyspace statement).2 := events_openPlan
  have hplan : opened.plans[s.plans.length]?
      = some ((Policy.partitionAware (.generic child) number).plan s.router keyspace statement).1 :=
    List.getElem?_concat_length
  refine ⟨?_, ?_⟩
  · obtain ⟨examined, hexamined, hreports⟩ := c.exists_examined keyspace statement
    refine ⟨examined, hexamined, ?_⟩
    rw [hevents, hreports, List.forall₂_map_right_iff]
    exact List.forall₂_same.mpr fun candidate _ => ⟨Cluster.traced_iff.mpr rfl,
      Cluster.report_severity candidate, Cluster.report_message_iff⟩
  rcases c.placeFirst_cases keyspace ((statement.map Statement.candidates).getD []) with
    ⟨placement, hfound, hlast⟩ | ⟨hnone, hreasons⟩
  · have hlast : (s.events opening).getLast? = some placement.event := hevents ▸ hlast
    rw [Policy.plan_of_placement _ (Prod.ext hfound rfl)] at hplan
    refine ⟨iff_of_true ⟨_, hplan⟩ ⟨_, List.mem_of_getLast? hlast, rfl⟩, fun plan hopen => ?_,
      fun actions => events_pull _ _⟩
    obtain rfl := Plan.routed.inj (Option.some.inj (hplan.symm.trans hopen))
    exact ⟨placement, hlast, s.router.perm_replicaOrder placement, rfl⟩
  · rw [Policy.plan_of_no_placement _ (Prod.ext hnone rfl)] at hplan
    have hgeneric : ∀ plan, opened.plans[s.plans.length]? ≠ some (.routed plan) := by
      intro plan hopen
      exact absurd (Option.some.inj (hplan.symm.trans hopen)) (by simp [Policy.plan])
    refine ⟨iff_of_false ?_ ?_, fun plan hopen => absurd hopen (hgeneric plan),
      fun actions => events_pull _ _⟩
    · rintro ⟨plan, hopen⟩
      exact hgeneric plan hopen
    · rintro ⟨event, hevent, hmessage⟩
      rw [hevents] at hevent
      obtain ⟨reason, rfl⟩ := hreasons event hevent
      exact reason.message_ne hmessage

open Policy.MixedBatch SmallCluster in
/-- A batch is looked at up to the statement that decides its plan. -/
example :
    Session.events { router := mixed } (.openPlan policy none
      (some (.batch (passedOver ++ [.bound (bound none), .bound unknownTable]) (some .quorum))))
    = [.unrouted (.noSplit "ks.u"), .routed "ks.t" 19780 0 65536 .quorum 1] := by
  decide +kernel

end Session

end QueryRouting
