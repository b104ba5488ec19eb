import QueryRouting.Proofs.Policy.Pulls

/-!
# The discipline of pulls

What a client can rely on when it pulls hosts from a plan one by one, while hosts go up
and down, come and go, and tables are published and withdrawn between its pulls.

## Main definitions

* `Pull.Discipline` — what the pulls on a plan may do.

## Main results

* `Pull.Chain.discipline` — every chain of pulls keeps the discipline.
-/

namespace QueryRouting

/-- What the pulls on a plan may do, from the first one on. -/
structure Pull.Discipline (plan : RoutedPlan) (pulls : List Pull) : Prop where
  /-- The replicas are those that the plan was made with. -/
  fixed : ∀ p ∈ pulls, p.plan.replicas = plan.replicas
  /-- The replicas are looked at in order, none of them twice, and all of them when a pull
  goes on to the default plan or yields nothing. -/
  examined : ∃ count ≤ plan.replicas.length, pulls.flatMap Pull.examined = List.range count ∧
    ∀ p ∈ pulls, p.reachesDefault = true ∨ p.yielded = none → count = plan.replicas.length
  /-- A replica that is looked at is yielded when at this moment it is up and, unless the
  level is strong, local, and only then. -/
  replica : ∀ p ∈ pulls, ∀ i ∈ p.examined, ∃ h, plan.replicas[i]? = some h ∧
    (p.YieldsReplica i ↔ p.router.fleet.isUp h = true ∧
      (plan.strong = true ∨ plan.child.distance p.router.fleet.registry h = .local))
  /-- A pull that does not go on to the default plan yields a replica that it looks at. -/
  source : ∀ p ∈ pulls, p.reachesDefault = false → ∃ i ∈ p.examined, p.YieldsReplica i
  /-- The default plan is asked for once at most. -/
  once : (pulls.filter Pull.requestsDefault).length ≤ 1
  /-- A pull that asks for it has looked at the last replica and yields none.  The rotation
  of the child moves as for a plan for no statement, by one step at most. -/
  request : ∀ p ∈ pulls, p.requestsDefault = true →
    p.after.position = plan.replicas.length ∧ (∀ i, ¬p.YieldsReplica i) ∧
      (∀ keyspace, p.rotations = (plan.child.plan p.router keyspace none).2.1.rotations) ∧
      (p.rotations = p.router.rotations ∨
        p.rotations = p.router.rotations.advance plan.child.base.rotation)
  /-- No other pull moves a rotation. -/
  still : ∀ p ∈ pulls, p.requestsDefault = false → p.rotations = p.router.rotations
  /-- Without such a pull, what is yielded are replicas in their order. -/
  within : (∀ p ∈ pulls, p.requestsDefault = false) →
    (pulls.filterMap Pull.yielded).Sublist plan.replicas
  /-- With one, these are followed by hosts of the plan that was asked for, in its order and
  as many as it has at most. -/
  origin : ∀ before p later, pulls = before ++ p :: later → p.requestsDefault = true →
    (∀ q ∈ before, q.reachesDefault = false) ∧ (∀ q ∈ p :: later, q.reachesDefault = true) ∧
      (before.filterMap Pull.yielded).Sublist plan.replicas ∧
      ∃ requested : GenericPlan,
        (∀ keyspace, (plan.child.plan p.router keyspace none).1 = .generic requested) ∧
        ∃ q ∈ p :: later,
          ((p :: later).filterMap Pull.yielded).Sublist
            (requested.ahead q.router.fleet.registry) ∧
          (pulls.filterMap Pull.yielded).length
            ≤ plan.replicas.length + (requested.ahead q.router.fleet.registry).length
  /-- A host of the default plan that is yielded has the address of no replica, and is at
  this moment up and, unless the level is strong, local. -/
  later : ∀ p ∈ pulls, p.reachesDefault = true → ∀ h, p.yielded = some h →
    (∀ k ∈ plan.replicas, h.address ≠ k.address) ∧ p.router.fleet.isUp h = true ∧
      (plan.strong = true ∨ plan.child.distance p.router.fleet.registry h = .local)
  /-- A pull yields nothing only when every host that is ahead in the default plan and may be
  offered at this moment has the address of a replica. -/
  complete : ∀ p ∈ pulls, p.yielded = none →
    ∀ h ∈ (p.plan.fallbackPlan p.router.fleet p.router.rotations).1.ahead
        p.router.fleet.registry,
      p.router.fleet.isUp h = true →
        (plan.strong = true ∨ plan.child.distance p.router.fleet.registry h = .local) →
          ∃ k ∈ plan.replicas, h.address = k.address
  /-- After a pull that yields nothing no pull yields anything. -/
  ended : ∀ before p later, pulls = before ++ p :: later → p.yielded = none →
    ∀ q ∈ later, q.yielded = none

namespace Pull.Chain

variable {plan : RoutedPlan} {pulls before later : List Pull} {p : Pull}

/-- The plan that is asked for is that of the child for no statement. -/
theorem fallbackPlan_eq (h : Chain plan pulls) (c : plan.Consistent) (hp : p ∈ pulls)
    (hrequest : p.requestsDefault = true) :
    p.plan.fallbackPlan p.router.fleet p.router.rotations
      = plan.child.defaultPlan p.router.fleet.registry p.router.rotations := by
  obtain ⟨-, hchild, -⟩ := h.fixed c hp
  rw [requestsDefault, Bool.and_eq_true, Option.isNone_iff_eq_none] at hrequest
  rw [RoutedPlan.fallbackPlan, hrequest.1, hchild]

/-- Which hosts may be offered is the same for all pulls, as far as the plan decides it. -/
theorem isEligible_eq (h : Chain plan pulls) (c : plan.Consistent) (hp : p ∈ pulls)
    (fleet : Fleet) (k : Host) : p.plan.isEligible fleet k = plan.isEligible fleet k := by
  obtain ⟨-, hchild, hstrong, -⟩ := h.fixed c hp
  rw [RoutedPlan.isEligible, RoutedPlan.isEligible, hchild, hstrong]

/-- So is which hosts of the default plan are taken. -/
theorem accepts_eq (h : Chain plan pulls) (c : plan.Consistent) (hp : p ∈ pulls)
    (fleet : Fleet) (k : Host) : p.plan.accepts fleet k = plan.accepts fleet k := by
  obtain ⟨-, -, -, hreplicas⟩ := h.fixed c hp
  rw [RoutedPlan.accepts, RoutedPlan.accepts, RoutedPlan.isReplica, RoutedPlan.isReplica,
    hreplicas, h.isEligible_eq c hp]

/-- A replica that is looked at is yielded when it may be offered at this moment. -/
theorem yieldsReplica_iff_eligible (h : Chain plan pulls) (c : plan.Consistent) (hp : p ∈ pulls)
    {i : Nat} (hi : i ∈ p.examined) :
    ∃ k, plan.replicas[i]? = some k ∧
      (p.YieldsReplica i ↔ plan.isEligible p.router.fleet k = true) := by
  obtain ⟨hc, -, -, hreplicas⟩ := h.fixed c hp
  obtain ⟨k, hk, hyields⟩ := yieldsReplica_iff hc hi
  rw [hreplicas] at hk
  rw [h.isEligible_eq c hp] at hyields
  exact ⟨k, hk, hyields⟩

/-- A host of the default plan that is yielded may be offered at this moment, and has the
address of no replica. -/
theorem accepts_of_yielded (h : Chain plan pulls) (c : plan.Consistent) (hp : p ∈ pulls)
    (hdefault : p.reachesDefault = true) {k : Host} (hk : p.yielded = some k) :
    plan.accepts p.router.fleet k = true := by
  obtain ⟨-, fallback, hfind, -⟩ := after_of_reachesDefault (h.fixed c hp).1 hdefault
  rw [hk] at hfind
  obtain ⟨-, -, -, -, hacc, -⟩ := GenericPlan.find_eq_some hfind
  rw [← h.accepts_eq c hp]
  exact hacc

/-- A pull that yields nothing passes over every host ahead. -/
theorem accepts_eq_false_of_end (h : Chain plan pulls) (c : plan.Consistent) (hp : p ∈ pulls)
    (hend : p.yielded = none) {k : Host}
    (hk : k ∈ (p.plan.fallbackPlan p.router.fleet p.router.rotations).1.ahead
      p.router.fleet.registry) (hup : p.router.fleet.isUp k = true) :
    plan.accepts p.router.fleet k = false := by
  obtain ⟨-, fallback, hfind, -⟩ :=
    after_of_reachesDefault (h.fixed c hp).1 (reachesDefault_of_yielded_eq_none hend)
  rw [hend] at hfind
  have hpassed := (GenericPlan.find_eq_none hfind).2 k hk
  rw [GenericPlan.offers_of_isUp hup, Bool.true_and, h.accepts_eq c hp] at hpassed
  exact hpassed

/-- What a pull that asks for the default plan has done. -/
theorem request_spec (h : Chain plan pulls) (c : plan.Consistent) (hp : p ∈ pulls)
    (hrequest : p.requestsDefault = true) :
    p.after.position = plan.replicas.length ∧ (∀ i, ¬p.YieldsReplica i) ∧
      p.rotations = (plan.child.defaultPlan p.router.fleet.registry p.router.rotations).2 := by
  have hdefault := reachesDefault_of_requestsDefault hrequest
  obtain ⟨hc, -, -, hreplicas⟩ := h.fixed c hp
  obtain ⟨hspent, fallback, -, -, hrotations⟩ := after_of_reachesDefault hc hdefault
  rw [h.fallbackPlan_eq c hp hrequest] at hrotations
  refine ⟨?_, ?_, hrotations⟩
  · rw [position_of_spent hc hspent, hreplicas]
  · rintro i ⟨-, hnot, -⟩
    rw [hdefault] at hnot
    simp at hnot

/-- **The hosts that are yielded**, when one of the pulls asks for the default plan: before
it replicas, from it on hosts of this plan. -/
theorem yielded_of_request (h : Chain plan (before ++ p :: later)) (c : plan.Consistent)
    (hrequest : p.requestsDefault = true) :
    (∀ q ∈ before, q.reachesDefault = false) ∧ (∀ q ∈ p :: later, q.reachesDefault = true) ∧
      (before.filterMap yielded).Sublist plan.pending ∧
      ∃ q ∈ p :: later, ((p :: later).filterMap yielded).Sublist
        ((plan.child.defaultPlan p.router.fleet.registry p.router.rotations).1.ahead
          q.router.fleet.registry) := by
  have hp : p ∈ before ++ p :: later := by simp
  have hc := (h.fixed c hp).1
  have hdefault := reachesDefault_of_requestsDefault hrequest
  have hwithin := h.reachesDefault_eq_false c hrequest
  have hspent := (after_of_reachesDefault hc hdefault).1
  have hlist := h.of_append.yielded_sublist_default hc hdefault
  rw [h.fallbackPlan_eq c hp hrequest] at hlist
  refine ⟨hwithin, fun q hq => ?_, h.left.yielded_sublist_pending c hwithin, hlist⟩
  rcases List.mem_cons.mp hq with rfl | hq
  · exact hdefault
  · exact h.of_append.2.reachesDefault_of_request (consistent_after hc) hspent q hq

/-- A pull that yields nothing is the end of the plan. -/
theorem yielded_eq_none_of_end (h : Chain plan (before ++ p :: later)) (c : plan.Consistent)
    (hend : p.yielded = none) : ∀ q ∈ later, q.yielded = none := by
  have hp : p ∈ before ++ p :: later := by simp
  have hc := (h.fixed c hp).1
  obtain ⟨hspent, fallback, hfind, hfallback, -⟩ :=
    after_of_reachesDefault hc (reachesDefault_of_yielded_eq_none hend)
  rw [hend] at hfind
  obtain ⟨rfl, -⟩ := GenericPlan.find_eq_none hfind
  exact h.of_append.2.yielded_eq_none (consistent_after hc) hspent hfallback

/-- **Every chain of pulls keeps the discipline.** -/
theorem discipline {child : Policy} {strong : Bool} {replicas : List Host}
    (h : Chain (.start child strong replicas) pulls) :
    Discipline (.start child strong replicas) pulls := by
  have c := RoutedPlan.Consistent.start child strong replicas
  refine
    { fixed := fun p hp => (h.fixed c hp).2.2.2
      examined := ?examined
      replica := ?replica
      source := fun p hp => exists_yieldsReplica (h.fixed c hp).1
      once := h.length_requests_le c
      request := ?request
      still := fun p _ => rotations_eq
      within := ?within
      origin := ?origin
      later := ?later
      complete := ?complete
      ended := ?ended }
  case examined =>
    have hposition : (RoutedPlan.start child strong replicas).position = 0 := Nat.sub_self _
    obtain ⟨count, hcount, hle, hall⟩ := h.examined_eq c
    rw [hposition, Nat.zero_add] at hle hall
    rw [hposition, ← List.range_eq_range'] at hcount
    refine ⟨count, hle, hcount, fun p hp hend => ?_⟩
    rcases hend with hend | hend
    · exact hall p hp hend
    · exact hall p hp (reachesDefault_of_yielded_eq_none hend)
  case replica =>
    intro p hp i hi
    simp only [← RoutedPlan.isEligible_iff]
    exact h.yieldsReplica_iff_eligible c hp hi
  case request =>
    intro p hp hrequest
    obtain ⟨hposition, hnot, hrotations⟩ := h.request_spec c hp hrequest
    refine ⟨hposition, hnot, fun keyspace => ?_, ?_⟩
    · rw [hrotations, Policy.plan_none]
    · rw [hrotations, Policy.defaultPlan_eq]
      exact GenericPolicy.rotations_plan _ _ _
  case within =>
    intro hnone
    exact h.yielded_sublist_pending c (h.reachesDefault_of_no_request rfl hnone)
  case origin =>
    rintro before p later rfl hrequest
    obtain ⟨hwithin, hdefault, hreplicas, q, hq, hlist⟩ := h.yielded_of_request c hrequest
    refine ⟨hwithin, hdefault, hreplicas, _, fun keyspace => ?_, q, hq, hlist, ?_⟩
    · rw [Policy.plan_none]
    · rw [List.filterMap_append, List.length_append]
      exact Nat.add_le_add hreplicas.length_le hlist.length_le
  case later =>
    intro p hp hdefault k hk
    rw [← RoutedPlan.isEligible_iff, ← RoutedPlan.accepts_iff]
    exact h.accepts_of_yielded c hp hdefault hk
  case complete =>
    intro p hp hend k hk hup hlocal
    have hnot := h.accepts_eq_false_of_end c hp hend hk hup
    rw [← Bool.not_eq_true, RoutedPlan.accepts_iff, RoutedPlan.isEligible_iff] at hnot
    by_cases haddress : ∃ r ∈ replicas, k.address = r.address
    · exact haddress
    · exact absurd ⟨fun r hr e => haddress ⟨r, hr, e⟩, hup, hlocal⟩ hnot
  case ended =>
    rintro before p later rfl hend
    exact h.yielded_eq_none_of_end c hend

end Pull.Chain

end QueryRouting
