import QueryRouting.Proofs.Policy.Routing

/-!
# Pulls on a plan led by replicas

The pulls on one plan, each with the state of the router at its moment.  Between two
pulls the router may change in any way; the plan that the second is made on is the one
that the first has left, and this alone decides what the plan yields.  First come pulls
that yield replicas, each passing over those that may not be offered.  The pull that
finds none asks for the default plan; from then on every pull is one on this plan.

## Main definitions

* `Pull` — a pull, what it yields and what it leaves.
* `Pull.Chain` — pulls on one plan, one after the other.
* `RoutedPlan.Consistent` — the invariant of a plan.

## Main results

* `Pull.cases` — what one pull does.
* `Pull.yieldsReplica_iff` — which of the replicas that it looks at it yields.
* `Pull.Chain.examined_eq`, `Pull.Chain.yielded_sublist_pending` — the pulls within the replicas.
* `Pull.Chain.length_requests_le`, `Pull.Chain.yielded_sublist_default` — the pulls after them.
-/

namespace QueryRouting

/-- A pull on a plan led by replicas. -/
structure Pull where
  /-- The router at the moment of the pull. -/
  router : Router
  /-- The plan at this moment. -/
  plan : RoutedPlan

/-- The number of replicas that have been looked at. -/
def RoutedPlan.position (plan : RoutedPlan) : Nat := plan.replicas.length - plan.pending.length

namespace Pull

/-- The host that is yielded, if there is one. -/
def yielded (p : Pull) : Option Host := (p.plan.next p.router.fleet p.router.rotations).1

/-- The plan after the pull. -/
def after (p : Pull) : RoutedPlan := (p.plan.next p.router.fleet p.router.rotations).2.1

/-- The rotations after the pull. -/
def rotations (p : Pull) : Rotations := (p.plan.next p.router.fleet p.router.rotations).2.2

/-- The positions of the replicas that the pull looks at. -/
def examined (p : Pull) : List Nat :=
  List.range' p.plan.position (p.after.position - p.plan.position)

/-- Whether the pull goes on to the default plan. -/
def reachesDefault (p : Pull) : Bool := p.after.fallback.isSome

/-- Whether the pull asks for the default plan. -/
def requestsDefault (p : Pull) : Bool := p.plan.fallback.isNone && p.reachesDefault

/-- The pull yields the replica at a position: it looks at this position last, and does
not go on to the default plan. -/
def YieldsReplica (p : Pull) (i : Nat) : Prop :=
  p.after.position = i + 1 ∧ p.reachesDefault = false ∧ p.yielded = p.plan.replicas[i]?

/-- The pulls are made on one plan, one after the other. -/
def Chain (plan : RoutedPlan) : List Pull → Prop
  | [] => True
  | p :: later => p.plan = plan ∧ Chain p.after later

/-! ### One pull -/

/-- **What a pull does.**  It yields the first replica ahead that may be offered.  When
there is none it pulls on the default plan, which is a new one when none is in use. -/
theorem cases (p : Pull) :
    (∃ passed h later, p.plan.pending = passed ++ h :: later ∧
      p.plan.isEligible p.router.fleet h = true ∧
      (∀ k ∈ passed, p.plan.isEligible p.router.fleet k = false) ∧ p.yielded = some h ∧
      p.after = { p.plan with pending := later } ∧ p.rotations = p.router.rotations) ∨
    ((∀ k ∈ p.plan.pending, p.plan.isEligible p.router.fleet k = false) ∧
      ∃ fallback,
        (p.plan.fallbackPlan p.router.fleet p.router.rotations).1.find p.router.fleet
          (p.plan.accepts p.router.fleet) = (p.yielded, fallback) ∧
        p.after = { p.plan with pending := [], fallback := some fallback } ∧
        p.rotations = (p.plan.fallbackPlan p.router.fleet p.router.rotations).2) := by
  rcases p.plan.next_cases p.router.fleet p.router.rotations with
    ⟨passed, h, later, hpending, hh, hpassed, hnext⟩ | ⟨hnone, found, fallback, hfind, hnext⟩
  · refine Or.inl ⟨passed, h, later, hpending, hh, hpassed, ?_, ?_, ?_⟩
    · rw [yielded, hnext]
    · rw [after, hnext]
    · rw [rotations, hnext]
  · refine Or.inr ⟨hnone, fallback, ?_, ?_, ?_⟩
    · rw [yielded, hnext, hfind]
    · rw [after, hnext]
    · rw [rotations, hnext]

variable {p : Pull}

/-- The child, the level and the replicas are fixed when a plan is made. -/
theorem after_fixed (p : Pull) :
    p.after.child = p.plan.child ∧ p.after.strong = p.plan.strong ∧
      p.after.replicas = p.plan.replicas := by
  rcases p.cases with ⟨_, _, _, _, _, _, _, hafter, _⟩ | ⟨_, _, _, hafter, _⟩
  · rw [hafter]
    exact ⟨rfl, rfl, rfl⟩
  · rw [hafter]
    exact ⟨rfl, rfl, rfl⟩

end Pull

/-- The replicas that have not been looked at are the last ones, and there are none
when the default plan is in use. -/
structure RoutedPlan.Consistent (plan : RoutedPlan) : Prop where
  suffix : plan.pending <:+ plan.replicas
  spent : plan.fallback = none ∨ plan.pending = []

namespace RoutedPlan.Consistent

variable {plan : RoutedPlan}

theorem start (child : Policy) (strong : Bool) (replicas : List Host) :
    (RoutedPlan.start child strong replicas).Consistent where
  suffix := List.suffix_rfl
  spent := Or.inl rfl

theorem exists_looked (c : plan.Consistent) :
    ∃ looked, plan.replicas = looked ++ plan.pending ∧ plan.position = looked.length := by
  obtain ⟨looked, hlooked⟩ := c.suffix
  refine ⟨looked, hlooked.symm, ?_⟩
  rw [position, ← hlooked, List.length_append, Nat.add_sub_cancel]

/-- No default plan is in use while there is a replica to look at. -/
theorem fallback_eq_none (c : plan.Consistent) {passed later : List Host} {h : Host}
    (hpending : plan.pending = passed ++ h :: later) : plan.fallback = none := by
  rcases c.spent with hspent | hnil
  · exact hspent
  · rw [hpending] at hnil
    simp at hnil

theorem position_add (c : plan.Consistent) :
    plan.position + plan.pending.length = plan.replicas.length := by
  obtain ⟨looked, hlooked, hposition⟩ := c.exists_looked
  rw [hposition, hlooked, List.length_append]

/-- The replica ahead at a distance. -/
theorem getElem?_replicas (c : plan.Consistent) (j : Nat) :
    plan.replicas[plan.position + j]? = plan.pending[j]? := by
  obtain ⟨looked, hlooked, hposition⟩ := c.exists_looked
  rw [hposition, hlooked, List.getElem?_append_right (Nat.le_add_right _ _),
    Nat.add_sub_cancel_left]

end RoutedPlan.Consistent

namespace Pull

variable {p : Pull}

/-- A pull leaves a consistent plan. -/
theorem consistent_after (c : p.plan.Consistent) : p.after.Consistent := by
  rcases p.cases with ⟨passed, h, later, hpending, _, _, _, hafter, _⟩ | ⟨_, fallback, _, hafter, _⟩
  · rw [hafter]
    refine ⟨?_, Or.inl (c.fallback_eq_none hpending)⟩
    refine List.IsSuffix.trans ?_ c.suffix
    rw [hpending, ← List.concat_append]
    exact List.suffix_append _ _
  · rw [hafter]
    exact ⟨List.nil_suffix, Or.inr rfl⟩

theorem position_after_add (c : p.plan.Consistent) :
    p.after.position + p.after.pending.length = p.plan.replicas.length := by
  rw [(consistent_after c).position_add, p.after_fixed.2.2]

/-- The pull looks at the replicas that it passes over and at the one that it yields. -/
theorem position_of_yield (c : p.plan.Consistent) {passed later : List Host} {h : Host}
    (hpending : p.plan.pending = passed ++ h :: later)
    (hafter : p.after = { p.plan with pending := later }) :
    p.after.position = p.plan.position + passed.length + 1 := by
  have hbefore := c.position_add
  have hlater := position_after_add c
  have hlength : p.after.pending.length = later.length := by rw [hafter]
  rw [hpending, List.length_append, List.length_cons] at hbefore
  omega

/-- Or it looks at all that are ahead. -/
theorem position_of_spent (c : p.plan.Consistent) (hafter : p.after.pending = []) :
    p.after.position = p.plan.replicas.length := by
  have hlater := position_after_add c
  rw [hafter, List.length_nil] at hlater
  omega

/-- A pull goes on where the one before stopped, and no further than the last replica. -/
theorem position_le (c : p.plan.Consistent) :
    p.plan.position ≤ p.after.position ∧ p.after.position ≤ p.plan.replicas.length := by
  have hbefore := c.position_add
  have hlater := position_after_add c
  rcases p.cases with ⟨passed, h, later, hpending, _, _, _, hafter, _⟩ | ⟨_, fallback, _, hafter, _⟩
  · have hposition := position_of_yield c hpending hafter
    omega
  · have hposition := position_of_spent c (by rw [hafter])
    omega

/-- **A replica that is looked at is yielded when it may be offered at this moment, and
only then.** -/
theorem yieldsReplica_iff (c : p.plan.Consistent) {i : Nat} (hi : i ∈ p.examined) :
    ∃ h, p.plan.replicas[i]? = some h ∧
      (p.YieldsReplica i ↔ p.plan.isEligible p.router.fleet h = true) := by
  obtain ⟨hle, hlt⟩ := List.mem_range'_1.mp hi
  obtain ⟨j, rfl⟩ := Nat.exists_eq_add_of_le hle
  have hbefore := c.position_add
  rw [c.getElem?_replicas]
  rcases p.cases with
    ⟨passed, h, later, hpending, hh, hpassed, hyielded, hafter, _⟩ | ⟨hnone, fallback, _, hafter, _⟩
  · have hposition := position_of_yield c hpending hafter
    have hdefault : p.reachesDefault = false := by
      rw [reachesDefault, hafter]
      simp [c.fallback_eq_none hpending]
    rcases Nat.lt_or_ge j passed.length with hj | hj
    · -- The replica is passed over.
      have hget : p.plan.pending[j]? = some passed[j] := by
        rw [hpending, List.getElem?_append_left hj, List.getElem?_eq_getElem hj]
      refine ⟨passed[j], hget, ?_⟩
      refine iff_of_false ?_ (by simp [hpassed _ (List.getElem_mem hj)])
      rintro ⟨hlast, -, -⟩
      omega
    · -- The replica is the last one that is looked at.
      obtain rfl : j = passed.length := by omega
      have hget : p.plan.pending[passed.length]? = some h := by
        rw [hpending, List.getElem?_append_right (Nat.le_refl _), Nat.sub_self]
        rfl
      refine ⟨h, hget, iff_of_true ⟨by omega, hdefault, ?_⟩ hh⟩
      rw [c.getElem?_replicas, hget, hyielded]
  · have hposition := position_of_spent c (by rw [hafter])
    have hj : j < p.plan.pending.length := by omega
    refine ⟨p.plan.pending[j], List.getElem?_eq_getElem hj, ?_⟩
    refine iff_of_false ?_ (by simp [hnone _ (List.getElem_mem hj)])
    rintro ⟨-, hdefault, -⟩
    rw [reachesDefault, hafter] at hdefault
    simp at hdefault

/-- A pull that does not go on to the default plan yields a replica that it looks at. -/
theorem exists_yieldsReplica (c : p.plan.Consistent) (h : p.reachesDefault = false) :
    ∃ i ∈ p.examined, p.YieldsReplica i := by
  rcases p.cases with
    ⟨passed, k, later, hpending, _, _, hyielded, hafter, _⟩ | ⟨_, fallback, _, hafter, _⟩
  · have hposition := position_of_yield c hpending hafter
    refine ⟨p.plan.position + passed.length, List.mem_range'_1.mpr ⟨by omega, by omega⟩,
      hposition, h, ?_⟩
    rw [c.getElem?_replicas, hyielded, hpending, List.getElem?_append_right (Nat.le_refl _),
      Nat.sub_self]
    rfl
  · rw [reachesDefault, hafter] at h
    simp at h

/-- A pull that goes on to the default plan leaves no replica to look at, and the default
plan in use. -/
theorem after_of_reachesDefault (c : p.plan.Consistent) (h : p.reachesDefault = true) :
    p.after.pending = [] ∧ ∃ fallback,
      (p.plan.fallbackPlan p.router.fleet p.router.rotations).1.find p.router.fleet
        (p.plan.accepts p.router.fleet) = (p.yielded, fallback) ∧
      p.after.fallback = some fallback ∧
      p.rotations = (p.plan.fallbackPlan p.router.fleet p.router.rotations).2 := by
  rcases p.cases with
    ⟨passed, k, later, hpending, _, _, _, hafter, _⟩ | ⟨_, fallback, hfind, hafter, hrotations⟩
  · rw [reachesDefault, hafter] at h
    simp [c.fallback_eq_none hpending] at h
  · rw [hafter]
    exact ⟨rfl, fallback, hfind, rfl, hrotations⟩

/-- A pull on a plan without replicas to look at goes on to the default plan. -/
theorem reachesDefault_of_spent (h : p.plan.pending = []) : p.reachesDefault = true := by
  rcases p.cases with ⟨passed, k, later, hpending, _⟩ | ⟨_, fallback, _, hafter, _⟩
  · rw [h] at hpending
    simp at hpending
  · rw [reachesDefault, hafter]
    rfl

/-- So does a pull that yields nothing. -/
theorem reachesDefault_of_yielded_eq_none (h : p.yielded = none) : p.reachesDefault = true := by
  rcases p.cases with ⟨passed, k, later, _, _, _, hyielded, _⟩ | ⟨_, fallback, _, hafter, _⟩
  · rw [h] at hyielded
    simp at hyielded
  · rw [reachesDefault, hafter]
    rfl

/-- A pull that asks for the default plan goes on to it. -/
theorem reachesDefault_of_requestsDefault (h : p.requestsDefault = true) :
    p.reachesDefault = true := by
  rw [requestsDefault, Bool.and_eq_true] at h
  exact h.2

/-- A pull that asks for no default plan moves no rotation. -/
theorem rotations_eq (h : p.requestsDefault = false) : p.rotations = p.router.rotations := by
  rcases p.cases with ⟨_, _, _, _, _, _, _, _, hrotations⟩ | ⟨_, fallback, _, hafter, hrotations⟩
  · exact hrotations
  · rw [hrotations, RoutedPlan.fallbackPlan]
    cases hfallback : p.plan.fallback with
    | some _ => rfl
    | none =>
      rw [requestsDefault, reachesDefault, hafter, hfallback] at h
      simp at h

end Pull

/-! ### Pulls one after the other -/

namespace Pull.Chain

variable {plan : RoutedPlan} {pulls before later : List Pull} {p : Pull}

theorem of_append (h : Chain plan (before ++ p :: later)) : Chain p.plan (p :: later) := by
  induction before generalizing plan with
  | nil => exact ⟨rfl, h.2⟩
  | cons q before ih => exact ih h.2

theorem left (h : Chain plan (before ++ later)) : Chain plan before := by
  induction before generalizing plan with
  | nil => exact trivial
  | cons q before ih => exact ⟨h.1, ih h.2⟩

/-- Every pull of a chain is made on a consistent plan with the child, the level and the
replicas of the first. -/
theorem fixed (h : Chain plan pulls) (c : plan.Consistent) (hp : p ∈ pulls) :
    p.plan.Consistent ∧ p.plan.child = plan.child ∧ p.plan.strong = plan.strong ∧
      p.plan.replicas = plan.replicas := by
  induction pulls generalizing plan with
  | nil => simp at hp
  | cons q pulls ih =>
    obtain ⟨rfl, hlater⟩ := h
    rcases List.mem_cons.mp hp with rfl | hp
    · exact ⟨c, rfl, rfl, rfl⟩
    · obtain ⟨hc, hchild, hstrong, hreplicas⟩ := ih hlater (consistent_after c) hp
      obtain ⟨hchild', hstrong', hreplicas'⟩ := q.after_fixed
      exact ⟨hc, hchild.trans hchild', hstrong.trans hstrong', hreplicas.trans hreplicas'⟩

/-- **The replicas are looked at in order**, and all of them before a pull goes on to the
default plan. -/
theorem examined_eq (h : Chain plan pulls) (c : plan.Consistent) :
    ∃ count, pulls.flatMap examined = List.range' plan.position count ∧
      plan.position + count ≤ plan.replicas.length ∧
      ∀ p ∈ pulls, p.reachesDefault = true →
        plan.position + count = plan.replicas.length := by
  induction pulls generalizing plan with
  | nil =>
    have hlength := c.position_add
    exact ⟨0, rfl, by omega, by simp⟩
  | cons q pulls ih =>
    obtain ⟨rfl, hlater⟩ := h
    -- The pulls after this one go on at the position where it stops.
    obtain ⟨count, hcount, hle, hall⟩ := ih hlater (consistent_after c)
    obtain ⟨hfrom, hto⟩ := position_le c
    rw [q.after_fixed.2.2] at hle hall
    refine ⟨(q.after.position - q.plan.position) + count, ?_, by omega, ?_⟩
    · have hstart : q.after.position = q.plan.position + (q.after.position - q.plan.position) := by
        omega
      rw [List.flatMap_cons, hcount, examined]
      conv => lhs; rhs; rw [hstart]
      rw [List.range'_append_1]
    · intro p hp hreaches
      rcases List.mem_cons.mp hp with rfl | hp
      · have hposition := position_of_spent c (after_of_reachesDefault c hreaches).1
        omega
      · have hposition := hall p hp hreaches
        omega

/-- Once a default plan is in use, no other is asked for. -/
theorem requestsDefault_eq_false (h : Chain plan pulls) (c : plan.Consistent)
    (hfallback : plan.fallback ≠ none) (hp : p ∈ pulls) : p.requestsDefault = false := by
  induction pulls generalizing plan with
  | nil => simp at hp
  | cons q pulls ih =>
    obtain ⟨rfl, hlater⟩ := h
    rcases List.mem_cons.mp hp with rfl | hp
    · rw [requestsDefault, Option.isNone_eq_false_iff.mpr (Option.isSome_iff_ne_none.mpr hfallback)]
      rfl
    · have hspent : q.plan.pending = [] := c.spent.resolve_left hfallback
      obtain ⟨-, fallback, -, hafter, -⟩ :=
        after_of_reachesDefault c (reachesDefault_of_spent hspent)
      exact ih hlater (consistent_after c) (by simp [hafter]) hp

/-- Before the default plan is asked for, every pull stays within the replicas. -/
theorem reachesDefault_eq_false (h : Chain plan (before ++ p :: later)) (c : plan.Consistent)
    (hp : p.requestsDefault = true) : ∀ q ∈ before, q.reachesDefault = false := by
  induction before generalizing plan with
  | nil => simp
  | cons q before ih =>
    obtain ⟨rfl, hlater⟩ := h
    intro q' hq'
    rcases List.mem_cons.mp hq' with rfl | hq'
    · cases hreaches : q'.reachesDefault with
      | false => rfl
      | true =>
        obtain ⟨-, fallback, -, hafter, -⟩ := after_of_reachesDefault c hreaches
        have hnot := requestsDefault_eq_false (p := p) hlater (consistent_after c)
          (by simp [hafter]) (by simp)
        rw [hp] at hnot
        exact absurd hnot (by simp)
    · exact ih hlater (consistent_after c) q' hq'

/-- Nor does any go on to it when none asks for it. -/
theorem reachesDefault_of_no_request (h : Chain plan pulls) (hfallback : plan.fallback = none)
    (hnone : ∀ p ∈ pulls, p.requestsDefault = false) : ∀ p ∈ pulls, p.reachesDefault = false := by
  induction pulls generalizing plan with
  | nil => simp
  | cons q pulls ih =>
    obtain ⟨rfl, hlater⟩ := h
    have hq : q.reachesDefault = false := by
      have hq := hnone q List.mem_cons_self
      rwa [requestsDefault, hfallback, Option.isNone_none, Bool.true_and] at hq
    intro p hp
    rcases List.mem_cons.mp hp with rfl | hp
    · exact hq
    · refine ih hlater ?_ (fun p hp => hnone p (List.mem_cons_of_mem _ hp)) p hp
      rwa [reachesDefault, Option.isSome_eq_false_iff, Option.isNone_iff_eq_none] at hq

/-- **The default plan is asked for once at most.** -/
theorem length_requests_le (h : Chain plan pulls) (c : plan.Consistent) :
    (pulls.filter requestsDefault).length ≤ 1 := by
  induction pulls generalizing plan with
  | nil => simp
  | cons q pulls ih =>
    obtain ⟨rfl, hlater⟩ := h
    cases hq : q.requestsDefault with
    | false =>
      rw [List.filter_cons_of_neg (by simp [hq])]
      exact ih hlater (consistent_after c)
    | true =>
      obtain ⟨-, fallback, -, hafter, -⟩ :=
        after_of_reachesDefault c (reachesDefault_of_requestsDefault hq)
      -- From this pull on a default plan is in use.
      have hnone : pulls.filter requestsDefault = [] := by
        rw [List.filter_eq_nil_iff]
        intro p hp
        rw [requestsDefault_eq_false hlater (consistent_after c) (by simp [hafter]) hp]
        simp
      rw [List.filter_cons_of_pos hq, hnone]
      simp

/-- Pulls that stay within the replicas yield some of those ahead, in their order. -/
theorem yielded_sublist_pending (h : Chain plan pulls) (c : plan.Consistent)
    (hwithin : ∀ p ∈ pulls, p.reachesDefault = false) :
    (pulls.filterMap yielded).Sublist plan.pending := by
  induction pulls generalizing plan with
  | nil => simp
  | cons q pulls ih =>
    obtain ⟨rfl, hlater⟩ := h
    have ih := ih hlater (consistent_after c) fun p hp => hwithin p (List.mem_cons_of_mem _ hp)
    rcases q.cases with
      ⟨passed, k, later, hpending, _, _, hyielded, hafter, _⟩ | ⟨_, _, _, hafter, _⟩
    · rw [List.filterMap_cons_some hyielded, hpending]
      rw [hafter] at ih
      exact (ih.cons_cons k).trans (List.sublist_append_right _ _)
    · have hnot := hwithin q List.mem_cons_self
      rw [reachesDefault, hafter] at hnot
      simp at hnot

/-- **Pulls on the default plan yield some of its hosts, in their order**, when the
registry is read at one of the pulls. -/
theorem yielded_sublist_default (h : Chain plan (p :: later)) (c : plan.Consistent)
    (hp : p.reachesDefault = true) :
    ∃ q ∈ p :: later, ((p :: later).filterMap yielded).Sublist
      ((p.plan.fallbackPlan p.router.fleet p.router.rotations).1.ahead
        q.router.fleet.registry) := by
  induction later generalizing plan p with
  | nil =>
    obtain ⟨rfl, -⟩ := h
    obtain ⟨-, fallback, hfind, -⟩ := after_of_reachesDefault c hp
    refine ⟨p, List.mem_cons_self, ?_⟩
    cases hyielded : p.yielded with
    | none => simp [hyielded]
    | some k =>
      rw [hyielded] at hfind
      obtain ⟨passed, hahead, -⟩ := GenericPlan.find_eq_some hfind
      rw [List.filterMap_cons_some hyielded, hahead]
      exact ((List.nil_sublist _).cons_cons k).trans (List.sublist_append_right _ _)
  | cons next later ih =>
    obtain ⟨rfl, hnext⟩ := h
    obtain ⟨hspent, fallback, hfind, hfallback, -⟩ := after_of_reachesDefault c hp
    have hplan : next.plan = p.after := hnext.1
    obtain ⟨q, hq, hlist⟩ := ih hnext (consistent_after c)
      (reachesDefault_of_spent (by rw [hplan, hspent]))
    -- The pull after goes on with the plan that this one has left.
    have hinUse :
        (next.plan.fallbackPlan next.router.fleet next.router.rotations).1 = fallback := by
      rw [RoutedPlan.fallbackPlan, hplan, hfallback]
    rw [hinUse] at hlist
    cases hyielded : p.yielded with
    | none =>
      rw [hyielded] at hfind
      obtain ⟨rfl, -⟩ := GenericPlan.find_eq_none hfind
      rw [List.filterMap_cons_none hyielded]
      exact ⟨p, List.mem_cons_self, hlist.trans (List.nil_sublist _)⟩
    | some k =>
      rw [hyielded] at hfind
      obtain ⟨passed, hahead, -, -, -, -, hread⟩ := GenericPlan.find_eq_some hfind
      rw [List.filterMap_cons_some hyielded]
      rcases hread q.router.fleet.registry with hlater | hlater
      · -- Local hosts are ahead yet, and the remote ones are those of the later pull.
        refine ⟨q, List.mem_cons_of_mem _ hq, ?_⟩
        rw [hlater]
        exact (hlist.cons_cons k).trans (List.sublist_append_right _ _)
      · -- What is ahead has been read, if not before then at this pull.
        refine ⟨p, List.mem_cons_self, ?_⟩
        rw [hahead, ← hlater]
        exact (hlist.cons_cons k).trans (List.sublist_append_right _ _)

/-- After the end of the default plan nothing is yielded. -/
theorem yielded_eq_none (h : Chain plan pulls) (c : plan.Consistent) (hspent : plan.pending = [])
    (hfallback : plan.fallback = some .exhausted) : ∀ q ∈ pulls, q.yielded = none := by
  induction pulls generalizing plan with
  | nil => simp
  | cons q pulls ih =>
    obtain ⟨rfl, hlater⟩ := h
    obtain ⟨hafter, fallback, hfind, hnext, -⟩ :=
      after_of_reachesDefault c (reachesDefault_of_spent hspent)
    rw [RoutedPlan.fallbackPlan, hfallback] at hfind
    have hfound : (none, GenericPlan.exhausted) = (q.yielded, fallback) := hfind
    obtain ⟨hnone, rfl⟩ := Prod.mk.inj hfound
    intro q' hq'
    rcases List.mem_cons.mp hq' with rfl | hq'
    · exact hnone.symm
    · exact ih hlater (consistent_after c) hafter hnext q' hq'

/-- The pulls from the one that asks for the default plan on are those that go on to it. -/
theorem reachesDefault_of_request (h : Chain plan pulls) (c : plan.Consistent)
    (hspent : plan.pending = []) : ∀ q ∈ pulls, q.reachesDefault = true := by
  induction pulls generalizing plan with
  | nil => simp
  | cons q pulls ih =>
    obtain ⟨rfl, hlater⟩ := h
    have hreaches := reachesDefault_of_spent hspent
    intro q' hq'
    rcases List.mem_cons.mp hq' with rfl | hq'
    · exact hreaches
    · exact ih hlater (consistent_after c) (after_of_reachesDefault c hreaches).1 q' hq'

end Pull.Chain

end QueryRouting
