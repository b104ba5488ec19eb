import QueryRouting.Policy.Plan
import QueryRouting.Proofs.Host.Registry

/-!
# Draining a plan

While nothing changes, a plan is a list: the hosts ahead of it that it offers.  A pull
takes the first of them and leaves a plan whose list is the rest, so pulling several
hosts takes a front of the list, and pulling to the end takes the whole.

## Main definitions

* `GenericPlan.ahead`, `GenericPlan.offers` — the hosts that a plan has not passed yet,
  and which of them it offers.
* `GenericPlan.remaining`, `RoutedPlan.remaining`, `Plan.remaining` — the plan as a list.

## Main results

* `GenericPlan.find_eq_some`, `GenericPlan.find_eq_none` — what a pull on a generic plan does.
* `RoutedPlan.next_cases` — what a pull on a plan led by replicas does.
* `Plan.take_eq`, `Plan.drain_eq` — several pulls, and all of them.
-/

namespace QueryRouting

section

variable {α : Type} {p : α → Bool} {xs later : List α} {a : α}

/-- The first element that satisfies a condition comes after elements that do not. -/
theorem exists_of_firstWhere_eq_some (h : firstWhere p xs = some (a, later)) :
    ∃ before, xs = before ++ a :: later ∧ p a = true ∧ ∀ b ∈ before, p b = false := by
  induction xs with
  | nil => simp [firstWhere] at h
  | cons b bs ih =>
    rw [firstWhere] at h
    split at h
    · next hb =>
      obtain ⟨rfl, rfl⟩ := Prod.mk.inj (Option.some.inj h)
      exact ⟨[], rfl, hb, by simp⟩
    · next hb =>
      obtain ⟨before, rfl, ha, hbefore⟩ := ih h
      exact ⟨b :: before, rfl, ha, by simpa [hb] using hbefore⟩

/-- There is no such element when none satisfies the condition. -/
theorem firstWhere_eq_none_iff : firstWhere p xs = none ↔ ∀ b ∈ xs, p b = false := by
  induction xs with
  | nil => simp [firstWhere]
  | cons b bs ih =>
    rw [firstWhere]
    by_cases hb : p b = true <;> simp [hb, ih]

/-- The elements that satisfy a condition, when the first part of a list has none. -/
theorem filter_append_cons {before : List α} (ha : p a = true)
    (hbefore : ∀ b ∈ before, p b = false) :
    (before ++ a :: later).filter p = a :: later.filter p := by
  rw [List.filter_append, List.filter_cons_of_pos ha,
    List.filter_eq_nil_iff.mpr (by simpa using hbefore), List.nil_append]

end

/-- The hosts that a plan may reach in other datacenters are the first ones there. -/
theorem mem_remoteHosts {registry : Registry} {dc : String} {count : Nat} {h : Host} :
    h ∈ remoteHosts registry dc count ↔
      h.datacenter ≠ dc ∧ h ∈ (registry.inDatacenter h.datacenter).take count := by
  unfold remoteHosts
  rw [List.mem_flatMap]
  constructor
  · intro hmem
    obtain ⟨other, hother, htake⟩ := hmem
    obtain ⟨-, rfl⟩ := Registry.mem_inDatacenter.mp (List.mem_of_mem_take htake)
    exact ⟨by simpa using (List.mem_filter.mp hother).2, htake⟩
  · intro hmem
    obtain ⟨hother, htake⟩ := hmem
    obtain ⟨hhosts, -⟩ := Registry.mem_inDatacenter.mp (List.mem_of_mem_take htake)
    have hname := Registry.mem_datacenters.mpr ⟨h, hhosts, rfl⟩
    exact ⟨h.datacenter, List.mem_filter.mpr ⟨hname, by simpa using hother⟩, htake⟩

/-- They are registered. -/
theorem mem_of_mem_remoteHosts {registry : Registry} {dc : String} {count : Nat} {h : Host}
    (hmem : h ∈ remoteHosts registry dc count) : h ∈ registry.hosts ∧ h.datacenter ≠ dc := by
  obtain ⟨hother, htake⟩ := mem_remoteHosts.mp hmem
  exact ⟨(Registry.mem_inDatacenter.mp (List.mem_of_mem_take htake)).1, hother⟩

/-! ### Generic plans -/

namespace GenericPlan

/-- The hosts that a plan has not passed, when the registry is read now. -/
def ahead (registry : Registry) : GenericPlan → List Host
  | everyHost rest => rest
  | localHosts rest dc count => rest ++ QueryRouting.remoteHosts registry dc count
  | .remoteHosts rest => rest

/-- Whether a plan offers a host that it comes to. -/
def offers (fleet : Fleet) : GenericPlan → Host → Bool
  | everyHost _, _ => true
  | localHosts _ _ _, h => fleet.isUp h
  | .remoteHosts _, h => fleet.isUp h

/-- Every plan offers the hosts that are up. -/
theorem offers_of_isUp {fleet : Fleet} {h : Host} (hup : fleet.isUp h = true)
    (plan : GenericPlan) : plan.offers fleet h = true := by
  cases plan with
  | everyHost rest => rfl
  | localHosts rest dc count => exact hup
  | remoteHosts rest => exact hup

/-- The hosts that a plan yields while nothing changes. -/
def remaining (fleet : Fleet) (plan : GenericPlan) : List Host :=
  (plan.ahead fleet.registry).filter (plan.offers fleet)

variable {fleet : Fleet} {accept : Host → Bool} {plan next : GenericPlan} {h : Host}

theorem length_ahead (registry : Registry) (plan : GenericPlan) :
    (plan.ahead registry).length = plan.bound registry := by
  cases plan <;> simp [ahead, bound]

/-- A pull that yields a host passes over hosts that are not offered or not accepted,
and leaves the hosts after it.  When the registry is read later, these are still ahead
of the plan before, unless the pull itself has read the remote ones. -/
theorem find_eq_some (e : plan.find fleet accept = (some h, next)) :
    ∃ passed, plan.ahead fleet.registry = passed ++ h :: next.ahead fleet.registry ∧
      next.offers fleet = plan.offers fleet ∧ plan.offers fleet h = true ∧ accept h = true ∧
      (∀ k ∈ passed, (plan.offers fleet k && accept k) = false) ∧
      ∀ registry, plan.ahead registry = passed ++ h :: next.ahead registry ∨
        next.ahead registry = next.ahead fleet.registry := by
  cases plan with
  | everyHost rest =>
    rw [find] at e
    split at e
    · next h' later hfirst =>
      obtain ⟨rfl, rfl⟩ : h' = h ∧ everyHost later = next := by simpa using e
      obtain ⟨passed, rfl, hh, hpassed⟩ := exists_of_firstWhere_eq_some hfirst
      exact ⟨passed, rfl, rfl, rfl, hh, hpassed, fun _ => Or.inr rfl⟩
    · simp at e
  | remoteHosts rest =>
    rw [find, findRemote] at e
    split at e
    · next h' later hfirst =>
      obtain ⟨rfl, rfl⟩ : h' = h ∧ remoteHosts later = next := by simpa using e
      obtain ⟨passed, rfl, hh, hpassed⟩ := exists_of_firstWhere_eq_some hfirst
      obtain ⟨hup, hacc⟩ := Bool.and_eq_true_iff.mp hh
      exact ⟨passed, rfl, rfl, hup, hacc, hpassed, fun _ => Or.inr rfl⟩
    · simp at e
  | localHosts rest dc count =>
    rw [find] at e
    split at e
    · next h' later hfirst =>
      obtain ⟨rfl, rfl⟩ : h' = h ∧ localHosts later dc count = next := by simpa using e
      obtain ⟨passed, rfl, hh, hpassed⟩ := exists_of_firstWhere_eq_some hfirst
      obtain ⟨hup, hacc⟩ := Bool.and_eq_true_iff.mp hh
      exact ⟨passed, by simp [ahead], rfl, hup, hacc, hpassed, fun _ => Or.inl (by simp [ahead])⟩
    · -- The local hosts are used up, and the pull goes on with the remote ones.
      next hnone =>
      rw [findRemote] at e
      split at e
      · next h' later hfirst =>
        obtain ⟨rfl, rfl⟩ : h' = h ∧ remoteHosts later = next := by simpa using e
        obtain ⟨passed, hremote, hh, hpassed⟩ := exists_of_firstWhere_eq_some hfirst
        obtain ⟨hup, hacc⟩ := Bool.and_eq_true_iff.mp hh
        refine ⟨rest ++ passed, by simp [ahead, hremote], rfl, hup, hacc, fun k hk => ?_,
          fun _ => Or.inr rfl⟩
        rcases List.mem_append.mp hk with hk | hk
        · exact firstWhere_eq_none_iff.mp hnone k hk
        · exact hpassed k hk
      · simp at e

/-- A pull that yields nothing finds no host ahead that is offered and accepted, and
leaves the plan that has nothing left. -/
theorem find_eq_none (e : plan.find fleet accept = (none, next)) :
    next = exhausted ∧
      ∀ k ∈ plan.ahead fleet.registry, (plan.offers fleet k && accept k) = false := by
  cases plan with
  | everyHost rest =>
    rw [find] at e
    split at e
    · simp at e
    · next hnone =>
      exact ⟨by simpa using e.symm, firstWhere_eq_none_iff.mp hnone⟩
  | remoteHosts rest =>
    rw [find, findRemote] at e
    split at e
    · simp at e
    · next hnone =>
      exact ⟨by simpa using e.symm, firstWhere_eq_none_iff.mp hnone⟩
  | localHosts rest dc count =>
    rw [find] at e
    split at e
    · simp at e
    · next hnone =>
      rw [findRemote] at e
      split at e
      · simp at e
      · next hnone' =>
        refine ⟨by simpa using e.symm, fun k hk => ?_⟩
        rcases List.mem_append.mp hk with hk | hk
        · exact firstWhere_eq_none_iff.mp hnone k hk
        · exact firstWhere_eq_none_iff.mp hnone' k hk

/-- A pull takes the first accepted host of the list. -/
theorem filter_remaining_of_find_eq_some (e : plan.find fleet accept = (some h, next)) :
    (plan.remaining fleet).filter accept = h :: (next.remaining fleet).filter accept := by
  obtain ⟨passed, hahead, hoffers, hh, hacc, hpassed, -⟩ := find_eq_some e
  simp only [remaining, List.filter_filter, hahead, hoffers]
  simp only [Bool.and_comm] at hpassed ⊢
  exact filter_append_cons (by simp [hh, hacc]) hpassed

/-- A pull yields nothing when the list has no accepted host. -/
theorem filter_remaining_of_find_eq_none (e : plan.find fleet accept = (none, next)) :
    (plan.remaining fleet).filter accept = [] := by
  obtain ⟨-, hall⟩ := find_eq_none e
  simp only [remaining, List.filter_filter, List.filter_eq_nil_iff, Bool.not_eq_true]
  intro k hk
  rw [Bool.and_comm]
  exact hall k hk

theorem length_remaining_le (fleet : Fleet) (plan : GenericPlan) :
    (plan.remaining fleet).length ≤ plan.bound fleet.registry := by
  rw [← length_ahead]
  exact List.length_filter_le _ _

end GenericPlan

/-! ### Plans led by replicas -/

namespace RoutedPlan

/-- Whether a plan takes a host of the default plan. -/
def accepts (plan : RoutedPlan) (fleet : Fleet) (h : Host) : Bool :=
  !plan.isReplica h && plan.isEligible fleet h

/-- The hosts that a plan yields while nothing changes. -/
def remaining (fleet : Fleet) (rotations : Rotations) (plan : RoutedPlan) : List Host :=
  plan.pending.filter (plan.isEligible fleet) ++
    ((plan.fallbackPlan fleet rotations).1.remaining fleet).filter (plan.accepts fleet)

/-- A host may be offered when it is up and, unless the level is strong, local. -/
theorem isEligible_iff {plan : RoutedPlan} {fleet : Fleet} {h : Host} :
    plan.isEligible fleet h = true ↔ fleet.isUp h = true ∧
      (plan.strong = true ∨ plan.child.distance fleet.registry h = .local) := by
  simp [isEligible]

/-- A host of the default plan that is taken may be offered, and has another address than
every replica. -/
theorem accepts_iff {plan : RoutedPlan} {fleet : Fleet} {h : Host} :
    plan.accepts fleet h = true ↔
      (∀ k ∈ plan.replicas, h.address ≠ k.address) ∧ plan.isEligible fleet h = true := by
  simp [accepts, isReplica, Host.sameAddress]

variable {fleet : Fleet} {rotations : Rotations}

/-- A pull yields the first eligible replica that has not been looked at, or, when
there is none, pulls on the default plan. -/
theorem next_cases (fleet : Fleet) (rotations : Rotations) (plan : RoutedPlan) :
    (∃ passed h later, plan.pending = passed ++ h :: later ∧ plan.isEligible fleet h = true ∧
      (∀ k ∈ passed, plan.isEligible fleet k = false) ∧
      plan.next fleet rotations = (some h, { plan with pending := later }, rotations)) ∨
    ((∀ k ∈ plan.pending, plan.isEligible fleet k = false) ∧
      ∃ found fallback,
        (plan.fallbackPlan fleet rotations).1.find fleet (plan.accepts fleet)
          = (found, fallback) ∧
        plan.next fleet rotations = (found, { plan with pending := [], fallback := some fallback },
          (plan.fallbackPlan fleet rotations).2)) := by
  cases hfirst : firstWhere (plan.isEligible fleet) plan.pending with
  | some entry =>
    obtain ⟨h, later⟩ := entry
    obtain ⟨passed, hpending, hh, hpassed⟩ := exists_of_firstWhere_eq_some hfirst
    exact Or.inl ⟨passed, h, later, hpending, hh, hpassed, by simp only [next, hfirst]⟩
  | none =>
    refine Or.inr ⟨firstWhere_eq_none_iff.mp hfirst, _, _, rfl, ?_⟩
    simp only [next, hfirst]
    rfl

/-- A pull takes the first host of the list. -/
theorem remaining_of_next_eq_some {plan next : RoutedPlan} {rotations' : Rotations} {h : Host}
    (e : plan.next fleet rotations = (some h, next, rotations')) :
    plan.remaining fleet rotations = h :: next.remaining fleet rotations' := by
  rcases plan.next_cases fleet rotations with
    ⟨passed, k, later, hpending, hk, hpassed, hnext⟩ | ⟨hnone, found, fallback, hfind, hnext⟩
  · rw [e] at hnext
    obtain ⟨hfound, rfl, rfl⟩ : some h = some k ∧ next = { plan with pending := later } ∧
        rotations' = rotations := by simpa using hnext
    obtain rfl := Option.some.inj hfound
    rw [remaining, hpending, filter_append_cons hk hpassed]
    rfl
  · rw [e] at hnext
    obtain ⟨rfl, rfl, rfl⟩ : some h = found ∧
        next = { plan with pending := [], fallback := some fallback } ∧
        rotations' = (plan.fallbackPlan fleet rotations).2 := by simpa using hnext
    rw [remaining, List.filter_eq_nil_iff.mpr (by simpa using hnone),
      GenericPlan.filter_remaining_of_find_eq_some hfind]
    rfl

/-- A pull yields nothing when the list is empty. -/
theorem remaining_of_next_eq_none {plan next : RoutedPlan} {rotations' : Rotations}
    (e : plan.next fleet rotations = (none, next, rotations')) :
    plan.remaining fleet rotations = [] := by
  rcases plan.next_cases fleet rotations with
    ⟨passed, k, later, hpending, hk, hpassed, hnext⟩ | ⟨hnone, found, fallback, hfind, hnext⟩
  · rw [e] at hnext
    simp at hnext
  · rw [e] at hnext
    obtain ⟨rfl, -⟩ : none = found ∧ _ := by simpa using hnext
    rw [remaining, List.filter_eq_nil_iff.mpr (by simpa using hnone),
      GenericPlan.filter_remaining_of_find_eq_none hfind]
    rfl

end RoutedPlan

/-! ### The default plan -/

namespace Policy

theorem defaultPlan_eq (policy : Policy) (registry : Registry) (rotations : Rotations) :
    policy.defaultPlan registry rotations = policy.base.plan registry rotations := by
  induction policy with
  | generic policy => rfl
  | partitionAware child cluster ih => exact ih

theorem distance_eq (policy : Policy) (registry : Registry) (h : Host) :
    policy.distance registry h = policy.base.distance registry h := by
  induction policy with
  | generic policy => rfl
  | partitionAware child cluster ih => exact ih

end Policy

namespace GenericPolicy

/-- A new plan begins with the hosts that the policy takes in turn, at a place that
the rotation says. -/
theorem exists_plan_eq (policy : GenericPolicy) (registry : Registry) (rotations : Rotations) :
    ∃ n, (policy.plan registry rotations).1
      = policy.planOf ((policy.turnHosts registry).rotateLeft n) := by
  rw [plan]
  split
  · next hempty =>
    rw [List.isEmpty_iff.mp hempty]
    exact ⟨0, rfl⟩
  · exact ⟨_, rfl⟩

/-- A list is turned at a place that depends on the residue only. -/
theorem rotateLeft_eq {α : Type} (xs : List α) (n : Nat) :
    xs.rotateLeft n = xs.drop (n % xs.length) ++ xs.take (n % xs.length) := by
  rw [List.rotateLeft]
  split
  · next hshort =>
    match xs, hshort with
    | [], _ => simp
    | [x], _ => simp [Nat.mod_one]
  · rfl

/-- Turning a list leaves its elements. -/
theorem perm_rotateLeft {α : Type} (xs : List α) (n : Nat) : (xs.rotateLeft n).Perm xs := by
  rw [rotateLeft_eq]
  refine List.perm_append_comm.trans ?_
  rw [List.take_append_drop]

/-- The hosts ahead of a new plan are registered. -/
theorem mem_hosts_of_mem_ahead {policy : GenericPolicy} {registry : Registry}
    {rotations : Rotations} {h : Host}
    (hmem : h ∈ (policy.plan registry rotations).1.ahead registry) : h ∈ registry.hosts := by
  obtain ⟨n, hn⟩ := policy.exists_plan_eq registry rotations
  rw [hn] at hmem
  cases policy with
  | roundRobin rotation => exact (perm_rotateLeft _ n).mem_iff.mp hmem
  | datacenterAware rotation dc count =>
    rcases List.mem_append.mp hmem with hlocal | hremote
    · have hturn := (perm_rotateLeft _ n).mem_iff.mp hlocal
      exact (Registry.mem_inDatacenter.mp hturn).1
    · exact (mem_of_mem_remoteHosts hremote).1

/-- How far the rotation has come does not count for the number of hosts of a plan. -/
theorem bound_plan (policy : GenericPolicy) (registry : Registry) (rotations : Rotations) :
    (policy.plan registry rotations).1.bound registry
      = (policy.planOf (policy.turnHosts registry)).bound registry := by
  obtain ⟨n, hn⟩ := policy.exists_plan_eq registry rotations
  rw [hn]
  cases policy <;> simp [planOf, GenericPlan.bound, (perm_rotateLeft _ n).length_eq]

/-- A rotation moves one step at most when a plan is made. -/
theorem rotations_plan (policy : GenericPolicy) (registry : Registry)
    (rotations : Rotations) :
    (policy.plan registry rotations).2 = rotations ∨
      (policy.plan registry rotations).2 = rotations.advance policy.rotation := by
  rw [plan]
  split
  · exact Or.inl rfl
  · exact Or.inr rfl

end GenericPolicy

/-! ### Plans -/

namespace Plan

/-- The hosts that a plan yields while nothing changes. -/
def remaining (fleet : Fleet) (rotations : Rotations) : Plan → List Host
  | generic plan => plan.remaining fleet
  | routed plan => plan.remaining fleet rotations

variable {fleet : Fleet} {rotations rotations' : Rotations} {plan next : Plan} {h : Host}

theorem remaining_of_next_eq_some (e : plan.next fleet rotations = (some h, next, rotations')) :
    plan.remaining fleet rotations = h :: next.remaining fleet rotations' := by
  cases plan with
  | generic plan =>
    obtain ⟨hfound, rfl, rfl⟩ : (plan.next fleet).1 = some h ∧ generic (plan.next fleet).2 = next ∧
        rotations = rotations' := by simpa [Plan.next] using e
    have hfind : plan.find fleet (fun _ => true) = (some h, (plan.next fleet).2) := by
      rw [← hfound, GenericPlan.next]
    have hlist := GenericPlan.filter_remaining_of_find_eq_some hfind
    simp only [List.filter_eq_self.mpr fun _ _ => rfl] at hlist
    exact hlist
  | routed plan =>
    obtain ⟨hfound, rfl, rfl⟩ : (plan.next fleet rotations).1 = some h ∧
        routed (plan.next fleet rotations).2.1 = next ∧
        (plan.next fleet rotations).2.2 = rotations' := by simpa [Plan.next] using e
    exact RoutedPlan.remaining_of_next_eq_some (by rw [← hfound])

theorem remaining_of_next_eq_none (e : plan.next fleet rotations = (none, next, rotations')) :
    plan.remaining fleet rotations = [] := by
  cases plan with
  | generic plan =>
    have hfound : (plan.next fleet).1 = none := by simpa [Plan.next] using congrArg Prod.fst e
    have hfind : plan.find fleet (fun _ => true) = (none, (plan.next fleet).2) := by
      rw [← hfound, GenericPlan.next]
    have hlist := GenericPlan.filter_remaining_of_find_eq_none hfind
    simp only [List.filter_eq_self.mpr fun _ _ => rfl] at hlist
    exact hlist
  | routed plan =>
    have hfound : (plan.next fleet rotations).1 = none := by
      simpa [Plan.next] using congrArg Prod.fst e
    exact RoutedPlan.remaining_of_next_eq_none (by rw [← hfound])

/-- **Pulling several hosts takes a front of the list.** -/
theorem take_eq (fleet : Fleet) (rotations : Rotations) (plan : Plan) (count : Nat) :
    (plan.take fleet rotations count).1 = (plan.remaining fleet rotations).take count := by
  induction count generalizing plan rotations with
  | zero => rfl
  | succ count ih =>
    rw [take]
    cases hnext : plan.next fleet rotations with
    | mk found rest =>
      obtain ⟨next, rotations'⟩ := rest
      cases found with
      | none => simp [remaining_of_next_eq_none hnext]
      | some h => simp [remaining_of_next_eq_some hnext, ih]

theorem length_remaining_le (fleet : Fleet) (rotations : Rotations) (plan : Plan) :
    (plan.remaining fleet rotations).length ≤ plan.bound fleet.registry := by
  cases plan with
  | generic plan => exact plan.length_remaining_le fleet
  | routed plan =>
    have hpending := List.length_filter_le (plan.isEligible fleet) plan.pending
    have hfallback := List.length_filter_le (plan.accepts fleet)
      ((plan.fallbackPlan fleet rotations).1.remaining fleet)
    have hbound := (plan.fallbackPlan fleet rotations).1.length_remaining_le fleet
    simp only [remaining, RoutedPlan.remaining, List.length_append, bound]
    rcases hf : plan.fallback with _ | fallback
    · simp only [RoutedPlan.fallbackPlan, hf, Policy.defaultPlan_eq,
        GenericPolicy.bound_plan] at hfallback hbound ⊢
      omega
    · simp only [RoutedPlan.fallbackPlan, hf] at hfallback hbound ⊢
      omega

/-- **Pulling to the end takes the whole list.** -/
theorem drain_eq (fleet : Fleet) (rotations : Rotations) (plan : Plan) :
    (plan.drain fleet rotations).1 = plan.remaining fleet rotations := by
  rw [drain, take_eq]
  have := plan.length_remaining_le fleet rotations
  exact List.take_of_length_le (by omega)

end Plan

end QueryRouting
