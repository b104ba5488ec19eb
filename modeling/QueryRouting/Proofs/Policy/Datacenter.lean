import Mathlib.Data.List.Nodup
import Mathlib.Data.List.Perm.Subperm
import QueryRouting.Proofs.Policy.Routing
import QueryRouting.Proofs.Policy.Uniqueness

/-!
# The datacenter-aware policy

The policy says of a host how near it is, and it makes plans, and the two read the registry
separately.  They agree: a plan that is drained while nothing changes holds the hosts of
the local datacenter, from the place that the rotation has come to, and then the first
hosts of each other datacenter, and these are the hosts that the policy calls local and
those that it calls remote, as far as they are up.

## Main definitions

* `OtherDatacenters registry dc names` — `names` are the datacenters of the registry but one.

## Main results

* `GenericPolicy.distance_eq_remote_iff` — the remote hosts are those that a plan reaches.
* `GenericPolicy.mem_ahead_datacenterAware_iff` — a plan leaves out the hosts that are ignored.
* `Plan.drain_generic` — draining the plan of a generic policy moves no rotation.
* `Policy.drain_datacenterAware` — distance and plan of the policy.
-/

namespace QueryRouting

/-- The names of the datacenters that hosts lie in, but for one, in ascending order. -/
structure OtherDatacenters (registry : Registry) (dc : String) (names : List String) : Prop where
  ascending : names.Pairwise (· < ·)
  mem_iff : ∀ name, name ∈ names ↔ name ≠ dc ∧ ∃ h ∈ registry.hosts, h.datacenter = name

/-- They are the ones whose hosts a plan may reach. -/
theorem Registry.otherDatacenters (registry : Registry) (dc : String) :
    OtherDatacenters registry dc (registry.datacenters.filter (· ≠ dc)) where
  ascending := registry.ascending_datacenters.filter _
  mem_iff name := by
    rw [List.mem_filter, mem_datacenters, and_comm]
    simp

namespace GenericPolicy

variable {registry : Registry} {rotation : Nat} {dc : String} {count : Nat} {h : Host}

/-! ### Distances -/

theorem distance_eq_local_iff :
    (datacenterAware rotation dc count).distance registry h = .local ↔ h.datacenter = dc := by
  simp only [distance]
  by_cases hlocal : h.datacenter = dc
  · simp [hlocal]
  · rw [if_neg hlocal]
    split <;> simp [hlocal]

/-- **The remote hosts are those that a plan reaches in other datacenters.**  The policy
compares addresses, of which a registry has each once. -/
theorem distance_eq_remote_iff (hmem : h ∈ registry.hosts) :
    (datacenterAware rotation dc count).distance registry h = .remote ↔
      h ∈ remoteHosts registry dc count := by
  have hany : ((registry.inDatacenter h.datacenter).take count).any h.sameAddress = true ↔
      h ∈ (registry.inDatacenter h.datacenter).take count := by
    rw [List.any_eq_true]
    constructor
    · intro hsome
      obtain ⟨k, hk, hsame⟩ := hsome
      have kmem := (Registry.mem_inDatacenter.mp (List.mem_of_mem_take hk)).1
      obtain rfl := Registry.eq_of_address_eq hmem kmem (by simpa [Host.sameAddress] using hsame)
      exact hk
    · intro htake
      exact ⟨h, htake, by simp [Host.sameAddress]⟩
  rw [mem_remoteHosts, ← hany]
  simp only [distance]
  by_cases hlocal : h.datacenter = dc
  · simp [hlocal]
  · rw [if_neg hlocal]
    split <;> simp [*]

/-- A host is contacted when it is local or remote. -/
theorem distance_ne_ignored_iff (hmem : h ∈ registry.hosts) :
    (datacenterAware rotation dc count).distance registry h ≠ .ignored ↔
      h.datacenter = dc ∨ h ∈ remoteHosts registry dc count := by
  have hlocal : (datacenterAware rotation dc count).distance registry h = .local ↔
      h.datacenter = dc := distance_eq_local_iff
  have hremote : (datacenterAware rotation dc count).distance registry h = .remote ↔
      h ∈ remoteHosts registry dc count := distance_eq_remote_iff hmem
  rw [← hlocal, ← hremote]
  cases (datacenterAware rotation dc count).distance registry h <;> simp

/-! ### Plans -/

/-- The hosts ahead of a new plan, up or down. -/
theorem ahead_datacenterAware (registry : Registry) (rotations : Rotations) (rotation : Nat)
    (dc : String) (count : Nat) :
    let locals := registry.inDatacenter dc
    let turn := (rotations.count rotation).toNat % locals.length
    ((datacenterAware rotation dc count).plan registry rotations).1.ahead registry
      = locals.drop turn ++ locals.take turn ++ remoteHosts registry dc count := by
  intro locals turn
  unfold plan
  by_cases hnone : locals = []
  · simp [turnHosts, planOf, GenericPlan.ahead, locals, hnone]
  · simp [turnHosts, planOf, GenericPlan.ahead, locals, turn, hnone, rotateLeft_eq,
      GenericPolicy.rotation]

/-- The rotation moves on when there are local hosts. -/
theorem rotations_datacenterAware (registry : Registry) (rotations : Rotations) (rotation : Nat)
    (dc : String) (count : Nat) :
    ((datacenterAware rotation dc count).plan registry rotations).2
      = if registry.inDatacenter dc = [] then rotations else rotations.advance rotation := by
  unfold plan
  by_cases hnone : registry.inDatacenter dc = []
  · simp [turnHosts, hnone]
  · simp [turnHosts, hnone, GenericPolicy.rotation]

/-- A new plan offers the hosts that are up. -/
theorem remaining_datacenterAware (fleet : Fleet) (rotations : Rotations) (rotation : Nat)
    (dc : String) (count : Nat) :
    ((datacenterAware rotation dc count).plan fleet.registry rotations).1.remaining fleet
      = (((datacenterAware rotation dc count).plan fleet.registry rotations).1.ahead
          fleet.registry).filter fleet.isUp := by
  obtain ⟨n, hn⟩ := (datacenterAware rotation dc count).exists_plan_eq fleet.registry rotations
  rw [hn]
  rfl

/-- **A plan leaves out the hosts that are ignored**, and no others. -/
theorem mem_ahead_datacenterAware_iff {rotations : Rotations} :
    h ∈ ((datacenterAware rotation dc count).plan registry rotations).1.ahead registry ↔
      h ∈ registry.hosts ∧
        (datacenterAware rotation dc count).distance registry h ≠ .ignored := by
  obtain ⟨n, hn⟩ := (datacenterAware rotation dc count).exists_plan_eq registry rotations
  have hahead : h ∈ ((datacenterAware rotation dc count).plan registry rotations).1.ahead registry
      ↔ h ∈ registry.inDatacenter dc ∨ h ∈ remoteHosts registry dc count := by
    rw [hn, planOf, GenericPlan.ahead, List.mem_append, (perm_rotateLeft _ n).mem_iff]
    rfl
  rw [hahead, Registry.mem_inDatacenter]
  constructor
  · intro hmem
    rcases hmem with ⟨hmem, hlocal⟩ | hremote
    · exact ⟨hmem, (distance_ne_ignored_iff hmem).mpr (Or.inl hlocal)⟩
    · have hmem := (mem_of_mem_remoteHosts hremote).1
      exact ⟨hmem, (distance_ne_ignored_iff hmem).mpr (Or.inr hremote)⟩
  · intro hmem
    obtain ⟨hmem, hdistance⟩ := hmem
    rcases (distance_ne_ignored_iff hmem).mp hdistance with hlocal | hremote
    · exact Or.inl ⟨hmem, hlocal⟩
    · exact Or.inr hremote

/-- No more than the given number of hosts come from one of the other datacenters. -/
theorem length_filter_datacenter_le (fleet : Fleet) (rotations : Rotations) (rotation : Nat)
    (dc : String) (count : Nat) {name : String} (hname : name ≠ dc) :
    ((((datacenterAware rotation dc count).plan fleet.registry rotations).1.remaining fleet).filter
      (·.datacenter = name)).length ≤ count := by
  have haddresses := GenericPlan.nodup_remaining
    ((datacenterAware rotation dc count).nodup_ahead fleet.registry rotations)
  have hsubset : (((datacenterAware rotation dc count).plan fleet.registry rotations).1.remaining
      fleet).filter (·.datacenter = name) ⊆ (fleet.registry.inDatacenter name).take count := by
    intro h hmem
    rw [remaining_datacenterAware, List.mem_filter, List.mem_filter] at hmem
    obtain ⟨⟨hahead, -⟩, hdatacenter⟩ := hmem
    obtain rfl : h.datacenter = name := by simpa using hdatacenter
    obtain ⟨hmem, hdistance⟩ := mem_ahead_datacenterAware_iff.mp hahead
    rcases (distance_ne_ignored_iff hmem).mp hdistance with hlocal | hremote
    · exact absurd hlocal hname
    · exact (mem_remoteHosts.mp hremote).2
  have hnodup := (List.Nodup.of_map _ haddresses).filter (·.datacenter = name)
  exact Nat.le_trans (hnodup.subperm hsubset).length_le (List.length_take_le ..)

end GenericPolicy

/-- The plan of a generic policy moves no rotation when it is pulled on. -/
theorem Plan.rotations_take_generic (fleet : Fleet) (rotations : Rotations) (plan : GenericPlan)
    (n : Nat) : ((generic plan).take fleet rotations n).2.2 = rotations := by
  induction n generalizing plan with
  | zero => rfl
  | succ n ih =>
    unfold take
    cases hnext : plan.next fleet with
    | mk found plan' =>
      cases found with
      | none => simp [next, hnext]
      | some h => simp [next, hnext, ih]

/-- **The datacenter-aware policy, its plan and its distances.**  A plan that is drained
while nothing changes holds the hosts of the local datacenter in address order, turned to
where the rotation has come, and then the first hosts of each other datacenter, in the order
of their names; down hosts are left out.  To make the plan moves the rotation one step,
unless no host is local, and to drain it moves nothing.  So the plan holds the registered
hosts that are up and not ignored, the local ones before the remote ones, of each other
datacenter no more than the number that the policy allows, and no address twice. -/
theorem Policy.drain_datacenterAware (r : Router) (rotation : Nat) (dc : String) (count : Nat)
    (keyspace : Option String) (statement : Option Statement) :
    let policy := Policy.generic (.datacenterAware rotation dc count)
    let planned := policy.plan r keyspace statement
    let drained := planned.1.drain planned.2.1.fleet planned.2.1.rotations
    let locals := r.fleet.registry.inDatacenter dc
    let turn := (r.rotations.count rotation).toNat % locals.length
    (∃ names, OtherDatacenters r.fleet.registry dc names ∧
      drained.1 = (locals.drop turn ++ locals.take turn ++ names.flatMap fun name =>
        (r.fleet.registry.inDatacenter name).take count).filter r.fleet.isUp) ∧
      planned.2.1 = { r with
        rotations := if locals = [] then r.rotations else r.rotations.advance rotation } ∧
      drained.2.2 = planned.2.1.rotations ∧
      (∀ h, h ∈ drained.1 ↔ h ∈ r.fleet.registry.hosts ∧ r.fleet.isUp h = true ∧
        policy.distance r.fleet.registry h ≠ .ignored) ∧
      (∃ near far, drained.1 = near ++ far ∧
        (∀ h ∈ near, policy.distance r.fleet.registry h = .local) ∧
        ∀ h ∈ far, policy.distance r.fleet.registry h = .remote) ∧
      (∀ name, name ≠ dc → (drained.1.filter (·.datacenter = name)).length ≤ count) ∧
      (drained.1.map Host.address).Nodup := by
  intro policy planned drained locals turn
  have hdrained : drained.1
      = ((GenericPolicy.datacenterAware rotation dc count).plan r.fleet.registry
          r.rotations).1.remaining r.fleet :=
    Plan.drain_eq _ _ _
  have hlist : drained.1 = (locals.drop turn ++ locals.take turn
      ++ remoteHosts r.fleet.registry dc count).filter r.fleet.isUp := by
    rw [hdrained, GenericPolicy.remaining_datacenterAware, GenericPolicy.ahead_datacenterAware]
  refine ⟨⟨_, r.fleet.registry.otherDatacenters dc, hlist⟩, ?_, ?_, ?_, ?_, ?_, ?_⟩
  · rw [← GenericPolicy.rotations_datacenterAware]
    rfl
  · exact Plan.rotations_take_generic _ _ _ _
  · intro h
    rw [hdrained, GenericPolicy.remaining_datacenterAware, List.mem_filter,
      GenericPolicy.mem_ahead_datacenterAware_iff]
    constructor
    · rintro ⟨⟨hmem, hdistance⟩, hup⟩
      exact ⟨hmem, hup, hdistance⟩
    · rintro ⟨hmem, hup, hdistance⟩
      exact ⟨⟨hmem, hdistance⟩, hup⟩
  · -- The list is made of local hosts and then of remote ones, before down hosts go.
    rw [List.filter_append] at hlist
    refine ⟨_, _, hlist, ?_, ?_⟩
    · intro h hmem
      have hlocal : h ∈ locals := by
        rcases List.mem_append.mp (List.mem_filter.mp hmem).1 with hafter | hbefore
        · exact List.mem_of_mem_drop hafter
        · exact List.mem_of_mem_take hbefore
      exact GenericPolicy.distance_eq_local_iff.mpr (Registry.mem_inDatacenter.mp hlocal).2
    · intro h hmem
      have hremote := (List.mem_filter.mp hmem).1
      exact (GenericPolicy.distance_eq_remote_iff (mem_of_mem_remoteHosts hremote).1).mpr hremote
  · intro name hname
    rw [hdrained]
    exact GenericPolicy.length_filter_datacenter_le _ _ _ _ _ hname
  · rw [hdrained]
    exact GenericPlan.nodup_remaining (GenericPolicy.nodup_ahead _ _ _)

end QueryRouting
