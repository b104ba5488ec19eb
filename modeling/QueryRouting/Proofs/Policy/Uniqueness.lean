import QueryRouting.Proofs.Cluster.Ingest
import QueryRouting.Proofs.Partition.Lookup
import QueryRouting.Proofs.Policy.Routing

/-!
# Hosts that are tried twice

A registry has one host of each address, so the plan of a generic policy names no
address twice.  The default plan that comes after the replicas leaves out their
addresses.  What is left is the list of replicas itself: a row that names an IP address
twice makes the plan offer one host twice, and nothing else does.

## Main definitions

* `PartitionRow.NamesOnce` — no IP address stands twice in a row.

## Main results

* `GenericPolicy.nodup_ahead` — the plan of a generic policy names no address twice.
* `RoutedPlan.nodup_remaining_iff` — a plan led by replicas repeats what its replicas repeat.
* `PartitionRow.nodup_replicaHosts_iff` — and they repeat what the row repeats.
* `Policy.nodup_drain_iff` — the plans that name no address twice.
-/

namespace QueryRouting

/-! ### Registered hosts -/

namespace Registry

variable {r : Registry} {h k : Host} {i j : Ip}

/-- A registry has one host of each address. -/
theorem nodup_address (r : Registry) : (r.hosts.map Host.address).Nodup := by
  refine List.pairwise_map.mpr (r.ascending.imp fun {h k} hlt e => ?_)
  rw [Host.rank_eq_iff.mpr e] at hlt
  exact Nat.lt_irrefl _ hlt

theorem eq_of_address_eq (hh : h ∈ r.hosts) (hk : k ∈ r.hosts) (e : h.address = k.address) :
    h = k :=
  r.ascending.eq_of_key_eq hh hk (Host.rank_eq_iff.mpr e)

/-- Two IP addresses are resolved to one address when they are one. -/
theorem address_eq_iff_of_findIp? (hi : r.findIp? i = some h) (hj : r.findIp? j = some k) :
    h.address = k.address ↔ i = j := by
  constructor
  · intro e
    rw [← (mem_of_findIp? hi).2, ← (mem_of_findIp? hj).2, e]
  · rintro rfl
    rw [Option.some.inj (hi.symm.trans hj)]

end Registry

theorem nodup_remoteHosts (registry : Registry) (dc : String) (count : Nat) :
    ((remoteHosts registry dc count).map Host.address).Nodup := by
  have hnames : (registry.datacenters.filter (· ≠ dc)).Nodup :=
    registry.ascending_datacenters.nodup.filter _
  refine List.pairwise_map.mpr (List.pairwise_flatMap.mpr ⟨fun other _ => ?_, ?_⟩)
  · refine List.pairwise_map.mp (registry.nodup_address.sublist (List.Sublist.map _ ?_))
    exact (List.take_sublist _ _).trans (registry.inDatacenter_sublist other)
  · -- A host lies in one datacenter, so those of two datacenters have two addresses.
    refine hnames.imp fun {dc₁ dc₂} hne h hh k hk e => ?_
    obtain ⟨hmem, rfl⟩ := Registry.mem_inDatacenter.mp (List.mem_of_mem_take hh)
    obtain ⟨kmem, rfl⟩ := Registry.mem_inDatacenter.mp (List.mem_of_mem_take hk)
    rw [Registry.eq_of_address_eq hmem kmem e] at hne
    exact hne rfl

namespace GenericPolicy

/-- **The plan of a generic policy names no address twice.** -/
theorem nodup_ahead (policy : GenericPolicy) (registry : Registry) (rotations : Rotations) :
    (((policy.plan registry rotations).1.ahead registry).map Host.address).Nodup := by
  obtain ⟨n, hn⟩ := policy.exists_plan_eq registry rotations
  have hturn : ((policy.turnHosts registry).map Host.address).Nodup := by
    refine registry.nodup_address.sublist (List.Sublist.map _ ?_)
    cases policy with
    | roundRobin rotation => exact List.Sublist.refl _
    | datacenterAware rotation dc count => exact registry.inDatacenter_sublist dc
  have hperm := perm_rotateLeft (policy.turnHosts registry) n
  have hturned := (hperm.map Host.address).nodup_iff.mpr hturn
  rw [hn]
  cases policy with
  | roundRobin rotation => exact hturned
  | datacenterAware rotation dc count =>
    rw [planOf, GenericPlan.ahead, List.map_append, List.nodup_append]
    refine ⟨hturned, nodup_remoteHosts registry dc count, ?_⟩
    -- The hosts taken in turn are local, the others are not.
    intro a ha b hb e
    obtain ⟨h, hh, rfl⟩ := List.mem_map.mp ha
    obtain ⟨k, hk, rfl⟩ := List.mem_map.mp hb
    obtain ⟨hmem, hlocal⟩ := Registry.mem_inDatacenter.mp (hperm.mem_iff.mp hh)
    obtain ⟨kmem, hremote⟩ := mem_of_mem_remoteHosts hk
    rw [Registry.eq_of_address_eq hmem kmem e] at hlocal
    exact hremote hlocal

end GenericPolicy

theorem GenericPlan.nodup_remaining {plan : GenericPlan} {fleet : Fleet}
    (h : ((plan.ahead fleet.registry).map Host.address).Nodup) :
    ((plan.remaining fleet).map Host.address).Nodup :=
  h.sublist (List.filter_sublist.map _)

/-! ### Replicas -/

/-- **A new plan repeats what its replicas repeat**: the default plan after them names
no address twice, and none of theirs. -/
theorem RoutedPlan.nodup_remaining_iff {child : Policy} {strong : Bool} {replicas : List Host}
    {fleet : Fleet} {rotations : Rotations} :
    (((start child strong replicas).remaining fleet rotations).map Host.address).Nodup ↔
      ((replicas.filter ((start child strong replicas).isEligible fleet)).map
        Host.address).Nodup := by
  rw [remaining, List.map_append, List.nodup_append]
  constructor
  · exact And.left
  · intro hreplicas
    refine ⟨hreplicas, ?_, ?_⟩
    · refine (GenericPlan.nodup_remaining ?_).sublist (List.filter_sublist.map _)
      rw [fallbackPlan, start, Policy.defaultPlan_eq]
      exact GenericPolicy.nodup_ahead _ _ _
    · intro a ha b hb
      obtain ⟨k, hk, rfl⟩ := List.mem_map.mp ha
      obtain ⟨h, hh, rfl⟩ := List.mem_map.mp hb
      exact ((accepts_iff.mp (List.mem_filter.mp hh).2).1 k (List.mem_filter.mp hk).1).symm

/-- No IP address stands twice in a row, among those whose registered host satisfies a
condition. -/
def PartitionRow.NamesOnce (row : PartitionRow) (registry : Registry) (ok : Host → Bool) : Prop :=
  ((row.replicas.filter fun entry => (registry.findIp? entry.1).any ok).map Prod.fst).Nodup

/-- **The hosts of a row repeat what the row repeats.** -/
theorem PartitionRow.nodup_replicaHosts_iff {row : PartitionRow} {registry : Registry}
    {ok : Host → Bool} :
    (((row.replicaHosts registry).filter ok).map Host.address).Nodup
      ↔ row.NamesOnce registry ok := by
  have hperm := ((leaderFirst_spec (row.knownReplicas registry)).perm.filter ok).map Host.address
  rw [replicaHosts, hperm.nodup_iff, NamesOnce, knownReplicas, List.Nodup, List.Nodup,
    List.pairwise_map, List.pairwise_filter, List.pairwise_map, List.pairwise_filterMap,
    List.pairwise_map, List.pairwise_filter]
  -- Two entries at a time: both are resolved, and then their addresses agree when the
  -- IP addresses do.
  refine List.Pairwise.iff fun entry other => ?_
  obtain ⟨i, role⟩ := entry
  obtain ⟨j, role'⟩ := other
  cases hi : registry.findIp? i with
  | none => simp [hi]
  | some h =>
    cases hj : registry.findIp? j with
    | none => simp [hj]
    | some k => simp [hi, hj, Registry.address_eq_iff_of_findIp? hi hj]

/-- A placement after a refresh is that of a row. -/
theorem Cluster.exists_row_of_placement {c cluster : Cluster} {registry : Registry}
    {rows : List PartitionRow} (hcluster : cluster = (c.refresh registry rows).cluster)
    {keyspace : Option String} {statement : Option Statement} {placement : Placement}
    (h : (cluster.placeStatement keyspace statement).1 = some placement) :
    ∃ row ∈ rows, row.isValid = true ∧ row.tableName = placement.table ∧
      row.partition registry = placement.partition := by
  obtain ⟨-, split, hsplit, hlookup⟩ := exists_split_of_placeStatement h
  rw [hcluster, split?_refresh] at hsplit
  exact Tables.exists_row_of_mem hsplit (Split.lookup_spec hlookup).1

/-- **The plans that name no address twice.**  After a refresh, the plan of a statement
names every address once exactly when the row that the statement is led to, if it is led
to one, names every IP address once, as far as the hosts of these may be offered: as the
leader and as a follower, or under two ports, one host would be tried twice. -/
theorem Policy.nodup_drain_iff {c : Cluster} {registry : Registry} {rows : List PartitionRow}
    {r : Router} {number : Nat} (hcluster : r.cluster number = (c.refresh registry rows).cluster)
    (child : GenericPolicy) (keyspace : Option String) (statement : Option Statement) :
    let planned := (partitionAware (generic child) number).plan r keyspace statement
    ((planned.1.drain planned.2.1.fleet planned.2.1.rotations).1.map Host.address).Nodup ↔
      ∀ placement,
        ((r.cluster number).placeStatement keyspace statement).1 = some placement →
          ∃ row ∈ rows, row.isValid = true ∧ row.tableName = placement.table ∧
            row.partition registry = placement.partition ∧
            row.NamesOnce registry fun h => r.fleet.isUp h &&
              (placement.level.isStrong || child.distance r.fleet.registry h = .local) := by
  intro planned
  rw [Plan.drain_eq]
  cases h : (r.cluster number).placeStatement keyspace statement with
  | mk found events =>
    cases found with
    | none =>
      -- The plan is that of the generic policy.
      rw [show planned = _ from plan_of_no_placement (generic child) h]
      refine iff_of_true ?_ (by simp)
      exact GenericPlan.nodup_remaining (child.nodup_ahead r.fleet.registry r.rotations)
    | some placement =>
      rw [show planned = _ from plan_of_placement (generic child) h]
      have hreplicas := (r.perm_replicaOrder placement).filter fun h => r.fleet.isUp h &&
        (placement.level.isStrong || child.distance r.fleet.registry h = .local)
      refine RoutedPlan.nodup_remaining_iff.trans
        (((hreplicas.map Host.address).nodup_iff).trans ?_)
      constructor
      · intro hnodup other hother
        obtain rfl : placement = other := by simpa using hother
        obtain ⟨row, hrow, hvalid, hname, hpartition⟩ :=
          Cluster.exists_row_of_placement hcluster (by rw [h])
        refine ⟨row, hrow, hvalid, hname, hpartition, ?_⟩
        rw [← hpartition] at hnodup
        exact PartitionRow.nodup_replicaHosts_iff.mp hnodup
      · intro hrows
        obtain ⟨row, -, -, -, hpartition, honce⟩ := hrows placement rfl
        rw [← hpartition]
        exact PartitionRow.nodup_replicaHosts_iff.mpr honce

namespace RepeatedReplica

open SmallCluster

def registry : Registry := (Registry.empty.insert (host 0 1)).insert (host 1 2)

def once : PartitionRow := row [] [] [(.v4 2, .follower), (.v4 1, .leader)]

/-- The leader is named a second time. -/
def twice : PartitionRow :=
  row [] [] [(.v4 1, .leader), (.v4 2, .follower), (.v4 1, .readReplica)]

/-- The hosts that a plan for the statement yields, when the table has one row. -/
def tried (row : PartitionRow) : List Host :=
  let planned := policy.plan (router registry [row]) none (some (.bound (bound none)))
  (planned.1.drain planned.2.1.fleet planned.2.1.rotations).1

end RepeatedReplica

open SmallCluster RepeatedReplica in
/-- A statement led to a row that names two hosts once each tries each once. -/
theorem Policy.nodup_drain_iff_once :
    (((router registry [once]).cluster 0).placeStatement none (some (.bound (bound none)))).1
        = some ⟨"ks.t", 19780, once.partition registry, .localOne⟩ ∧
      ((tried once).map Host.address).Nodup := by
  have hcluster : (router registry [once]).cluster 0
      = ((default : Cluster).refresh registry [once]).cluster := rfl
  have hplacement : (((router registry [once]).cluster 0).placeStatement none
      (some (.bound (bound none)))).1
        = some ⟨"ks.t", 19780, once.partition registry, .localOne⟩ := by decide +kernel
  refine ⟨hplacement, ?_⟩
  refine (Policy.nodup_drain_iff hcluster (.roundRobin 0) none (some (.bound (bound none)))).mpr ?_
  intro placement h
  rw [hplacement] at h
  obtain rfl := Option.some.inj h
  refine ⟨once, List.mem_singleton_self _, by decide, by decide, rfl, ?_⟩
  unfold PartitionRow.NamesOnce
  decide

open SmallCluster RepeatedReplica in
/-- A host that its row names as leader and as read replica is tried twice. -/
theorem Policy.tried_twice :
    tried twice = [host 0 1, host 1 2, host 0 1] ∧ ¬((tried twice).map Host.address).Nodup := by
  have htried : tried twice = [host 0 1, host 1 2, host 0 1] := by decide +kernel
  refine ⟨htried, ?_⟩
  rw [htried]
  decide

end QueryRouting
