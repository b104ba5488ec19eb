import Mathlib.Data.Set.Card
import QueryRouting.Proofs.Cluster.Ingest
import QueryRouting.Proofs.Partition.Index

/-!
# A refresh publishes the rows

What is to be published for rows can be said without the way in which a refresh goes about
it: a table for each name that a row with a range has, and in its split one partition for
each of these rows, in the stable order of the first keys.  The hosts of the partition are
those that the replicas of the row resolve to, the first leader before all others.  There
is one way to fill tables like that, and a refresh does, whatever was known before.

## Main definitions

* `PartitionRow.HasRange row first last` — the ends of a row report a range.
* `Resolved registry replicas known` — the registered hosts of a list of replicas.
* `PartitionRow.Describes row registry p` — `p` is the partition of a row.
* `Published registry rows t` — the tables hold what the rows describe, and no more.

## Main results

* `PartitionRow.isValid_iff_ranged` — the rows that are kept are those with a range.
* `PartitionRow.describes_iff` — a row with a range describes one partition.
* `Tables.published_ofRows`, `Published.unique` — what rows describe, and nothing else.
* `Cluster.refresh_published` — the refresh as a whole.
-/

namespace QueryRouting

/-! ### Rows -/

namespace PartitionRow

variable {row : PartitionRow} {registry : Registry} {first last : Nat} {p : Partition}

/-- The two ends of a row report the range from `first` up to `last`, in two bytes each, or
in none where they are those of the key space. -/
structure HasRange (row : PartitionRow) (first last : Nat) : Prop where
  start : IsBoundary 0 first row.startKey
  stop : IsBoundary 65536 last row.endKey
  ordered : first ≤ last

/-- The ends of a row report some range. -/
def Ranged (row : PartitionRow) : Prop := ∃ first last, row.HasRange first last

theorem HasRange.startKey_eq (h : row.HasRange first last) :
    (row.partition registry).startKey = first :=
  h.start.keyOfBoundary_eq

theorem HasRange.endKey_eq (h : row.HasRange first last) :
    (row.partition registry).endKey = last :=
  h.stop.keyOfBoundary_eq

/-- A range ends with the key space at the latest. -/
theorem HasRange.last_le (h : row.HasRange first last) : last ≤ 65536 := by
  cases h.stop with
  | inl hbytes => exact Nat.le_of_lt hbytes.1
  | inr hnone => exact Nat.le_of_eq hnone.1

/-- **The rows that are kept are those whose ends report a range.** -/
theorem isValid_iff_ranged : row.isValid = true ↔ row.Ranged := by
  have hkeys : row.isValid = true ↔ 0 ≤ Partition.keyOfBoundary (0 : Nat) row.startKey ∧
      Partition.keyOfBoundary (0 : Nat) row.startKey
        ≤ Partition.keyOfBoundary (65536 : Nat) row.endKey :=
    Partition.isValid_iff
  rw [hkeys]
  constructor
  · intro h
    obtain ⟨hstart, hle⟩ := h
    have hstop := Int.le_trans hstart hle
    exact ⟨_, _, isBoundary_of_keyOfBoundary hstart, isBoundary_of_keyOfBoundary hstop, by omega⟩
  · intro h
    obtain ⟨first, last, hrange⟩ := h
    rw [hrange.start.keyOfBoundary_eq, hrange.stop.keyOfBoundary_eq]
    have := hrange.ordered
    omega

instance : DecidablePred Ranged := fun row =>
  decidable_of_iff (row.isValid = true) isValid_iff_ranged

end PartitionRow

/-! ### Replicas -/

/-- The registered hosts of a list of replicas, in order and with their roles: the host of
lowest address with the IP address of the replica, if any host has it. -/
inductive Resolved (registry : Registry) :
    List (Ip × ReplicaRole) → List (Host × ReplicaRole) → Prop where
  | nil : Resolved registry [] []
  | registered {ip : Ip} {role : ReplicaRole} {h : Host} {replicas : List (Ip × ReplicaRole)}
      {known : List (Host × ReplicaRole)} : registry.Lowest ip h →
      Resolved registry replicas known →
      Resolved registry ((ip, role) :: replicas) ((h, role) :: known)
  /-- A replica that no registered host is gives nothing. -/
  | unknown {ip : Ip} {role : ReplicaRole} {replicas : List (Ip × ReplicaRole)}
      {known : List (Host × ReplicaRole)} : (∀ k ∈ registry.hosts, k.address.ip ≠ ip) →
      Resolved registry replicas known → Resolved registry ((ip, role) :: replicas) known

theorem PartitionRow.resolved_knownReplicas (row : PartitionRow) (registry : Registry) :
    Resolved registry row.replicas (row.knownReplicas registry) := by
  unfold knownReplicas
  induction row.replicas with
  | nil => exact .nil
  | cons entry replicas ih =>
    obtain ⟨ip, role⟩ := entry
    cases hfound : registry.findIp? ip with
    | none =>
      rw [List.filterMap_cons_none (by simp [hfound])]
      exact .unknown (Registry.findIp?_eq_none_iff.mp hfound) ih
    | some h =>
      rw [List.filterMap_cons_some (b := (h, role)) (by simp [hfound])]
      exact .registered (Registry.findIp?_eq_some_iff.mp hfound) ih

/-- Replicas resolve in one way. -/
theorem Resolved.unique {registry : Registry} {replicas : List (Ip × ReplicaRole)}
    {known known' : List (Host × ReplicaRole)} (h : Resolved registry replicas known)
    (h' : Resolved registry replicas known') : known = known' := by
  induction h generalizing known' with
  | nil =>
    cases h'
    rfl
  | registered hlowest _ ih =>
    cases h' with
    | registered hlowest' hrest => rw [hlowest.unique hlowest', ih hrest]
    | unknown hnone => exact absurd hlowest.ip_eq (hnone _ hlowest.mem)
  | unknown hnone _ ih =>
    cases h' with
    | registered hlowest => exact absurd hlowest.ip_eq (hnone _ hlowest.mem)
    | unknown _ hrest => exact ih hrest

/-! ### Partitions -/

namespace PartitionRow

variable {row : PartitionRow} {registry : Registry} {p : Partition}

/-- The partition that a row is about: the range that its ends report, with the registered
hosts of its replicas. -/
structure Describes (row : PartitionRow) (registry : Registry) (p : Partition) : Prop where
  range : ∃ first last : Nat, row.HasRange first last ∧ p.startKey = first ∧ p.endKey = last
  hosts : ∃ known, Resolved registry row.replicas known ∧ LeaderFirst known p.hosts

/-- **A row with a range describes one partition**, and any other row describes none. -/
theorem describes_iff : row.Describes registry p ↔ row.Ranged ∧ row.partition registry = p := by
  constructor
  · intro h
    obtain ⟨first, last, hrange, hstart, hstop⟩ := h.range
    obtain ⟨known, hknown, hhosts⟩ := h.hosts
    refine ⟨⟨first, last, hrange⟩, ?_⟩
    have hreplicas : row.replicaHosts registry = p.hosts := by
      rw [hhosts.eq, hknown.unique (row.resolved_knownReplicas registry), replicaHosts]
    calc row.partition registry
        = ⟨(row.partition registry).startKey, (row.partition registry).endKey,
            row.replicaHosts registry⟩ := rfl
      _ = ⟨p.startKey, p.endKey, p.hosts⟩ := by
        rw [hrange.startKey_eq, hrange.endKey_eq, hreplicas, hstart, hstop]
  · rintro ⟨⟨first, last, hrange⟩, rfl⟩
    exact {
      range := ⟨first, last, hrange, hrange.startKey_eq, hrange.endKey_eq⟩
      hosts := ⟨_, row.resolved_knownReplicas registry, leaderFirst_spec _⟩ }

/-- The partition of a row lies in the key space. -/
theorem Describes.bounds (h : row.Describes registry p) :
    0 ≤ p.startKey ∧ p.startKey ≤ p.endKey ∧ p.endKey ≤ 65536 := by
  obtain ⟨first, last, hrange, hstart, hstop⟩ := h.range
  have hordered := hrange.ordered
  have hlast := hrange.last_le
  omega

end PartitionRow

/-- One partition for each row, in the order of the rows. -/
theorem forall₂_describes_iff {registry : Registry} {rows : List PartitionRow}
    {ps : List Partition} :
    List.Forall₂ (fun row p => row.Describes registry p) rows ps ↔
      (∀ row ∈ rows, row.Ranged) ∧ rows.map (·.partition registry) = ps := by
  simp only [PartitionRow.describes_iff, List.forall₂_and_left]
  rw [← List.forall₂_map_left_iff (R := Eq), List.forall₂_eq_eq_eq]

/-! ### Tables -/

/-- A split is known by its partitions. -/
theorem Split.eq_of_toList {s s' : Split} (h : s.toList = s'.toList) : s = s' := by
  cases s
  cases s'
  simpa [Split.toList] using h

namespace Tables

variable {t t' : Tables} {name : String} {split : Split}

/-- There are as many tables as names. -/
theorem size_eq_ncard (t : Tables) : t.size = {name | name ∈ t.names}.ncard := by
  have hnames : Ascending id t.names := List.pairwise_map.mpr t.ascending
  rw [← List.coe_toFinset, Set.ncard_coe_finset, List.toFinset_card_of_nodup hnames.nodup, names,
    List.length_map, size]

end Tables

/-- The tables hold what the rows describe, and no more: a split for each name that a row
with a range has, and in it one partition for each of the rows with that name and a range,
in the stable order of the first keys. -/
structure Published (registry : Registry) (rows : List PartitionRow) (t : Tables) : Prop where
  names : ∀ name, name ∈ t.names ↔ ∃ row ∈ rows, row.Ranged ∧ row.tableName = name
  splits : ∀ name split, t.find? name = some split →
    ∃ ps, List.Forall₂ (fun row p => row.Describes registry p)
        (rows.filter fun row => row.Ranged ∧ row.tableName = name) ps ∧
      StableSort Partition.startKey ps split.toList

variable {registry : Registry} {rows : List PartitionRow} {t t' : Tables}

/-- **The rows say all there is to publish.** -/
theorem Published.unique (h : Published registry rows t) (h' : Published registry rows t') :
    t = t' := by
  apply Tables.eq_of_find?
  intro name
  have hnames : name ∈ t.names ↔ name ∈ t'.names := (h.names name).trans (h'.names name).symm
  rw [Tables.mem_names_iff, Tables.mem_names_iff] at hnames
  cases hsplit : t.find? name with
  | none =>
    cases hsplit' : t'.find? name with
    | none => rfl
    | some split' => simp [hsplit, hsplit'] at hnames
  | some split =>
    -- Both splits are the stable sort of the partitions of the same rows.
    obtain ⟨split', hsplit'⟩ := hnames.mp ⟨split, hsplit⟩
    obtain ⟨ps, hrows, hsorted⟩ := h.splits name split hsplit
    obtain ⟨ps', hrows', hsorted'⟩ := h'.splits name split' hsplit'
    obtain rfl : ps = ps' :=
      (forall₂_describes_iff.mp hrows).2.symm.trans (forall₂_describes_iff.mp hrows').2
    rw [hsplit', Split.eq_of_toList (hsorted.unique hsorted')]

/-- **The tables of rows hold what the rows describe.** -/
theorem Tables.published_ofRows (registry : Registry) (rows : List PartitionRow) :
    Published registry rows (ofRows registry rows) where
  names name := by
    rw [mem_names_iff]
    simp only [find?_ofRows, PartitionRow.isValid_iff_ranged, Option.ite_none_right_eq_some]
    simp
  splits name split hsplit := by
    rw [find?_ofRows] at hsplit
    split at hsplit
    · obtain rfl := Option.some.inj hsplit
      refine ⟨_, forall₂_describes_iff.mpr ⟨?_, rfl⟩, ?_⟩
      · intro row hrow
        simp only [List.mem_filter, decide_eq_true_eq] at hrow
        exact hrow.2.1
      · -- A refresh first drops the rows without a range, then looks for the name.
        have hrows : rows.filter (fun row => row.Ranged ∧ row.tableName = name)
            = (rows.filter (·.isValid)).filter (·.tableName = name) := by
          rw [List.filter_filter]
          apply List.filter_congr
          intro row _
          simp [← PartitionRow.isValid_iff_ranged, Bool.and_comm]
        rw [hrows]
        exact Split.stableSort_ofList _
    · exact absurd hsplit (by simp)

/-- **A refresh publishes the rows.**  Whatever was known before, the tables after it are
the ones that hold what the rows describe with the hosts of the registry; it returns and
reports how many names these are, every range lies in the key space, and the default level
stays.  To refresh again from the same rows and hosts changes nothing. -/
theorem Cluster.refresh_published (c : Cluster) (registry : Registry) (rows : List PartitionRow) :
    let refreshed := (c.refresh registry rows).cluster
    (∀ t, Published registry rows t ↔ t = refreshed.tables) ∧
      (c.refresh registry rows).published = refreshed.tables.size ∧
      refreshed.tables.size
        = {name | ∃ row ∈ rows, row.Ranged ∧ row.tableName = name}.ncard ∧
      (c.refresh registry rows).events.getLast?
        = some (.refreshed refreshed.tables.size rows.length) ∧
      (∀ name split, refreshed.split? name = some split →
        ∀ p ∈ split.toList, 0 ≤ p.startKey ∧ p.startKey ≤ p.endKey ∧ p.endKey ≤ 65536) ∧
      refreshed.defaultLevel = c.defaultLevel ∧
      refreshed.refresh registry rows = c.refresh registry rows := by
  have hpublished : Published registry rows (c.refresh registry rows).cluster.tables := by
    rw [Cluster.tables_refresh]
    exact Tables.published_ofRows registry rows
  refine ⟨?_, rfl, ?_, ?_, ?_, rfl, rfl⟩
  · intro t
    constructor
    · intro ht
      exact ht.unique hpublished
    · rintro rfl
      exact hpublished
  · rw [Tables.size_eq_ncard]
    exact congrArg Set.ncard (Set.ext hpublished.names)
  · exact List.getLast?_concat
  · intro name split hsplit p hp
    rw [Cluster.split?_refresh] at hsplit
    obtain ⟨row, -, hvalid, -, rfl⟩ := Tables.exists_row_of_mem hsplit hp
    exact (PartitionRow.describes_iff.mpr
      ⟨PartitionRow.isValid_iff_ranged.mp hvalid, rfl⟩).bounds

end QueryRouting
