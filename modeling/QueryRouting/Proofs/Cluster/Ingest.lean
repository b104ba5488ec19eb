import QueryRouting.Proofs.Cluster.Rows
import QueryRouting.Proofs.Host.Registry

/-!
# What a refresh publishes

The tables after a refresh are those that have a valid row, and the split of each
holds the partitions of its valid rows.  The hosts of a partition are the registered
hosts of its row.

## Main definitions

* `IsBoundary absent b bs` — `bs` is how an end `b` of a range is reported.

## Main results

* `PartitionRow.mem_replicaHosts`, `PartitionRow.find?_of_mem_replicaHosts` — the hosts
  of a row are those that its replicas resolve to, and they are registered.
* `Tables.exists_row_of_mem` — a published partition comes from a row.
-/

namespace QueryRouting

/-! ### The ends of a range -/

/-- The bytes that report an end of a range: two bytes, or none at the end of the key
space where they may be left out. -/
def IsBoundary (absent b : Nat) (bs : Bytes) : Prop :=
  (b < 65536 ∧ bs = BigEndian.write 2 b) ∨ (b = absent ∧ bs = [])

/-- The bytes of an end are read as that end. -/
theorem IsBoundary.keyOfBoundary_eq {absent b : Nat} {bs : Bytes} (h : IsBoundary absent b bs) :
    Partition.keyOfBoundary absent bs = b := by
  rcases h with ⟨hlt, rfl⟩ | ⟨rfl, rfl⟩
  · have hmodulus : BigEndian.modulus 2 = 65536 := rfl
    rw [Partition.keyOfBoundary, BigEndian.length_write, if_neg (by omega), if_pos rfl,
      BigEndian.read_write, hmodulus, Nat.mod_eq_of_lt hlt]
  · rfl

/-- Bytes that are read as a key report it. -/
theorem isBoundary_of_keyOfBoundary {absent : Nat} {bs : Bytes}
    (h : 0 ≤ Partition.keyOfBoundary absent bs) :
    IsBoundary absent (Partition.keyOfBoundary absent bs).toNat bs := by
  unfold Partition.keyOfBoundary at h ⊢
  split
  · next hempty => exact Or.inr ⟨rfl, List.length_eq_zero_iff.mp hempty⟩
  · next hempty =>
    split
    · next htwo =>
      have hlt := BigEndian.read_lt bs
      rw [htwo] at hlt
      rw [Int.toNat_natCast]
      refine Or.inl ⟨hlt, ?_⟩
      rw [← htwo, BigEndian.write_read]
    · next htwo =>
      rw [if_neg hempty, if_neg htwo] at h
      exact absurd h (by decide)

theorem Partition.isValid_iff {p : Partition} :
    p.isValid = true ↔ 0 ≤ p.startKey ∧ p.startKey ≤ p.endKey := by
  simp [isValid]

namespace Registry

/-- The host found by its IP address has it, and is registered. -/
theorem mem_of_findIp? {r : Registry} {ip : Ip} {h : Host} (e : r.findIp? ip = some h) :
    h ∈ r.hosts ∧ h.address.ip = ip :=
  ⟨(lowest_of_findIp? e).mem, (lowest_of_findIp? e).ip_eq⟩

/-- A registered host is the one found at its address. -/
theorem find?_of_mem {r : Registry} {h : Host} (hmem : h ∈ r.hosts) :
    r.find? h.address = some h :=
  find?_eq_some_iff.mpr ⟨hmem, rfl⟩

end Registry

namespace PartitionRow

/-- The hosts of a row are those that its replicas resolve to. -/
theorem mem_replicaHosts {row : PartitionRow} {registry : Registry} {h : Host} :
    h ∈ row.replicaHosts registry ↔ ∃ entry ∈ row.replicas, registry.findIp? entry.1 = some h := by
  rw [replicaHosts, (leaderFirst_spec _).perm.mem_iff, knownReplicas, List.mem_map]
  simp only [List.mem_filterMap, Option.map_eq_some_iff]
  constructor
  · rintro ⟨-, ⟨⟨ip, role⟩, hentry, k, hk, rfl⟩, rfl⟩
    exact ⟨(ip, role), hentry, hk⟩
  · rintro ⟨⟨ip, role⟩, hentry, hk⟩
    exact ⟨(h, role), ⟨(ip, role), hentry, h, hk, rfl⟩, rfl⟩

/-- The hosts of a row are registered. -/
theorem find?_of_mem_replicaHosts {row : PartitionRow} {registry : Registry} {h : Host}
    (hmem : h ∈ row.replicaHosts registry) : registry.find? h.address = some h := by
  obtain ⟨entry, -, hfound⟩ := mem_replicaHosts.mp hmem
  exact Registry.find?_of_mem (Registry.mem_of_findIp? hfound).1

/-- A row without a registered replica has no hosts. -/
theorem replicaHosts_eq_nil_iff {row : PartitionRow} {registry : Registry} :
    row.replicaHosts registry = [] ↔ ∀ entry ∈ row.replicas, registry.findIp? entry.1 = none := by
  simp only [List.eq_nil_iff_forall_not_mem, mem_replicaHosts, Option.eq_none_iff_forall_ne_some]
  constructor
  · intro h entry hentry k hk
    exact h k ⟨entry, hentry, hk⟩
  · rintro h k ⟨entry, hentry, hk⟩
    exact h entry hentry k hk

end PartitionRow

/-! ### The tables -/

namespace Tables

variable {registry : Registry} {rows : List PartitionRow} {name : String}

/-- The partitions of a table come from its rows. -/
theorem mem_splitOfRows {p : Partition} :
    p ∈ (splitOfRows registry rows name).toList ↔
      ∃ row ∈ rows, row.tableName = name ∧ row.partition registry = p := by
  simp [splitOfRows, and_assoc]

/-- A partition of a table after a refresh comes from a valid row of that table. -/
theorem exists_row_of_mem {split : Split} {p : Partition}
    (hsplit : (ofRows registry rows).find? name = some split) (hp : p ∈ split.toList) :
    ∃ row ∈ rows, row.isValid = true ∧ row.tableName = name ∧ row.partition registry = p := by
  rw [find?_ofRows] at hsplit
  split at hsplit
  · obtain rfl := Option.some.inj hsplit
    obtain ⟨row, hrow, hname, hpart⟩ := mem_splitOfRows.mp hp
    obtain ⟨hrow, hvalid⟩ := List.mem_filter.mp hrow
    exact ⟨row, hrow, hvalid, hname, hpart⟩
  · exact absurd hsplit (by simp)

end Tables

end QueryRouting
