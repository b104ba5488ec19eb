import QueryRouting.Proofs.Cluster.Publication
import QueryRouting.Proofs.Policy.Routing

/-!
# The leader of a partition

A partition keeps the hosts of its row and not their roles, and its first host passes for
the leader.  A refresh puts the first registered leader of a row first.  When no leader of
the row is registered another replica stands first, and passes for the leader all the same.

## Main definitions

* `Registry.HasIp` — some registered host has an IP address.
* `PartitionRow.LeaderKnown`, `PartitionRow.Unserved` — a leader, or no replica at all, of a row
  is registered.

## Main results

* `LeaderFirst.head?_eq` — the host that stands first.
* `PartitionRow.leader?_eq_none_iff`, `PartitionRow.exists_leader?` — which host passes for the
  leader of a row.
* `Cluster.leader?_listed_iff` — when the host that passes for the leader is one.
-/

namespace QueryRouting

/-- Some registered host has the IP address. -/
def Registry.HasIp (registry : Registry) (ip : Ip) : Prop :=
  ∃ h ∈ registry.hosts, h.address.ip = ip

theorem Registry.hasIp_iff {registry : Registry} {ip : Ip} :
    registry.HasIp ip ↔ ∃ h, registry.findIp? ip = some h := by
  rw [← Option.ne_none_iff_exists', Ne, findIp?_eq_none_iff]
  simp [HasIp]

/-- **The host that stands first** is the first leader; without one it is the first host. -/
theorem LeaderFirst.head?_eq {known : List (Host × ReplicaRole)} {hosts : List Host}
    (h : LeaderFirst known hosts) :
    hosts.head? = ((known.find? (·.2 = .leader)).or known.head?).map Prod.fst := by
  cases h with
  | @led before after leader others =>
    have hbefore : before.find? (·.2 = .leader) = none := by simpa using others
    simp [List.find?_append, hbefore]
  | leaderless others =>
    have hnone : known.find? (·.2 = .leader) = none := by simpa using others
    simp [hnone]

namespace PartitionRow

variable {row : PartitionRow} {registry : Registry} {p : Partition} {h : Host}

/-- Some leader of the row is registered. -/
def LeaderKnown (row : PartitionRow) (registry : Registry) : Prop :=
  ∃ ip, (ip, .leader) ∈ row.replicas ∧ registry.HasIp ip

/-- No replica of the row is registered, whatever its role. -/
def Unserved (row : PartitionRow) (registry : Registry) : Prop :=
  ∀ entry ∈ row.replicas, ¬registry.HasIp entry.1

/-- The registered replicas keep their roles. -/
theorem mem_knownReplicas {role : ReplicaRole} :
    (h, role) ∈ row.knownReplicas registry ↔
      ∃ ip, (ip, role) ∈ row.replicas ∧ registry.findIp? ip = some h := by
  simp only [knownReplicas, List.mem_filterMap, Option.map_eq_some_iff]
  constructor
  · rintro ⟨⟨ip, _⟩, hentry, k, hk, e⟩
    cases e
    exact ⟨ip, hentry, hk⟩
  · rintro ⟨ip, hentry, hk⟩
    exact ⟨(ip, role), hentry, h, hk, rfl⟩

/-- No host passes for the leader when no replica is registered, and only then. -/
theorem leader?_eq_none_iff :
    (row.partition registry).leader? = none ↔ row.Unserved registry := by
  have hhosts : (row.partition registry).leader? = none ↔ row.replicaHosts registry = [] :=
    List.head?_eq_none_iff
  rw [hhosts, replicaHosts_eq_nil_iff]
  simp only [Unserved, Registry.hasIp_iff, not_exists, Option.eq_none_iff_forall_ne_some]

/-- **A registered leader passes for the leader**, before any other replica. -/
theorem exists_leader? (hknown : row.LeaderKnown registry) :
    ∃ h, (row.partition registry).leader? = some h ∧ (h.address.ip, .leader) ∈ row.replicas := by
  obtain ⟨ip, hip, hregistered⟩ := hknown
  obtain ⟨h, hfound⟩ := Registry.hasIp_iff.mp hregistered
  have hmem : (h, .leader) ∈ row.knownReplicas registry := mem_knownReplicas.mpr ⟨ip, hip, hfound⟩
  have hhead : (row.partition registry).leader? = _ :=
    (leaderFirst_spec (row.knownReplicas registry)).head?_eq
  cases hfirst : (row.knownReplicas registry).find? (·.2 = .leader) with
  | none => exact absurd (List.find?_eq_none.mp hfirst _ hmem) (by simp)
  | some entry =>
    obtain ⟨k, role⟩ := entry
    obtain rfl : role = .leader := by simpa using List.find?_some hfirst
    obtain ⟨first, hlisted, hk⟩ := mem_knownReplicas.mp (List.mem_of_find?_eq_some hfirst)
    rw [hfirst] at hhead
    rw [← (Registry.mem_of_findIp? hk).2] at hlisted
    exact ⟨k, hhead, hlisted⟩

/-- A host that passes for the leader and is listed as one is a registered leader. -/
theorem leaderKnown_of_leader? (hleader : (row.partition registry).leader? = some h)
    (hlisted : (h.address.ip, .leader) ∈ row.replicas) : row.LeaderKnown registry := by
  obtain ⟨entry, -, hfound⟩ := mem_replicaHosts.mp (List.mem_of_head? hleader)
  exact ⟨h.address.ip, hlisted, h, (Registry.mem_of_findIp? hfound).1, rfl⟩

end PartitionRow

/-- **When the host that passes for the leader is one.**  After a refresh every partition is
that of a row of its table, and every row with a range has its partition.  The host that
passes for the leader of the partition is one that the row lists as a leader exactly when
some leader of the row is registered, or no replica at all.  In the same cases, and in no
others, there is no such host for want of a registered leader. -/
theorem Cluster.leader?_listed_iff (c : Cluster) (registry : Registry) (rows : List PartitionRow) :
    let refreshed := (c.refresh registry rows).cluster
    (∀ name split, refreshed.split? name = some split → ∀ p ∈ split.toList,
        ∃ row ∈ rows, row.tableName = name ∧ row.Describes registry p) ∧
      ∀ row ∈ rows, ∀ p, row.Describes registry p →
        (∃ split, refreshed.split? row.tableName = some split ∧ p ∈ split.toList) ∧
        ((∀ h, p.leader? = some h → (h.address.ip, .leader) ∈ row.replicas) ↔
          row.LeaderKnown registry ∨ row.Unserved registry) ∧
        ((¬row.LeaderKnown registry → p.leader? = none) ↔
          row.LeaderKnown registry ∨ row.Unserved registry) := by
  intro refreshed
  have htables : ∀ name, refreshed.split? name = (Tables.ofRows registry rows).find? name :=
    c.split?_refresh registry rows
  refine ⟨fun name split hsplit p hp => ?_, fun row hrow p hdescribes => ?_⟩
  · rw [htables] at hsplit
    obtain ⟨row, hrow, hvalid, hname, hpartition⟩ := Tables.exists_row_of_mem hsplit hp
    exact ⟨row, hrow, hname, PartitionRow.describes_iff.mpr
      ⟨PartitionRow.isValid_iff_ranged.mp hvalid, hpartition⟩⟩
  · obtain ⟨hranged, rfl⟩ := PartitionRow.describes_iff.mp hdescribes
    have hvalid := PartitionRow.isValid_iff_ranged.mpr hranged
    refine ⟨?_, ⟨fun hlisted => ?_, ?_⟩, ?_⟩
    · have hsplit : refreshed.split? row.tableName = some _ :=
        (htables _).trans (Tables.find?_ofRows.trans (if_pos ⟨row, hrow, hvalid, rfl⟩))
      refine ⟨_, hsplit, Tables.mem_splitOfRows.mpr ⟨row, ?_, rfl, rfl⟩⟩
      exact List.mem_filter.mpr ⟨hrow, hvalid⟩
    · cases hleader : (row.partition registry).leader? with
      | none => exact Or.inr (PartitionRow.leader?_eq_none_iff.mp hleader)
      | some h => exact Or.inl (PartitionRow.leaderKnown_of_leader? hleader (hlisted h hleader))
    · rintro (hknown | hunserved) h hleader
      · obtain ⟨k, hk, hlisted⟩ := PartitionRow.exists_leader? hknown
        rwa [Option.some.inj (hleader.symm.trans hk)]
      · rw [PartitionRow.leader?_eq_none_iff.mpr hunserved] at hleader
        simp at hleader
    · rw [PartitionRow.leader?_eq_none_iff]
      exact Classical.or_iff_not_imp_left.symm

namespace Leaderless

open SmallCluster

/-- The only registered host. -/
def registry : Registry := Registry.empty.insert (host 0 1)

/-- The leader of the row is not registered, a follower is. -/
def leaderless : PartitionRow := row [] [] [(.v4 9, .leader), (.v4 1, .follower)]

end Leaderless

open SmallCluster Leaderless in
/-- **A follower passes for the leader** when the leader of its row is not registered. -/
theorem Cluster.leader?_of_follower :
    ((((default : Cluster).refresh registry [leaderless]).cluster.split? "ks.t").map Split.toList
        = some [⟨0, 65536, [host 0 1]⟩]) ∧
      (⟨0, 65536, [host 0 1]⟩ : Partition).leader? = some (host 0 1) ∧
      ((host 0 1).address.ip, .leader) ∉ leaderless.replicas ∧
      ¬leaderless.LeaderKnown registry := by
  refine ⟨by decide +kernel, rfl, by decide +kernel, ?_⟩
  rintro ⟨ip, hlisted, h, hmem, hip⟩
  obtain rfl : h = host 0 1 := by
    simpa using Registry.mem_insert.mp hmem
  rw [← hip] at hlisted
  exact absurd hlisted (by decide +kernel)

end QueryRouting
