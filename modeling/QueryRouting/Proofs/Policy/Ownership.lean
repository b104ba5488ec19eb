import QueryRouting.Proofs.Cluster.Ingest
import QueryRouting.Proofs.Partition.Lookup
import QueryRouting.Proofs.Policy.Routing

/-!
# Statements are led to the owners of their keys

When the rows of a table tile the key space, every key has one owner: the row whose
range holds it.  A refresh, in whatever order the rows come and whatever rows of
other tables come with them, makes every statement of the table that has a key go to
the registered replicas of the row that owns the key.

## Main definitions

* `Tiling bound tiles` — the rows `tiles` divide the key space at the numbers `bound`.

## Main results

* `Tiling.lookup_eq` — a lookup after a refresh finds the partition of the owner.
* `Policy.plan_of_tiling` — a statement is led to the replicas of the owner of its key.
-/

namespace QueryRouting

/-! ### Tilings -/

/-- Rows that divide the key space: the row at place `i` has the keys from `bound i` up
to `bound (i + 1)`. -/
structure Tiling (bound : Nat → Nat) (tiles : List PartitionRow) : Prop where
  first : bound 0 = 0
  last : bound tiles.length = 65536
  ascending : ∀ i < tiles.length, bound i < bound (i + 1)
  startKey : ∀ i row, tiles[i]? = some row → IsBoundary 0 (bound i) row.startKey
  endKey : ∀ i row, tiles[i]? = some row → IsBoundary 65536 (bound (i + 1)) row.endKey

/-- A number between the first and the last of several lies between two neighbours. -/
theorem exists_between {bound : Nat → Nat} {k : Nat} (hfirst : bound 0 ≤ k) (n : Nat)
    (hlast : k < bound n) : ∃ i < n, bound i ≤ k ∧ k < bound (i + 1) := by
  induction n with
  | zero => omega
  | succ n ih =>
    rcases Nat.lt_or_ge k (bound n) with h | h
    · obtain ⟨i, hi, hk⟩ := ih h
      exact ⟨i, by omega, hk⟩
    · exact ⟨n, by omega, h, hlast⟩

namespace Tiling

variable {bound : Nat → Nat} {tiles : List PartitionRow}

theorem bound_lt (t : Tiling bound tiles) {i j : Nat} (hij : i < j) (hj : j ≤ tiles.length) :
    bound i < bound j := by
  induction j with
  | zero => omega
  | succ j ih =>
    have hstep := t.ascending j (by omega)
    rcases Nat.lt_or_ge i j with h | h
    · have := ih h (by omega)
      omega
    · obtain rfl : i = j := by omega
      exact hstep

/-- A row that begins at a key or before it does not come after the row that owns it. -/
theorem index_le (t : Tiling bound tiles) {i j k : Nat} (hj : j < tiles.length)
    (hjk : bound j ≤ k) (hki : k < bound (i + 1)) : j ≤ i := by
  rcases Nat.lt_trichotomy j (i + 1) with h | rfl | h
  · omega
  · omega
  · have := t.bound_lt h (by omega)
    omega

/-- Every key has an owner. -/
theorem exists_owner (t : Tiling bound tiles) (k : UInt16) :
    ∃ i row, tiles[i]? = some row ∧ bound i ≤ k.toNat ∧ k.toNat < bound (i + 1) := by
  have hk := k.toNat_lt
  have hfirst : bound 0 ≤ k.toNat := by
    rw [t.first]
    exact Nat.zero_le _
  have hlast : k.toNat < bound tiles.length := by
    rw [t.last]
    omega
  obtain ⟨i, hi, hik⟩ := exists_between hfirst tiles.length hlast
  exact ⟨i, tiles[i], List.getElem?_eq_getElem hi, hik⟩

variable {rows : List PartitionRow} {name : String} {i : Nat} {row : PartitionRow}

theorem startKey_partition (t : Tiling bound tiles) (registry : Registry)
    (hrow : tiles[i]? = some row) :
    (row.partition registry).startKey = bound i :=
  (t.startKey i row hrow).keyOfBoundary_eq

theorem endKey_partition (t : Tiling bound tiles) (registry : Registry)
    (hrow : tiles[i]? = some row) :
    (row.partition registry).endKey = bound (i + 1) :=
  (t.endKey i row hrow).keyOfBoundary_eq

theorem isValid (t : Tiling bound tiles) (hrow : tiles[i]? = some row) :
    row.isValid = true := by
  have hlt := t.ascending i (List.getElem?_eq_some_iff.mp hrow).1
  rw [← PartitionRow.isValid_partition row .empty, Partition.isValid,
    t.startKey_partition .empty hrow, t.endKey_partition .empty hrow]
  simp only [Bool.and_eq_true, decide_eq_true_eq]
  omega

/-- The row at a place is among the rows, and of the table. -/
theorem mem_rows (hperm : (rows.filter (·.tableName = name)).Perm tiles)
    (hrow : tiles[i]? = some row) : row ∈ rows ∧ row.tableName = name := by
  have hmem := hperm.mem_iff.mpr (List.mem_of_getElem? hrow)
  simpa using hmem

/-- **A lookup finds the partition of the owner.** -/
theorem lookup_eq (t : Tiling bound tiles) (registry : Registry)
    (hperm : (rows.filter (·.tableName = name)).Perm tiles) (hrow : tiles[i]? = some row) {k : Nat}
    (hik : bound i ≤ k) (hki : k < bound (i + 1)) :
    ∃ split, (Tables.ofRows registry rows).find? name = some split ∧
      split.lookup k = some (row.partition registry) := by
  obtain ⟨hmem, hname⟩ := mem_rows hperm hrow
  refine ⟨Tables.splitOfRows registry (rows.filter (·.isValid)) name, ?_, ?_⟩
  · rw [Tables.find?_ofRows, if_pos ⟨row, hmem, t.isValid hrow, hname⟩]
  · refine Split.lookup_ofList_eq_some (List.mem_map.mpr ⟨row, ?_, rfl⟩) ?_ ?_
    · simp [hmem, hname, t.isValid hrow]
    · rw [t.startKey_partition registry hrow]
      omega
    · -- Another partition of the table is that of a row at another place.
      intro q hq hqk
      obtain ⟨other, hother, rfl⟩ := List.mem_map.mp hq
      have htile : other ∈ tiles := by
        rw [← hperm.mem_iff]
        simp only [List.mem_filter] at hother ⊢
        exact ⟨hother.1.1, hother.2⟩
      obtain ⟨j, hj⟩ := List.getElem?_of_mem htile
      have hjlt := (List.getElem?_eq_some_iff.mp hj).1
      have hilt := (List.getElem?_eq_some_iff.mp hrow).1
      rw [t.startKey_partition registry hj] at hqk
      rw [t.startKey_partition registry hj, t.startKey_partition registry hrow]
      rcases Nat.lt_or_eq_of_le (t.index_le hjlt (by omega) hki) with h | rfl
      · have := t.bound_lt h (by omega)
        omega
      · rw [hrow] at hj
        rw [Option.some.inj hj]
        exact Or.inl rfl

end Tiling

/-! ### Statements -/

/-- The hosts that a plan of which nothing has been used yields begin with the replicas
that may be offered. -/
theorem RoutedPlan.exists_remaining_start (child : Policy) (strong : Bool) (replicas : List Host)
    (fleet : Fleet) (rotations : Rotations) :
    ∃ rest, (RoutedPlan.start child strong replicas).remaining fleet rotations
      = replicas.filter (fun h =>
          fleet.isUp h && (strong || child.distance fleet.registry h = .local)) ++ rest :=
  ⟨_, rfl⟩

/-- **A statement is led to the replicas of the owner of its key.**  When the rows of a
table tile the key space, a statement of the table that has a key is planned after a
refresh as follows.  One row owns the key.  If a replica of it is registered, the plan
is led by exactly the registered ones, the first leader before all others, in this
order unless the level is relaxed; drained at once it begins with those that are up
and, unless the level is strong, local.  If none is, the plan is that of the wrapped
policy.  The fleet may have changed between the refresh and the plan. -/
theorem Policy.plan_of_tiling {bound : Nat → Nat} {tiles rows : List PartitionRow} {name : String}
    (tiling : Tiling bound tiles) (hrows : (rows.filter (·.tableName = name)).Perm tiles)
    {c : Cluster} {registry : Registry} {r : Router} {number : Nat}
    (hcluster : r.cluster number = (c.refresh registry rows).cluster) (child : Policy)
    {keyspace : Option String} {b : Bound} {k : UInt16}
    (hname : b.prepared.tableName? keyspace = some name) (hcolumns : b.prepared.columns ≠ [])
    (hkey : b.key = .ok k) :
    let planned := (partitionAware child number).plan r keyspace (some (.bound b))
    let level := b.level.getD c.defaultLevel
    ∃ i row, tiles[i]? = some row ∧ (bound i ≤ k.toNat ∧ k.toNat < bound (i + 1)) ∧
      (∀ j < tiles.length, bound j ≤ k.toNat → k.toNat < bound (j + 1) → j = i) ∧
      ((∃ entry ∈ row.replicas, registry.findIp? entry.1 ≠ none) →
        ∃ hosts replicas rest, LeaderFirst (row.knownReplicas registry) hosts ∧
          replicas.Perm hosts ∧ (level ≠ .consistentPrefix → replicas = hosts) ∧
          planned.1 = .routed (.start child level.isStrong replicas) ∧
          (planned.1.drain planned.2.1.fleet planned.2.1.rotations).1
            = replicas.filter (fun h => r.fleet.isUp h &&
                (level.isStrong || child.distance r.fleet.registry h = .local)) ++ rest) ∧
      ((∀ entry ∈ row.replicas, registry.findIp? entry.1 = none) →
        planned.1 = (child.plan r keyspace (some (.bound b))).1 ∧
          planned.2.1 = (child.plan r keyspace (some (.bound b))).2.1) := by
  intro planned level
  obtain ⟨i, row, hrow, hik, hki⟩ := tiling.exists_owner k
  obtain ⟨split, hsplit, hlookup⟩ := tiling.lookup_eq registry hrows hrow hik hki
  have htable : (r.cluster number).split? name = some split := by
    rw [hcluster, Cluster.split?_refresh]
    exact hsplit
  have hlevel : (r.cluster number).levelOf none b = level := by
    rw [hcluster, Cluster.levelOf, Option.or_none]
    rfl
  refine ⟨i, row, hrow, ⟨hik, hki⟩, fun j hj hjk hkj => ?_, fun hknown => ?_, fun hunknown => ?_⟩
  · have hi := (List.getElem?_eq_some_iff.mp hrow).1
    exact Nat.le_antisymm (tiling.index_le hj hjk hki) (tiling.index_le hi hik hkj)
  · -- The partition has hosts, so every step to a placement succeeds.
    have hhosts : row.replicaHosts registry ≠ [] := by
      intro hnil
      obtain ⟨entry, hentry, hne⟩ := hknown
      exact hne (PartitionRow.replicaHosts_eq_nil_iff.mp hnil entry hentry)
    let placement : Placement := ⟨name, k, row.partition registry, level⟩
    have hplace : (r.cluster number).place keyspace none b = .ok placement :=
      Cluster.place_eq_ok_iff.mpr
        ⟨hcolumns, hkey, hname, ⟨split, htable, hlookup⟩, hhosts, hlevel.symm⟩
    have hplan := Policy.plan_of_placement child
      (Cluster.placeStatement_of_place_ok hplace)
    obtain ⟨rest, hrest⟩ := RoutedPlan.exists_remaining_start child level.isStrong
      (r.replicaOrder placement).1 r.fleet r.rotations
    refine ⟨row.replicaHosts registry, (r.replicaOrder placement).1, rest, leaderFirst_spec _,
      r.perm_replicaOrder placement, fun hne => ?_, ?_, ?_⟩
    · rw [Router.replicaOrder_of_ne (p := placement) hne]
      rfl
    · rw [show planned = _ from hplan]
    · rw [show planned = _ from hplan, Plan.drain_eq]
      exact hrest
  · -- The partition has no hosts: the statement is not placed.
    have hplace : (r.cluster number).place keyspace none b = .error (.noReplicas name k) := by
      have hhosts := PartitionRow.replicaHosts_eq_nil_iff.mpr hunknown
      simp [Cluster.place, hcolumns, hkey, hname, htable, hlookup, PartitionRow.partition,
        Partition.ofKeyBytes, hhosts]
    have hplan := Policy.plan_of_no_placement child
      (Cluster.placeStatement_of_place_error hplace)
    rw [show planned = _ from hplan]
    exact ⟨rfl, rfl⟩

namespace TwoRows

open SmallCluster

def registry : Registry := (Registry.empty.insert (host 0 1)).insert (host 1 2)

/-- The key of the statement is the first one of the upper row. -/
def boundary : Nat → Nat
  | 0 => 0
  | 1 => 19780
  | _ => 65536

def lower : PartitionRow := row [] [0x4d, 0x44] [(.v4 2, .leader)]

def upper : PartitionRow :=
  row [0x4d, 0x44] [] [(.v4 2, .follower), (.v4 9, .follower), (.v4 1, .leader)]

/-- The rows in another order, with a row of another table among them. -/
def rows : List PartitionRow := [upper, ⟨"ks", "u", [], [], []⟩, lower]

theorem tiling : Tiling boundary [lower, upper] where
  first := rfl
  last := rfl
  ascending := by decide
  startKey := by
    rintro (_ | _ | i) row hrow
    · obtain rfl := Option.some.inj hrow
      exact Or.inr ⟨rfl, rfl⟩
    · obtain rfl := Option.some.inj hrow
      exact Or.inl ⟨by decide, by decide⟩
    · simp at hrow
  endKey := by
    rintro (_ | _ | i) row hrow
    · obtain rfl := Option.some.inj hrow
      exact Or.inl ⟨by decide, by decide⟩
    · obtain rfl := Option.some.inj hrow
      exact Or.inr ⟨rfl, rfl⟩
    · simp at hrow

end TwoRows

open SmallCluster TwoRows in
/-- A key on the boundary of two rows belongs to the upper one, whose leader comes first
and whose unknown replica is left out. -/
theorem Policy.plan_of_tiling_two_rows :
    (bound (some .quorum)).key = .ok 19780 ∧
      (rows.filter (·.tableName = "ks.t")).Perm [lower, upper] ∧
      (policy.plan (router registry rows) none (some (.bound (bound (some .quorum))))).1
        = .routed (.start (generic (.roundRobin 0)) true [host 0 1, host 1 2]) := by
  have hkey : (bound (some .quorum)).key = .ok 19780 := rfl
  have hrows : (rows.filter (·.tableName = "ks.t")).Perm [lower, upper] := by decide
  refine ⟨hkey, hrows, ?_⟩
  have hcluster : (router registry rows).cluster 0
      = ((default : Cluster).refresh registry rows).cluster := rfl
  have hname : (bound (some .quorum)).prepared.tableName? none = some "ks.t" := by decide
  obtain ⟨i, row, hrow, -, hunique, hled, -⟩ := Policy.plan_of_tiling tiling hrows hcluster
    (generic (.roundRobin 0)) hname (by decide) hkey
  obtain rfl := hunique 1 (by decide) (by decide) (by decide)
  obtain rfl := Option.some.inj hrow
  obtain ⟨hosts, replicas, rest, horder, -, heq, hplan, -⟩ :=
    hled ⟨(.v4 1, .leader), by decide, by decide⟩
  rw [policy, hplan, heq (by decide), horder.eq]
  rfl

end QueryRouting
