import QueryRouting.Cluster.Refresh
import QueryRouting.Proofs.Policy.Drain
import QueryRouting.Router

/-!
# New plans

A new plan of a policy is either the plan of the generic policy inside, or led by the
replicas of a placement.  A plan of the second kind begins with all of the replicas
of a partition before it, in their order unless the level is relaxed.  Planning moves
rotations and uses up chance, and changes no host and no table.

## Main results

* `perm_shuffle`, `Router.perm_replicaOrder` — the order of the replicas.
* `Policy.plan_of_placement`, `Policy.plan_of_no_placement` — the two kinds of plans.
* `Policy.plan_none` — no statement has the default plan.
* `Policy.plan_cases` — what is known of a plan, whatever the policy.
-/

namespace QueryRouting

/-- A shuffle keeps the elements. -/
theorem perm_shuffle {α : Type} (draw : Nat → Nat) (position : Nat) (xs : List α) :
    (shuffle draw position xs).Perm xs := by
  induction xs generalizing position with
  | nil => exact List.Perm.refl _
  | cons x xs ih =>
    have hperm := ih (position + 1)
    have hlt : draw position % (xs.length + 1) < xs.length + 1 := Nat.mod_lt _ (by omega)
    refine (List.perm_insertIdx x _ ?_).trans (hperm.cons x)
    rw [hperm.length_eq]
    omega

namespace Router

variable {r : Router} {p : Placement}

/-- The replicas are tried each once. -/
theorem perm_replicaOrder (r : Router) (p : Placement) :
    (r.replicaOrder p).1.Perm p.partition.hosts := by
  rw [replicaOrder]
  split
  · exact perm_shuffle ..
  · exact List.Perm.refl _

/-- Only the relaxed level changes their order. -/
theorem replicaOrder_of_ne (h : p.level ≠ .consistentPrefix) :
    r.replicaOrder p = (p.partition.hosts, r.chance) := by
  have hnot : p.level.isRelaxed = false := by
    cases hlevel : p.level <;> simp_all [Consistency.isRelaxed]
  simp [replicaOrder, hnot]

end Router

namespace Policy

variable {r : Router} {keyspace : Option String} {statement : Option Statement}
  {number : Nat} {placement : Placement} {events : List Event}

/-- A statement that can be placed is led to the replicas of its partition. -/
theorem plan_of_placement (child : Policy)
    (h : (r.cluster number).placeStatement keyspace statement = (some placement, events)) :
    (partitionAware child number).plan r keyspace statement =
      (.routed (.start child placement.level.isStrong (r.replicaOrder placement).1),
        { r with chance := (r.replicaOrder placement).2 }, events) := by
  simp only [plan, h]

/-- A statement that cannot be placed is left to the wrapped policy. -/
theorem plan_of_no_placement (child : Policy)
    (h : (r.cluster number).placeStatement keyspace statement = (none, events)) :
    (partitionAware child number).plan r keyspace statement =
      ((child.plan r keyspace statement).1, (child.plan r keyspace statement).2.1,
        events ++ (child.plan r keyspace statement).2.2) := by
  simp only [plan, h]

/-- No statement at all has the default plan. -/
theorem plan_none (policy : Policy) (r : Router) (keyspace : Option String) :
    policy.plan r keyspace none =
      (.generic (policy.defaultPlan r.fleet.registry r.rotations).1,
        { r with rotations := (policy.defaultPlan r.fleet.registry r.rotations).2 }, []) := by
  induction policy with
  | generic policy => rfl
  | partitionAware child number ih =>
    have hnone : (r.cluster number).placeStatement keyspace none = (none, []) := rfl
    rw [plan_of_no_placement child hnone, ih]
    rfl

/-- The policies around the generic one, each with the number of its cluster. -/
def layers : Policy → List (Policy × Nat)
  | generic _ => []
  | partitionAware child number => (child, number) :: child.layers

/-- **What a new plan is**: that of the generic policy inside, or one that no pull has
been made on, led by the replicas of a placement that one of the layers found.  The
fleet and the clusters stay as they are. -/
theorem plan_cases (policy : Policy) (r : Router) (keyspace : Option String)
    (statement : Option Statement) :
    (policy.plan r keyspace statement).2.1.fleet = r.fleet ∧
      (policy.plan r keyspace statement).2.1.clusters = r.clusters ∧
      ((policy.plan r keyspace statement).1
          = .generic (policy.defaultPlan r.fleet.registry r.rotations).1 ∨
        ∃ child number placement, (child, number) ∈ policy.layers ∧
          ((r.cluster number).placeStatement keyspace statement).1 = some placement ∧
          (policy.plan r keyspace statement).1
            = .routed (.start child placement.level.isStrong (r.replicaOrder placement).1)) := by
  induction policy with
  | generic policy => exact ⟨rfl, rfl, Or.inl rfl⟩
  | partitionAware child number ih =>
    cases h : (r.cluster number).placeStatement keyspace statement with
    | mk found events =>
      cases found with
      | some placement =>
        rw [plan_of_placement child h]
        exact ⟨rfl, rfl, Or.inr ⟨child, number, placement, List.mem_cons_self, by rw [h], rfl⟩⟩
      | none =>
        obtain ⟨hfleet, hclusters, hplan⟩ := ih
        rw [plan_of_no_placement child h]
        refine ⟨hfleet, hclusters, hplan.imp id ?_⟩
        rintro ⟨inner, innerNumber, placement, hlayer, hfound, hrouted⟩
        exact ⟨inner, innerNumber, placement, List.mem_cons_of_mem _ hlayer, hfound, hrouted⟩

end Policy

/-! ### Placements -/

namespace Cluster

variable {c : Cluster} {keyspace : Option String} {batchLevel : Option Consistency} {b : Bound}
  {placement : Placement}

/-- The steps that lead to a placement. -/
theorem place_eq_ok_iff :
    c.place keyspace batchLevel b = .ok placement ↔
      b.prepared.columns ≠ [] ∧ b.key = .ok placement.key ∧
        b.prepared.tableName? keyspace = some placement.table ∧
        (∃ split, c.split? placement.table = some split ∧
          split.lookup placement.key.toNat = some placement.partition) ∧
        placement.partition.hosts ≠ [] ∧ placement.level = c.levelOf batchLevel b := by
  constructor
  · intro h
    rw [place] at h
    split at h
    · simp at h
    · next hcolumns =>
      have hne : b.prepared.columns ≠ [] := by simpa using hcolumns
      split at h
      · simp at h
      · next key hkey =>
        split at h
        · simp at h
        · next table htable =>
          split at h
          · simp at h
          · next split hsplit =>
            split at h
            · simp at h
            · next partition hlookup =>
              split at h
              · simp at h
              · next hhosts =>
                obtain rfl := Except.ok.inj h
                exact ⟨hne, hkey, htable, ⟨split, hsplit, hlookup⟩, by simpa using hhosts, rfl⟩
  · rintro ⟨hcolumns, hkey, htable, ⟨split, hsplit, hlookup⟩, hhosts, hlevel⟩
    obtain ⟨table, key, partition, level⟩ := placement
    simp only at hkey htable hsplit hlookup hhosts hlevel
    simp [place, hcolumns, hkey, htable, hsplit, hlookup, hhosts, hlevel]

/-- A placement that is found is that of one of the statements. -/
theorem exists_place_of_placeFirst {candidates : List (Bound × Option Consistency)}
    (h : (c.placeFirst keyspace candidates).1 = some placement) :
    ∃ candidate ∈ candidates, c.place keyspace candidate.2 candidate.1 = .ok placement := by
  induction candidates with
  | nil => simp [placeFirst] at h
  | cons candidate later ih =>
    obtain ⟨b, batchLevel⟩ := candidate
    rw [placeFirst] at h
    split at h
    · next found hfound =>
      obtain rfl := Option.some.inj h
      exact ⟨(b, batchLevel), List.mem_cons_self, hfound⟩
    · obtain ⟨candidate, hmem, hfound⟩ := ih h
      exact ⟨candidate, List.mem_cons_of_mem _ hmem, hfound⟩

/-- A placement that is found lies in a published split, and has hosts. -/
theorem exists_split_of_placeStatement {statement : Option Statement}
    (h : (c.placeStatement keyspace statement).1 = some placement) :
    placement.partition.hosts ≠ [] ∧
      ∃ split, c.split? placement.table = some split ∧
        split.lookup placement.key.toNat = some placement.partition := by
  obtain ⟨candidate, -, hplace⟩ := exists_place_of_placeFirst h
  obtain ⟨-, -, -, hsplit, hhosts, -⟩ := place_eq_ok_iff.mp hplace
  exact ⟨hhosts, hsplit⟩

/-- A bound statement that can be placed. -/
theorem placeStatement_of_place_ok (h : c.place keyspace none b = .ok placement) :
    c.placeStatement keyspace (some (.bound b)) = (some placement, [placement.event]) := by
  simp [placeStatement, Statement.candidates, placeFirst, h]

/-- A bound statement that cannot be placed. -/
theorem placeStatement_of_place_error {reason : Unrouted}
    (h : c.place keyspace none b = .error reason) :
    c.placeStatement keyspace (some (.bound b)) = (none, [.unrouted reason]) := by
  simp [placeStatement, Statement.candidates, placeFirst, h]

end Cluster

/-! ### A small cluster

Hosts of one datacenter, the rows of one table, and statements that have the first key
of its upper half, for the cases that follow general results. -/

namespace SmallCluster

/-- A host on the default port. -/
def host (serial : Nat) (number : BitVec 32) : Host :=
  ⟨serial, ⟨.v4 number, Endpoint.defaultPort⟩, "dc1", "rack1"⟩

/-- A row of the table. -/
def row (startKey endKey : Bytes) (replicas : List (Ip × ReplicaRole)) : PartitionRow :=
  ⟨"ks", "t", startKey, endKey, replicas⟩

/-- A statement of the table.  The key of the empty string is 19780. -/
def bound (level : Option Consistency) : Bound :=
  ⟨⟨"SELECT", some "ks", "t", [.blob], [0]⟩, [.blob []], level⟩

def policy : Policy := .partitionAware (.generic (.roundRobin 0)) 0

/-- The only cluster has been refreshed from the rows. -/
def router (registry : Registry) (rows : List PartitionRow) : Router where
  fleet := { registry := registry }
  clusters := [((default : Cluster).refresh registry rows).cluster]

end SmallCluster

end QueryRouting
