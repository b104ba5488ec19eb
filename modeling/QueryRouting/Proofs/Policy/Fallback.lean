import QueryRouting.Proofs.Partition.Lookup
import QueryRouting.Proofs.Policy.Routing

/-!
# Routing is all or nothing

A bound statement is led to the replicas of its partition when it can be placed, and there
is a placement when every step to it succeeds: bind markers, a routing key, a keyspace, a
published split, a partition that begins at the key or before it, and hosts.  Whichever
step fails, the statement has the plan that the wrapped policy would make for it, and the
wrapped policy has made it: there is no plan in between.

## Main definitions

* `Cluster.LeadsTo c keyspace b key split`, `Cluster.Routable c keyspace b` — every step to a
  placement succeeds.

## Main results

* `Cluster.LeadsTo.exists_place`, `Cluster.exists_place_iff` — the statements that can be placed.
* `Policy.plan_ne_routed` — the own plan of a policy is not one that wraps the policy.
* `Policy.plan_partitionAware_iff` — the plans that are led by replicas, and all others.
-/

namespace QueryRouting

/-! ### Statements that can be placed -/

section

variable {b : Bound} {keyspace : Option String} {split : Split} {key : Int}

/-- The key of a bound statement is that of its routing key. -/
theorem Bound.key_eq_ok_iff {key : UInt16} :
    b.key = .ok key ↔ ∃ bytes, keyOfBytes bytes = key ∧
      routingKey b.prepared.routingIndexes b.prepared.columns b.values = .ok bytes := by
  unfold Bound.key partitionKey
  cases routingKey b.prepared.routingIndexes b.prepared.columns b.values with
  | ok bytes => simp [Functor.map, Except.map]
  | error e => simp [Functor.map, Except.map]

/-- The keyspace of the statement comes before that of the session. -/
theorem Prepared.tableName?_eq_some_iff {prepared : Prepared} {table : String} :
    prepared.tableName? keyspace = some table ↔
      ∃ name, prepared.keyspace.or keyspace = some name ∧
        qualifiedName name prepared.table = table := by
  unfold tableName?
  exact Option.map_eq_some_iff

/-- A key has a partition when some partition begins at it or before it. -/
theorem Split.exists_lookup_iff :
    (∃ p, split.lookup key = some p) ↔ ∃ p ∈ split.toList, p.startKey ≤ key := by
  rw [← Option.ne_none_iff_exists', Ne, lookup_eq_none_iff]
  simp

end

namespace Cluster

variable {c : Cluster} {keyspace : Option String} {b : Bound}

/-- Every step from a bound statement to the hosts of a partition succeeds, with the given
key and the split of the table. -/
structure LeadsTo (c : Cluster) (keyspace : Option String) (b : Bound) (key : UInt16)
    (split : Split) : Prop where
  /-- There are bind markers. -/
  columns : b.prepared.columns ≠ []
  /-- The routed columns have an encoding. -/
  bytes : ∃ bytes, keyOfBytes bytes = key ∧
    routingKey b.prepared.routingIndexes b.prepared.columns b.values = .ok bytes
  /-- The table has a full name, and under it a split. -/
  table : ∃ name, b.prepared.keyspace.or keyspace = some name ∧
    c.split? (qualifiedName name b.prepared.table) = some split
  /-- The key does not come before every partition. -/
  begins : ∃ p ∈ split.toList, p.startKey ≤ key.toNat
  /-- The partition that is found has hosts. -/
  hosts : ∀ p, split.lookup key.toNat = some p → p.hosts ≠ []

/-- Some key and some split lead from a bound statement to hosts. -/
def Routable (c : Cluster) (keyspace : Option String) (b : Bound) : Prop :=
  ∃ key split, c.LeadsTo keyspace b key split

/-- The steps lead to a placement in the partition that is found for the key. -/
theorem LeadsTo.exists_place {key : UInt16} {split : Split} (h : c.LeadsTo keyspace b key split)
    (batchLevel : Option Consistency) :
    ∃ placement, c.place keyspace batchLevel b = .ok placement ∧
      split.lookup key.toNat = some placement.partition := by
  obtain ⟨name, hname, hsplit⟩ := h.table
  obtain ⟨p, hlookup⟩ := Split.exists_lookup_iff.mpr h.begins
  refine ⟨⟨qualifiedName name b.prepared.table, key, p, c.levelOf batchLevel b⟩, ?_, hlookup⟩
  exact place_eq_ok_iff.mpr ⟨h.columns, Bound.key_eq_ok_iff.mpr h.bytes,
    Prepared.tableName?_eq_some_iff.mpr ⟨name, hname, rfl⟩, ⟨split, hsplit, hlookup⟩,
    h.hosts p hlookup, rfl⟩

/-- **The statements that can be placed** are those of which every step succeeds. -/
theorem exists_place_iff (batchLevel : Option Consistency) :
    (∃ placement, c.place keyspace batchLevel b = .ok placement) ↔ c.Routable keyspace b := by
  constructor
  · intro h
    obtain ⟨placement, hplace⟩ := h
    obtain ⟨hcolumns, hkey, htable, ⟨split, hsplit, hlookup⟩, hhosts, -⟩ :=
      place_eq_ok_iff.mp hplace
    obtain ⟨name, hname, htable⟩ := Prepared.tableName?_eq_some_iff.mp htable
    rw [← htable] at hsplit
    refine ⟨placement.key, split, hcolumns, Bound.key_eq_ok_iff.mp hkey, ⟨name, hname, hsplit⟩,
      Split.exists_lookup_iff.mp ⟨_, hlookup⟩, ?_⟩
    intro p hp
    rw [Option.some.inj (hp.symm.trans hlookup)]
    exact hhosts
  · intro h
    obtain ⟨key, split, hleads⟩ := h
    obtain ⟨placement, hplace, -⟩ := hleads.exists_place batchLevel
    exact ⟨placement, hplace⟩

/-- A bound statement that has a placement is routable. -/
theorem routable_of_placeStatement {placement : Placement}
    (h : (c.placeStatement keyspace (some (.bound b))).1 = some placement) :
    c.Routable keyspace b := by
  obtain ⟨candidate, hcandidate, hplace⟩ := exists_place_of_placeFirst h
  obtain rfl : candidate = (b, none) := List.mem_singleton.mp hcandidate
  exact (exists_place_iff none).mp ⟨placement, hplace⟩

end Cluster

/-! ### The plan of the wrapped policy -/

namespace Policy

/-- A policy has more layers than each policy that it wraps. -/
theorem length_layers_lt {policy inner : Policy} {number : Nat}
    (h : (inner, number) ∈ policy.layers) : inner.layers.length < policy.layers.length := by
  induction policy with
  | generic policy => exact absurd h List.not_mem_nil
  | partitionAware child n ih =>
    rw [layers, List.length_cons]
    rcases List.mem_cons.mp h with hhead | hdeeper
    · obtain ⟨rfl, -⟩ := Prod.mk.inj hhead
      exact Nat.lt_succ_self _
    · exact Nat.lt_succ_of_lt (ih hdeeper)

/-- **The own plan of a policy does not wrap the policy itself.**  So a plan that does has
been made by the layer around it. -/
theorem plan_ne_routed (child : Policy) (r : Router) (keyspace : Option String)
    (statement : Option Statement) (strong : Bool) (replicas : List Host) :
    (child.plan r keyspace statement).1 ≠ .routed (.start child strong replicas) := by
  intro h
  obtain ⟨-, -, hplan | ⟨inner, number, placement, hlayer, -, hplan⟩⟩ :=
    child.plan_cases r keyspace statement
  · rw [hplan] at h
    exact absurd h (by simp)
  · rw [hplan] at h
    have hinner : inner = child := congrArg RoutedPlan.child (Plan.routed.inj h)
    have hlt := length_layers_lt hlayer
    rw [hinner] at hlt
    exact Nat.lt_irrefl _ hlt

/-- A bound statement that is not routable is left to the wrapped policy. -/
theorem plan_of_not_routable {child : Policy} {number : Nat} {r : Router}
    {keyspace : Option String} {b : Bound} (h : ¬(r.cluster number).Routable keyspace b) :
    ∃ reason, (r.cluster number).place keyspace none b = .error reason ∧
      (partitionAware child number).plan r keyspace (some (.bound b))
        = ((child.plan r keyspace (some (.bound b))).1,
          (child.plan r keyspace (some (.bound b))).2.1,
          .unrouted reason :: (child.plan r keyspace (some (.bound b))).2.2) := by
  rw [← Cluster.exists_place_iff none] at h
  cases hplace : (r.cluster number).place keyspace none b with
  | ok placement => exact absurd ⟨placement, hplace⟩ h
  | error reason =>
    have hnone := Cluster.placeStatement_of_place_error hplace
    exact ⟨reason, rfl, plan_of_no_placement child hnone⟩

/-- **Routing is all or nothing.**  The plan for a bound statement is led by replicas
exactly when every step from the statement to the hosts of a partition succeeds; these are
the replicas then, and no rotation has moved.  In every other case, for any reason, it is
the plan that the wrapped policy makes for the statement, and all that planning changes is
what the wrapped policy changes.  Queries that were not prepared and no statement at all are
left to the wrapped policy too.  No plan changes a host, the registry or a table. -/
theorem plan_partitionAware_iff (child : Policy) (number : Nat) (r : Router)
    (keyspace : Option String) :
    let plan := fun statement => (partitionAware child number).plan r keyspace statement
    let own := fun statement => child.plan r keyspace statement
    (∀ b : Bound,
      let statement := some (Statement.bound b)
      ((∃ strong replicas, (plan statement).1 = .routed (.start child strong replicas)) ↔
          (r.cluster number).Routable keyspace b) ∧
        (∀ key split, (r.cluster number).LeadsTo keyspace b key split →
          ∃ p strong replicas, split.lookup key.toNat = some p ∧ replicas.Perm p.hosts ∧
            (plan statement).1 = .routed (.start child strong replicas) ∧
            (plan statement).2.1.rotations = r.rotations) ∧
        (¬(r.cluster number).Routable keyspace b →
          ∃ reason, (r.cluster number).place keyspace none b = .error reason ∧
            plan statement = ((own statement).1, (own statement).2.1,
              .unrouted reason :: (own statement).2.2))) ∧
      (∀ query queryKeyspace level,
        let statement := some (Statement.simple query queryKeyspace level)
        plan statement = own statement) ∧
      plan none = own none ∧
      ∀ statement, (plan statement).2.1.fleet = r.fleet ∧
        (plan statement).2.1.clusters = r.clusters := by
  intro plan own
  refine ⟨?_, ?_, ?_, ?_⟩
  · intro b statement
    have hrouted : ∀ key split, (r.cluster number).LeadsTo keyspace b key split →
        ∃ p strong replicas, split.lookup key.toNat = some p ∧ replicas.Perm p.hosts ∧
          (plan statement).1 = .routed (.start child strong replicas) ∧
          (plan statement).2.1.rotations = r.rotations := by
      intro key split hleads
      obtain ⟨placement, hplace, hlookup⟩ := hleads.exists_place none
      have hplan : plan statement = _ :=
        plan_of_placement child (Cluster.placeStatement_of_place_ok hplace)
      rw [hplan]
      exact ⟨_, _, _, hlookup, r.perm_replicaOrder placement, rfl, rfl⟩
    refine ⟨⟨?_, ?_⟩, hrouted, plan_of_not_routable⟩
    · -- The wrapped policy may route by itself, but not as the layer around it.
      rintro ⟨strong, replicas, hplan⟩
      apply Classical.byContradiction
      intro hnot
      obtain ⟨reason, -, hown : plan statement = _⟩ := plan_of_not_routable hnot
      rw [hown] at hplan
      exact plan_ne_routed child r keyspace statement strong replicas hplan
    · rintro ⟨key, split, hleads⟩
      obtain ⟨p, strong, replicas, -, -, hplan, -⟩ := hrouted key split hleads
      exact ⟨strong, replicas, hplan⟩
  · intro query queryKeyspace level statement
    have hnone : (r.cluster number).placeStatement keyspace statement = (none, []) := rfl
    exact plan_of_no_placement child hnone
  · have hnone : (r.cluster number).placeStatement keyspace none = (none, []) := rfl
    exact plan_of_no_placement child hnone
  · intro statement
    have hcases := (partitionAware child number).plan_cases r keyspace statement
    exact ⟨hcases.1, hcases.2.1⟩

end Policy

end QueryRouting
