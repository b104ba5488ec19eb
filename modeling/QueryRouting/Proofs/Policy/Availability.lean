import QueryRouting.Config.Policy
import QueryRouting.Proofs.Cluster.Ingest
import QueryRouting.Proofs.Policy.Routing

/-!
# Plans that yield a host

A statement that is not led to replicas has the plan of the wrapped policy.  One that is
led to replicas has the same hosts at hand, the replicas and those of the default plan, and
yields one of them when one may be offered.  So the wrapped policy has a host that is up
and the plan has none only when all such hosts are withheld: by their distance, where the
level asks for local hosts, or as namesakes of a replica, where the tables hold a handle
on an address that is registered anew.

## Main definitions

* `Placement.Admits` — a placement does not withhold a host.

## Main results

* `RoutedPlan.remaining_start_ne_nil_iff` — when a plan led by replicas yields a host.
* `Policy.drain_ne_nil_of_admits` — a host of the wrapped policy that is not withheld.
* `Placement.admits_of_registered` — what is withheld while the tables hold registered hosts.
* `Config.usable_of_child_usable` — the same for the policy of a configuration.
-/

namespace QueryRouting

/-! ### Plans led by replicas -/

namespace RoutedPlan

variable {child : Policy} {strong : Bool} {replicas : List Host} {fleet : Fleet}
  {rotations : Rotations}

/-- **A new plan yields a host** exactly when one may be offered, among the replicas or
among the hosts of the default plan that have no replica's address. -/
theorem remaining_start_ne_nil_iff :
    (start child strong replicas).remaining fleet rotations ≠ [] ↔
      ∃ h, (start child strong replicas).isEligible fleet h = true ∧
        (h ∈ replicas ∨
          (h ∈ (child.defaultPlan fleet.registry rotations).1.remaining fleet ∧
            ∀ k ∈ replicas, h.address ≠ k.address)) := by
  simp only [ne_eq, List.eq_nil_iff_forall_not_mem, Classical.not_forall, Classical.not_not]
  refine exists_congr fun h => ?_
  rw [remaining, List.mem_append, List.mem_filter, List.mem_filter, accepts_iff]
  constructor
  · rintro (⟨hreplica, heligible⟩ | ⟨hdefault, haddress, heligible⟩)
    · exact ⟨heligible, Or.inl hreplica⟩
    · exact ⟨heligible, Or.inr ⟨hdefault, haddress⟩⟩
  · rintro ⟨heligible, hreplica | ⟨hdefault, haddress⟩⟩
    · exact Or.inl ⟨hreplica, heligible⟩
    · exact Or.inr ⟨hdefault, haddress, heligible⟩

end RoutedPlan

/-! ### Hosts that are not withheld -/

/-- The placement does not withhold a host that is up: the host is local, unless the level
is strong, and when a replica has its address it is one of the replicas itself. -/
structure Placement.Admits (p : Placement) (child : Policy) (registry : Registry) (h : Host) :
    Prop where
  near : p.level.isStrong = true ∨ child.distance registry h = .local
  same : (∃ k ∈ p.partition.hosts, k.address = h.address) → h ∈ p.partition.hosts

/-- While the tables hold registered hosts, a registered host is withheld by its distance
only. -/
theorem Placement.admits_of_registered {p : Placement} {child : Policy} {registry : Registry}
    {h : Host} (hhosts : ∀ k ∈ p.partition.hosts, registry.find? k.address = some k)
    (hh : h ∈ registry.hosts)
    (near : p.level.isStrong = true ∨ child.distance registry h = .local) :
    p.Admits child registry h where
  near := near
  same := by
    rintro ⟨k, hk, haddress⟩
    have hfound := hhosts k hk
    rw [haddress, Registry.find?_of_mem hh] at hfound
    rwa [Option.some.inj hfound]

namespace Policy

/-- **A host of the wrapped policy that is up and not withheld makes the plan yield one.** -/
theorem drain_ne_nil_of_admits {child : GenericPolicy} {number : Nat} {r : Router}
    {keyspace : Option String} {statement : Option Statement} {h : Host}
    (hmem : h ∈ (child.plan r.fleet.registry r.rotations).1.remaining r.fleet)
    (hup : r.fleet.isUp h = true)
    (hadmits : ∀ placement,
      ((r.cluster number).placeStatement keyspace statement).1 = some placement →
        placement.Admits (generic child) r.fleet.registry h) :
    let planned := (partitionAware (generic child) number).plan r keyspace statement
    (planned.1.drain planned.2.1.fleet planned.2.1.rotations).1 ≠ [] := by
  intro planned
  rw [Plan.drain_eq]
  cases hplace : (r.cluster number).placeStatement keyspace statement with
  | mk found events =>
    cases found with
    | none =>
      -- The plan is that of the wrapped policy.
      rw [show planned = _ from plan_of_no_placement (generic child) hplace]
      exact List.ne_nil_of_mem hmem
    | some placement =>
      rw [show planned = _ from plan_of_placement (generic child) hplace]
      obtain ⟨hnear, hsame⟩ := hadmits placement (by rw [hplace])
      have hperm := r.perm_replicaOrder placement
      refine RoutedPlan.remaining_start_ne_nil_iff.mpr
        ⟨h, RoutedPlan.isEligible_iff.mpr ⟨hup, hnear⟩, ?_⟩
      -- Either a replica has the address of the host, and then the host is a replica.
      by_cases hreplica : ∃ k ∈ placement.partition.hosts, k.address = h.address
      · exact Or.inl (hperm.mem_iff.mpr (hsame hreplica))
      · refine Or.inr ⟨hmem, fun k hk haddress => hreplica ⟨k, hperm.mem_iff.mp hk, haddress.symm⟩⟩

end Policy

/-! ### Configured policies -/

namespace Config

/-- A configuration with partition awareness wraps a generic policy. -/
theorem exists_child_of_buildPolicy {c : Config} {r built : Router} {number : Nat}
    {policy : Policy} {events : List Event}
    (hbuilt : c.buildPolicy r number = .ok (policy, built, events))
    (haware : c.partitionAware = true) :
    ∃ child : GenericPolicy, policy = .partitionAware (.generic child) number := by
  rw [buildPolicy] at hbuilt
  split at hbuilt
  · simp at hbuilt
  · simp only [haware, if_true, Except.ok.injEq, Prod.mk.injEq] at hbuilt
    obtain ⟨rfl, -⟩ := hbuilt
    split
    · exact ⟨_, rfl⟩
    · exact ⟨_, rfl⟩

/-- **Partition awareness leaves a usable plan usable**, as far as the level allows.  When
the plan of the wrapped policy for a statement has a host that is up, the plan of the
policy for it yields a host in the same state, provided that the statement is not led to
replicas or the placement does not withhold the host.  While the tables hold registered
hosts, a placement withholds a host only when its level is not strong and the host is not
local. -/
theorem usable_of_child_usable {c : Config} {start built : Router} {number : Nat}
    {policy : Policy} {events : List Event}
    (hbuilt : c.buildPolicy start number = .ok (policy, built, events))
    (haware : c.partitionAware = true) :
    ∃ child, policy = .partitionAware child number ∧
      ∀ (r : Router) (keyspace : Option String) (statement : Option Statement),
        let own := child.plan r keyspace statement
        let planned := policy.plan r keyspace statement
        let placed := ((r.cluster number).placeStatement keyspace statement).1
        ∀ h ∈ (own.1.drain own.2.1.fleet own.2.1.rotations).1, r.fleet.isUp h = true →
          ((∀ placement, placed = some placement →
              placement.Admits child r.fleet.registry h) →
            (planned.1.drain planned.2.1.fleet planned.2.1.rotations).1 ≠ []) ∧
          ((∀ placement, placed = some placement →
              (∀ k ∈ placement.partition.hosts,
                r.fleet.registry.find? k.address = some k) ∧
              (placement.level.isStrong = true ∨
                child.distance r.fleet.registry h = .local)) →
            (planned.1.drain planned.2.1.fleet planned.2.1.rotations).1 ≠ []) := by
  obtain ⟨child, rfl⟩ := exists_child_of_buildPolicy hbuilt haware
  refine ⟨.generic child, rfl, ?_⟩
  intro r keyspace statement own planned placed h hmem hup
  have hown : h ∈ (child.plan r.fleet.registry r.rotations).1.remaining r.fleet := by
    rw [Plan.drain_eq] at hmem
    exact hmem
  refine ⟨fun hadmits => Policy.drain_ne_nil_of_admits hown hup hadmits, fun hcurrent => ?_⟩
  refine Policy.drain_ne_nil_of_admits hown hup fun placement hplaced => ?_
  obtain ⟨hhosts, hnear⟩ := hcurrent placement hplaced
  have hregistered := GenericPolicy.mem_hosts_of_mem_ahead (List.mem_filter.mp hown).1
  exact Placement.admits_of_registered hhosts hregistered hnear

namespace Withheld

open SmallCluster

/-- The remote host of the first fleet. -/
def remote : Host := ⟨1, ⟨.v4 2, Endpoint.defaultPort⟩, "dc2", "rack1"⟩

/-- One remote host may enter a plan. -/
def remoteAllowed : Config := { localDatacenter := some "dc1", remoteHosts := 1 }

def remoteChild : Policy := .generic (.datacenterAware 0 "dc1" 1)

/-- The only replica is local and down; the remote host is up. -/
def localDown : Router :=
  { router ((Registry.empty.insert (host 0 1)).insert remote) [row [] [] [(.v4 1, .leader)]] with
    fleet := ⟨(Registry.empty.insert (host 0 1)).insert remote, ⟨[0]⟩, 2⟩ }

def spec : HostSpec := ⟨(host 0 1).address, "dc1", "rack1", true⟩

def joined : Fleet := (({} : Fleet).add spec).2.1

/-- The only host goes down, leaves, and comes back as a new handle. -/
def returned : Fleet := (((joined.markDown spec.address).1.remove spec.address).2.1.add spec).2.1

/-- The table has been read before the host left. -/
def staleReplica : Router :=
  { router joined.registry [row [] [] [(.v4 1, .leader)]] with fleet := returned }

def roundRobinChild : Policy := .generic (.roundRobin 0)

/-- The hosts that a plan for the statement yields. -/
def tried (r : Router) (policy : Policy) (level : Option Consistency) : List Host :=
  let planned := policy.plan r none (some (.bound (bound level)))
  (planned.1.drain planned.2.1.fleet planned.2.1.rotations).1

/-- The policies that a configuration builds, without the state after it. -/
def Builds (c : Config) (r : Router) (policy : Policy) : Prop :=
  ∃ built events, c.buildPolicy r 0 = .ok (policy, built, events)

end Withheld

open SmallCluster Withheld in
/-- For a strong level the remote host is tried when the only replica is down. -/
theorem usable_of_child_usable_strong :
    Builds remoteAllowed localDown (.partitionAware remoteChild 0) ∧
      tried localDown remoteChild (some .quorum) = [remote] ∧
      localDown.fleet.isUp remote = true ∧
      tried localDown (.partitionAware remoteChild 0) (some .quorum) ≠ [] := by
  have hbuilt : remoteAllowed.buildPolicy localDown 0
      = .ok (.partitionAware remoteChild 0,
        { localDown with rotations := localDown.rotations.fresh.2 },
        [.policyBuilt (some "dc1") 1 true]) := rfl
  have htried : tried localDown remoteChild (some .quorum) = [remote] := by decide +kernel
  have hup : localDown.fleet.isUp remote = true := by decide
  refine ⟨⟨_, _, hbuilt⟩, htried, hup, ?_⟩
  obtain ⟨child, hchild, husable⟩ := usable_of_child_usable hbuilt rfl
  obtain rfl : remoteChild = child := (Policy.partitionAware.inj hchild).1
  have hmem : remote ∈ tried localDown remoteChild (some .quorum) :=
    htried ▸ List.mem_singleton_self remote
  refine (husable localDown none (some (.bound (bound (some .quorum)))) remote hmem hup).1 ?_
  intro placement hplaced
  have hfound : ((localDown.cluster 0).placeStatement none
      (some (.bound (bound (some .quorum))))).1
        = some ⟨"ks.t", 19780, ⟨0, 65536, [host 0 1]⟩, .quorum⟩ := by decide +kernel
  obtain rfl := Option.some.inj (hfound.symm.trans hplaced)
  exact ⟨Or.inl rfl, by decide⟩

open SmallCluster Withheld in
/-- A plan may yield no host where that of the wrapped policy has one that is up: when the
level asks for local hosts and only a remote one is up, and, at any level, when the tables
hold a handle from before the host left and came back. -/
theorem withheld_of_child_usable :
    (Builds remoteAllowed localDown (.partitionAware remoteChild 0) ∧
      tried localDown remoteChild none = [remote] ∧
      localDown.fleet.isUp remote = true ∧
      tried localDown (.partitionAware remoteChild 0) none = []) ∧
    (Builds {} staleReplica (.partitionAware roundRobinChild 0) ∧
      tried staleReplica roundRobinChild (some .quorum) = [host 1 1] ∧
      staleReplica.fleet.isUp (host 1 1) = true ∧
      tried staleReplica (.partitionAware roundRobinChild 0) (some .quorum) = []) := by
  refine ⟨⟨⟨_, _, rfl⟩, ?_⟩, ⟨⟨_, _, rfl⟩, ?_⟩⟩
  · decide +kernel
  · decide +kernel

end Config

end QueryRouting
