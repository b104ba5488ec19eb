import Mathlib.Data.List.Nodup
import QueryRouting.Proofs.Policy.Uniqueness
import QueryRouting.Proofs.Session.Handles
import QueryRouting.Proofs.Session.Yields

/-!
# Nodes that move between datacenters

A plan of a generic policy names no address twice as long as it is read from one registry.  The
plan of the datacenter-aware policy is read from two: its local hosts when it is made, its remote
hosts when no local one is left.  A node that is taken out in between and registered again in
another datacenter is a host of both, and the plan may yield it under each of its handles.  In no
other way does a plan of a generic policy yield an address twice.

## Main definitions

* `Session.Relocated` — a node has moved while the plan held the local hosts.

## Main results

* `Session.exists_arrival` — an address with another handle than before has been registered again.
* `Session.yields_once_unless_relocated` — the addresses that a plan of a generic policy yields.
* `Session.relocated_yielded_twice` — a node that moves may be yielded twice.
-/

namespace QueryRouting
namespace Session

variable {s : Session} {number : Nat} {actions : List Action} {address : Endpoint} {h k : Host}

/-- **An address with another handle than before** has been taken out and registered again. -/
theorem exists_arrival (hbefore : s.registry.find? address = some h)
    (hafter : (s.run actions).registry.find? address = some k) (hne : h ≠ k) :
    ∃ early spec late, actions = early ++ .add spec :: late ∧ .remove address ∈ early ∧
      .remove address ∉ late ∧ spec.address = address ∧ spec.datacenter = k.datacenter := by
  rcases registered_run hafter with ⟨hsame, -⟩ | ⟨early, spec, late, rfl, haddress, hnone, hlate, rfl⟩
  · exact absurd (Option.some.inj (hbefore.symm.trans hsame)) hne
  · refine ⟨early, spec, late, rfl, ?_, hlate, haddress, ?_⟩
    · by_contra hkeep
      rw [find?_run hbefore hkeep] at hnone
      simp at hnone
    · rw [added, (Fleet.add_of_vacant (haddress ▸ hnone)).1]
      rfl

/-- The node of a local host `h` of a plan has moved to another datacenter, and the remote host
`k` that the plan has read is its handle there.  The node was taken out and registered again
after the plan was made, and before the pull that found no local host up. -/
structure Relocated (opened : Session) (number : Nat) (actions : List Action) (dc : String)
    (count : Nat) (h k : Host) : Prop where
  local_left : h.datacenter = dc
  elsewhere : k.datacenter ≠ dc
  moved : ∃ early spec mid late left, actions = (early ++ .add spec :: mid) ++ .pull number :: late ∧
    .remove h.address ∈ early ∧ .remove h.address ∉ mid ∧ spec.address = h.address ∧
    spec.datacenter = k.datacenter ∧
    (opened.run (early ++ .add spec :: mid)).plans[number]?
      = some (.generic (.localHosts left dc count)) ∧
    (∀ host ∈ left, (opened.run (early ++ .add spec :: mid)).router.fleet.isUp host = false) ∧
    k ∈ remoteHosts (opened.run (early ++ .add spec :: mid)).registry dc count

/-- A new plan of all hosts lists each address once. -/
theorem exists_everyHost (s : Session) (rotation : Nat) (keyspace : Option String)
    (statement : Option Statement) :
    ∃ rest, (s.step (.openPlan (.generic (.roundRobin rotation)) keyspace statement)).plans[
        s.plans.length]? = some (.generic (.everyHost rest)) ∧ (rest.map Host.address).Nodup := by
  have hopen := s.getElem?_plans_openPlan (.roundRobin rotation) keyspace statement
  have hnodup := (GenericPolicy.roundRobin rotation).nodup_ahead s.router.fleet.registry
    s.router.rotations
  obtain ⟨n, hn⟩ := (GenericPolicy.roundRobin rotation).exists_plan_eq s.router.fleet.registry
    s.router.rotations
  rw [hn] at hopen hnodup
  exact ⟨_, hopen, hnodup⟩

/-- A new plan of one datacenter and the others lists the registered hosts of the one. -/
theorem exists_localHosts (s : Session) (rotation : Nat) (dc : String) (count : Nat)
    (keyspace : Option String) (statement : Option Statement) :
    ∃ rest, (s.step (.openPlan (.generic (.datacenterAware rotation dc count)) keyspace
        statement)).plans[s.plans.length]? = some (.generic (.localHosts rest dc count)) ∧
      rest.Perm (s.registry.inDatacenter dc) := by
  have hopen := s.getElem?_plans_openPlan (.datacenterAware rotation dc count) keyspace statement
  obtain ⟨n, hn⟩ := (GenericPolicy.datacenterAware rotation dc count).exists_plan_eq
    s.router.fleet.registry s.router.rotations
  rw [hn] at hopen
  exact ⟨_, hopen, GenericPolicy.perm_rotateLeft _ n⟩

/-- **A local host and a remote host of one address** are handles of a node that has moved. -/
theorem relocated_of_address_eq {opened : Session} {dc : String} {count : Nat} {left : List Host}
    {early late : List Action} (hsplit : actions = early ++ .pull number :: late)
    (hleft : (opened.run early).plans[number]? = some (.generic (.localHosts left dc count)))
    (hdown : ∀ host ∈ left, (opened.run early).router.fleet.isUp host = false)
    (hlocal : h ∈ opened.registry.inDatacenter dc)
    (hremote : k ∈ remoteHosts (opened.run early).registry dc count)
    (haddress : h.address = k.address) : Relocated opened number actions dc count h k := by
  obtain ⟨hmem, hnear⟩ := Registry.mem_inDatacenter.mp hlocal
  obtain ⟨kmem, hfar⟩ := mem_of_mem_remoteHosts hremote
  have hne : h ≠ k := by
    rintro rfl
    exact hfar hnear
  have hnow : (opened.run early).registry.find? h.address = some k := by
    rw [haddress]
    exact Registry.find?_of_mem kmem
  obtain ⟨before, spec, after, rfl, hremoved, hkept, hspec, hdatacenter⟩ :=
    exists_arrival (Registry.find?_of_mem hmem) hnow hne
  exact ⟨hnear, hfar, before, spec, after, late, left, hsplit, hremoved, hkept, hspec, hdatacenter,
    hleft, hdown, hremote⟩

/-- **The addresses that a plan of a generic policy yields**, whatever happens between the pulls
on it.  A plan of all hosts yields none twice.  A plan of one datacenter and the others yields an
address a second time only when its node was taken out of the registry and registered again in
another datacenter, after the plan was made and before the pull that read the remote hosts, and
it yields no address a third time. -/
theorem yields_once_unless_relocated (s : Session) (keyspace : Option String)
    (statement : Option Statement) (actions : List Action) :
    (∀ rotation,
      let opened := s.step (.openPlan (.generic (.roundRobin rotation)) keyspace statement)
      ((yieldsOf s.plans.length opened actions).reduceOption.map Host.address).Nodup) ∧
    ∀ rotation dc count,
      let opened :=
        s.step (.openPlan (.generic (.datacenterAware rotation dc count)) keyspace statement)
      let yielded := (yieldsOf s.plans.length opened actions).reduceOption
      (yielded.Pairwise fun h k =>
        h.address = k.address → Relocated opened s.plans.length actions dc count h k) ∧
      ∀ address, (yielded.map Host.address).count address ≤ 2 := by
  refine ⟨fun rotation => ?_, fun rotation dc count => ?_⟩
  · intro opened
    obtain ⟨rest, hopen, hnodup⟩ := s.exists_everyHost rotation keyspace statement
    rw [yieldsOf_of_lists hopen (.everyHost rest), reduceOption_map_range]
    exact hnodup.sublist ((List.take_sublist _ _).map _)
  · intro opened yielded
    obtain ⟨rest, hopen, hperm⟩ := s.exists_localHosts rotation dc count keyspace statement
    have hrest : (rest.map Host.address).Nodup := by
      refine (hperm.map Host.address).nodup_iff.mpr ?_
      exact s.registry.nodup_address.sublist ((s.registry.inDatacenter_sublist dc).map _)
    -- Within one of its two parts the plan has each address once.
    have hdistinct : ∀ {hosts : List Host}, (hosts.map Host.address).Nodup →
        hosts.Pairwise fun h k =>
          h.address = k.address → Relocated opened s.plans.length actions dc count h k :=
      fun hnodup => (List.pairwise_map.mp hnodup).imp fun hne e => absurd e hne
    rcases yieldsOf_localHosts hopen actions with
      hlocal | ⟨early, late, left, hsplit, hleft, hdown, hlocal, hremote⟩
    · have hnodup : (yielded.map Host.address).Nodup := hrest.sublist (hlocal.map _)
      refine ⟨hdistinct hnodup, fun address => ?_⟩
      exact Nat.le_succ_of_le (List.nodup_iff_count_le_one.mp hnodup address)
    · have hparts : yielded = (yieldsOf s.plans.length opened early).reduceOption
          ++ (yieldsOf s.plans.length (opened.run early)
            (.pull s.plans.length :: late)).reduceOption := by
        rw [← List.reduceOption_append, ← yieldsOf_append, ← hsplit]
      have hnear := hrest.sublist (hlocal.map Host.address)
      have hfar := (nodup_remoteHosts _ dc count).sublist (hremote.map Host.address)
      rw [hparts]
      refine ⟨List.pairwise_append.mpr ⟨hdistinct hnear, hdistinct hfar, ?_⟩, fun address => ?_⟩
      · intro h hh k hk haddress
        have hmem : h ∈ s.registry.inDatacenter dc := hperm.mem_iff.mp (hlocal.subset hh)
        exact relocated_of_address_eq hsplit hleft hdown hmem (hremote.subset hk) haddress
      · rw [List.map_append, List.count_append]
        exact Nat.add_le_add (List.nodup_iff_count_le_one.mp hnear address)
          (List.nodup_iff_count_le_one.mp hfar address)

namespace Move

/-- The only node, in the local datacenter. -/
def spec : HostSpec := ⟨⟨.v4 1, Endpoint.defaultPort⟩, "dc1", "rack1", true⟩

def session : Session := ({} : Session).step (.add spec)

/-- A plan that goes on to one host of each other datacenter. -/
def opening : Action := .openPlan (.generic (.datacenterAware 0 "dc1" 1)) none none

/-- The node is pulled, moves to another datacenter, and the plan is pulled to its end. -/
def moving : List Action :=
  [.pull 0, .remove spec.address, .add { spec with datacenter := "dc2" }, .pull 0, .pull 0]

end Move

open Move in
/-- **A node that moves may be yielded twice**, as a local host and as a remote one. -/
theorem relocated_yielded_twice :
    yieldsOf 0 (session.step opening) moving
        = [some ⟨0, spec.address, "dc1", "rack1"⟩, some ⟨1, spec.address, "dc2", "rack1"⟩, none] ∧
      ¬((yieldsOf 0 (session.step opening) moving).reduceOption.map Host.address).Nodup := by
  have hyields : yieldsOf 0 (session.step opening) moving
      = [some ⟨0, spec.address, "dc1", "rack1"⟩, some ⟨1, spec.address, "dc2", "rack1"⟩, none] := by
    decide +kernel
  refine ⟨hyields, ?_⟩
  rw [hyields]
  decide

end Session

end QueryRouting
