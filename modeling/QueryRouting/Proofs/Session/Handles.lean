import Mathlib.Data.List.Induction
import QueryRouting.Proofs.Host.Registry
import QueryRouting.Proofs.Session.Registration

/-!
# Handles in the course of a session

Which handles are registered is decided by the actions so far, and for each address by
itself.  The first registration of an address makes the handle that stays registered until
the address is taken out; whoever adds the address meanwhile gets this handle.  Every handle
has a number of its own, so the liveness of one says nothing about that of another, and a
mark at an address reaches the handle that is registered there and no other.

The hosts of a registry are in no order, and each answer is worked out from them by itself: by
sorting, by the lowest address, by counting.  The answers agree all the same, and another order of
the hosts gives the same answers.

## Main definitions

* `Vacant address actions` — every registration of an address is followed by a removal.
* `Registration actions early spec late` — a registration that is in force after the actions.
* `Session.added`, `Session.madeIn` — the handle that an `add` returns, and those that are made.
* `Fleet.after` — the fleet after an action.
* `Fleet.ViewsAgree` — the answers of a registry agree with the list of all hosts.

## Main results

* `Session.registered_step` — a handle that is registered after an action was so before, or the
  action has registered it.
* `Session.registered_run`, `Session.exists_registration` — a registered handle comes from a
  registration in force.
* `Session.find?_eq_some_iff` — the handle of an address after any actions.
* `Session.map_serial_madeIn`, `Session.eq_of_serial_eq` — handles differ in their numbers.
* `Fleet.isUp_markUp`, `Fleet.isUp_markDown` — what a mark changes.
* `Session.registry_answers` — the registry after any actions.
-/

namespace QueryRouting

/-! ### Registrations -/

/-- The actions leave an address without a host: after every registration of it, it is taken
out. -/
def Vacant (address : Endpoint) (actions : List Action) : Prop :=
  ∀ before spec after, actions = before ++ .add spec :: after → spec.address = address →
    .remove address ∈ after

/-- The registration of a host that is in force after the actions: the first one since the
address was free, and the address has not been taken out since. -/
structure Registration (actions early : List Action) (spec : HostSpec) (late : List Action) :
    Prop where
  split : actions = early ++ .add spec :: late
  vacant : Vacant spec.address early
  kept : .remove spec.address ∉ late

namespace Fleet

variable {f : Fleet} {spec : HostSpec} {address : Endpoint} {h k : Host}

/-- The fleet after an action of a session. -/
def after (f : Fleet) : Action → Fleet
  | .create spec => (f.create spec).2
  | .add spec => (f.add spec).2.1
  | .remove address => (f.remove address).2.1
  | .markUp address => (f.markUp address).1
  | .markDown address => (f.markDown address).1
  | .setUp h => (f.setUp h).2
  | .setDown h => (f.setDown h).2
  | _ => f

/-- A host that is added at a known address is dropped, and the known handle is returned. -/
theorem add_of_known (hknown : f.registry.find? spec.address = some h) :
    (f.add spec).1 = h ∧ (f.add spec).2.1.registry = f.registry := by
  have hfound : (f.create spec).2.registry.find? (f.create spec).1.address = some h := hknown
  constructor
  · simp only [add, register, hfound]
  · simp only [add, register, hfound]
    rfl

/-- A host that is added at a free address is registered as a new handle. -/
theorem add_of_vacant (hnone : f.registry.find? spec.address = none) :
    (f.add spec).1 = (f.create spec).1 ∧
      (f.add spec).2.1.registry = f.registry.insert (f.create spec).1 := by
  have hfound : (f.create spec).2.registry.find? (f.create spec).1.address = none := hnone
  constructor
  · simp only [add, register, hfound]
  · simp only [add, register, hfound]
    rfl

/-- The handle that is returned is registered. -/
theorem find?_add (f : Fleet) (spec : HostSpec) :
    (f.add spec).2.1.registry.find? spec.address = some (f.add spec).1 := by
  cases hfound : f.registry.find? spec.address with
  | some h =>
    obtain ⟨hadded, hregistry⟩ := add_of_known hfound
    rw [hregistry, hadded, hfound]
  | none =>
    obtain ⟨hadded, hregistry⟩ := add_of_vacant hfound
    rw [hregistry, hadded]
    exact Registry.find?_eq_some_iff.mpr ⟨Registry.mem_insert.mpr (Or.inl rfl), rfl⟩

/-! ### Marks -/

/-- **A mark reaches the registered handle** and no other.  The handle that is looked at has
its number to itself. -/
theorem isUp_markUp (hown : ∀ h, f.registry.find? address = some h → h.serial = k.serial → h = k) :
    (f.markUp address).1.isUp k = (f.isUp k || f.registry.find? address = some k) := by
  cases hfound : f.registry.find? address with
  | none =>
    simp only [markUp, hfound]
    simp
  | some h =>
    have hiff : h.serial = k.serial ↔ h = k := ⟨hown h hfound, fun e => by rw [e]⟩
    simp only [markUp, hfound, setUp, isUp, Liveness.isUp_setUp, hiff]
    simp

theorem isUp_markDown
    (hown : ∀ h, f.registry.find? address = some h → h.serial = k.serial → h = k) :
    (f.markDown address).1.isUp k = (f.isUp k && f.registry.find? address ≠ some k) := by
  cases hfound : f.registry.find? address with
  | none =>
    simp only [markDown, hfound]
    simp
  | some h =>
    have hiff : h.serial = k.serial ↔ h = k := ⟨hown h hfound, fun e => by rw [e]⟩
    simp only [markDown, hfound, setDown, isUp, Liveness.isUp_setDown, ne_eq, hiff]
    simp

/-! ### What a registry answers -/

/-- Each answer of a registry is what the list of all hosts, in the order of their addresses,
says of it. -/
structure ViewsAgree (f : Fleet) : Prop where
  /-- All hosts, in the order of their addresses. -/
  ascending : f.registry.hosts.Pairwise fun h k => h.address.Before k.address
  find : ∀ address h, f.registry.find? address = some h ↔
    h ∈ f.registry.hosts ∧ h.address = address
  /-- The first host of an IP address, or none. -/
  findIp : ∀ ip, (∃ before h after, f.registry.hosts = before ++ h :: after ∧
      (∀ k ∈ before, k.address.ip ≠ ip) ∧ h.address.ip = ip ∧ f.registry.findIp? ip = some h) ∨
    (∀ k ∈ f.registry.hosts, k.address.ip ≠ ip) ∧ f.registry.findIp? ip = none
  upHosts : f.upHosts = f.registry.hosts.filter f.isUp
  datacenters : f.registry.datacenters.Pairwise (· < ·)
  inhabited : ∀ name ∈ f.registry.datacenters, f.registry.inDatacenter name ≠ []
  /-- The hosts of a datacenter, in the order of their addresses. -/
  inDatacenter : ∀ name,
    ((f.registry.inDatacenter name).Pairwise fun h k => h.address.Before k.address) ∧
      ∀ h, h ∈ f.registry.inDatacenter name ↔ h ∈ f.registry.hosts ∧ h.datacenter = name
  /-- Every host lies in one of the datacenters. -/
  partition : (f.registry.datacenters.flatMap f.registry.inDatacenter).Perm f.registry.hosts
  size : f.registry.size = f.registry.hosts.length
  upCount : f.upCount = f.upHosts.length

theorem viewsAgree (f : Fleet) : f.ViewsAgree where
  ascending := f.registry.pairwise_before
  find _ _ := Registry.find?_eq_some_iff
  findIp ip := by
    cases hfound : f.registry.findIp? ip with
    | none => exact Or.inr ⟨Registry.findIp?_eq_none_iff.mp hfound, rfl⟩
    | some h =>
      rw [Registry.findIp?_eq] at hfound
      obtain ⟨hip, before, after, hsplit, hbefore⟩ := List.find?_eq_some_iff_append.mp hfound
      refine Or.inl ⟨before, h, after, hsplit, fun k hk => ?_, by simpa using hip, rfl⟩
      simpa using hbefore k hk
  upHosts := f.registry.upHosts_eq f.liveness
  datacenters := f.registry.ascending_datacenters
  inhabited name hname := by
    obtain ⟨h, hh, rfl⟩ := Registry.mem_datacenters.mp hname
    exact List.ne_nil_of_mem (Registry.mem_inDatacenter.mpr ⟨hh, rfl⟩)
  inDatacenter name :=
    ⟨f.registry.pairwise_before.sublist (f.registry.inDatacenter_sublist name),
      fun _ => Registry.mem_inDatacenter⟩
  partition := f.registry.perm_flatMap_inDatacenter
  size := f.registry.size_eq
  upCount := f.registry.upCount_eq f.liveness

end Fleet

namespace Session

variable {s : Session} {actions : List Action} {action : Action} {address : Endpoint} {h : Host}

/-- The handle that is returned when a host is added now. -/
def added (s : Session) (spec : HostSpec) : Host := (s.router.fleet.add spec).1

/-- **What an action does to the fleet.**  Clusters, tables and plans have no part in it. -/
theorem fleet_step (s : Session) (action : Action) :
    (s.step action).router.fleet = s.router.fleet.after action := by
  cases action with
  | openPlan policy keyspace statement =>
    exact (policy.plan_cases s.router keyspace statement).1
  | pull number =>
    rw [step, pull]
    split <;> rfl
  | _ => rfl

/-- Only registrations and removals change which hosts are registered. -/
theorem registry_step (hadd : ∀ spec, action ≠ .add spec)
    (hremove : ∀ other, action ≠ .remove other) : (s.step action).registry = s.registry := by
  rw [registry, fleet_step]
  cases action with
  | add spec => exact absurd rfl (hadd spec)
  | remove other => exact absurd rfl (hremove other)
  | markUp other => exact Fleet.registry_markUp s.router.fleet other
  | markDown other => exact Fleet.registry_markDown s.router.fleet other
  | _ => rfl

/-- **A handle that is registered after an action** was registered before it, or the action
has registered it at a free address. -/
theorem registered_step (hfound : (s.step action).registry.find? address = some h) :
    action ≠ .remove address ∧
      (s.registry.find? address = some h ∨
        ∃ spec, action = .add spec ∧ spec.address = address ∧
          s.registry.find? address = none ∧ h = s.added spec) := by
  cases action with
  | add spec =>
    refine ⟨by simp, ?_⟩
    cases hbefore : s.registry.find? spec.address with
    | some known =>
      rw [registry, fleet_step, Fleet.after, (Fleet.add_of_known hbefore).2] at hfound
      exact Or.inl hfound
    | none =>
      obtain ⟨hadded, hregistry⟩ := Fleet.add_of_vacant hbefore
      rw [registry, fleet_step, Fleet.after, hregistry, Registry.find?_eq_some_iff,
        Registry.mem_insert] at hfound
      obtain ⟨rfl | ⟨hmem, -⟩, rfl⟩ := hfound
      · exact Or.inr ⟨spec, rfl, rfl, hbefore, hadded.symm⟩
      · exact Or.inl (Registry.find?_eq_some_iff.mpr ⟨hmem, rfl⟩)
  | remove other =>
    have hfound : (s.registry.erase other).find? address = some h := hfound
    rw [Registry.find?_eq_some_iff, Registry.mem_erase] at hfound
    obtain ⟨⟨hmem, hne⟩, rfl⟩ := hfound
    refine ⟨fun e => hne (Action.remove.inj e).symm, Or.inl ?_⟩
    exact Registry.find?_eq_some_iff.mpr ⟨hmem, rfl⟩
  | _ =>
    refine ⟨by simp, Or.inl ?_⟩
    rw [registry_step (by simp) (by simp)] at hfound
    exact hfound

theorem find?_run (hfound : s.registry.find? address = some h) (hkeep : .remove address ∉ actions) :
    (s.run actions).registry.find? address = some h :=
  run_induction (P := fun s => s.registry.find? address = some h)
    (fun _ haction _ hfound => find?_step hfound fun e => hkeep (e ▸ haction)) hfound

/-- **A handle that is registered after a run** was so before it, or comes from a registration in
its course, and its address has not been taken out since. -/
theorem registered_run (hfound : (s.run actions).registry.find? address = some h) :
    (s.registry.find? address = some h ∧ .remove address ∉ actions) ∨
      ∃ early spec late, actions = early ++ .add spec :: late ∧ spec.address = address ∧
        (s.run early).registry.find? address = none ∧ .remove address ∉ late ∧
        h = (s.run early).added spec := by
  -- The induction is on the last action: what it leaves registered was so before, or is new.
  induction actions using List.reverseRec with
  | nil => exact Or.inl ⟨hfound, by simp⟩
  | append_singleton before action ih =>
    rw [run_append, run_cons, run_nil] at hfound
    obtain ⟨hkeep, hbefore | ⟨spec, rfl, rfl, hnone, rfl⟩⟩ := registered_step hfound
    · rcases ih hbefore with ⟨hfirst, hkept⟩ | ⟨early, spec, late, rfl, haddress, hnone, hlate, rfl⟩
      · exact Or.inl ⟨hfirst, by simp [hkept, hkeep.symm]⟩
      · refine Or.inr ⟨early, spec, late ++ [action], by simp, haddress, hnone, ?_, rfl⟩
        simp [hlate, hkeep.symm]
    · exact Or.inr ⟨before, spec, [], rfl, rfl, hnone, by simp, rfl⟩

/-- **A handle that is registered** comes from a registration at a free address that has not
been taken out since. -/
theorem exists_registration
    (hfound : (({} : Session).run actions).registry.find? address = some h) :
    ∃ early spec late, actions = early ++ .add spec :: late ∧ spec.address = address ∧
      (({} : Session).run early).registry.find? address = none ∧ .remove address ∉ late ∧
      h = (({} : Session).run early).added spec := by
  refine (registered_run hfound).resolve_left ?_
  rintro ⟨hfirst, -⟩
  simp [registry, Registry.find?, Registry.empty] at hfirst

/-- The handle of a registration stays registered until its address is taken out. -/
theorem find?_run_add {early late : List Action} {spec : HostSpec}
    (hkept : .remove spec.address ∉ late) :
    (({} : Session).run (early ++ .add spec :: late)).registry.find? spec.address
      = some ((({} : Session).run early).added spec) := by
  rw [run_append, run_cons]
  exact find?_run (Fleet.find?_add _ _) hkept

/-- An address has no host when it has been taken out after every registration of it. -/
theorem vacant_iff :
    Vacant address actions ↔ (({} : Session).run actions).registry.find? address = none := by
  constructor
  · intro hvacant
    by_contra hsome
    obtain ⟨h, hfound⟩ := Option.ne_none_iff_exists'.mp hsome
    obtain ⟨early, spec, late, hsplit, haddress, -, hkept, -⟩ := exists_registration hfound
    exact hkept (hvacant early spec late hsplit haddress)
  · rintro hnone before spec after rfl rfl
    by_contra hkept
    rw [find?_run_add hkept] at hnone
    simp at hnone

/-- **The handle of an address** is the one of the registration in force. -/
theorem find?_eq_some_iff :
    (({} : Session).run actions).registry.find? address = some h ↔
      ∃ early spec late, Registration actions early spec late ∧ spec.address = address ∧
        h = (({} : Session).run early).added spec := by
  constructor
  · intro hfound
    obtain ⟨early, spec, late, hsplit, rfl, hnone, hkept, rfl⟩ := exists_registration hfound
    exact ⟨early, spec, late, ⟨hsplit, vacant_iff.mpr hnone, hkept⟩, rfl, rfl⟩
  · rintro ⟨early, spec, late, ⟨rfl, -, hkept⟩, rfl, rfl⟩
    exact find?_run_add hkept

/-! ### The handles of a run -/

/-- The handle that an action makes, if it makes one. -/
def made? (s : Session) : Action → Option Host
  | .create spec => some (s.router.fleet.create spec).1
  | .add spec => some (s.router.fleet.create spec).1
  | _ => none

/-- The handles that are made in the course of a run. -/
def madeIn (s : Session) : List Action → List Host
  | [] => []
  | action :: later => (s.made? action).toList ++ madeIn (s.step action) later

theorem madeIn_append (s : Session) (early late : List Action) :
    s.madeIn (early ++ late) = s.madeIn early ++ (s.run early).madeIn late := by
  induction early generalizing s with
  | nil => rfl
  | cons action early ih => rw [List.cons_append, madeIn, madeIn, ih, List.append_assoc, run_cons]

/-- Each handle that is made has the next number. -/
theorem serial_of_made? (hmade : s.made? action = some h) :
    h.serial = s.router.fleet.nextSerial := by
  cases action with
  | create spec =>
    cases hmade
    rfl
  | add spec =>
    cases hmade
    rfl
  | _ => simp [made?] at hmade

theorem nextSerial_step (s : Session) (action : Action) :
    (s.step action).router.fleet.nextSerial
      = s.router.fleet.nextSerial + (s.made? action).toList.length := by
  rw [fleet_step]
  cases action with
  | add spec =>
    simp only [Fleet.after, Fleet.add, Fleet.register]
    split <;> rfl
  | markUp address =>
    simp only [Fleet.after, Fleet.markUp]
    split <;> rfl
  | markDown address =>
    simp only [Fleet.after, Fleet.markDown]
    split <;> rfl
  | _ => rfl

/-- **The handles of a run are numbered** in the order in which they are made. -/
theorem map_serial_madeIn (s : Session) (actions : List Action) :
    (s.madeIn actions).map Host.serial
      = List.range' s.router.fleet.nextSerial (s.madeIn actions).length := by
  induction actions generalizing s with
  | nil => rfl
  | cons action later ih =>
    have hlater := ih (s.step action)
    rw [nextSerial_step] at hlater
    rw [madeIn]
    cases hmade : s.made? action with
    | none =>
      rw [hmade] at hlater
      exact hlater
    | some h =>
      rw [hmade] at hlater
      rw [Option.toList_some, List.singleton_append, List.map_cons, serial_of_made? hmade, hlater,
        List.length_cons, List.range'_succ]
      rfl

/-- **No two handles have one number.** -/
theorem eq_of_serial_eq {k : Host} (hh : h ∈ s.madeIn actions) (hk : k ∈ s.madeIn actions)
    (e : h.serial = k.serial) : h = k := by
  have hascending : Ascending Host.serial (s.madeIn actions) := by
    refine List.pairwise_map.mp ?_
    rw [map_serial_madeIn]
    exact List.pairwise_lt_range'
  exact hascending.eq_of_key_eq hh hk e

/-- A handle that is registered was made in the course of the run. -/
theorem mem_madeIn_of_find?
    (hfound : (({} : Session).run actions).registry.find? address = some h) :
    h ∈ ({} : Session).madeIn actions := by
  obtain ⟨early, spec, late, rfl, rfl, hnone, -, rfl⟩ := exists_registration hfound
  rw [added, (Fleet.add_of_vacant hnone).1, madeIn_append, madeIn]
  simp [made?]

/-- **The registry after any actions.**  From the registration of an address until it is
taken out, the handle of that registration is the host of the address, with the datacenter
and the rack of the time, and whoever adds the address again gets it.  The hosts are the
handles of the registrations in force.  All answers agree with the list of hosts, and no answer
depends on the order in which the hosts are held.  Of the handles that were ever made, a mark at
an address changes that of its host only. -/
theorem registry_answers (actions : List Action) :
    let f := (({} : Session).run actions).router.fleet
    (∀ early spec late, Registration actions early spec late →
      let h := (({} : Session).run early).added spec
      (h.address = spec.address ∧ h.datacenter = spec.datacenter ∧ h.rack = spec.rack) ∧
        f.registry.find? spec.address = some h ∧
        ∀ again : HostSpec, again.address = spec.address →
          (f.add again).1 = h ∧ (f.add again).2.1.registry = f.registry) ∧
      (∀ h, h ∈ f.registry.hosts ↔ ∃ early spec late, Registration actions early spec late ∧
        h = (({} : Session).run early).added spec) ∧
      f.ViewsAgree ∧
      (∀ r : Registry, r.entries.Perm f.registry.entries → r.Alike f.registry) ∧
      ∀ address, ∀ k ∈ ({} : Session).madeIn actions,
        (f.markUp address).1.isUp k = (f.isUp k || f.registry.find? address = some k) ∧
          (f.markDown address).1.isUp k = (f.isUp k && f.registry.find? address ≠ some k) ∧
          (f.markUp address).1.registry = f.registry ∧
          (f.markDown address).1.registry = f.registry := by
  intro f
  refine ⟨fun early spec late hregistration => ?_, fun h => ?_, f.viewsAgree,
    fun r hperm => Registry.alike_of_perm hperm, fun address k hk => ?_⟩
  · intro h
    have hfound : f.registry.find? spec.address = some h :=
      find?_eq_some_iff.mpr ⟨early, spec, late, hregistration, rfl, rfl⟩
    have hnew : h = ((({} : Session).run early).router.fleet.create spec).1 :=
      (Fleet.add_of_vacant (vacant_iff.mp hregistration.vacant)).1
    refine ⟨by rw [hnew]; exact ⟨rfl, rfl, rfl⟩, hfound, fun again hagain => ?_⟩
    exact Fleet.add_of_known (hagain ▸ hfound)
  · constructor
    · intro hmem
      obtain ⟨early, spec, late, hregistration, -, hadded⟩ :=
        find?_eq_some_iff.mp (Registry.find?_of_mem hmem)
      exact ⟨early, spec, late, hregistration, hadded⟩
    · rintro ⟨early, spec, late, hregistration, hadded⟩
      have hfound := find?_eq_some_iff.mpr ⟨early, spec, late, hregistration, rfl, hadded⟩
      exact (Registry.find?_eq_some_iff.mp hfound).1
  · have hown : ∀ h, f.registry.find? address = some h → h.serial = k.serial → h = k :=
      fun h hfound => eq_of_serial_eq (mem_madeIn_of_find? hfound) hk
    exact ⟨Fleet.isUp_markUp hown, Fleet.isUp_markDown hown, f.registry_markUp address,
      f.registry_markDown address⟩

namespace Return

/-- Another node on the same host. -/
def neighbour : HostSpec := ⟨⟨.v4 1, 9043⟩, "dc2", "rack1", true⟩

/-- The node is added twice, leaves while it is down, and comes back in another rack. -/
def history : List Action :=
  [.add neighbour, .add spec, .add { spec with rack := "rack2" }, .markDown spec.address,
    .remove spec.address, .add { spec with rack := "rack3" }]

end Return

open Return in
/-- The node that has come back has a handle of its own, in the rack where it is now.  A
mark at its address leaves the handle that it had before as it is. -/
theorem registry_answers_return :
    let f := (({} : Session).run history).router.fleet
    Registration history (history.take 5) { spec with rack := "rack3" } [] ∧
      f.registry.find? spec.address = some ⟨3, spec.address, "dc1", "rack3"⟩ ∧
      ⟨1, spec.address, "dc1", "rack1"⟩ ∈ ({} : Session).madeIn history ∧
      (f.markUp spec.address).1.isUp ⟨1, spec.address, "dc1", "rack1"⟩ = false := by
  intro f
  have hregistration : Registration history (history.take 5) { spec with rack := "rack3" } [] :=
    ⟨rfl, vacant_iff.mpr (by decide +kernel), by simp⟩
  have hmade : ⟨1, spec.address, "dc1", "rack1"⟩ ∈ ({} : Session).madeIn history := by
    decide +kernel
  obtain ⟨hkept, -, -, -, hmarks⟩ := registry_answers history
  have hfound := (hkept _ _ _ hregistration).2.1
  refine ⟨hregistration, hfound, hmade, ?_⟩
  rw [(hmarks spec.address _ hmade).1]
  decide +kernel

end Session

end QueryRouting
