import Mathlib.Data.List.DropRight
import QueryRouting.Proofs.Session.Handles
import QueryRouting.Proofs.Session.Log

/-!
# The log and the liveness of hosts

While hosts go up and down by marks only, the log tells which of them are down.  A mark is
reported when it changes something, so from the registration of a handle on, the reports at its
address alternate: it goes down, up, down again.  The last of them says how the handle is now.

The log names addresses and not handles.  When an address is taken out and added again, its new
handle begins anew: what was reported before is about the handle that was there before.

## Main definitions

* `Event.host?` — the address of an event that is about hosts.
* `sinceRegistered`, `turnsOf` — what a log says of the host of an address.
* `Alternates` — the reports on a host that goes down and up in turn.
* `Action.ByMarks` — the action turns hosts by marks only.
* `Session.Reports` — what an action reports on hosts.

## Main results

* `Session.reports_of_mem_events` — what an action reports is about no host, or as listed.
* `Session.sinceRegistered_log` — the log since a registration that is in force.
* `Session.alternates_step`, `Session.alternates_run` — the turns of a handle alternate.
* `Session.liveness_logged` — the log and the liveness of all registered hosts.
-/

namespace QueryRouting

/-! ### The log of an address -/

namespace Event

/-- The address of an event that is about hosts. -/
def host? : Event → Option Endpoint
  | hostRegistered address _ _ | hostKnown address | hostUnregistered address | hostUp address
  | hostDown address | unknownHostUp address | unknownHostDown address => some address
  | splitPublished .. | unknownReplica .. | malformedRange .. | splitBuilt .. | refreshed ..
  | unknownDefaultLevel .. | policyBuilt .. | unrouted .. | routed .. => none

/-- The event tells that a host is registered at the address. -/
def registers (address : Endpoint) : Event → Bool
  | hostRegistered other _ _ => other = address
  | _ => false

/-- The event tells that the host of the address has gone up or down. -/
def Turns (address : Endpoint) (e : Event) : Prop :=
  e.host? = some address ∧ (e.message = "Host is up" ∨ e.message = "Host is down")

instance (address : Endpoint) : DecidablePred (Turns address) :=
  fun _ => inferInstanceAs (Decidable (_ ∧ _))

theorem turns_iff {address : Endpoint} {e : Event} :
    e.Turns address ↔ e = hostUp address ∨ e = hostDown address := by
  cases e <;> simp [Turns, host?, message]

end Event

/-- What a log holds after the last registration at an address. -/
def sinceRegistered (address : Endpoint) (log : List Event) : List Event :=
  log.rtakeWhile fun e => !e.registers address

/-- The times that the host of an address has gone up or down since its registration. -/
def turnsOf (address : Endpoint) (log : List Event) : List Event :=
  (sinceRegistered address log).filter (Event.Turns address)

/-- A host that is up at first goes down and up in turn, and is up or down at last. -/
inductive Alternates (address : Endpoint) : Bool → List Event → Prop where
  | nil : Alternates address true []
  | down {es : List Event} : Alternates address true es →
    Alternates address false (es ++ [.hostDown address])
  | up {es : List Event} : Alternates address false es →
    Alternates address true (es ++ [.hostUp address])

/-- The last turn tells whether the host is down. -/
theorem Alternates.down_iff {address : Endpoint} {up : Bool} {es : List Event}
    (h : Alternates address up es) : up = false ↔ es.getLast? = some (.hostDown address) := by
  cases h with
  | nil => simp
  | down _ => simp
  | up _ => simp

/-- The events after the last registration, when the log is split there. -/
theorem sinceRegistered_append {address : Endpoint} {before after : List Event} {e : Event}
    (he : e.registers address = true) (hafter : ∀ e ∈ after, e.registers address = false) :
    sinceRegistered address (before ++ e :: after) = after := by
  rw [sinceRegistered, List.rtakeWhile, List.reverse_append, List.reverse_cons, List.append_assoc,
    List.takeWhile_append_of_pos (by simpa using hafter), List.singleton_append,
    List.takeWhile_cons_of_neg (by simp [he]), List.append_nil, List.reverse_reverse]

/-- The action turns hosts by marks only: hosts are up when they are added, and no handle is set
up or down. -/
def Action.ByMarks : Action → Prop
  | .add spec => spec.up = true
  | .setUp _ | .setDown _ => False
  | _ => True

/-! ### What is reported on hosts -/

/-- A search for a placement reports on no host. -/
theorem Cluster.host?_of_mem_placeStatement {c : Cluster} {keyspace : Option String}
    {statement : Option Statement} {e : Event} (he : e ∈ (c.placeStatement keyspace statement).2) :
    e.host? = none := by
  obtain ⟨examined, -, hreports⟩ := c.exists_examined keyspace statement
  rw [hreports, List.mem_map] at he
  obtain ⟨candidate, -, rfl⟩ := he
  rw [report]
  split <;> rfl

/-- Planning reports on no host. -/
theorem Policy.host?_of_mem_plan {policy : Policy} {r : Router} {keyspace : Option String}
    {statement : Option Statement} {e : Event} (he : e ∈ (policy.plan r keyspace statement).2.2) :
    e.host? = none := by
  induction policy with
  | generic policy => simp [plan] at he
  | partitionAware child number ih =>
    have hsearch : e ∈ ((r.cluster number).placeStatement keyspace statement).2 → e.host? = none :=
      Cluster.host?_of_mem_placeStatement
    cases hplace : (r.cluster number).placeStatement keyspace statement with
    | mk found events =>
      rw [hplace] at hsearch
      cases found with
      | some placement =>
        rw [plan_of_placement child hplace] at he
        exact hsearch he
      | none =>
        rw [plan_of_no_placement child hplace] at he
        exact (List.mem_append.mp he).elim hsearch ih

/-- A refresh reports on no host. -/
theorem Cluster.host?_of_mem_refresh {c : Cluster} {registry : Registry} {rows : List PartitionRow}
    {e : Event} (he : e ∈ (c.refresh registry rows).events) : e.host? = none := by
  simp only [refresh_eq, List.mem_append, List.mem_flatMap, List.mem_map, List.mem_singleton] at he
  rcases he with (⟨row, -, he⟩ | ⟨entry, -, rfl⟩) | rfl
  · rw [PartitionRow.events, List.mem_append, List.mem_map] at he
    rcases he with ⟨replica, -, rfl⟩ | he
    · rfl
    · split at he
      · simp at he
      · rw [List.mem_singleton.mp he]
        rfl
  · rfl
  · rfl

theorem Liveness.isUp_set (l : Liveness) (h k : Host) (up : Bool) :
    (l.set h up).isUp k = if h.serial = k.serial then up else l.isUp k := by
  by_cases e : h.serial = k.serial
  · cases up <;> simp [set, e]
  · cases up <;> simp [set, e]

namespace Fleet

variable {f : Fleet} {spec : HostSpec} {address : Endpoint} {h : Host}

theorem events_add_of_known (hknown : f.registry.find? spec.address = some h) :
    (f.add spec).2.2 = [.hostKnown spec.address] := by
  have hfound : (f.create spec).2.registry.find? (f.create spec).1.address = some h := hknown
  simp only [add, register, hfound]
  rfl

theorem events_add_of_vacant (hnone : f.registry.find? spec.address = none) :
    (f.add spec).2.2 = [.hostRegistered spec.address spec.datacenter spec.rack] := by
  have hfound : (f.create spec).2.registry.find? (f.create spec).1.address = none := hnone
  simp only [add, register, hfound]
  rfl

/-- A mark is reported when it changes something. -/
theorem events_markUp (hfound : f.registry.find? address = some h) :
    (f.markUp address).2 = if f.isUp h then [] else [.hostUp address] := by
  simp only [markUp, hfound]
  rfl

theorem events_markDown (hfound : f.registry.find? address = some h) :
    (f.markDown address).2 = if f.isUp h then [.hostDown address] else [] := by
  simp only [markDown, hfound]
  rfl

/-- A mark on an unknown address changes nothing. -/
theorem markUp_of_unknown (hnone : f.registry.find? address = none) :
    f.markUp address = (f, [.unknownHostUp address]) := by
  simp only [markUp, hnone]

theorem markDown_of_unknown (hnone : f.registry.find? address = none) :
    f.markDown address = (f, [.unknownHostDown address]) := by
  simp only [markDown, hnone]

/-- A handle that is made is up or down as its maker says, and no other one changes. -/
theorem isUp_create (f : Fleet) (spec : HostSpec) (k : Host) :
    (f.create spec).2.isUp k = if f.nextSerial = k.serial then spec.up else f.isUp k :=
  Liveness.isUp_set ..

/-- Registration has no part in liveness. -/
theorem isUp_add (f : Fleet) (spec : HostSpec) (k : Host) :
    (f.add spec).2.1.isUp k = (f.create spec).2.isUp k := by
  simp only [add, register]
  split <;> rfl

/-- The registered hosts that are up, and those that are down. -/
theorem upCount_add_countP {p : Host → Bool}
    (hp : ∀ h ∈ f.registry.hosts, f.isUp h = false ↔ p h = true) :
    f.upCount + f.registry.hosts.countP p = f.registry.size := by
  have hdown : f.registry.hosts.countP p
      = f.registry.hosts.countP fun h => decide ¬f.isUp h = true :=
    List.countP_congr fun h hh => by simpa using (hp h hh).symm
  have hup : f.upCount = f.registry.hosts.countP f.isUp := by
    rw [upCount, Registry.upCount_eq, Registry.upHosts_eq]
    exact List.countP_eq_length_filter.symm
  rw [hup, hdown, Registry.size_eq, ← List.length_eq_countP_add_countP]

end Fleet

namespace Session

variable {s : Session} {actions early late : List Action} {action : Action} {address : Endpoint}
  {h : Host} {e : Event}

/-- What an action reports on a host. -/
inductive Reports (s : Session) : Action → Event → Prop where
  | registered {spec : HostSpec} (vacant : s.registry.find? spec.address = none) :
    Reports s (.add spec) (.hostRegistered spec.address spec.datacenter spec.rack)
  | known {spec : HostSpec} {h : Host} (found : s.registry.find? spec.address = some h) :
    Reports s (.add spec) (.hostKnown spec.address)
  | unregistered (address : Endpoint) : Reports s (.remove address) (.hostUnregistered address)
  | up {address : Endpoint} {h : Host} (found : s.registry.find? address = some h)
    (down : s.router.fleet.isUp h = false) : Reports s (.markUp address) (.hostUp address)
  | down {address : Endpoint} {h : Host} (found : s.registry.find? address = some h)
    (up : s.router.fleet.isUp h = true) : Reports s (.markDown address) (.hostDown address)
  | unknownUp {address : Endpoint} (unknown : s.registry.find? address = none) :
    Reports s (.markUp address) (.unknownHostUp address)
  | unknownDown {address : Endpoint} (unknown : s.registry.find? address = none) :
    Reports s (.markDown address) (.unknownHostDown address)

/-- **What an action reports** is about no host, or as listed. -/
theorem reports_of_mem_events (he : e ∈ s.events action) : e.host? = none ∨ s.Reports action e := by
  cases action with
  | add spec =>
    rw [events] at he
    cases hfound : s.registry.find? spec.address with
    | none =>
      rw [Fleet.events_add_of_vacant hfound, List.mem_singleton] at he
      exact Or.inr (he ▸ .registered hfound)
    | some known =>
      rw [Fleet.events_add_of_known hfound, List.mem_singleton] at he
      exact Or.inr (he ▸ .known hfound)
  | remove address => exact Or.inr (List.mem_singleton.mp he ▸ .unregistered address)
  | markUp address =>
    rw [events] at he
    cases hfound : s.registry.find? address with
    | none =>
      rw [Fleet.markUp_of_unknown hfound, List.mem_singleton] at he
      exact Or.inr (he ▸ .unknownUp hfound)
    | some h =>
      rw [Fleet.events_markUp hfound] at he
      split at he
      · simp at he
      · next hdown => exact Or.inr (List.mem_singleton.mp he ▸ .up hfound (by simpa using hdown))
  | markDown address =>
    rw [events] at he
    cases hfound : s.registry.find? address with
    | none =>
      rw [Fleet.markDown_of_unknown hfound, List.mem_singleton] at he
      exact Or.inr (he ▸ .unknownDown hfound)
    | some h =>
      rw [Fleet.events_markDown hfound] at he
      split at he
      · next hup => exact Or.inr (List.mem_singleton.mp he ▸ .down hfound hup)
      · simp at he
  | publish number table split =>
    rw [List.mem_singleton.mp he]
    exact Or.inl rfl
  | refresh number rows => exact Or.inl (Cluster.host?_of_mem_refresh he)
  | openPlan policy keyspace statement => exact Or.inl (Policy.host?_of_mem_plan he)
  | pull number =>
    rw [events_pull] at he
    simp at he
  | _ => simp [events] at he

/-- A host is registered at an address that has none. -/
theorem vacant_of_registers (he : e ∈ s.events action) (hregisters : e.registers address = true) :
    s.registry.find? address = none := by
  rcases reports_of_mem_events he with hnone | hreports
  · cases e <;> simp [Event.registers, Event.host?] at hregisters hnone
  · cases hreports with
    | registered hvacant =>
      obtain rfl : _ = address := by simpa [Event.registers] using hregisters
      exact hvacant
    | _ => simp [Event.registers] at hregisters

/-- Only marks are reported as turns. -/
theorem mark_of_turns (he : e ∈ s.events action) (hturns : e.Turns address) :
    action = .markUp address ∨ action = .markDown address := by
  have hreports := (reports_of_mem_events he).resolve_left (by simp [hturns.1])
  rcases Event.turns_iff.mp hturns with rfl | rfl
  · cases hreports
    exact Or.inl rfl
  · cases hreports
    exact Or.inr rfl

/-! ### From the registration on -/

/-- While an address has its host, no registration is reported for it. -/
theorem not_registers_log (hfound : s.registry.find? address = some h)
    (hkept : .remove address ∉ actions) : ∀ e ∈ s.log actions, e.registers address = false := by
  induction actions generalizing s with
  | nil => simp [log]
  | cons action later ih =>
    intro e he
    rw [log, List.mem_append] at he
    rcases he with he | he
    · by_contra hregisters
      rw [vacant_of_registers he (by simpa using hregisters)] at hfound
      simp at hfound
    · have hkeep : action ≠ .remove address := by
        rintro rfl
        simp at hkept
      exact ih (find?_step hfound hkeep) (fun hmem => hkept (List.mem_cons_of_mem _ hmem)) e he

/-- **A log from the registration in force on.** -/
theorem sinceRegistered_log {spec : HostSpec}
    (hregistration : Registration actions early spec late) :
    sinceRegistered spec.address (({} : Session).log actions)
      = ((({} : Session).run early).step (.add spec)).log late := by
  obtain ⟨rfl, hvacant, hkept⟩ := hregistration
  rw [log_append, log, events, Fleet.events_add_of_vacant (vacant_iff.mp hvacant),
    List.singleton_append]
  refine sinceRegistered_append (by simp [Event.registers]) ?_
  exact not_registers_log (Fleet.find?_add _ _) hkept

/-! ### Liveness -/

/-- The number of the next handle is that of the handles that were made. -/
theorem nextSerial_run (s : Session) (actions : List Action) :
    (s.run actions).router.fleet.nextSerial
      = s.router.fleet.nextSerial + (s.madeIn actions).length := by
  induction actions generalizing s with
  | nil => rfl
  | cons action later ih =>
    rw [run_cons, ih, nextSerial_step, madeIn, List.length_append, Nat.add_assoc]

/-- A handle that was made has a smaller number than the next one. -/
theorem serial_lt_nextSerial (hmade : h ∈ s.madeIn actions) :
    h.serial < (s.run actions).router.fleet.nextSerial := by
  have hmem := List.mem_map_of_mem (f := Host.serial) hmade
  rw [map_serial_madeIn, List.mem_range'_1] at hmem
  rw [nextSerial_run]
  exact hmem.2

/-- A mark turns the registered handle of its address and no other. -/
theorem isUp_step_markUp (hmade : h ∈ ({} : Session).madeIn actions) :
    ((({} : Session).run actions).step (.markUp address)).router.fleet.isUp h
      = ((({} : Session).run actions).router.fleet.isUp h ||
        (({} : Session).run actions).registry.find? address = some h) :=
  Fleet.isUp_markUp fun _ hk => eq_of_serial_eq (mem_madeIn_of_find? hk) hmade

theorem isUp_step_markDown (hmade : h ∈ ({} : Session).madeIn actions) :
    ((({} : Session).run actions).step (.markDown address)).router.fleet.isUp h
      = ((({} : Session).run actions).router.fleet.isUp h &&
        (({} : Session).run actions).registry.find? address ≠ some h) :=
  Fleet.isUp_markDown fun _ hk => eq_of_serial_eq (mem_madeIn_of_find? hk) hmade

/-- **Only a mark at its address turns a registered handle.** -/
theorem isUp_step_of_ne (hmarks : action.ByMarks)
    (hfound : (({} : Session).run actions).registry.find? address = some h)
    (hup : action ≠ .markUp address) (hdown : action ≠ .markDown address) :
    ((({} : Session).run actions).step action).router.fleet.isUp h
      = (({} : Session).run actions).router.fleet.isUp h := by
  have hmade := mem_madeIn_of_find? hfound
  have hnew := Nat.ne_of_gt (serial_lt_nextSerial hmade)
  have haddress := (Registry.find?_eq_some_iff.mp hfound).2
  have hother : ∀ other, other ≠ address →
      (({} : Session).run actions).registry.find? other ≠ some h := by
    rintro other hne hk
    exact hne ((Registry.find?_eq_some_iff.mp hk).2.symm.trans haddress)
  cases action with
  | create spec => rw [fleet_step, Fleet.after, Fleet.isUp_create, if_neg hnew]
  | add spec => rw [fleet_step, Fleet.after, Fleet.isUp_add, Fleet.isUp_create, if_neg hnew]
  | markUp other =>
    have hne := hother other fun e => hup (by rw [e])
    rw [isUp_step_markUp hmade, decide_eq_false hne, Bool.or_false]
  | markDown other =>
    have hne := hother other fun e => hdown (by rw [e])
    rw [isUp_step_markDown hmade, decide_eq_true hne, Bool.and_true]
  | setUp k => exact absurd hmarks id
  | setDown k => exact absurd hmarks id
  | _ =>
    rw [fleet_step]
    rfl

/-- **A turn and its report.**  An action that keeps the host of an address turns it and reports
so, or leaves it as it is and reports no turn. -/
theorem alternates_step (hmarks : action.ByMarks)
    (hfound : (({} : Session).run actions).registry.find? address = some h) {es : List Event}
    (halternates : Alternates address ((({} : Session).run actions).router.fleet.isUp h) es) :
    Alternates address (((({} : Session).run actions).step action).router.fleet.isUp h)
      (es ++ ((({} : Session).run actions).events action).filter (Event.Turns address)) := by
  have hmade := mem_madeIn_of_find? hfound
  by_cases hup : action = .markUp address
  · subst hup
    rw [isUp_step_markUp hmade, decide_eq_true hfound, Bool.or_true, events,
      Fleet.events_markUp hfound]
    cases hlive : (({} : Session).run actions).router.fleet.isUp h with
    | true =>
      rw [hlive] at halternates
      simpa using halternates
    | false =>
      rw [hlive] at halternates
      simpa [Event.turns_iff] using halternates.up
  by_cases hdown : action = .markDown address
  · subst hdown
    rw [isUp_step_markDown hmade, decide_eq_false (not_not_intro hfound), Bool.and_false, events,
      Fleet.events_markDown hfound]
    cases hlive : (({} : Session).run actions).router.fleet.isUp h with
    | true =>
      rw [hlive] at halternates
      simpa [Event.turns_iff] using halternates.down
    | false =>
      rw [hlive] at halternates
      simpa using halternates
  have hnone : ((({} : Session).run actions).events action).filter (Event.Turns address) = [] := by
    refine List.filter_eq_nil_iff.mpr fun e he => ?_
    rw [decide_eq_true_iff]
    exact fun hturns => (mark_of_turns he hturns).elim hup hdown
  rw [isUp_step_of_ne hmarks hfound hup hdown, hnone, List.append_nil]
  exact halternates

/-- A handle is up when it is registered. -/
theorem isUp_added {spec : HostSpec} (hup : spec.up = true) (hvacant : Vacant spec.address early) :
    ((({} : Session).run early).step (.add spec)).router.fleet.isUp
      ((({} : Session).run early).added spec) = true := by
  rw [added, (Fleet.add_of_vacant (vacant_iff.mp hvacant)).1, fleet_step, Fleet.after,
    Fleet.isUp_add, Fleet.isUp_create]
  exact (if_pos rfl).trans hup

/-- **The turns of a handle alternate** from its registration on, whatever else happens. -/
theorem alternates_run {spec : HostSpec} (hmarks : ∀ action ∈ actions, action.ByMarks)
    (hregistration : Registration actions early spec late) :
    Alternates spec.address
      ((({} : Session).run actions).router.fleet.isUp ((({} : Session).run early).added spec))
      (turnsOf spec.address (({} : Session).log actions)) := by
  rw [turnsOf, sinceRegistered_log hregistration]
  obtain ⟨rfl, hvacant, hkept⟩ := hregistration
  -- The induction is on the last action: the handle is registered before it.
  induction late using List.reverseRec with
  | nil =>
    have hup : spec.up = true := hmarks (.add spec) (by simp)
    rw [run_append, run_cons, run_nil, isUp_added hup hvacant]
    exact .nil
  | append_singleton before action ih =>
    have hbefore : .remove spec.address ∉ before :=
      fun hmem => hkept (List.mem_append_left _ hmem)
    have hstep := alternates_step (hmarks action (by simp)) (find?_run_add hbefore)
      (ih hbefore fun other hother => hmarks other (by simp at hother ⊢; tauto))
    have hrun : ({} : Session).run (early ++ .add spec :: before)
        = ((({} : Session).run early).step (.add spec)).run before := by
      rw [run_append, run_cons]
    have hlast : ({} : Session).run (early ++ .add spec :: (before ++ [action]))
        = (({} : Session).run (early ++ .add spec :: before)).step action := by
      simp only [run_append, run_cons, run_nil]
    rw [log_append, List.filter_append, ← hrun, hlast, log, log, List.append_nil]
    exact hstep

/-- **The log and the liveness of hosts.**  After any actions that turn hosts by marks only, and
whatever they are besides, each registered handle comes from a registration in force, and what
the log holds after the last registration at its address is what was reported since that one.
The handle has gone down and up in turn since then, and it is down exactly when going down is the
last of it; so the log counts the hosts that are up.  A mark on an unknown address is reported as
such and changes nothing. -/
theorem liveness_logged (actions : List Action) (hmarks : ∀ action ∈ actions, action.ByMarks) :
    let s := ({} : Session).run actions
    let log := ({} : Session).log actions
    (∀ h ∈ s.registry.hosts,
      (∃ early spec late, Registration actions early spec late ∧ spec.address = h.address ∧
        h = (({} : Session).run early).added spec ∧
        sinceRegistered h.address log
          = ((({} : Session).run early).step (.add spec)).log late) ∧
      Alternates h.address (s.router.fleet.isUp h) (turnsOf h.address log) ∧
      (s.router.fleet.isUp h = false ↔
        (turnsOf h.address log).getLast? = some (.hostDown h.address))) ∧
    (∀ address, s.registry.find? address = none →
      (s.events (.markUp address) = [.unknownHostUp address] ∧ s.step (.markUp address) = s) ∧
      (s.events (.markDown address) = [.unknownHostDown address] ∧
        s.step (.markDown address) = s)) ∧
    s.router.fleet.upCount + s.registry.hosts.countP
        (fun h => (turnsOf h.address log).getLast? = some (.hostDown h.address))
      = s.registry.size := by
  intro s log
  have hregistered : ∀ h ∈ s.registry.hosts, ∃ early spec late,
      Registration actions early spec late ∧ spec.address = h.address ∧
        h = (({} : Session).run early).added spec :=
    fun h hh => find?_eq_some_iff.mp (Registry.find?_of_mem hh)
  have halternates : ∀ h ∈ s.registry.hosts,
      Alternates h.address (s.router.fleet.isUp h) (turnsOf h.address log) := by
    intro h hh
    obtain ⟨early, spec, late, hregistration, haddress, hadded⟩ := hregistered h hh
    rw [← haddress, hadded]
    exact alternates_run hmarks hregistration
  refine ⟨fun h hh => ⟨?_, halternates h hh, (halternates h hh).down_iff⟩,
    fun address hunknown => ⟨?_, ?_⟩, ?_⟩
  · obtain ⟨early, spec, late, hregistration, haddress, hadded⟩ := hregistered h hh
    exact ⟨early, spec, late, hregistration, haddress, hadded,
      haddress ▸ sinceRegistered_log hregistration⟩
  · rw [events, step, Fleet.markUp_of_unknown hunknown]
    exact ⟨rfl, rfl⟩
  · rw [events, step, Fleet.markDown_of_unknown hunknown]
    exact ⟨rfl, rfl⟩
  · exact Fleet.upCount_add_countP fun h hh => by simpa using (halternates h hh).down_iff

namespace Return

/-- The node that has come back goes down, is marked once more, and goes up and down again. -/
def flapping : List Action :=
  history ++ [.markDown spec.address, .markDown spec.address, .markUp spec.address,
    .markDown spec.address]

end Return

open Return in
/-- The new handle of the node has turned three times, though its address was marked down twice in
a row; that the old one has gone down is no part of this.  So it is down, and its neighbour is the
one host that is up. -/
theorem liveness_logged_flapping :
    let s := ({} : Session).run flapping
    (∀ action ∈ flapping, action.ByMarks) ∧
      ⟨3, spec.address, "dc1", "rack3"⟩ ∈ s.registry.hosts ∧
      turnsOf spec.address (({} : Session).log flapping)
        = [.hostDown spec.address, .hostUp spec.address, .hostDown spec.address] ∧
      s.router.fleet.isUp ⟨3, spec.address, "dc1", "rack3"⟩ = false ∧
      s.router.fleet.upCount = 1 := by
  intro s
  have hmarks : ∀ action ∈ flapping, action.ByMarks := by
    simp [flapping, history, neighbour, spec, Action.ByMarks]
  have hmem : ⟨3, spec.address, "dc1", "rack3"⟩ ∈ s.registry.hosts := by decide +kernel
  have hturns : turnsOf spec.address (({} : Session).log flapping)
      = [.hostDown spec.address, .hostUp spec.address, .hostDown spec.address] := by
    decide +kernel
  obtain ⟨hhandles, -, hcount⟩ := liveness_logged flapping hmarks
  refine ⟨hmarks, hmem, hturns, (hhandles _ hmem).2.2.mpr (by rw [hturns]; rfl), ?_⟩
  have hdown : s.registry.hosts.countP (fun h =>
      (turnsOf h.address (({} : Session).log flapping)).getLast? = some (.hostDown h.address))
        = 1 := by
    decide +kernel
  have hsize : s.registry.size = 2 := by decide +kernel
  rw [hdown, hsize] at hcount
  exact Nat.succ.inj hcount

end Session

end QueryRouting
