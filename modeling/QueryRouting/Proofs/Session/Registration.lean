import QueryRouting.Proofs.Partition.Lookup
import QueryRouting.Proofs.Session.Basic

/-!
# Handles that outlive their registration

Tables and open plans hold handles on hosts.  When a node leaves the registry and comes
back it has a new handle, and the old one keeps its own liveness: nothing tells a table
or a plan about the new one.  A plan yields a host that is up, but the host that is
registered under its address may be another one, and down.

This takes a removal.  A refresh reads its handles from the registry, and so does a new
default plan; a handle that is registered stays so until its address is taken out.

## Main definitions

* `Registry.Knows` — of some hosts, the one of an address is the registered one.
* `RefreshedSince` — a cluster has been refreshed and the handles of an address are current.

## Main results

* `Session.find?_step` — only a removal takes a handle out of the registry.
* `Session.tablesKnow_run` — the tables of a cluster after a refresh.
* `Session.registered_of_pulled` — when the host that is yielded is the registered one.
-/

namespace QueryRouting

/-- The action takes the address out of the registry, or publishes a split of its own on
the cluster. -/
def Action.Disturbs (address : Endpoint) (number : Nat) : Action → Prop
  | .remove other => other = address
  | .publish other _ _ => other = number
  | _ => False

/-- The cluster is refreshed in the course of the actions, and none of those after
disturbs what it has read about the address. -/
def RefreshedSince (address : Endpoint) (number : Nat) (actions : List Action) : Prop :=
  ∃ before rows after, actions = before ++ .refresh number rows :: after ∧
    ∀ action ∈ after, ¬action.Disturbs address number

/-- Of the given hosts, one that has the address is the registered one. -/
def Registry.Knows (r : Registry) (address : Endpoint) (hosts : List Host) : Prop :=
  ∀ h ∈ hosts, h.address = address → r.find? address = some h

namespace Registry

variable {r : Registry} {address : Endpoint} {hosts : List Host} {h k : Host}

theorem Knows.subset (hknows : r.Knows address hosts) {others : List Host}
    (hsub : ∀ k ∈ others, k ∈ hosts) : r.Knows address others :=
  fun k hk => hknows k (hsub k hk)

/-- Registered hosts are known. -/
theorem knows_of_registered (hhosts : ∀ k ∈ hosts, k ∈ r.hosts) : r.Knows address hosts := by
  rintro k hk rfl
  exact find?_of_mem (hhosts k hk)

/-- A handle stays registered when a host of another address is registered. -/
theorem find?_insert (hfound : r.find? address = some h) (hne : k.address ≠ address) :
    (r.insert k).find? address = some h := by
  obtain ⟨hmem, rfl⟩ := find?_eq_some_iff.mp hfound
  exact find?_eq_some_iff.mpr ⟨mem_insert.mpr (Or.inr ⟨hmem, hne.symm⟩), rfl⟩

/-- A handle stays registered when another address is taken out. -/
theorem find?_erase {other : Endpoint} (hfound : r.find? address = some h) (hne : other ≠ address) :
    (r.erase other).find? address = some h := by
  obtain ⟨hmem, rfl⟩ := find?_eq_some_iff.mp hfound
  exact find?_eq_some_iff.mpr ⟨mem_erase.mpr ⟨hmem, hne.symm⟩, rfl⟩

end Registry

namespace Fleet

variable {f : Fleet} {address other : Endpoint} {h : Host}

/-- A registration takes no handle out: a second one of an address gives the first handle. -/
theorem find?_register (k : Host) (hfound : f.registry.find? address = some h) :
    (f.register k).2.1.registry.find? address = some h := by
  rw [register]
  split
  · exact hfound
  · next hnone =>
    refine Registry.find?_insert hfound ?_
    rintro rfl
    rw [hfound] at hnone
    simp at hnone

theorem registry_markUp (f : Fleet) (address : Endpoint) :
    (f.markUp address).1.registry = f.registry := by
  rw [markUp]
  split <;> rfl

theorem registry_markDown (f : Fleet) (address : Endpoint) :
    (f.markDown address).1.registry = f.registry := by
  rw [markDown]
  split <;> rfl

end Fleet

namespace Session

variable {s : Session} {address : Endpoint} {action : Action} {h : Host}

/-- The registered hosts. -/
def registry (s : Session) : Registry := s.router.fleet.registry

/-- **Only a removal takes a handle out of the registry.** -/
theorem find?_step (hfound : s.registry.find? address = some h) (hkeep : action ≠ .remove address) :
    (s.step action).registry.find? address = some h := by
  cases action with
  | add spec => exact Fleet.find?_register _ hfound
  | remove other => exact Registry.find?_erase hfound fun e => hkeep (by rw [e])
  | markUp other =>
    rw [registry, step, withFleet, Fleet.registry_markUp]
    exact hfound
  | markDown other =>
    rw [registry, step, withFleet, Fleet.registry_markDown]
    exact hfound
  | openPlan policy keyspace statement =>
    rw [registry, step, (policy.plan_cases s.router keyspace statement).1]
    exact hfound
  | pull number =>
    rw [registry, step, pull]
    split
    · exact hfound
    · exact hfound
  | _ => exact hfound

theorem knows_step {hosts : List Host} (hknows : s.registry.Knows address hosts)
    (hkeep : action ≠ .remove address) : (s.step action).registry.Knows address hosts :=
  fun k hk e => find?_step (hknows k hk e) hkeep

end Session

/-! ### Tables -/

namespace Cluster

/-- A host stands in a table of the cluster. -/
def Holds (c : Cluster) (h : Host) : Prop :=
  ∃ entry ∈ c.tables.entries, ∃ p ∈ entry.2.toList, h ∈ p.hosts

variable {c : Cluster} {h : Host}

theorem not_holds_of_empty (hempty : c.tables = .empty) : ¬c.Holds h := by
  rintro ⟨entry, hentry, -⟩
  rw [hempty] at hentry
  exact absurd hentry (List.not_mem_nil)

/-- The hosts of a placement stand in a table. -/
theorem holds_of_placement {keyspace : Option String} {statement : Option Statement}
    {placement : Placement} (hfound : (c.placeStatement keyspace statement).1 = some placement)
    (hh : h ∈ placement.partition.hosts) : c.Holds h := by
  obtain ⟨-, split, hsplit, hlookup⟩ := exists_split_of_placeStatement hfound
  rw [split?, Tables.find?, Option.map_eq_some_iff] at hsplit
  obtain ⟨entry, hentry, rfl⟩ := hsplit
  exact ⟨entry, List.mem_of_find?_eq_some hentry, _, (Split.lookup_spec hlookup).1, hh⟩

/-- The hosts that stand in a table after a refresh are registered. -/
theorem find?_of_holds_refresh {registry : Registry} {rows : List PartitionRow}
    (hholds : (c.refresh registry rows).cluster.Holds h) : registry.find? h.address = some h := by
  obtain ⟨entry, hentry, p, hp, hh⟩ := hholds
  rw [tables_refresh] at hentry
  obtain ⟨name, -, rfl⟩ := List.mem_map.mp hentry
  obtain ⟨row, -, -, rfl⟩ := Tables.mem_splitOfRows.mp hp
  exact PartitionRow.find?_of_mem_replicaHosts hh

/-- A withdrawal brings no host. -/
theorem holds_of_holds_withdraw {table : String} (hholds : (c.withdraw table).2.Holds h) :
    c.Holds h := by
  obtain ⟨entry, hentry, hrest⟩ := hholds
  exact ⟨entry, (List.mem_filter.mp hentry).1, hrest⟩

end Cluster

namespace Router

variable {r : Router} {number other : Nat} {c : Cluster} {h : Host}

/-- A host that stands in a table after a cluster was replaced stands in the new one, or
the cluster is another one. -/
theorem holds_setCluster (hholds : ((r.setCluster number c).cluster other).Holds h) :
    other = number ∧ c.Holds h ∨ other ≠ number ∧ (r.cluster other).Holds h := by
  rw [cluster, setCluster, List.getD_eq_getElem?_getD, List.getElem?_set] at hholds
  by_cases hother : number = other
  · subst hother
    rw [if_pos rfl] at hholds
    split at hholds
    · exact Or.inl ⟨rfl, hholds⟩
    · exact absurd hholds (Cluster.not_holds_of_empty rfl)
  · rw [if_neg hother] at hholds
    refine Or.inr ⟨Ne.symm hother, ?_⟩
    rw [cluster, List.getD_eq_getElem?_getD]
    exact hholds

/-- A new cluster brings no host. -/
theorem holds_addCluster {level : Consistency}
    (hholds : ((r.addCluster level).2.cluster other).Holds h) : (r.cluster other).Holds h := by
  rw [cluster, addCluster, List.getD_eq_getElem?_getD] at hholds
  rcases Nat.lt_trichotomy other r.clusters.length with hlt | heq | hgt
  · rw [List.getElem?_append_left hlt] at hholds
    rw [cluster, List.getD_eq_getElem?_getD]
    exact hholds
  · rw [heq, List.getElem?_concat_length] at hholds
    exact absurd hholds (Cluster.not_holds_of_empty rfl)
  · rw [List.getElem?_eq_none (by simp; omega)] at hholds
    exact absurd hholds (Cluster.not_holds_of_empty rfl)

end Router

namespace Session

variable {s : Session} {address : Endpoint} {number : Nat} {action : Action}

/-- A host of the address that stands in a table of the cluster is the registered one. -/
def TablesKnow (address : Endpoint) (number : Nat) (s : Session) : Prop :=
  ∀ h, (s.router.cluster number).Holds h → h.address = address →
    s.registry.find? address = some h

/-- A refresh reads its handles from the registry. -/
theorem tablesKnow_refresh (s : Session) (address : Endpoint) (number : Nat)
    (rows : List PartitionRow) : (s.step (.refresh number rows)).TablesKnow address number := by
  rintro h hholds rfl
  rcases Router.holds_setCluster hholds with ⟨-, hholds⟩ | ⟨hne, -⟩
  · exact Cluster.find?_of_holds_refresh hholds
  · exact absurd rfl hne

theorem tablesKnow_step (hknow : s.TablesKnow address number)
    (hcalm : ¬action.Disturbs address number) : (s.step action).TablesKnow address number := by
  intro h hholds haddress
  have hkeep : action ≠ .remove address := by
    rintro rfl
    exact hcalm rfl
  -- A host that stood in a table before is still the registered one.
  have hbefore : (s.router.cluster number).Holds h →
      (s.step action).registry.find? address = some h :=
    fun hholds => find?_step (hknow h hholds haddress) hkeep
  cases action with
  | addCluster level => exact hbefore (Router.holds_addCluster hholds)
  | publish other table split =>
    rcases Router.holds_setCluster hholds with ⟨e, -⟩ | ⟨-, hholds⟩
    · exact absurd e.symm hcalm
    · exact hbefore hholds
  | withdraw other table =>
    rcases Router.holds_setCluster hholds with ⟨rfl, hholds⟩ | ⟨-, hholds⟩
    · exact hbefore (Cluster.holds_of_holds_withdraw hholds)
    · exact hbefore hholds
  | refresh other rows =>
    rcases Router.holds_setCluster hholds with ⟨-, hholds⟩ | ⟨-, hholds⟩
    · rw [← haddress]
      exact Cluster.find?_of_holds_refresh hholds
    · exact hbefore hholds
  | openPlan policy keyspace statement =>
    refine hbefore ?_
    rw [step, Router.cluster, (policy.plan_cases s.router keyspace statement).2.1] at hholds
    exact hholds
  | pull other =>
    refine hbefore ?_
    rw [step, pull] at hholds
    split at hholds
    · exact hholds
    · exact hholds
  | _ => exact hbefore hholds

/-- **After a refresh the tables hold the registered handle of an address**, as long as the
address is not taken out. -/
theorem tablesKnow_run {actions : List Action} (hrefreshed : RefreshedSince address number actions)
    (s : Session) : (s.run actions).TablesKnow address number := by
  obtain ⟨before, rows, after, rfl, hcalm⟩ := hrefreshed
  rw [run_append, run_cons]
  exact run_induction (P := TablesKnow address number)
    (fun action haction s hknow => tablesKnow_step hknow (hcalm action haction))
    (tablesKnow_refresh _ address number rows)

end Session

/-! ### Plans -/

namespace GenericPlan

/-- The hosts that a plan lists itself. -/
def listed : GenericPlan → List Host
  | everyHost rest => rest
  | localHosts rest _ _ => rest
  | remoteHosts rest => rest

variable {r : Registry} {address : Endpoint} {plan : GenericPlan} {h : Host}

theorem mem_ahead_of_mem_listed (hh : h ∈ plan.listed) : h ∈ plan.ahead r := by
  cases plan with
  | everyHost rest => exact hh
  | localHosts rest dc count => exact List.mem_append_left _ hh
  | remoteHosts rest => exact hh

/-- The hosts ahead that a plan does not list are registered. -/
theorem knows_ahead (hknows : r.Knows address plan.listed) :
    r.Knows address (plan.ahead r) := by
  cases plan with
  | everyHost rest => exact hknows
  | remoteHosts rest => exact hknows
  | localHosts rest dc count =>
    intro h hh haddress
    rcases List.mem_append.mp hh with hh | hh
    · exact hknows h hh haddress
    · rw [← haddress]
      exact Registry.find?_of_mem (mem_of_mem_remoteHosts hh).1

/-- A new plan lists registered hosts. -/
theorem mem_hosts_of_mem_listed {policy : GenericPolicy} {rotations : Rotations}
    (hh : h ∈ (policy.plan r rotations).1.listed) : h ∈ r.hosts :=
  GenericPolicy.mem_hosts_of_mem_ahead (mem_ahead_of_mem_listed hh)

end GenericPlan

namespace RoutedPlan

variable {address : Endpoint} {plan : RoutedPlan} {fleet : Fleet}

/-- Of the hosts of the default plan in use, the one of the address is the registered one. -/
def DefaultKnown (r : Registry) (address : Endpoint) (plan : RoutedPlan) : Prop :=
  ∀ fallback, plan.fallback = some fallback → r.Knows address fallback.listed

/-- A default plan that is asked for now lists registered hosts. -/
theorem DefaultKnown.fallbackPlan (hknown : plan.DefaultKnown fleet.registry address)
    (rotations : Rotations) :
    fleet.registry.Knows address (plan.fallbackPlan fleet rotations).1.listed := by
  rw [RoutedPlan.fallbackPlan]
  cases hfallback : plan.fallback with
  | some fallback => exact hknown fallback hfallback
  | none =>
    refine Registry.knows_of_registered fun h hh => ?_
    rw [Policy.defaultPlan_eq] at hh
    exact GenericPlan.mem_hosts_of_mem_listed hh

end RoutedPlan

namespace Pull

variable {p : Pull} {address : Endpoint} {h : Host}

/-- A host that is yielded is up at this moment. -/
theorem isUp_of_yielded (hyielded : p.yielded = some h) : p.router.fleet.isUp h = true := by
  rcases p.cases with ⟨_, k, _, _, hk, _, hfound, _⟩ | ⟨_, fallback, hfind, _⟩
  · obtain rfl : k = h := Option.some.inj (hfound.symm.trans hyielded)
    exact (RoutedPlan.isEligible_iff.mp hk).1
  · rw [hyielded] at hfind
    obtain ⟨-, -, -, -, hacc, -⟩ := GenericPlan.find_eq_some hfind
    exact (RoutedPlan.isEligible_iff.mp (RoutedPlan.accepts_iff.mp hacc).2).1

/-- A host that is yielded is a replica, or one of the default plan with the address of
none. -/
theorem mem_of_yielded (c : p.plan.Consistent) (hyielded : p.yielded = some h) :
    h ∈ p.plan.replicas ∨ (∀ k ∈ p.plan.replicas, h.address ≠ k.address) ∧
      h ∈ (p.plan.fallbackPlan p.router.fleet p.router.rotations).1.ahead
        p.router.fleet.registry := by
  rcases p.cases with ⟨passed, k, later, hpending, _, _, hfound, _⟩ | ⟨_, fallback, hfind, _⟩
  · obtain rfl : k = h := Option.some.inj (hfound.symm.trans hyielded)
    refine Or.inl (c.suffix.subset ?_)
    rw [hpending]
    simp
  · rw [hyielded] at hfind
    obtain ⟨passed, hahead, -, -, hacc, -⟩ := GenericPlan.find_eq_some hfind
    refine Or.inr ⟨(RoutedPlan.accepts_iff.mp hacc).1, ?_⟩
    rw [hahead]
    simp

/-- A pull leaves a default plan whose hosts are known when those before were. -/
theorem defaultKnown_after (hknown : p.plan.DefaultKnown p.router.fleet.registry address) :
    p.after.DefaultKnown p.router.fleet.registry address := by
  rcases p.cases with ⟨_, _, _, _, _, _, _, hafter, _⟩ | ⟨_, fallback, hfind, hafter, _⟩
  · rw [hafter]
    exact hknown
  · rw [hafter]
    intro next hnext
    obtain rfl := Option.some.inj hnext
    have hahead := GenericPlan.knows_ahead (hknown.fallbackPlan p.router.rotations)
    refine hahead.subset fun k hk => ?_
    cases hyielded : p.yielded with
    | none =>
      rw [hyielded] at hfind
      obtain ⟨rfl, -⟩ := GenericPlan.find_eq_none hfind
      exact absurd hk List.not_mem_nil
    | some h =>
      rw [hyielded] at hfind
      obtain ⟨passed, hahead, -⟩ := GenericPlan.find_eq_some hfind
      rw [hahead]
      simp [GenericPlan.mem_ahead_of_mem_listed hk]

end Pull

namespace Session

variable {s : Session} {address : Endpoint} {number : Nat} {plan : RoutedPlan}
  {actions : List Action}

/-- What pulls keep of a plan led by replicas, and other actions of the registry, holds
of the plan that is open after a run. -/
theorem exists_plan_run {P : Registry → RoutedPlan → Prop}
    (hstep : ∀ action ∈ actions, ∀ (s : Session) (plan : RoutedPlan),
      P s.registry plan → P (s.step action).registry plan)
    (hpull : ∀ p : Pull, P p.router.fleet.registry p.plan → P p.router.fleet.registry p.after)
    (hopen : s.plans[number]? = some (.routed plan)) (h : P s.registry plan) :
    ∃ plan', (s.run actions).plans[number]? = some (.routed plan') ∧
      P (s.run actions).registry plan' := by
  refine run_induction
    (P := fun s => ∃ plan, s.plans[number]? = some (.routed plan) ∧ P s.registry plan)
    ?_ ⟨plan, hopen, h⟩
  rintro action haction s ⟨plan, hopen, h⟩
  have hlt : number < s.plans.length := (List.getElem?_eq_some_iff.mp hopen).1
  by_cases haction' : action = .pull number
  · subst haction'
    refine ⟨(Pull.mk s.router plan).after, ?_, ?_⟩
    · rw [step, pull_of_routed hopen, List.getElem?_set_self hlt]
    · rw [registry, step, pull_of_routed hopen]
      exact hpull ⟨s.router, plan⟩ h
  · exact ⟨plan, (getElem?_plans_step hlt haction').trans hopen, hstep action haction s plan h⟩

/-- An open plan keeps its replicas. -/
theorem exists_consistent_run (hopen : s.plans[number]? = some (.routed plan))
    (c : plan.Consistent) (actions : List Action) :
    ∃ plan', (s.run actions).plans[number]? = some (.routed plan') ∧ plan'.Consistent ∧
      plan'.replicas = plan.replicas := by
  refine exists_plan_run (P := fun _ plan' => plan'.Consistent ∧ plan'.replicas = plan.replicas)
    (fun _ _ _ _ h => h) (fun p h => ?_) hopen ⟨c, rfl⟩
  exact ⟨Pull.consistent_after h.1, p.after_fixed.2.2.trans h.2⟩

/-- The hosts of a default plan that is asked for in the course of a run are registered, as
long as their address is not taken out. -/
theorem find?_of_mem_fallbackPlan {plan' : RoutedPlan} {h : Host}
    (hopen : s.plans[number]? = some (.routed plan)) (hnone : plan.fallback = none)
    (hkeep : .remove h.address ∉ actions)
    (hplan' : (s.run actions).plans[number]? = some (.routed plan'))
    (hmem : h ∈ (plan'.fallbackPlan (s.run actions).router.fleet
      (s.run actions).router.rotations).1.ahead (s.run actions).registry) :
    (s.run actions).registry.find? h.address = some h := by
  have hstart : plan.DefaultKnown s.registry h.address := by
    intro fallback hsome
    rw [hnone] at hsome
    simp at hsome
  obtain ⟨last, hlast, hknown⟩ : ∃ last, (s.run actions).plans[number]? = some (.routed last) ∧
      last.DefaultKnown (s.run actions).registry h.address := by
    refine exists_plan_run (P := fun r plan => plan.DefaultKnown r h.address)
      (fun action haction s plan hknown => ?_) (fun p => Pull.defaultKnown_after) hopen hstart
    intro fallback hfallback
    exact knows_step (hknown fallback hfallback) fun e => hkeep (e ▸ haction)
  obtain rfl : last = plan' := by
    rw [hplan'] at hlast
    exact (Plan.routed.inj (Option.some.inj hlast)).symm
  exact GenericPlan.knows_ahead (hknown.fallbackPlan _) h hmem rfl

/-- Known hosts stay known as long as the address is not taken out. -/
theorem knows_run {hosts : List Host} (hknows : s.registry.Knows address hosts)
    (hkeep : .remove address ∉ actions) : (s.run actions).registry.Knows address hosts :=
  run_induction (P := fun s => s.registry.Knows address hosts)
    (fun _ haction _ h => knows_step h fun e => hkeep (e ▸ haction)) hknows

/-- **When the host that is yielded is the registered one.**  A plan led by replicas is
opened in the course of a session.  Whenever a pull on it yields a host, this handle is up
at that moment.  It is the one registered under its address, so that the registered host
is up, unless the address was taken out after the handle was read from the registry: for
a replica, after the last refresh of the cluster that placed the statement (a split
published by hand apart); for another host, after the default plan was asked for. -/
theorem registered_of_pulled (s : Session) (early late : List Action) {policy : Policy}
    {keyspace : Option String} {statement : Option Statement} {plan : RoutedPlan} {h : Host}
    (hplan : (policy.plan (s.run early).router keyspace statement).1 = .routed plan)
    (hpulled : (((s.run early).step (.openPlan policy keyspace statement)).run late).pulled
      (s.run early).plans.length = some h) :
    let number := (s.run early).plans.length
    let opened := (s.run early).step (.openPlan policy keyspace statement)
    let now := opened.run late
    now.router.fleet.isUp h = true ∧
      (∃ layer ∈ policy.layers,
        (((s.run early).router.cluster layer.2).placeStatement keyspace statement).1 ≠ none ∧
          (RefreshedSince h.address layer.2 early → .remove h.address ∉ late →
            now.registry.find? h.address = some h)) ∧
      ((∀ k ∈ plan.replicas, h.address ≠ k.address) →
        ∀ first second before, late = first ++ second →
          (opened.run first).plans[number]? = some (.routed before) → before.fallback = none →
          .remove h.address ∉ second → now.registry.find? h.address = some h) := by
  intro number opened now
  obtain ⟨hopened, hfleet, layer, hlayer, placement, hfound, rfl⟩ := openPlan_routed hplan
  obtain ⟨plan', hplan', c', hreplicas⟩ :=
    exists_consistent_run hopened (RoutedPlan.Consistent.start ..) late
  have hyielded : (Pull.mk now.router plan').yielded = some h := by
    rw [← pulled_of_routed hplan', hpulled]
  refine ⟨Pull.isUp_of_yielded hyielded, ⟨layer, hlayer, by simp [hfound], ?_⟩, ?_⟩
  · intro hrefreshed hkeep
    -- The tables know the handle when the plan is opened, and so does the plan.
    have htables := tablesKnow_run hrefreshed s
    have hknows : opened.registry.Knows h.address
        ((s.run early).router.replicaOrder placement).1 := by
      intro k hk haddress
      rw [registry, hfleet]
      have hmem := ((s.run early).router.perm_replicaOrder placement).mem_iff.mp hk
      exact htables k (Cluster.holds_of_placement hfound hmem) haddress
    rcases Pull.mem_of_yielded c' hyielded with hmem | ⟨-, hmem⟩
    · rw [hreplicas] at hmem
      exact knows_run hknows hkeep h hmem rfl
    · exact find?_of_mem_fallbackPlan hopened rfl hkeep hplan' hmem
  · rintro hother first second before rfl hbefore hnone hkeep
    rcases Pull.mem_of_yielded c' hyielded with hmem | ⟨-, hmem⟩
    · rw [hreplicas] at hmem
      exact absurd rfl (hother h hmem)
    · simp only [now, opened, run_append] at hplan' hmem ⊢
      exact find?_of_mem_fallbackPlan hbefore hnone hkeep hplan' hmem

namespace Return

open SmallCluster

/-- The node that leaves and comes back. -/
def spec : HostSpec := ⟨(host 0 1).address, "dc1", "rack1", true⟩

def routed : RoutedPlan := .start (.generic (.roundRobin 0)) false [host 0 1]

/-- The node is registered, and the table is read. -/
def early : List Action :=
  [.add spec, .addCluster .localOne, .refresh 0 [row [] [] [(.v4 1, .leader)]]]

/-- The node stays, goes down and comes up. -/
def restart : List Action := [.markDown spec.address, .markUp spec.address]

/-- The node leaves, comes back as a new handle, and goes down. -/
def away : List Action := [.remove spec.address, .add spec, .markDown spec.address]

/-- The session with a plan that was opened after the given actions. -/
def opened (before : List Action) : Session :=
  (({} : Session).run before).step (.openPlan policy none (some (.bound (bound none))))

end Return

open SmallCluster Return in
/-- While the node stays, the handle that is yielded is the registered one. -/
theorem registered_of_pulled_restart :
    ((opened early).run restart).pulled 0 = some (host 0 1) ∧
      ((opened early).run restart).registry.find? (host 0 1).address = some (host 0 1) := by
  have hplan : (policy.plan (({} : Session).run early).router none
      (some (.bound (bound none)))).1 = .routed routed := by
    decide +kernel
  have hpulled : ((opened early).run restart).pulled 0 = some (host 0 1) := by
    decide +kernel
  obtain ⟨-, ⟨layer, hlayer, -, hregistered⟩, -⟩ :=
    registered_of_pulled {} early restart hplan hpulled
  refine ⟨hpulled, hregistered ?_ (by simp [restart])⟩
  obtain rfl : layer = (.generic (.roundRobin 0), 0) := List.mem_singleton.mp hlayer
  exact ⟨[.add spec, .addCluster .localOne], _, [], rfl, by simp⟩

open SmallCluster Return in
/-- When the node has come back as a new handle, the old one is yielded: it is up, and the
one that is registered is down. -/
theorem pulled_stale_handle :
    (opened (early ++ away)).plans[0]? = some (.routed routed) ∧
      (opened (early ++ away)).pulled 0 = some (host 0 1) ∧
      (opened (early ++ away)).router.fleet.isUp (host 0 1) = true ∧
      (opened (early ++ away)).registry.find? (host 0 1).address = some (host 1 1) ∧
      (opened (early ++ away)).router.fleet.isUp (host 1 1) = false := by
  decide +kernel

end Session

end QueryRouting
