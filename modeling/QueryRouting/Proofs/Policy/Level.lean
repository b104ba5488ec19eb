import QueryRouting.Proofs.Policy.Datacenter
import QueryRouting.Proofs.Policy.Fallback

/-!
# What the level of a statement changes

The level of a statement says nothing about the partition that the statement is led to.  It
decides which hosts of one list are offered, and for the relaxed level in which order the
replicas among them come.  A level that is not strong takes the plan of a strong one and
leaves out the hosts that are not local.  The relaxed level turns over the replicas at the
head of such a plan, in every order that there is, and leaves what comes after them: which
hosts have the address of a replica does not depend on the order of the replicas.

## Main definitions

* `Policy.drained` — the hosts that a new plan yields while nothing changes.
* `Policy.MayYield` — the lists that a new plan may yield, whatever chance brings.

## Main results

* `exists_shuffle_eq` — every order of a list comes from some shuffle.
* `RoutedPlan.remaining_start_false` — a plan without hosts that are not local.
* `RoutedPlan.remaining_start_of_perm` — the order of the replicas changes the head only.
* `Policy.mayYield_iff_of_isRelaxed` — the plans at the relaxed level.
* `Policy.drained_level` — the plans of one statement at all levels.
-/

namespace QueryRouting

/-! ### The orders that a shuffle brings -/

/-- A shuffle takes the numbers from its position on. -/
theorem shuffle_congr {α : Type} {draw draw' : Nat → Nat} {position : Nat}
    (h : ∀ n, position ≤ n → draw n = draw' n) (xs : List α) :
    shuffle draw position xs = shuffle draw' position xs := by
  induction xs generalizing position with
  | nil => rfl
  | cons x xs ih =>
    rw [shuffle, shuffle, h position (Nat.le_refl _), ih fun n hn => h n (Nat.le_of_succ_le hn)]

/-- What is inserted after the first elements stands between them and the others. -/
theorem insertIdx_length_append {α : Type} (before after : List α) (x : α) :
    (before ++ after).insertIdx before.length x = before ++ x :: after := by
  induction before with
  | nil => rfl
  | cons b before ih =>
    rw [List.cons_append, List.length_cons, List.insertIdx_succ_cons, ih, List.cons_append]

/-- **Every order of a list comes from some shuffle.** -/
theorem exists_shuffle_eq {α : Type} {xs ys : List α} (h : ys.Perm xs) (position : Nat) :
    ∃ draw, shuffle draw position xs = ys := by
  induction xs generalizing ys position with
  | nil => exact ⟨id, h.eq_nil.symm⟩
  | cons x xs ih =>
    -- The first element goes where it stands in the order, the others by the numbers after.
    obtain ⟨before, after, rfl⟩ := List.append_of_mem (h.mem_iff.mpr List.mem_cons_self)
    have hrest : (before ++ after).Perm xs := (List.perm_middle.symm.trans h).cons_inv
    obtain ⟨draw, hdraw⟩ := ih hrest (position + 1)
    refine ⟨fun n => if n = position then before.length else draw n, ?_⟩
    have hlater : shuffle (fun n => if n = position then before.length else draw n)
        (position + 1) xs = before ++ after := by
      rw [← hdraw]
      refine shuffle_congr (fun n hn => ?_) xs
      rw [if_neg (by omega)]
    have hplace : before.length % (xs.length + 1) = before.length := by
      have hlength := hrest.length_eq
      rw [List.length_append] at hlength
      exact Nat.mod_eq_of_lt (by omega)
    rw [shuffle, hlater, if_pos rfl, hplace, insertIdx_length_append]

/-- An order of some elements of a list comes from an order of all, in which the others may
stand last. -/
theorem exists_perm_of_perm_filter {α : Type} {p : α → Bool} {xs head : List α}
    (h : head.Perm (xs.filter p)) : ∃ order : List α, order.Perm xs ∧ order.filter p = head := by
  have hall : ∀ x ∈ head, p x = true := fun x hx => (List.mem_filter.mp (h.subset hx)).2
  refine ⟨head ++ xs.filter (!p ·), (h.append_right _).trans (List.filter_append_perm p xs), ?_⟩
  rw [List.filter_append, List.filter_eq_self.mpr hall, List.filter_filter]
  simp

/-- The replicas of a relaxed statement may be tried in any order. -/
theorem Router.exists_replicaOrder_eq (r : Router) {p : Placement}
    (hrelaxed : p.level.isRelaxed = true) {order : List Host}
    (h : order.Perm p.partition.hosts) :
    ∃ chance, ({ r with chance := chance }.replicaOrder p).1 = order := by
  obtain ⟨draw, hdraw⟩ := exists_shuffle_eq h 0
  refine ⟨⟨draw, 0⟩, ?_⟩
  rw [replicaOrder, if_pos hrelaxed]
  exact hdraw

/-! ### Plans led by replicas -/

namespace RoutedPlan

variable {child : Policy} {strong : Bool} {replicas order : List Host} {fleet : Fleet}
  {rotations : Rotations} {h : Host}

theorem isEligible_start (child : Policy) (strong : Bool) (replicas : List Host) (fleet : Fleet)
    (h : Host) : (start child strong replicas).isEligible fleet h
      = (fleet.isUp h && (strong || child.distance fleet.registry h = .local)) := rfl

/-- Every host that a plan yields may be offered. -/
theorem isEligible_of_mem_remaining {plan : RoutedPlan}
    (hmem : h ∈ plan.remaining fleet rotations) : plan.isEligible fleet h = true := by
  rw [remaining, List.mem_append, List.mem_filter, List.mem_filter] at hmem
  rcases hmem with ⟨-, heligible⟩ | ⟨-, haccepted⟩
  · exact heligible
  · exact (accepts_iff.mp haccepted).2

/-- **A level that is not strong leaves out the hosts that are not local**, and changes
nothing else. -/
theorem remaining_start_false (child : Policy) (replicas : List Host) (fleet : Fleet)
    (rotations : Rotations) :
    (start child false replicas).remaining fleet rotations
      = ((start child true replicas).remaining fleet rotations).filter
          (fun h => child.distance fleet.registry h = .local) := by
  have heligible : ∀ h, (start child false replicas).isEligible fleet h
      = (decide (child.distance fleet.registry h = .local)
        && (start child true replicas).isEligible fleet h) := by
    intro h
    rw [isEligible_start, isEligible_start, Bool.false_or, Bool.true_or, Bool.and_true,
      Bool.and_comm]
  have haccepts : ∀ h, (start child false replicas).accepts fleet h
      = (decide (child.distance fleet.registry h = .local)
        && (start child true replicas).accepts fleet h) := by
    intro h
    rw [accepts, accepts, heligible, Bool.and_left_comm]
    rfl
  rw [remaining, remaining, List.filter_append, List.filter_filter, List.filter_filter]
  exact congrArg₂ (· ++ ·) (List.filter_congr fun h _ => heligible h)
    (List.filter_congr fun h _ => haccepts h)

/-- **The order of the replicas changes the head of a plan only.** -/
theorem remaining_start_of_perm (h : order.Perm replicas) (child : Policy) (strong : Bool)
    (fleet : Fleet) (rotations : Rotations) :
    (start child strong order).remaining fleet rotations
      = order.filter ((start child strong replicas).isEligible fleet)
        ++ ((child.defaultPlan fleet.registry rotations).1.remaining fleet).filter
          ((start child strong replicas).accepts fleet) := by
  have haccepts : (start child strong order).accepts fleet
      = (start child strong replicas).accepts fleet := by
    funext host
    rw [Bool.eq_iff_iff, accepts_iff, accepts_iff]
    simp only [start, h.mem_iff]
    rfl
  rw [remaining, haccepts]
  rfl

/-- Under a datacenter-aware policy only hosts of the local datacenter are offered, unless
the level is strong. -/
theorem datacenter_of_mem_remaining_start {rotation count : Nat} {dc : String}
    (hbase : child.base = .datacenterAware rotation dc count)
    (hmem : h ∈ (start child false replicas).remaining fleet rotations) : h.datacenter = dc := by
  obtain ⟨-, hstrong | hlocal⟩ := isEligible_iff.mp (isEligible_of_mem_remaining hmem)
  · exact absurd hstrong (by simp [start])
  · have hdistance : child.distance fleet.registry h = .local := hlocal
    rw [Policy.distance_eq, hbase] at hdistance
    exact GenericPolicy.distance_eq_local_iff.mp hdistance

end RoutedPlan

/-! ### The plans of one statement -/

/-- The relaxed level is not strong. -/
theorem Consistency.isStrong_of_isRelaxed {level : Consistency} (h : level.isRelaxed = true) :
    level.isStrong = false := by
  cases level <;> simp_all [isRelaxed, isStrong]

namespace Policy

/-- The hosts that a new plan for a statement yields while nothing changes. -/
def drained (policy : Policy) (r : Router) (keyspace : Option String)
    (statement : Option Statement) : List Host :=
  let planned := policy.plan r keyspace statement
  (planned.1.drain planned.2.1.fleet planned.2.1.rotations).1

/-- Some outcome of chance gives a plan that yields these hosts. -/
def MayYield (policy : Policy) (r : Router) (keyspace : Option String)
    (statement : Option Statement) (hosts : List Host) : Prop :=
  ∃ chance, policy.drained { r with chance := chance } keyspace statement = hosts

variable {child : Policy} {number : Nat} {r : Router} {keyspace : Option String}
  {statement : Option Statement} {placement : Placement}

/-- A placement says which hosts come first, in some order. -/
theorem drained_of_placement
    (h : ((r.cluster number).placeStatement keyspace statement).1 = some placement) :
    (partitionAware child number).drained r keyspace statement
      = (RoutedPlan.start child placement.level.isStrong (r.replicaOrder placement).1).remaining
          r.fleet r.rotations := by
  rw [drained, plan_of_placement child (Prod.ext h rfl), Plan.drain_eq]
  rfl

/-- A level that is not relaxed leaves nothing to chance. -/
theorem drained_of_not_relaxed
    (h : ((r.cluster number).placeStatement keyspace statement).1 = some placement)
    (hrelaxed : placement.level.isRelaxed = false) :
    (partitionAware child number).drained r keyspace statement
      = (RoutedPlan.start child placement.level.isStrong placement.partition.hosts).remaining
          r.fleet r.rotations := by
  rw [drained_of_placement h, Router.replicaOrder, if_neg (by simp [hrelaxed])]

/-- Whatever chance brings, the replicas come in some order. -/
theorem exists_order_of_mayYield {hosts : List Host}
    (h : ((r.cluster number).placeStatement keyspace statement).1 = some placement)
    (hyields : (partitionAware child number).MayYield r keyspace statement hosts) :
    ∃ order, order.Perm placement.partition.hosts ∧
      hosts = (RoutedPlan.start child placement.level.isStrong order).remaining
        r.fleet r.rotations := by
  obtain ⟨chance, rfl⟩ := hyields
  exact ⟨_, Router.perm_replicaOrder _ _, drained_of_placement (r := { r with chance := chance }) h⟩

/-- At the relaxed level they come in every order. -/
theorem mayYield_of_perm
    (h : ((r.cluster number).placeStatement keyspace statement).1 = some placement)
    (hrelaxed : placement.level.isRelaxed = true) {order : List Host}
    (horder : order.Perm placement.partition.hosts) :
    (partitionAware child number).MayYield r keyspace statement
      ((RoutedPlan.start child placement.level.isStrong order).remaining r.fleet r.rotations) := by
  obtain ⟨chance, hchance⟩ := r.exists_replicaOrder_eq hrelaxed horder
  refine ⟨chance, ?_⟩
  rw [drained_of_placement (r := { r with chance := chance }) h, hchance]

/-- **The plans at the relaxed level** begin with the replicas that may be offered, in any
order, and go on in one way. -/
theorem mayYield_iff_of_isRelaxed
    (h : ((r.cluster number).placeStatement keyspace statement).1 = some placement)
    (hrelaxed : placement.level.isRelaxed = true) {hosts : List Host} :
    let plan := RoutedPlan.start child false placement.partition.hosts
    (partitionAware child number).MayYield r keyspace statement hosts ↔
      ∃ head, head.Perm (placement.partition.hosts.filter (plan.isEligible r.fleet)) ∧
        hosts = head ++ ((child.defaultPlan r.fleet.registry r.rotations).1.remaining
          r.fleet).filter (plan.accepts r.fleet) := by
  intro plan
  have hstrong := Consistency.isStrong_of_isRelaxed hrelaxed
  constructor
  · intro hyields
    obtain ⟨order, horder, rfl⟩ := exists_order_of_mayYield h hyields
    refine ⟨order.filter (plan.isEligible r.fleet), horder.filter _, ?_⟩
    rw [hstrong, RoutedPlan.remaining_start_of_perm horder]
  · rintro ⟨head, hhead, rfl⟩
    obtain ⟨order, horder, rfl⟩ := exists_perm_of_perm_filter hhead
    rw [← RoutedPlan.remaining_start_of_perm horder, ← hstrong]
    exact mayYield_of_perm h hrelaxed horder

end Policy

/-- A statement is led to one partition at every level. -/
theorem Cluster.LeadsTo.exists_placement {c : Cluster} {keyspace : Option String} {b : Bound}
    {key : UInt16} {split : Split} (h : c.LeadsTo keyspace b key split) :
    ∃ p, split.lookup key.toNat = some p ∧ ∀ level : Option Consistency, ∃ placement,
      (c.placeStatement keyspace (some (.bound { b with level := level }))).1 = some placement ∧
        placement.partition = p ∧ placement.level = c.levelOf none { b with level := level } := by
  obtain ⟨p, hlookup⟩ := Split.exists_lookup_iff.mpr h.begins
  refine ⟨p, hlookup, fun level => ?_⟩
  have hlevel : c.LeadsTo keyspace { b with level := level } key split :=
    ⟨h.columns, h.bytes, h.table, h.begins, h.hosts⟩
  obtain ⟨placement, hplace, hfound⟩ := hlevel.exists_place none
  refine ⟨placement, ?_, Option.some.inj (hfound.symm.trans hlookup), ?_⟩
  · rw [placeStatement_of_place_ok hplace]
  · exact (place_eq_ok_iff.mp hplace).2.2.2.2.2

/-- **The plans of one statement at all levels.**  A statement is led to a partition, and its
plan is drained at different levels, from one state.  At a level that is neither strong nor
relaxed the plan is that of any strong level without the hosts that are not local, in the
same order.  The plans at the relaxed level are those at the level of one local answer with
the replicas at the head in any order: every order of the replicas gives such a plan, no plan
is another, and each replica that may be offered comes first in one.  Under a
datacenter-aware policy no plan at a level that is not strong holds a host from outside the
local datacenter.  The level that counts is that of the statement, or the default. -/
theorem Policy.drained_level (child : Policy) {number : Nat} {r : Router}
    {keyspace : Option String} {b : Bound} {key : UInt16} {split : Split}
    (h : (r.cluster number).LeadsTo keyspace b key split) :
    let policy := partitionAware child number
    let asked := fun level => some (Statement.bound { b with level := level })
    let counts := fun level => (r.cluster number).levelOf none { b with level := level }
    let isLocal := fun host => decide (child.distance r.fleet.registry host = .local)
    (∀ plain strong, (counts plain).isStrong = false → (counts plain).isRelaxed = false →
      (counts strong).isStrong = true →
        policy.drained r keyspace (asked plain)
          = (policy.drained r keyspace (asked strong)).filter isLocal) ∧
      (∃ p tail, split.lookup key.toNat = some p ∧
        let offered := fun order : List Host => order.filter fun host =>
          r.fleet.isUp host && isLocal host
        (∀ level, counts level = .localOne →
          policy.drained r keyspace (asked level) = offered p.hosts ++ tail) ∧
        ∀ level, (counts level).isRelaxed = true →
          (∀ order, order.Perm p.hosts →
            policy.MayYield r keyspace (asked level) (offered order ++ tail)) ∧
          (∀ hosts, policy.MayYield r keyspace (asked level) hosts ↔
            ∃ head, head.Perm (offered p.hosts) ∧ hosts = head ++ tail) ∧
          ∀ host ∈ offered p.hosts, ∃ later,
            policy.MayYield r keyspace (asked level) (host :: later)) ∧
      ∀ rotation dc count, child.base = .datacenterAware rotation dc count →
        ∀ level, (counts level).isStrong = false →
          ∀ hosts, policy.MayYield r keyspace (asked level) hosts →
            ∀ host ∈ hosts, host.datacenter = dc := by
  intro policy asked counts isLocal
  obtain ⟨p, hlookup, hplaced⟩ := h.exists_placement
  -- At a level that is not strong a plan has the replicas that are offered, and then hosts that
  -- do not depend on the order of the replicas.
  let offered := fun order : List Host => order.filter fun host => r.fleet.isUp host && isLocal host
  let tail := ((child.defaultPlan r.fleet.registry r.rotations).1.remaining r.fleet).filter
    ((RoutedPlan.start child false p.hosts).accepts r.fleet)
  refine ⟨?_, ⟨p, tail, hlookup, ?_, ?_⟩, ?_⟩
  · intro plain strong hplain hrelaxed hstrong
    obtain ⟨placement, hfound, hpartition, hlevel⟩ := hplaced plain
    obtain ⟨other, hfound', hpartition', hlevel'⟩ := hplaced strong
    have hlevel : placement.level = counts plain := hlevel
    have hlevel' : other.level = counts strong := hlevel'
    have hrelaxed' : (counts strong).isRelaxed = false := by
      cases hcase : (counts strong).isRelaxed with
      | false => rfl
      | true => simp [Consistency.isStrong_of_isRelaxed hcase] at hstrong
    rw [drained_of_not_relaxed hfound (hlevel ▸ hrelaxed),
      drained_of_not_relaxed hfound' (hlevel' ▸ hrelaxed'), hlevel, hlevel', hplain, hstrong,
      hpartition, hpartition']
    exact RoutedPlan.remaining_start_false child p.hosts r.fleet r.rotations
  · intro level hlocal
    obtain ⟨placement, hfound, hpartition, hlevel⟩ := hplaced level
    have hlevel : placement.level = .localOne := hlevel.trans hlocal
    rw [drained_of_not_relaxed hfound (by rw [hlevel]; rfl), hlevel, hpartition]
    exact RoutedPlan.remaining_start_of_perm (List.Perm.refl _) child false r.fleet r.rotations
  · intro level hrelaxed
    obtain ⟨placement, hfound, rfl, hlevel⟩ := hplaced level
    have hlevel : placement.level = counts level := hlevel
    have hheads : ∀ hosts, policy.MayYield r keyspace (asked level) hosts ↔
        ∃ head, head.Perm (offered placement.partition.hosts) ∧ hosts = head ++ tail :=
      fun hosts => mayYield_iff_of_isRelaxed hfound (hlevel ▸ hrelaxed)
    refine ⟨fun order horder => ?_, hheads, fun host hhost => ?_⟩
    · exact (hheads _).mpr ⟨offered order, horder.filter _, rfl⟩
    · refine ⟨(offered placement.partition.hosts).erase host ++ tail, (hheads _).mpr ?_⟩
      exact ⟨host :: (offered placement.partition.hosts).erase host,
        (List.perm_cons_erase hhost).symm, rfl⟩
  · intro rotation dc count hbase level hstrong hosts hyields host hhost
    obtain ⟨placement, hfound, hpartition, hlevel⟩ := hplaced level
    obtain ⟨order, -, rfl⟩ := exists_order_of_mayYield hfound hyields
    have hstrong : placement.level.isStrong = false := by
      rw [hlevel]
      exact hstrong
    rw [hstrong] at hhost
    exact RoutedPlan.datacenter_of_mem_remaining_start hbase hhost

namespace TwoDatacenters

open SmallCluster

def far : Host := ⟨1, ⟨.v4 2, Endpoint.defaultPort⟩, "dc2", "rack1"⟩

/-- The leader is in the other datacenter, and the last host holds no copy. -/
def spread : Router :=
  router (((Registry.empty.insert (host 0 1)).insert far).insert (host 2 3))
    [row [] [] [(.v4 1, .follower), (.v4 2, .leader)]]

def nearFirst : Policy := .partitionAware (.generic (.datacenterAware 0 "dc1" 1)) 0

end TwoDatacenters

open SmallCluster TwoDatacenters in
/-- A quorum is asked of the leader first, wherever it is, and one answer of local hosts only. -/
theorem Policy.drained_level_two_datacenters :
    (spread.cluster 0).Routable none (bound none) ∧
      nearFirst.drained spread none (some (.bound (bound (some .quorum))))
        = [far, host 0 1, host 2 3] ∧
      nearFirst.drained spread none (some (.bound (bound (some .localOne))))
        = [host 0 1, host 2 3] ∧
      ∀ hosts,
        nearFirst.MayYield spread none (some (.bound (bound (some .consistentPrefix)))) hosts →
          ∀ host ∈ hosts, host.datacenter = "dc1" := by
  have hfound : ((spread.cluster 0).placeStatement none (some (.bound (bound none)))).1
      = some ⟨"ks.t", 19780, ⟨0, 65536, [far, host 0 1]⟩, .localOne⟩ := by decide +kernel
  obtain ⟨key, split, hleads⟩ := Cluster.routable_of_placeStatement hfound
  have hstrong : nearFirst.drained spread none (some (.bound (bound (some .quorum))))
      = [far, host 0 1, host 2 3] := by decide +kernel
  obtain ⟨hfilter, -, hlocal⟩ :=
    Policy.drained_level (.generic (.datacenterAware 0 "dc1" 1)) hleads
  refine ⟨⟨key, split, hleads⟩, hstrong, ?_, ?_⟩
  · have hplain := hfilter (some .localOne) (some .quorum) rfl rfl rfl
    refine hplain.trans ((congrArg (List.filter _) hstrong).trans ?_)
    decide
  · exact hlocal 0 "dc1" 1 rfl (some .consistentPrefix) rfl

end QueryRouting
