import Mathlib.Data.List.ReduceOption
import QueryRouting.Proofs.Session.Basic

/-!
# Pulls on the plan of a generic policy

What a plan of a generic policy yields in the course of a session, whatever happens between the
pulls on it.  A plan of all hosts is a list, and each pull takes the next host of it.  A plan of
the local datacenter takes some of the hosts that it was made with; the pull that finds none of
these up reads the remote hosts from the registry, and from then on the plan takes some of those.

## Main definitions

* `GenericPlan.Lists` — a plan that is a list, up or down.
* `Session.yieldsOf` — what the pulls on a plan yield in the course of a run.

## Main results

* `Session.yieldsOf_of_lists` — the pulls on a plan of all hosts.
* `Session.yieldsOf_remoteHosts`, `Session.yieldsOf_localHosts` — the pulls on a plan of one
  datacenter and the others.
-/

namespace QueryRouting

/-- The first entries of a list, as far as there are so many. -/
theorem reduceOption_map_range {α : Type} (xs : List α) (count : Nat) :
    ((List.range count).map (xs[·]?)).reduceOption = xs.take count := by
  induction count generalizing xs with
  | zero => rfl
  | succ count ih =>
    rw [List.range_succ_eq_map, List.map_cons, List.map_map]
    cases xs with
    | nil => simp [List.reduceOption]
    | cons x xs =>
      rw [List.getElem?_cons_zero, List.reduceOption_cons_of_some, List.take_succ_cons]
      exact congrArg _ (ih xs)

/-! ### One pull -/

namespace GenericPlan

/-- The plan yields these hosts, up or down, and then no more. -/
inductive Lists : GenericPlan → List Host → Prop where
  | everyHost (rest : List Host) : Lists (.everyHost rest) rest
  | exhausted : Lists .exhausted []

/-- A pull takes the first host. -/
theorem Lists.next {plan : GenericPlan} {rest : List Host} (h : plan.Lists rest) (fleet : Fleet) :
    (plan.next fleet).1 = rest.head? ∧ (plan.next fleet).2.Lists rest.tail := by
  cases h with
  | exhausted => exact ⟨rfl, .exhausted⟩
  | everyHost =>
    cases rest with
    | nil => exact ⟨rfl, .exhausted⟩
    | cons h later => exact ⟨rfl, .everyHost later⟩

/-- A pull on remote hosts takes the first that is up, or ends the plan. -/
theorem next_remoteHosts (fleet : Fleet) (rest : List Host) :
    (∃ passed h later, rest = passed ++ h :: later ∧
      (remoteHosts rest).next fleet = (some h, .remoteHosts later)) ∨
    (remoteHosts rest).next fleet = (none, exhausted) := by
  rw [next, find, findRemote]
  cases hfirst : firstWhere (fun h => fleet.isUp h && true) rest with
  | none => exact Or.inr rfl
  | some entry =>
    obtain ⟨passed, hrest, -⟩ := exists_of_firstWhere_eq_some hfirst
    exact Or.inl ⟨passed, entry.1, entry.2, hrest, rfl⟩

/-- A pull on local hosts takes the first that is up.  When none is, it is one on the remote
hosts that are registered now. -/
theorem next_localHosts (fleet : Fleet) (rest : List Host) (dc : String) (count : Nat) :
    (∃ passed h later, rest = passed ++ h :: later ∧
      (localHosts rest dc count).next fleet = (some h, .localHosts later dc count)) ∨
    (∀ h ∈ rest, fleet.isUp h = false) ∧
      (localHosts rest dc count).next fleet
        = (remoteHosts (QueryRouting.remoteHosts fleet.registry dc count)).next fleet := by
  rw [next, find, next, find]
  cases hfirst : firstWhere (fun h => fleet.isUp h && true) rest with
  | none =>
    refine Or.inr ⟨fun h hmem => ?_, rfl⟩
    simpa using firstWhere_eq_none_iff.mp hfirst h hmem
  | some entry =>
    obtain ⟨passed, hrest, -⟩ := exists_of_firstWhere_eq_some hfirst
    exact Or.inl ⟨passed, entry.1, entry.2, hrest, rfl⟩

end GenericPlan

namespace Session

variable {s : Session} {number : Nat} {action : Action} {plan : GenericPlan}
  {rest : List Host} {later : List Action}

/-- What an action yields, when it is a pull on a plan. -/
def yield? (s : Session) (number : Nat) : Action → Option (Option Host)
  | .pull other => if other = number then some (s.pulled number) else none
  | _ => none

/-- What the pulls on a plan yield in the course of a run, with `none` for a pull that finds
no host. -/
def yieldsOf (number : Nat) (s : Session) : List Action → List (Option Host)
  | [] => []
  | action :: later => (s.yield? number action).toList ++ yieldsOf number (s.step action) later

theorem yieldsOf_pull :
    yieldsOf number s (.pull number :: later)
      = s.pulled number :: yieldsOf number (s.step (.pull number)) later := by
  rw [yieldsOf, yield?, if_pos rfl]
  rfl

theorem yieldsOf_of_ne (hother : action ≠ .pull number) :
    yieldsOf number s (action :: later) = yieldsOf number (s.step action) later := by
  cases action with
  | pull other =>
    have hne : other ≠ number := fun e => hother (by rw [e])
    rw [yieldsOf, yield?, if_neg hne]
    rfl
  | _ => rfl

theorem yieldsOf_append (number : Nat) (s : Session) (early late : List Action) :
    yieldsOf number s (early ++ late)
      = yieldsOf number s early ++ yieldsOf number (s.run early) late := by
  induction early generalizing s with
  | nil => rfl
  | cons action early ih =>
    rw [List.cons_append, yieldsOf, yieldsOf, ih, List.append_assoc, run_cons]

/-- A pull on the plan of a generic policy. -/
theorem pulled_of_generic (h : s.plans[number]? = some (.generic plan)) :
    s.pulled number = (plan.next s.router.fleet).1 := by
  rw [pulled, h]
  rfl

/-- It changes nothing but this plan. -/
theorem step_pull_of_generic (h : s.plans[number]? = some (.generic plan)) :
    s.step (.pull number)
      = { s with plans := s.plans.set number (.generic (plan.next s.router.fleet).2) } := by
  rw [step, pull, h]
  rfl

theorem getElem?_plans_pull (h : s.plans[number]? = some (.generic plan)) :
    (s.step (.pull number)).plans[number]? = some (.generic (plan.next s.router.fleet).2) := by
  have hopen : number < s.plans.length := (List.getElem?_eq_some_iff.mp h).1
  rw [step_pull_of_generic h, List.getElem?_set_self hopen]

/-- A new plan of a generic policy comes last among the open ones. -/
theorem getElem?_plans_openPlan (s : Session) (policy : GenericPolicy) (keyspace : Option String)
    (statement : Option Statement) :
    (s.step (.openPlan (.generic policy) keyspace statement)).plans[s.plans.length]?
      = some (.generic (policy.plan s.router.fleet.registry s.router.rotations).1) :=
  List.getElem?_concat_length

/-- Another action leaves the plan as it is. -/
theorem getElem?_plans_of_ne (h : s.plans[number]? = some (.generic plan))
    (hother : action ≠ .pull number) : (s.step action).plans[number]? = some (.generic plan) :=
  (getElem?_plans_step (List.getElem?_eq_some_iff.mp h).1 hother).trans h

/-! ### Pulls in the course of a run -/

/-- **The pulls on a plan that is a list take its hosts in turn**, whatever happens between
them. -/
theorem yieldsOf_of_lists (h : s.plans[number]? = some (.generic plan)) (hlists : plan.Lists rest)
    (actions : List Action) :
    yieldsOf number s actions
      = (List.range (yieldsOf number s actions).length).map (rest[·]?) := by
  induction actions generalizing s plan rest with
  | nil => rfl
  | cons action later ih =>
    by_cases hpull : action = .pull number
    · subst hpull
      obtain ⟨hhead, htail⟩ := hlists.next s.router.fleet
      have hlater := ih (getElem?_plans_pull h) htail
      have htaken : ∀ i, rest.tail[i]? = rest[i + 1]? := fun i => List.getElem?_tail
      simp only [htaken] at hlater
      rw [yieldsOf_pull, pulled_of_generic h, hhead, List.length_cons, List.range_succ_eq_map,
        List.map_cons, List.map_map, ← List.head?_eq_getElem?]
      exact congrArg _ hlater
    · rw [yieldsOf_of_ne hpull]
      exact ih (getElem?_plans_of_ne h hpull) hlists

/-- A pull that is one on remote hosts takes one of them, or ends the plan. -/
theorem yieldsOf_pull_remoteHosts (h : s.plans[number]? = some (.generic plan))
    (hnext : plan.next s.router.fleet = (GenericPlan.remoteHosts rest).next s.router.fleet)
    (hlater : ∀ (t : Session) (rest : List Host),
      t.plans[number]? = some (.generic (.remoteHosts rest)) →
        (yieldsOf number t later).reduceOption.Sublist rest) :
    (yieldsOf number s (.pull number :: later)).reduceOption.Sublist rest := by
  have hplans := getElem?_plans_pull h
  rw [yieldsOf_pull, pulled_of_generic h]
  rw [hnext] at hplans ⊢
  rcases GenericPlan.next_remoteHosts s.router.fleet rest with
    ⟨passed, host, tail, rfl, htaken⟩ | hend
  · rw [htaken] at hplans ⊢
    rw [List.reduceOption_cons_of_some]
    exact ((hlater _ tail hplans).cons_cons host).trans (List.sublist_append_right _ _)
  · rw [hend] at hplans ⊢
    rw [List.reduceOption_cons_of_none]
    exact (hlater _ [] hplans).trans (List.nil_sublist _)

/-- **The pulls on remote hosts take some of them, in their order.** -/
theorem yieldsOf_remoteHosts (h : s.plans[number]? = some (.generic (.remoteHosts rest)))
    (actions : List Action) : (yieldsOf number s actions).reduceOption.Sublist rest := by
  induction actions generalizing s rest with
  | nil => exact List.nil_sublist _
  | cons action later ih =>
    by_cases hpull : action = .pull number
    · subst hpull
      exact yieldsOf_pull_remoteHosts h rfl fun t rest ht => ih ht
    · rw [yieldsOf_of_ne hpull]
      exact ih (getElem?_plans_of_ne h hpull)

/-- **The pulls on local hosts take some of them, in their order**, until one finds none that
is up.  This one reads the remote hosts, and with the pulls after it takes some of these. -/
theorem yieldsOf_localHosts {dc : String} {count : Nat}
    (h : s.plans[number]? = some (.generic (.localHosts rest dc count)))
    (actions : List Action) :
    (yieldsOf number s actions).reduceOption.Sublist rest ∨
    ∃ early late left, actions = early ++ .pull number :: late ∧
      (s.run early).plans[number]? = some (.generic (.localHosts left dc count)) ∧
      (∀ host ∈ left, (s.run early).router.fleet.isUp host = false) ∧
      (yieldsOf number s early).reduceOption.Sublist rest ∧
      (yieldsOf number (s.run early) (.pull number :: late)).reduceOption.Sublist
        (remoteHosts (s.run early).router.fleet.registry dc count) := by
  induction actions generalizing s rest with
  | nil => exact Or.inl (List.nil_sublist _)
  | cons action later ih =>
    by_cases hpull : action = .pull number
    · subst hpull
      have hplans := getElem?_plans_pull h
      rcases GenericPlan.next_localHosts s.router.fleet rest dc count with
        ⟨passed, host, tail, rfl, htaken⟩ | ⟨hdown, hnext⟩
      · rw [htaken] at hplans
        have hyield : ∀ actions, (yieldsOf number s (.pull number :: actions)).reduceOption
            = host :: (yieldsOf number (s.step (.pull number)) actions).reduceOption := by
          intro actions
          rw [yieldsOf_pull, pulled_of_generic h, htaken, List.reduceOption_cons_of_some]
        have hfront : ∀ {hosts : List Host}, hosts.Sublist tail →
            (host :: hosts).Sublist (passed ++ host :: tail) :=
          fun hsub => (hsub.cons_cons host).trans (List.sublist_append_right _ _)
        rcases ih hplans with hlocal | ⟨early, late, left, rfl, hleft, hdown, hlocal, hremote⟩
        · rw [hyield]
          exact Or.inl (hfront hlocal)
        · refine Or.inr ⟨.pull number :: early, late, left, rfl, hleft, hdown, ?_, hremote⟩
          rw [hyield]
          exact hfront hlocal
      · refine Or.inr ⟨[], later, rest, rfl, h, hdown, List.nil_sublist _, ?_⟩
        exact yieldsOf_pull_remoteHosts h hnext fun t rest ht => yieldsOf_remoteHosts ht later
    · have hopen := getElem?_plans_of_ne h hpull
      rw [yieldsOf_of_ne hpull]
      rcases ih hopen with hlocal | ⟨early, late, left, rfl, hleft, hdown, hlocal, hremote⟩
      · exact Or.inl hlocal
      · refine Or.inr ⟨action :: early, late, left, rfl, hleft, hdown, ?_, hremote⟩
        rw [yieldsOf_of_ne hpull]
        exact hlocal

end Session

end QueryRouting
