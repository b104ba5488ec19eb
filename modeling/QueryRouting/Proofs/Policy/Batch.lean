import QueryRouting.Proofs.Policy.Fallback

/-!
# Batches

A batch goes where one of its statements goes: the first of the bound statements that it
holds directly and that can be placed.  What comes before that statement is passed over, and
what comes after it is not looked at.  The statement is planned as if it were sent alone,
save that the level of the batch counts for it when it has none of its own.  A batch that
holds no such statement is left to the wrapped policy, whatever the batches inside it hold.

## Main definitions

* `Cluster.PassesOver c keyspace inner` — a statement of a batch that does not decide its plan.
* `SamePlan` — new plans that differ in what is reported on the way only.

## Main results

* `Cluster.place_level` — the level of a batch may be given to the statement itself.
* `Cluster.placeStatement_batch` — the placement of a batch is that of one statement.
* `Policy.plan_batch` — the plan of a batch is that of one statement.
-/

namespace QueryRouting

/-! ### The placement of a batch -/

namespace Cluster

variable {c : Cluster} {keyspace : Option String} {level : Option Consistency} {b : Bound}
  {placement : Placement} {before after statements : List Statement}

/-- A statement of a batch that does not decide its plan: it is not bound, or it is not
routable. -/
def PassesOver (c : Cluster) (keyspace : Option String) (inner : Statement) : Prop :=
  ∀ b, inner = .bound b → ¬c.Routable keyspace b

/-- **The level of a batch** counts as if the statement asked for it, when it asks for none
itself. -/
theorem place_level (c : Cluster) (keyspace : Option String) (level : Option Consistency)
    (b : Bound) :
    c.place keyspace none { b with level := b.level.or level } = c.place keyspace level b := by
  have hkey : Bound.key { b with level := b.level.or level } = b.key := rfl
  have hlevel : c.levelOf none { b with level := b.level.or level } = c.levelOf level b := by
    rw [levelOf, levelOf, Option.or_none]
  rw [place, place, hkey, hlevel]

/-- Statements that do not decide the plan leave the search to those after them. -/
theorem placeFirst_of_passesOver (hbefore : ∀ inner ∈ before, c.PassesOver keyspace inner)
    (later : List (Bound × Option Consistency)) :
    (c.placeFirst keyspace ((Statement.batch before level).candidates ++ later)).1
      = (c.placeFirst keyspace later).1 := by
  induction before with
  | nil => rfl
  | cons inner before ih =>
    have ih := ih fun other hother => hbefore other (List.mem_cons_of_mem _ hother)
    cases inner with
    | bound b =>
      have hnot := hbefore (.bound b) List.mem_cons_self b rfl
      rw [← exists_place_iff level] at hnot
      have hcandidates : (Statement.batch (.bound b :: before) level).candidates
          = (b, level) :: (Statement.batch before level).candidates := rfl
      rw [hcandidates, List.cons_append, placeFirst]
      cases hplace : c.place keyspace level b with
      | ok placement => exact absurd ⟨placement, hplace⟩ hnot
      | error reason => exact ih
    | batch statements level => exact ih
    | simple query queryKeyspace level => exact ih

/-- **The placement of a batch** is that of its first bound statement that has one. -/
theorem placeStatement_batch (hbefore : ∀ inner ∈ before, c.PassesOver keyspace inner)
    (hplace : c.place keyspace level b = .ok placement) :
    (c.placeStatement keyspace (some (.batch (before ++ .bound b :: after) level))).1
      = some placement := by
  have hcandidates : (Statement.batch (before ++ .bound b :: after) level).candidates
      = (Statement.batch before level).candidates
        ++ (b, level) :: (Statement.batch after level).candidates := by
    simp [Statement.candidates, Statement.bound?]
  rw [placeStatement, Option.map_some, Option.getD_some, hcandidates,
    placeFirst_of_passesOver hbefore, placeFirst, hplace]

/-- A batch of statements that do not decide its plan has no placement. -/
theorem placeStatement_batch_eq_none (h : ∀ inner ∈ statements, c.PassesOver keyspace inner) :
    (c.placeStatement keyspace (some (.batch statements level))).1 = none := by
  rw [placeStatement, Option.map_some, Option.getD_some,
    ← List.append_nil (Statement.candidates _), placeFirst_of_passesOver h]
  rfl

end Cluster

/-! ### The plan of a batch -/

/-- Two new plans are the same, and so are the routers that they leave.  What has been
reported on the way may differ. -/
def SamePlan (planned other : Plan × Router × List Event) : Prop :=
  planned.1 = other.1 ∧ planned.2.1 = other.2.1

namespace Policy

variable {r : Router} {keyspace : Option String} {statement other : Option Statement}
  {number : Nat} {placement : Placement}

/-- A placement decides the plan. -/
theorem samePlan_of_placement (child : Policy)
    (h : ((r.cluster number).placeStatement keyspace statement).1 = some placement)
    (h' : ((r.cluster number).placeStatement keyspace other).1 = some placement) :
    SamePlan ((partitionAware child number).plan r keyspace statement)
      ((partitionAware child number).plan r keyspace other) := by
  rw [plan_of_placement child (Prod.ext h rfl), plan_of_placement child (Prod.ext h' rfl)]
  exact ⟨rfl, rfl⟩

/-- Where there is none, the plan is that of the wrapped policy. -/
theorem samePlan_of_no_placement (child : Policy)
    (h : ((r.cluster number).placeStatement keyspace statement).1 = none) :
    SamePlan ((partitionAware child number).plan r keyspace statement)
      (child.plan r keyspace statement) := by
  rw [plan_of_no_placement child (Prod.ext h rfl)]
  exact ⟨rfl, rfl⟩

/-- **The plan of a batch is that of one statement.**  The statement is the first of those
that the batch holds directly and that are led to replicas when they are sent alone; it is
planned as if it were sent alone with its own level, or else with that of the batch, or else
with the default.  What comes before it, as long as it does not decide the plan itself, and
what comes after it may be anything.  When there is no such statement, routable statements
in batches inside the batch notwithstanding, the plan is that of the wrapped policy.  The
router holds all that chance will bring, so this is true of each outcome of a shuffle. -/
theorem plan_batch (child : Policy) (number : Nat) (r : Router) (keyspace : Option String)
    (statements : List Statement) (level : Option Consistency) :
    let c := r.cluster number
    let plan := fun statement => (partitionAware child number).plan r keyspace (some statement)
    (∀ before b after, statements = before ++ .bound b :: after →
      (∀ inner ∈ before, c.PassesOver keyspace inner) → c.Routable keyspace b →
        let alone := Statement.bound { b with level := b.level.or level }
        (∃ strong replicas, (plan alone).1 = .routed (.start child strong replicas)) ∧
          SamePlan (plan (.batch statements level)) (plan alone) ∧
          ∀ before' after', (∀ inner ∈ before', c.PassesOver keyspace inner) →
            SamePlan (plan (.batch (before' ++ .bound b :: after') level))
              (plan (.batch statements level))) ∧
      ((∀ inner ∈ statements, c.PassesOver keyspace inner) →
        SamePlan (plan (.batch statements level))
          (child.plan r keyspace (some (.batch statements level)))) := by
  intro c plan
  constructor
  · intro before b after hstatements hbefore hroutable alone
    subst hstatements
    obtain ⟨placement, hplace⟩ := (Cluster.exists_place_iff level).mpr hroutable
    have halone : c.placeStatement keyspace (some alone) = (some placement, [placement.event]) :=
      Cluster.placeStatement_of_place_ok ((c.place_level keyspace level b).trans hplace)
    have hfirst : (c.placeStatement keyspace (some alone)).1 = some placement := by rw [halone]
    refine ⟨⟨placement.level.isStrong, (r.replicaOrder placement).1, ?_⟩, ?_, ?_⟩
    · rw [show plan alone = _ from plan_of_placement child halone]
    · exact samePlan_of_placement child (Cluster.placeStatement_batch hbefore hplace) hfirst
    · intro before' after' hbefore'
      exact samePlan_of_placement child (Cluster.placeStatement_batch hbefore' hplace)
        (Cluster.placeStatement_batch hbefore hplace)
  · intro hpasses
    exact samePlan_of_no_placement child (Cluster.placeStatement_batch_eq_none hpasses)

namespace MixedBatch

open SmallCluster

/-- A statement of a table that is not known. -/
def unknownTable : Bound :=
  { bound none with prepared := { (bound none).prepared with table := "u" } }

/-- Statements that do not decide a plan: the batch among them holds one that would. -/
def passedOver : List Statement :=
  [.simple "SELECT" none none, .batch [.bound (bound none)] none, .bound unknownTable]

def mixed : Router :=
  router (Registry.empty.insert (host 0 1)) [row [] [] [(.v4 1, .leader)]]

theorem passesOver {inner : Statement} (hinner : inner ∈ passedOver) :
    (mixed.cluster 0).PassesOver none inner := by
  rintro b rfl
  obtain rfl : b = unknownTable := by simpa [passedOver] using hinner
  have herror : (mixed.cluster 0).place none none unknownTable = .error (.noSplit "ks.u") := rfl
  rw [← Cluster.exists_place_iff none, herror]
  simp

end MixedBatch

open SmallCluster MixedBatch in
/-- The level of the batch counts for the statement that decides the plan. -/
theorem plan_batch_mixed :
    (mixed.cluster 0).Routable none (bound none) ∧
      (policy.plan mixed none
        (some (.batch (passedOver ++ [.bound (bound none)]) (some .quorum)))).1
          = .routed (.start (.generic (.roundRobin 0)) true [host 0 1]) := by
  have hfound : ((mixed.cluster 0).placeStatement none (some (.bound (bound none)))).1
      = some ⟨"ks.t", 19780, ⟨0, 65536, [host 0 1]⟩, .localOne⟩ := by decide +kernel
  have hroutable := Cluster.routable_of_placeStatement hfound
  obtain ⟨-, ⟨hplan, -⟩, -⟩ := (plan_batch (.generic (.roundRobin 0)) 0 mixed none
    (passedOver ++ [.bound (bound none)]) (some .quorum)).1 passedOver (bound none) [] rfl
    (fun _ => passesOver) hroutable
  refine ⟨hroutable, hplan.trans ?_⟩
  show (policy.plan mixed none (some (.bound (bound (some .quorum))))).1 = _
  decide +kernel

end Policy

end QueryRouting
