/-!
# Rotations

Policies that spread work begin each plan one host further on.  How far a policy
has come is a counter of 64 bits that wraps.

## Main definitions

* `Rotations` — the counters, by the number of the rotation.
* `Rotations.count`, `Rotations.advance` — the count, and one step.
* `Rotations.fresh` — a rotation that no one has yet.
-/

namespace QueryRouting

/-- The counters of rotations.  A rotation without an entry has made no step. -/
structure Rotations where
  counts : List (Nat × UInt64) := []
  /-- The number of rotations that are in use. -/
  issued : Nat := 0
  deriving DecidableEq, Repr, Inhabited

namespace Rotations

/-- The number of steps of a rotation. -/
def count (r : Rotations) (rotation : Nat) : UInt64 := (r.counts.lookup rotation).getD 0

/-- One step of a rotation. -/
def advance (r : Rotations) (rotation : Nat) : Rotations :=
  { r with
    counts := (rotation, r.count rotation + 1) :: r.counts.filter (·.1 ≠ rotation) }

/-- The number of a new rotation. -/
def fresh (r : Rotations) : Nat × Rotations := (r.issued, { r with issued := r.issued + 1 })

theorem lookup_filter_ne {rotation other : Nat} (h : other ≠ rotation) :
    ∀ counts : List (Nat × UInt64),
      (counts.filter (·.1 ≠ rotation)).lookup other = counts.lookup other
  | [] => rfl
  | (n, c) :: counts => by
    have ih := lookup_filter_ne h counts
    by_cases hn : n = rotation
    · subst hn
      rw [List.lookup_cons, beq_eq_false_iff_ne.mpr h]
      simpa using ih
    · rw [List.filter_cons_of_pos (by simpa using hn), List.lookup_cons, List.lookup_cons, ih]

@[simp] theorem count_advance (r : Rotations) (rotation other : Nat) :
    (r.advance rotation).count other
      = if other = rotation then r.count rotation + 1 else r.count other := by
  by_cases h : other = rotation
  · simp [count, advance, h]
  · simp only [count, advance, List.lookup_cons, beq_eq_false_iff_ne.mpr h, if_neg h]
    rw [lookup_filter_ne h]

end Rotations

end QueryRouting
