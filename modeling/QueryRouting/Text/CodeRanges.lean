/-!
# Ranges of code points

The characters with a property, given by the code points that they lie between.

## Main definitions

* `CodeRanges` — inclusive ranges, in ascending order and apart from each other.
* `CodeRanges.contains rs c` — membership.
* `CodeRanges.count`, `CodeRanges.isAscending` — what a table of ranges is checked by.
-/

namespace QueryRouting

/-- Inclusive ranges of code points. -/
abbrev CodeRanges := List (Nat × Nat)

namespace CodeRanges

/-- Whether a character lies in one of the ranges. -/
def contains (rs : CodeRanges) (c : Char) : Bool :=
  rs.any fun r => r.1 ≤ c.toNat && c.toNat ≤ r.2

/-- The number of code points in the ranges. -/
def count (rs : CodeRanges) : Nat := rs.foldl (fun acc r => acc + (r.2 + 1 - r.1)) 0

/-- Whether no range is empty, and each begins past the code point after the one before. -/
def isAscending : CodeRanges → Bool
  | [] => true
  | [r] => r.1 ≤ r.2
  | r :: s :: rs => r.1 ≤ r.2 && r.2 + 1 < s.1 && isAscending (s :: rs)

/-- A character lies in the ranges when one of them has it between its ends. -/
theorem contains_iff {rs : CodeRanges} {c : Char} :
    rs.contains c ↔ ∃ r ∈ rs, r.1 ≤ c.toNat ∧ c.toNat ≤ r.2 := by
  simp [contains]

end CodeRanges

end QueryRouting
