/-!
# Shuffles

A relaxed statement has its replicas in any order.  Chance is an endless sequence
of numbers and the position reached in it; each element that is shuffled takes one
number, which says where among the later ones it goes.  Every order comes from
some sequence, and equally often when each number is as likely as another.

## Main definitions

* `shuffle draw position xs` — the elements in the order that the numbers say.
* `Chance` — a sequence and a position.
-/

namespace QueryRouting

/-- The elements in the order that the numbers from `position` on say. -/
def shuffle {α : Type} (draw : Nat → Nat) (position : Nat) : List α → List α
  | [] => []
  | x :: xs => (shuffle draw (position + 1) xs).insertIdx (draw position % (xs.length + 1)) x

/-- A sequence of numbers and the position reached in it. -/
structure Chance where
  draw : Nat → Nat
  position : Nat := 0

namespace Chance

instance : Inhabited Chance := ⟨⟨id, 0⟩⟩

/-- The elements in a random order, and the chance that is left. -/
def shuffle {α : Type} (c : Chance) (xs : List α) : List α × Chance :=
  (QueryRouting.shuffle c.draw c.position xs, { c with position := c.position + xs.length })

end Chance

end QueryRouting
