import QueryRouting.Partition.Basic

/-!
# The split of a table

The partitions of a table in the order of their first keys.  Partitions that begin
at one key keep the order they were given in.  A key is looked up by bisection: the
partition that owns it is the last one that begins at the key or before it.  Only
the first keys are looked at, so a key in a gap belongs to the partition before it.

## Main definitions

* `Split`, `Split.ofList` — the partitions in order.
* `bisect` — the number of elements at the front of an array that satisfy a condition.
* `Split.lookup` — the partition that owns a key.
-/

namespace QueryRouting

/-- The partitions of a table in the order of their first keys. -/
structure Split where
  partitions : Array Partition
  ascending : partitions.toList.Pairwise fun p q => p.startKey ≤ q.startKey
  deriving DecidableEq

namespace Split

/-- Whether a partition begins no later than another. -/
def beginsBy (p q : Partition) : Bool := p.startKey ≤ q.startKey

/-- The split into the given partitions. -/
def ofList (ps : List Partition) : Split where
  partitions := (ps.mergeSort beginsBy).toArray
  ascending := by
    have h := @List.pairwise_mergeSort _ beginsBy
      (fun a b c hab hbc => by
        simp only [beginsBy, decide_eq_true_eq] at *
        exact Int.le_trans hab hbc)
      (fun a b => by
        simp only [beginsBy, Bool.or_eq_true, decide_eq_true_eq]
        exact Int.le_total ..) ps
    simpa [beginsBy] using h

/-- The partitions in order. -/
def toList (s : Split) : List Partition := s.partitions.toList

/-- The number of partitions. -/
def size (s : Split) : Nat := s.partitions.size

/-- Whether there is no partition. -/
def isEmpty (s : Split) : Bool := s.partitions.isEmpty

end Split

/-- The number of elements at the front of `xs` that satisfy `p`, when those before
position `low` do and those from position `low + width` on do not.  Each step
halves the stretch that is left. -/
def bisect {α : Type} (p : α → Bool) (xs : Array α) (low width : Nat) : Nat :=
  if width = 0 then low
  else
    let middle := low + width / 2
    if xs[middle]?.any p then bisect p xs (middle + 1) (width - width / 2 - 1)
    else bisect p xs low (width / 2)
termination_by width

namespace Split

/-- The number of partitions that begin at the key or before it. -/
def beginsUpTo (s : Split) (key : Int) : Nat :=
  bisect (·.startKey ≤ key) s.partitions 0 s.partitions.size

/-- The partition that owns a key: the last one that begins at it or before it. -/
def lookup (s : Split) (key : Int) : Option Partition :=
  match s.beginsUpTo key with
  -- The key comes before the first partition.
  | 0 => none
  | n + 1 => s.partitions[n]?

@[simp] theorem toList_ofList (ps : List Partition) :
    (ofList ps).toList = ps.mergeSort beginsBy := by
  simp [toList, ofList]

@[simp] theorem size_ofList (ps : List Partition) : (ofList ps).size = ps.length := by
  simp [size, ofList, List.length_mergeSort]

end Split

end QueryRouting
