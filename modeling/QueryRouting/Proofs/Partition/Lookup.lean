import QueryRouting.Partition.Split

/-!
# Lookup in a split

Bisection finds where a condition stops to hold along an array, when it holds of a
front of it and of nothing after.  The partitions of a split stand in the order of
their first keys, so the ones that begin at a key or before it are such a front, and
the partition that bisection finds is the last one that a scan of the whole split
would find.

## Main results

* `bisect_eq` — bisection finds the end of the front.
* `Split.lookup_eq_getLast?` — a lookup is a scan for the last partition that begins
  at the key or before it.
* `Split.lookup_ofList_eq_some` — a partition that begins after every other one that
  begins at the key or before it is the one found.
-/

namespace QueryRouting

/-! ### Bisection -/

/-- **Bisection finds the end of the front**: when `p` holds of the first `n` elements
and of no later one, every stretch that has `n` in it or at its end leads to `n`. -/
theorem bisect_eq {α : Type} {p : α → Bool} {xs : Array α} {n : Nat}
    (hfront : ∀ i a, xs[i]? = some a → i < n → p a = true)
    (hback : ∀ i a, xs[i]? = some a → n ≤ i → p a = false) (low width : Nat)
    (hlow : low ≤ n) (hwidth : n ≤ low + width) (hsize : low + width ≤ xs.size) :
    bisect p xs low width = n := by
  -- Each step keeps the end of the front within the stretch that is left.
  induction low, width using bisect.induct p xs with
  | case1 low =>
    rw [bisect, if_pos rfl]
    omega
  | case2 low width hne middle hmiddle ih =>
    have hin : middle < xs.size := by omega
    have ha : xs[middle]? = some xs[middle] := Array.getElem?_eq_getElem hin
    have hlt : middle < n := by
      rcases Nat.lt_or_ge middle n with h | h
      · exact h
      · rw [ha, Option.any_some, hback middle _ ha h] at hmiddle
        exact absurd hmiddle Bool.false_ne_true
    rw [bisect, if_neg hne, if_pos hmiddle]
    exact ih (by omega) (by omega) (by omega)
  | case3 low width hne middle hmiddle ih =>
    have hin : middle < xs.size := by omega
    have ha : xs[middle]? = some xs[middle] := Array.getElem?_eq_getElem hin
    have hle : n ≤ middle := by
      rcases Nat.lt_or_ge middle n with h | h
      · rw [ha, Option.any_some, hfront middle _ ha h] at hmiddle
        exact absurd rfl hmiddle
      · exact h
    rw [bisect, if_neg hne, if_neg hmiddle]
    exact ih hlow hle (by omega)

section

variable {α : Type} {p : α → Bool}

/-- When the condition never starts to hold again along a list, the elements that
satisfy it are a front of the list. -/
theorem take_length_filter {xs : List α} (h : xs.Pairwise fun a b => p b = true → p a = true) :
    xs.take (xs.filter p).length = xs.filter p := by
  induction xs with
  | nil => rfl
  | cons a xs ih =>
    obtain ⟨ha, hxs⟩ := List.pairwise_cons.mp h
    by_cases hp : p a = true
    · rw [List.filter_cons_of_pos hp, List.length_cons, List.take_succ_cons, ih hxs]
    · have hnone : xs.filter p = [] :=
        List.filter_eq_nil_iff.mpr fun b hb hpb => hp (ha b hb hpb)
      rw [List.filter_cons_of_neg hp, hnone]
      rfl

/-- No element after that front satisfies the condition. -/
theorem eq_false_of_mem_drop {xs : List α} (h : xs.Pairwise fun a b => p b = true → p a = true)
    {a : α} (ha : a ∈ xs.drop (xs.filter p).length) : p a = false := by
  induction xs with
  | nil => simp at ha
  | cons b xs ih =>
    obtain ⟨hb, hxs⟩ := List.pairwise_cons.mp h
    by_cases hp : p b = true
    · rw [List.filter_cons_of_pos hp, List.length_cons, List.drop_succ_cons] at ha
      exact ih hxs ha
    · rcases List.mem_cons.mp (List.mem_of_mem_drop ha) with rfl | ha
      · exact Bool.eq_false_iff.mpr hp
      · exact Bool.eq_false_iff.mpr fun hpa => hp (hb a ha hpa)

/-- Bisection counts the elements that satisfy the condition. -/
theorem bisect_eq_length_filter {xs : Array α}
    (h : xs.toList.Pairwise fun a b => p b = true → p a = true) :
    bisect p xs 0 xs.size = (xs.toList.filter p).length := by
  have hle : (xs.toList.filter p).length ≤ xs.size := by
    simpa using List.length_filter_le p xs.toList
  refine bisect_eq ?_ ?_ 0 xs.size (Nat.zero_le _) (by omega) (by omega)
  · intro i a ha hi
    obtain ⟨hlt, rfl⟩ := Array.getElem?_eq_some_iff.mp ha
    have hmem : xs[i] ∈ xs.toList.take (xs.toList.filter p).length := by
      rw [List.mem_take_iff_getElem]
      exact ⟨i, by simp; omega, by simp⟩
    rw [take_length_filter h] at hmem
    exact (List.mem_filter.mp hmem).2
  · intro i a ha hi
    obtain ⟨hlt, rfl⟩ := Array.getElem?_eq_some_iff.mp ha
    refine eq_false_of_mem_drop h ?_
    rw [List.mem_drop_iff_getElem]
    exact ⟨i - (xs.toList.filter p).length, by simp; omega, by simp [Nat.add_sub_cancel' hi]⟩

end

/-! ### Lookup -/

namespace Split

/-- The partitions that begin at a key or before it come first in a split. -/
theorem pairwise_begins (s : Split) (key : Int) :
    s.toList.Pairwise fun p q =>
      decide (q.startKey ≤ key) = true → decide (p.startKey ≤ key) = true := by
  refine s.ascending.imp fun {p q} hpq hq => ?_
  simp only [decide_eq_true_eq] at hq ⊢
  exact Int.le_trans hpq hq

/-- **A lookup is a linear scan**: the partition found is the last one, in the order of
the split, that begins at the key or before it. -/
theorem lookup_eq_getLast? (s : Split) (key : Int) :
    s.lookup key = (s.toList.filter (·.startKey ≤ key)).getLast? := by
  have hcount : s.beginsUpTo key = (s.toList.filter (·.startKey ≤ key)).length :=
    bisect_eq_length_filter (s.pairwise_begins key)
  have hfront := take_length_filter (s.pairwise_begins key)
  rw [lookup, hcount]
  generalize s.toList.filter (·.startKey ≤ key) = front at hfront
  rcases List.eq_nil_or_concat front with rfl | ⟨before, last, rfl⟩
  · rfl
  · have hlast : s.toList[before.length]? = some last := by
      have h := congrArg (·[before.length]?) hfront
      simpa [List.getElem?_take] using h
    simpa [toList] using hlast

/-- The partitions of a split are the ones it was made of. -/
@[simp] theorem mem_toList_ofList {ps : List Partition} {p : Partition} :
    p ∈ (ofList ps).toList ↔ p ∈ ps := by
  rw [toList_ofList, List.mem_mergeSort]

/-- A key is found no partition when every partition begins after it, and only then. -/
theorem lookup_eq_none_iff {s : Split} {key : Int} :
    s.lookup key = none ↔ ∀ p ∈ s.toList, key < p.startKey := by
  rw [lookup_eq_getLast?, List.getLast?_eq_none_iff, List.filter_eq_nil_iff]
  simp

/-- The partition found belongs to the split, begins at the key or before it, and no
partition that begins so begins after it. -/
theorem lookup_spec {s : Split} {key : Int} {p : Partition} (h : s.lookup key = some p) :
    p ∈ s.toList ∧ p.startKey ≤ key ∧
      ∀ q ∈ s.toList, q.startKey ≤ key → q.startKey ≤ p.startKey := by
  rw [lookup_eq_getLast?] at h
  obtain ⟨before, hsplit⟩ := List.getLast?_eq_some_iff.mp h
  have hp : p ∈ s.toList.filter (·.startKey ≤ key) := by rw [hsplit]; simp
  obtain ⟨hmem, hle⟩ := List.mem_filter.mp hp
  refine ⟨hmem, by simpa using hle, fun q hq hqle => ?_⟩
  have hqfront : q ∈ before ++ [p] := by
    rw [← hsplit]
    exact List.mem_filter.mpr ⟨hq, by simpa using hqle⟩
  have hsorted := s.ascending.filter (·.startKey ≤ key)
  change (s.toList.filter (·.startKey ≤ key)).Pairwise _ at hsorted
  rw [hsplit, List.pairwise_append] at hsorted
  rcases List.mem_append.mp hqfront with hq | hq
  · exact hsorted.2.2 q hq p (List.mem_singleton_self p)
  · obtain rfl := List.mem_singleton.mp hq
    exact Int.le_refl _

/-- The partition that begins after every other one that begins at the key or before
it is the one found. -/
theorem lookup_ofList_eq_some {ps : List Partition} {key : Int} {p : Partition} (hp : p ∈ ps)
    (hkey : p.startKey ≤ key)
    (hlast : ∀ q ∈ ps, q.startKey ≤ key → q = p ∨ q.startKey < p.startKey) :
    (ofList ps).lookup key = some p := by
  cases h : (ofList ps).lookup key with
  | none =>
    have hlt := lookup_eq_none_iff.mp h p (mem_toList_ofList.mpr hp)
    omega
  | some q =>
    obtain ⟨hq, hqle, hmax⟩ := lookup_spec h
    rcases hlast q (mem_toList_ofList.mp hq) hqle with rfl | hlt
    · rfl
    · have hle := hmax p (mem_toList_ofList.mpr hp) hkey
      omega

end Split

end QueryRouting
