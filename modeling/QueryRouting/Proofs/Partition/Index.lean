import Mathlib.Data.List.Nodup
import QueryRouting.Proofs.Partition.Lookup

/-!
# A split as an index

A split answers a lookup by bisection over the first keys of its partitions.  What it
answers can be said of the list that it was made of, without order and without bisection:
the partition found begins at the key or before it and later than all others that do, and
of several that begin together it is the one that came last, save that at their very key
any of them may be found.

## Main definitions

* `StableSort key xs sorted` — `sorted` is `xs` in the order of a key, and elements of one
  key have kept their order.
* `Split.firstKeys` — the first keys of the partitions of a split.
* `Scanned ps key p` — what a scan of the partitions `ps` for a key may find.

## Main results

* `StableSort.unique` — a list has one stable sort.
* `Split.stableSort_ofList` — a split holds the stable sort of its partitions.
* `Split.scanned_of_lookup` — a lookup finds what a scan may find.
* `Split.index_eq_scan` — the index as a whole.
-/

namespace QueryRouting

/-! ### Stable sorts -/

section

variable {α : Type}

/-- `sorted` holds the elements of `xs` in the order of their keys, and those of one key in
the order of `xs`. -/
structure StableSort (key : α → Int) (xs sorted : List α) : Prop where
  ascending : sorted.Pairwise fun a b => key a ≤ key b
  /-- The elements of each key are the same on both sides, in the same order. -/
  stable : ∀ k, sorted.filter (key · = k) = xs.filter (key · = k)

variable {key : α → Int} {xs sorted sorted' : List α} {a b : α}

/-- The first element of an ordered list has the least key. -/
theorem key_head_le (h : (a :: sorted).Pairwise fun a b => key a ≤ key b)
    (hb : b ∈ a :: sorted) : key a ≤ key b := by
  rcases List.mem_cons.mp hb with rfl | hb
  · exact Int.le_refl _
  · exact (List.pairwise_cons.mp h).1 b hb

/-- **A list has one stable sort.** -/
theorem StableSort.unique (h : StableSort key xs sorted) (h' : StableSort key xs sorted') :
    sorted = sorted' := by
  have hclass : ∀ k, sorted.filter (key · = k) = sorted'.filter (key · = k) :=
    fun k => (h.stable k).trans (h'.stable k).symm
  have hmem : ∀ c, c ∈ sorted ↔ c ∈ sorted' := by
    intro c
    have := congrArg (c ∈ ·) (hclass (key c))
    simpa using this
  have hasc := h.ascending
  have hasc' := h'.ascending
  clear h h'
  -- The heads have the least key, so both begin the list of the elements of that key.
  induction sorted generalizing sorted' with
  | nil =>
    cases sorted' with
    | nil => rfl
    | cons b bs => exact absurd ((hmem b).mpr List.mem_cons_self) List.not_mem_nil
  | cons a as ih =>
    cases sorted' with
    | nil => exact absurd ((hmem a).mp List.mem_cons_self) List.not_mem_nil
    | cons b bs =>
      have hkey : key a = key b := Int.le_antisymm
        (key_head_le hasc ((hmem b).mpr List.mem_cons_self))
        (key_head_le hasc' ((hmem a).mp List.mem_cons_self))
      have hhead := hclass (key a)
      rw [List.filter_cons_of_pos (by simp), List.filter_cons_of_pos (by simp [hkey])] at hhead
      obtain ⟨rfl, htail⟩ := List.cons.inj hhead
      have hclass' : ∀ k, as.filter (key · = k) = bs.filter (key · = k) := by
        intro k
        by_cases hk : key a = k
        · rw [← hk]
          exact htail
        · have := hclass k
          rwa [List.filter_cons_of_neg (by simpa using hk),
            List.filter_cons_of_neg (by simpa using hk)] at this
      rw [ih hclass' (fun c => ?_) (List.pairwise_cons.mp hasc).2 (List.pairwise_cons.mp hasc').2]
      have := congrArg (c ∈ ·) (hclass' (key c))
      simpa using this

end

/-! ### Bisection over the first keys -/

/-- Bisection over a list of images looks at the same places. -/
theorem bisect_map {α β : Type} (f : α → β) (p : β → Bool) (xs : Array α) (low width : Nat) :
    bisect p (xs.map f) low width = bisect (fun a => p (f a)) xs low width := by
  induction low, width using bisect.induct p (xs.map f) with
  | case1 low => rw [bisect, if_pos rfl, bisect, if_pos rfl]
  | case2 low width hne middle hmiddle ih =>
    have hmiddle' : xs[middle]?.any (fun a => p (f a)) = true := by
      simpa [Option.any_map, Function.comp_def] using hmiddle
    rw [bisect, if_neg hne, if_pos hmiddle, ih]
    conv => rhs; rw [bisect, if_neg hne, if_pos hmiddle']
  | case3 low width hne middle hmiddle ih =>
    have hmiddle' : ¬xs[middle]?.any (fun a => p (f a)) = true := by
      simpa [Option.any_map, Function.comp_def] using hmiddle
    rw [bisect, if_neg hne, if_neg hmiddle, ih]
    conv => rhs; rw [bisect, if_neg hne, if_neg hmiddle']

namespace Split

/-- The first keys of the partitions, in order. -/
def firstKeys (s : Split) : Array Int := s.partitions.map (·.startKey)

/-- The first keys alone decide where a key belongs. -/
theorem beginsUpTo_eq_bisect_firstKeys (s : Split) (key : Int) :
    s.beginsUpTo key = bisect (· ≤ key) s.firstKeys 0 s.firstKeys.size := by
  rw [firstKeys, bisect_map, Array.size_map]
  rfl

/-- **A split holds the stable sort of the partitions that it is made of.** -/
theorem stableSort_ofList (ps : List Partition) :
    StableSort Partition.startKey ps (ofList ps).toList where
  ascending := (ofList ps).ascending
  stable k := by
    rw [toList_ofList]
    have hclass : (ps.filter (·.startKey = k)).Pairwise fun p q => beginsBy p q = true := by
      refine List.pairwise_of_forall_mem_list fun p hp q hq => ?_
      have hpk : p.startKey = k := by simpa using (List.mem_filter.mp hp).2
      have hqk : q.startKey = k := by simpa using (List.mem_filter.mp hq).2
      simp [beginsBy, hpk, hqk]
    have hsub : (ps.filter (·.startKey = k)).Sublist (ps.mergeSort beginsBy) :=
      List.sublist_mergeSort
        (fun p q r hpq hqr => by
          simp only [beginsBy, decide_eq_true_eq] at *
          exact Int.le_trans hpq hqr)
        (fun p q => by
          simp only [beginsBy, Bool.or_eq_true, decide_eq_true_eq]
          exact Int.le_total ..)
        hclass List.filter_sublist
    have hsub' := hsub.filter (·.startKey = k)
    rw [List.filter_filter] at hsub'
    simp only [Bool.and_self] at hsub'
    refine (hsub'.eq_of_length ?_).symm
    exact ((List.mergeSort_perm ps beginsBy).filter _).length_eq.symm

end Split

/-! ### Scans -/

/-- What a scan of the partitions `ps` for a key may find: one that begins at the key or
before it, and after no other that does.  Of several that begin together before the key it
is the last one. -/
structure Scanned (ps : List Partition) (key : Int) (p : Partition) : Prop where
  mem : p ∈ ps
  begins : p.startKey ≤ key
  greatest : ∀ q ∈ ps, q.startKey ≤ key → q.startKey ≤ p.startKey
  last : (∀ q ∈ ps, q.startKey ≠ key) →
    ∃ before after, ps = before ++ p :: after ∧ ∀ q ∈ after, q.startKey ≠ p.startKey

namespace Split

variable {ps qs : List Partition} {key : Int} {p : Partition}

/-- The partition found is the last one, in the order given, of those that begin with it. -/
theorem exists_append_of_lookup (h : (ofList ps).lookup key = some p) :
    ∃ before after, ps = before ++ p :: after ∧ ∀ q ∈ after, q.startKey ≠ p.startKey := by
  obtain ⟨-, hle, -⟩ := lookup_spec h
  rw [lookup_eq_getLast?] at h
  obtain ⟨front, hfront⟩ := List.getLast?_eq_some_iff.mp h
  have htogether : ((ofList ps).toList.filter (·.startKey ≤ key)).filter
        (·.startKey = p.startKey)
      = (ofList ps).toList.filter (·.startKey = p.startKey) := by
    rw [List.filter_filter]
    refine List.filter_congr fun q _ => ?_
    by_cases hq : q.startKey = p.startKey <;> simp [hq, hle]
  rw [hfront, (stableSort_ofList ps).stable, List.filter_append,
    List.filter_cons_of_pos (by simp), List.filter_nil] at htogether
  obtain ⟨before, later, rfl, -, hlater⟩ := List.filter_eq_append_iff.mp htogether.symm
  obtain ⟨passed, after, rfl, -, -, hafter⟩ := List.filter_eq_cons_iff.mp hlater
  refine ⟨before ++ passed, after, by simp, ?_⟩
  simpa using List.filter_eq_nil_iff.mp hafter

/-- **A lookup finds what a scan may find.** -/
theorem scanned_of_lookup (h : (ofList ps).lookup key = some p) : Scanned ps key p := by
  obtain ⟨hmem, hle, hgreatest⟩ := lookup_spec h
  exact {
    mem := mem_toList_ofList.mp hmem
    begins := hle
    greatest := fun q hq => hgreatest q (mem_toList_ofList.mpr hq)
    last := fun _ => exists_append_of_lookup h }

/-- When no two partitions begin together, their order does not matter. -/
theorem lookup_eq_of_perm (hperm : qs.Perm ps) (hdistinct : (ps.map (·.startKey)).Nodup)
    (key : Int) : (ofList qs).lookup key = (ofList ps).lookup key := by
  cases h : (ofList ps).lookup key with
  | none =>
    have hlt := lookup_eq_none_iff.mp h
    refine lookup_eq_none_iff.mpr fun q hq => hlt q ?_
    exact mem_toList_ofList.mpr (hperm.mem_iff.mp (mem_toList_ofList.mp hq))
  | some p =>
    have hp := scanned_of_lookup h
    refine lookup_ofList_eq_some (hperm.mem_iff.mpr hp.mem) hp.begins fun q hq hqle => ?_
    have hq := hperm.mem_iff.mp hq
    rcases Int.lt_or_eq_of_le (hp.greatest q hq hqle) with hlt | heq
    · exact Or.inr hlt
    · exact Or.inl (List.inj_on_of_nodup_map hdistinct hq hp.mem heq)

/-- **The index answers as a scan of the partitions would.**  It holds their stable sort,
and the first keys at the same places; bisection over these alone finds the place of a
partition.  Nothing is found exactly when every partition begins after the key, and
otherwise what a scan may find.  When no two partitions begin together, a lookup does not
depend on the order in which they were given. -/
theorem index_eq_scan (ps : List Partition) :
    (∀ sorted, StableSort Partition.startKey ps sorted ↔ sorted = (ofList ps).toList) ∧
      (∀ i : Nat, (ofList ps).firstKeys[i]? = (ofList ps).partitions[i]?.map (·.startKey)) ∧
      (∀ key, (ofList ps).lookup key =
        match bisect (· ≤ key) (ofList ps).firstKeys 0 (ofList ps).firstKeys.size with
        | 0 => none
        | n + 1 => (ofList ps).partitions[n]?) ∧
      (∀ key, ((ofList ps).lookup key = none ↔ ∀ p ∈ ps, key < p.startKey) ∧
        ∀ p, (ofList ps).lookup key = some p → Scanned ps key p) ∧
      ((ps.map (·.startKey)).Nodup →
        ∀ qs : List Partition, qs.Perm ps →
          ∀ key, (ofList qs).lookup key = (ofList ps).lookup key) := by
  refine ⟨fun sorted => ⟨fun h => h.unique (stableSort_ofList ps), ?_⟩, fun i => ?_, fun key => ?_,
    fun key => ⟨?_, fun p => scanned_of_lookup⟩, fun hdistinct qs hperm =>
      lookup_eq_of_perm hperm hdistinct⟩
  · rintro rfl
    exact stableSort_ofList ps
  · rw [firstKeys, Array.getElem?_map]
  · rw [← beginsUpTo_eq_bisect_firstKeys]
    rfl
  · rw [lookup_eq_none_iff]
    simp only [mem_toList_ofList]

end Split

end QueryRouting
