import Mathlib.Data.List.Pairwise
import QueryRouting.Proofs.Cluster.Ingest
import QueryRouting.Proofs.Partition.Lookup

/-!
# Disjoint ranges

When no key lies in two ranges, a key that lies in one of them has an owner.  A lookup
looks at the first keys only, and finds the owner as long as no range without keys begins
between the first key of the owner and the key that is looked up: such a range is a valid
one, it is disjoint from every other, and from its first key on it hides the owner.

## Main definitions

* `Partition.Disjoint` — no key lies in both ranges.
* `Partition.IsVacant` — a range that ends where it begins.

## Main results

* `Split.lookup_ofList_of_disjoint` — a lookup finds the owner when no vacant range is in
  the way.
* `Split.exists_vacant_of_lookup` — and a vacant range when one is.
* `Cluster.lookup_owner` — both, for the tables after a refresh.
-/

namespace QueryRouting

namespace Partition

/-- No key lies in both ranges. -/
def Disjoint (p q : Partition) : Prop := ∀ key, ¬(p.contains key = true ∧ q.contains key = true)

/-- The range ends where it begins, so no key lies in it. -/
def IsVacant (p : Partition) : Prop := p.startKey = p.endKey

variable {p q : Partition} {key : Int}

theorem contains_iff : p.contains key = true ↔ p.startKey ≤ key ∧ key < p.endKey := by
  simp [contains]

theorem Disjoint.symm (h : p.Disjoint q) : q.Disjoint p := fun key hkey => h key hkey.symm

theorem IsVacant.contains_eq_false (h : p.IsVacant) (key : Int) : p.contains key = false := by
  have hends : p.startKey = p.endKey := h
  rw [Bool.eq_false_iff, Ne, contains_iff]
  omega

/-- A vacant range is disjoint from every other. -/
theorem IsVacant.disjoint (h : q.IsVacant) (p : Partition) : p.Disjoint q := by
  rintro key ⟨-, hkey⟩
  rw [h.contains_eq_false key] at hkey
  exact Bool.false_ne_true hkey

/-- A range that is disjoint from the owner of a key begins before the owner or after the
key, unless it is vacant. -/
theorem Disjoint.lt_or_isVacant (h : q.Disjoint p) (hvalid : q.isValid = true)
    (hkey : p.contains key = true) (hle : q.startKey ≤ key) :
    q.startKey < p.startKey ∨ q.IsVacant := by
  obtain ⟨hstart, hend⟩ := contains_iff.mp hkey
  obtain ⟨-, hends⟩ := isValid_iff.mp hvalid
  by_cases hvacant : q.IsVacant
  · exact Or.inr hvacant
  · left
    have hne : q.startKey ≠ q.endKey := hvacant
    -- Otherwise the first key of `q` lies in both ranges.
    by_contra hnot
    refine h q.startKey ⟨contains_iff.mpr ⟨Int.le_refl _, by omega⟩, contains_iff.mpr ?_⟩
    omega

end Partition

namespace Split

variable {ps : List Partition} {p : Partition} {key : Int}

/-- Of disjoint ranges that begin at a key or before it, one that is not its owner begins
before the owner, or is vacant. -/
theorem eq_or_lt_or_isVacant (hvalid : ∀ q ∈ ps, q.isValid = true)
    (hdisjoint : ps.Pairwise Partition.Disjoint) (hp : p ∈ ps) (hkey : p.contains key = true)
    {q : Partition} (hq : q ∈ ps) (hle : q.startKey ≤ key) :
    q = p ∨ q.startKey < p.startKey ∨ q.IsVacant := by
  by_cases he : q = p
  · exact Or.inl he
  · have : Std.Symm Partition.Disjoint := ⟨fun _ _ h => h.symm⟩
    have hdis : q.Disjoint p := hdisjoint.forall hq hp he
    exact Or.inr (hdis.lt_or_isVacant (hvalid q hq) hkey hle)

/-- **A lookup finds the owner of a key** among disjoint ranges, when no vacant range
begins from the first key of the owner up to the key. -/
theorem lookup_ofList_of_disjoint (hvalid : ∀ q ∈ ps, q.isValid = true)
    (hdisjoint : ps.Pairwise Partition.Disjoint) (hp : p ∈ ps) (hkey : p.contains key = true)
    (hclear : ∀ q ∈ ps, q.IsVacant → q.startKey < p.startKey ∨ key < q.startKey) :
    (ofList ps).lookup key = some p := by
  refine lookup_ofList_eq_some hp (Partition.contains_iff.mp hkey).1 fun q hq hle => ?_
  rcases eq_or_lt_or_isVacant hvalid hdisjoint hp hkey hq hle with he | hlt | hvacant
  · exact Or.inl he
  · exact Or.inr hlt
  · rcases hclear q hq hvacant with hlt | hafter
    · exact Or.inr hlt
    · omega

/-- A vacant range that begins after the first key of the owner and not after the key hides
the owner: a lookup finds a vacant range. -/
theorem exists_vacant_of_lookup (hvalid : ∀ q ∈ ps, q.isValid = true)
    (hdisjoint : ps.Pairwise Partition.Disjoint) (hp : p ∈ ps) (hkey : p.contains key = true)
    {q : Partition} (hq : q ∈ ps) (hafter : p.startKey < q.startKey) (hle : q.startKey ≤ key) :
    ∃ found, (ofList ps).lookup key = some found ∧ found.IsVacant := by
  cases h : (ofList ps).lookup key with
  | none =>
    have hlt := lookup_eq_none_iff.mp h q (mem_toList_ofList.mpr hq)
    omega
  | some found =>
    obtain ⟨hmem, hfound, hgreatest⟩ := lookup_spec h
    have hqfound := hgreatest q (mem_toList_ofList.mpr hq) hle
    rcases eq_or_lt_or_isVacant hvalid hdisjoint hp hkey (mem_toList_ofList.mp hmem) hfound with
      rfl | hlt | hvacant
    · omega
    · omega
    · exact ⟨found, rfl, hvacant⟩

end Split

/-- **The owner of a key is found.**  When the rows of a table have valid ranges and no key
lies in two of them, a key that lies in one is found the partition of that row, provided
that no row with a vacant range begins from the first key of the row up to the key.  A
row that begins after the first key of the row and not after the key is in the way: what is
found then is a vacant range, and the key does not lie in it. -/
theorem Cluster.lookup_owner {rows : List PartitionRow} {name : String} {registry : Registry}
    (hname : ∀ row ∈ rows, row.tableName = name) (hvalid : ∀ row ∈ rows, row.isValid = true)
    (hdisjoint : rows.Pairwise fun row other =>
      (row.partition registry).Disjoint (other.partition registry))
    (c : Cluster) {row : PartitionRow} (hrow : row ∈ rows) {k : Int}
    (hk : (row.partition registry).contains k = true) :
    ∃ split, (c.refresh registry rows).cluster.split? name = some split ∧
      ((∀ other ∈ rows, (other.partition registry).IsVacant →
          (other.partition registry).startKey < (row.partition registry).startKey ∨
            k < (other.partition registry).startKey) →
        split.lookup k = some (row.partition registry)) ∧
      ∀ other ∈ rows, (row.partition registry).startKey < (other.partition registry).startKey →
        (other.partition registry).startKey ≤ k →
          ∃ found, split.lookup k = some found ∧ found.IsVacant ∧ found.contains k = false := by
  -- No row is left out: all rows are valid, and of the one table.
  have hall : (rows.filter (·.isValid)).filter (·.tableName = name) = rows := by
    rw [List.filter_eq_self.mpr hvalid]
    exact List.filter_eq_self.mpr fun row hrow => by simpa using hname row hrow
  have hsplit : (c.refresh registry rows).cluster.split? name
      = some (.ofList (rows.map (·.partition registry))) := by
    rw [Cluster.split?_refresh, Tables.find?_ofRows,
      if_pos ⟨row, hrow, hvalid row hrow, hname row hrow⟩, Tables.splitOfRows, hall]
  have hvalid' : ∀ p ∈ rows.map (·.partition registry), p.isValid = true := by
    intro p hp
    obtain ⟨other, hother, rfl⟩ := List.mem_map.mp hp
    exact hvalid other hother
  have hdisjoint' := List.pairwise_map.mpr hdisjoint
  have hmem : ∀ other ∈ rows, other.partition registry ∈ rows.map (·.partition registry) :=
    fun other hother => List.mem_map.mpr ⟨other, hother, rfl⟩
  refine ⟨_, hsplit, fun hclear => ?_, fun other hother hafter hle => ?_⟩
  · refine Split.lookup_ofList_of_disjoint hvalid' hdisjoint' (hmem row hrow) hk fun q hq => ?_
    obtain ⟨other, hother, rfl⟩ := List.mem_map.mp hq
    exact hclear other hother
  · obtain ⟨found, hfound, hvacant⟩ := Split.exists_vacant_of_lookup hvalid' hdisjoint'
      (hmem row hrow) hk (hmem other hother) hafter hle
    exact ⟨found, hfound, hvacant, hvacant.contains_eq_false k⟩

namespace VacantRow

def row (startKey endKey : Bytes) : PartitionRow := ⟨"ks", "t", startKey, endKey, []⟩

def owner : PartitionRow := row [0, 10] [0, 20]

/-- The range of this row begins and ends within that of the owner. -/
def vacant : PartitionRow := row [0, 15] [0, 15]

/-- The tables after a refresh from the two rows. -/
def cluster : Cluster := ((default : Cluster).refresh .empty [vacant, owner]).cluster

/-- The partitions of the table. -/
def partitions : List Partition := [vacant.partition .empty, owner.partition .empty]

theorem disjoint : [vacant, owner].Pairwise fun row other =>
    (row.partition .empty).Disjoint (other.partition .empty) := by
  have hvacant : (vacant.partition .empty).IsVacant := rfl
  exact List.pairwise_pair.mpr (hvacant.disjoint _).symm

end VacantRow

open VacantRow in
/-- A key before the vacant range is found its owner. -/
theorem Cluster.lookup_owner_before_vacant :
    (∀ row ∈ [vacant, owner], row.isValid = true) ∧
      (owner.partition .empty).contains 14 = true ∧
      ∃ split, cluster.split? "ks.t" = some split ∧
        split.lookup 14 = some (owner.partition .empty) := by
  have hname : ∀ row ∈ [vacant, owner], row.tableName = "ks.t" := by decide
  have hvalid : ∀ row ∈ [vacant, owner], row.isValid = true := by decide
  have hk : (owner.partition .empty).contains 14 = true := by decide
  obtain ⟨split, hsplit, hfound, -⟩ := Cluster.lookup_owner hname hvalid disjoint default
    (List.mem_cons_of_mem _ List.mem_cons_self) hk
  refine ⟨hvalid, hk, split, hsplit, hfound fun other hother hvacant => ?_⟩
  have hcases : other = vacant ∨ other = owner := by simpa using hother
  rcases hcases with rfl | rfl
  · exact Or.inr (by decide)
  · exact absurd hvacant (by unfold Partition.IsVacant; decide)

open VacantRow in
/-- A key after the beginning of the vacant range is not found its owner, though the ranges
are valid and disjoint. -/
theorem Cluster.lookup_hidden_owner :
    (∀ row ∈ [vacant, owner], row.tableName = "ks.t" ∧ row.isValid = true) ∧
      ([vacant, owner].Pairwise fun row other =>
        (row.partition .empty).Disjoint (other.partition .empty)) ∧
      (owner.partition .empty).contains 17 = true ∧
      cluster.split? "ks.t" = some (.ofList partitions) ∧
      (Split.ofList partitions).lookup 17 = some (vacant.partition .empty) ∧
      (vacant.partition .empty).contains 17 = false := by
  refine ⟨by decide, disjoint, by decide, rfl, ?_, by decide⟩
  refine Split.lookup_ofList_eq_some List.mem_cons_self (by decide) fun q hq _ => ?_
  have hcases : q = vacant.partition .empty ∨ q = owner.partition .empty := by
    simpa [partitions] using hq
  rcases hcases with rfl | rfl
  · exact Or.inl rfl
  · exact Or.inr (by decide)

end QueryRouting
