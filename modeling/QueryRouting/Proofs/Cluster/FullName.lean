import QueryRouting.Proofs.Cluster.Publication
import QueryRouting.Proofs.Policy.Fallback

/-!
# Tables of one full name

Rows and statements meet in the full name of a table, the keyspace and the table with a point
between them.  Nothing keeps a point out of the names themselves, so that a table `b.c` of the
keyspace `a` and a table `c` of the keyspace `a.b` are one table to a refresh: their rows share
a split, and the statements of the one are led to the replicas of the other.  Two tables have
one full name in this way only, and where no such pair meets, every table is looked up as if
its own rows were the only ones.

## Main definitions

* `Alias` — two tables of one full name.
* `rowsOf` — the rows of one table.

## Main results

* `qualifiedName_eq_iff` — the tables of one full name.
* `unaliased_of_point_notMem` — a table without a point in its names has no alias.
* `Tables.find?_ofRows_rowsOf_iff` — when the split of a table is that of its own rows.
* `Cluster.tables_apart_iff` — when tables are kept apart.
-/

namespace QueryRouting

/-! ### Full names -/

/-- Two tables, each given by its keyspace and its name, have one full name: the keyspace of
one is the beginning of the other keyspace up to a point, and its name holds the rest. -/
inductive Alias : String → String → String → String → Prop where
  | shorter (keyspace middle table : String) :
    Alias keyspace (qualifiedName middle table) (qualifiedName keyspace middle) table
  | longer (keyspace middle table : String) :
    Alias (qualifiedName keyspace middle) table keyspace (qualifiedName middle table)

/-- A list with a mark in it is cut at two places where the mark stands. -/
theorem append_cons_eq_append_cons_iff {α : Type} {a b c d : List α} {x : α} :
    a ++ x :: b = c ++ x :: d ↔ (a = c ∧ b = d) ∨
      (∃ middle, c = a ++ x :: middle ∧ b = middle ++ x :: d) ∨
      ∃ middle, a = c ++ x :: middle ∧ d = middle ++ x :: b := by
  rw [List.append_eq_append_iff]
  constructor
  · rintro (⟨between, rfl, hb⟩ | ⟨between, rfl, hd⟩)
    · cases between with
      | nil => exact Or.inl ⟨by simp, (List.cons.inj hb).2⟩
      | cons y middle =>
        obtain ⟨rfl, rfl⟩ := List.cons.inj hb
        exact Or.inr (Or.inl ⟨middle, rfl, rfl⟩)
    · cases between with
      | nil => exact Or.inl ⟨by simp, (List.cons.inj hd).2.symm⟩
      | cons y middle =>
        obtain ⟨rfl, rfl⟩ := List.cons.inj hd
        exact Or.inr (Or.inr ⟨middle, rfl, rfl⟩)
  · rintro (⟨rfl, rfl⟩ | ⟨middle, rfl, rfl⟩ | ⟨middle, rfl, rfl⟩)
    · exact Or.inl ⟨[], by simp⟩
    · exact Or.inl ⟨x :: middle, rfl, rfl⟩
    · exact Or.inr ⟨x :: middle, rfl, rfl⟩

theorem toList_qualifiedName (keyspace table : String) :
    (qualifiedName keyspace table).toList = keyspace.toList ++ '.' :: table.toList := by
  simp [qualifiedName]

theorem eq_qualifiedName_of_toList {name keyspace : String} {table : List Char}
    (h : name.toList = keyspace.toList ++ '.' :: table) :
    name = qualifiedName keyspace (String.ofList table) := by
  rw [← String.toList_inj, toList_qualifiedName, h, String.toList_ofList]

/-- **The tables of one full name**: a table itself, and its aliases. -/
theorem qualifiedName_eq_iff {k t k' t' : String} :
    qualifiedName k t = qualifiedName k' t' ↔ (k = k' ∧ t = t') ∨ Alias k t k' t' := by
  constructor
  · intro h
    have hlists := congrArg String.toList h
    rw [toList_qualifiedName, toList_qualifiedName, append_cons_eq_append_cons_iff] at hlists
    rcases hlists with ⟨hk, ht⟩ | ⟨middle, hk, ht⟩ | ⟨middle, hk, ht⟩
    · exact Or.inl ⟨String.toList_inj.mp hk, String.toList_inj.mp ht⟩
    · have ht : t = qualifiedName (String.ofList middle) t' := by
        rw [← String.toList_inj, toList_qualifiedName, String.toList_ofList, ht]
      rw [eq_qualifiedName_of_toList hk, ht]
      exact Or.inr (.shorter ..)
    · have ht : t' = qualifiedName (String.ofList middle) t := by
        rw [← String.toList_inj, toList_qualifiedName, String.toList_ofList, ht]
      rw [eq_qualifiedName_of_toList hk, ht]
      exact Or.inr (.longer ..)
  · rintro (⟨rfl, rfl⟩ | halias)
    · rfl
    · cases halias <;> simp [qualifiedName, String.append_assoc]

namespace Alias

variable {k t k' t' : String}

/-- A table is no alias of itself: the longer keyspace is longer by a point at least. -/
theorem ne (h : Alias k t k' t') : k ≠ k' := by
  intro e
  have hlength := congrArg (fun s => s.toList.length) e
  cases h <;>
  · simp only [toList_qualifiedName, List.length_append, List.length_cons] at hlength
    omega

/-- Of two aliases the one has a point in its keyspace, and the other in its name. -/
theorem point_mem (h : Alias k t k' t') :
    ('.' ∈ k'.toList ∧ '.' ∈ t.toList) ∨ ('.' ∈ k.toList ∧ '.' ∈ t'.toList) := by
  cases h <;> simp [toList_qualifiedName]

end Alias

/-! ### Splits -/

/-- The rows of one table. -/
def rowsOf (keyspace table : String) (rows : List PartitionRow) : List PartitionRow :=
  rows.filter fun row => row.keyspace = keyspace ∧ row.table = table

/-- The rows with a range, none of which belongs to an alias of the table. -/
def Unaliased (keyspace table : String) (rows : List PartitionRow) : Prop :=
  ∀ row ∈ rows, row.Ranged → ¬Alias keyspace table row.keyspace row.table

/-- **A table without a point in its names has no alias**, whatever rows there are. -/
theorem unaliased_of_point_notMem {keyspace table : String} {rows : List PartitionRow}
    (hkeyspace : '.' ∉ keyspace.toList) (htable : '.' ∉ table.toList) :
    Unaliased keyspace table rows := by
  intro row _ _ halias
  rcases halias.point_mem with ⟨-, hpoint⟩ | ⟨hpoint, -⟩
  · exact htable hpoint
  · exact hkeyspace hpoint

namespace Tables

variable {registry : Registry} {rows : List PartitionRow} {keyspace table : String}

/-- A split has a partition for each of its rows. -/
theorem getD_size_find?_ofRows {name : String} :
    (((ofRows registry rows).find? name).map Split.size).getD 0 = (named rows name).length := by
  rw [find?_ofRows_named]
  split
  · next hnone => simp [hnone]
  · simp

/-- The rows of one full name are those of one table, as far as no alias is among them. -/
theorem named_rowsOf (h : Unaliased keyspace table rows) :
    named (rowsOf keyspace table rows) (qualifiedName keyspace table)
      = named rows (qualifiedName keyspace table) := by
  simp only [named, rowsOf, List.filter_filter]
  refine List.filter_congr fun row hrow => ?_
  by_cases hvalid : row.isValid = true
  · have hnone := h row hrow (PartitionRow.isValid_iff_ranged.mp hvalid)
    by_cases hname : row.tableName = qualifiedName keyspace table
    · rcases qualifiedName_eq_iff.mp hname.symm with ⟨rfl, rfl⟩ | halias
      · simp [hvalid, hname]
      · exact absurd halias hnone
    · simp [hname]
  · simp [hvalid]

/-- A table with a split of its own rows has no row with a range of an alias beside them. -/
theorem unaliased_of_length_named
    (h : (named (rowsOf keyspace table rows) (qualifiedName keyspace table)).length
      = (named rows (qualifiedName keyspace table)).length) :
    Unaliased keyspace table rows := by
  intro row hrow hranged halias
  have hsub : (named (rowsOf keyspace table rows) (qualifiedName keyspace table)).Sublist
      (named rows (qualifiedName keyspace table)) :=
    (List.filter_sublist.filter _).filter _
  have hmem : row ∈ named rows (qualifiedName keyspace table) := by
    simp only [named, List.mem_filter, decide_eq_true_eq]
    exact ⟨⟨hrow, PartitionRow.isValid_iff_ranged.mpr hranged⟩,
      (qualifiedName_eq_iff.mpr (Or.inr halias)).symm⟩
  rw [← hsub.eq_of_length h] at hmem
  simp only [named, rowsOf, List.mem_filter, decide_eq_true_eq] at hmem
  exact halias.ne hmem.1.1.2.1.symm

/-- **The split of a table is that of its own rows** when no row with a range belongs to an
alias of it, and only then: the split has a partition more for every such row. -/
theorem find?_ofRows_rowsOf_iff :
    (ofRows registry rows).find? (qualifiedName keyspace table)
        = (ofRows registry (rowsOf keyspace table rows)).find? (qualifiedName keyspace table) ↔
      Unaliased keyspace table rows := by
  constructor
  · intro h
    apply unaliased_of_length_named
    have hsizes := congrArg (fun found => (found.map Split.size).getD 0) h
    simp only [getD_size_find?_ofRows] at hsizes
    exact hsizes.symm
  · intro h
    rw [find?_ofRows_named, find?_ofRows_named, named_rowsOf h]

end Tables

/-! ### Placements -/

namespace Cluster

variable {c : Cluster} {keyspace : Option String} {level : Option Consistency} {b : Bound}

/-- Of all tables, a placement reads the one of its statement. -/
theorem place_congr {c' : Cluster} (hlevel : c.defaultLevel = c'.defaultLevel)
    (hsplit : ∀ name, b.prepared.tableName? keyspace = some name → c.split? name = c'.split? name) :
    c.place keyspace level b = c'.place keyspace level b := by
  have hlevelOf : c.levelOf level b = c'.levelOf level b := by rw [levelOf, levelOf, hlevel]
  rw [place, place, hlevelOf]
  cases htable : b.prepared.tableName? keyspace with
  | none => rfl
  | some name => simp only [hsplit name htable]

/-- A placement after a refresh is in the partition of a row of that name. -/
theorem exists_describes_of_place {registry : Registry} {rows : List PartitionRow}
    {placement : Placement}
    (h : (c.refresh registry rows).cluster.place keyspace level b = .ok placement) :
    ∃ row ∈ rows, row.Describes registry placement.partition := by
  obtain ⟨-, -, -, ⟨split, hsplit, hlookup⟩, -, -⟩ := place_eq_ok_iff.mp h
  rw [split?_refresh] at hsplit
  obtain ⟨row, hrow, hvalid, -, hpartition⟩ :=
    Tables.exists_row_of_mem hsplit (Split.lookup_spec hlookup).1
  exact ⟨row, hrow, PartitionRow.describes_iff.mpr
    ⟨PartitionRow.isValid_iff_ranged.mp hvalid, hpartition⟩⟩

/-- **When tables are kept apart.**  A split that a refresh publishes is that of the rows of
one table exactly when no two rows with a range, of its full name, belong to aliases.  The split
under which a table is looked up is the one that its own rows would give alone exactly when no
row with a range belongs to an alias of the table.  Then the statements of the table are placed
as if there were no other rows, and always in the partition of a row of this keyspace and this
table. -/
theorem tables_apart_iff (c : Cluster) (registry : Registry) (rows : List PartitionRow) :
    let refreshed := fun rows => (c.refresh registry rows).cluster
    (∀ name split, (refreshed rows).split? name = some split →
      ((∃ keyspace table, qualifiedName keyspace table = name ∧
          (refreshed (rowsOf keyspace table rows)).split? name = some split) ↔
        ∀ row ∈ rows, ∀ other ∈ rows, row.Ranged → other.Ranged → row.tableName = name →
          ¬Alias row.keyspace row.table other.keyspace other.table)) ∧
    ∀ keyspace table,
      ((refreshed rows).split? (qualifiedName keyspace table)
          = (refreshed (rowsOf keyspace table rows)).split? (qualifiedName keyspace table) ↔
        Unaliased keyspace table rows) ∧
      (Unaliased keyspace table rows → ∀ fallback level, ∀ b : Bound,
        b.prepared.keyspace.or fallback = some keyspace → b.prepared.table = table →
          (refreshed rows).place fallback level b
              = (refreshed (rowsOf keyspace table rows)).place fallback level b ∧
            ∀ placement, (refreshed rows).place fallback level b = .ok placement →
              ∃ row ∈ rows, row.keyspace = keyspace ∧ row.table = table ∧
                row.Describes registry placement.partition) := by
  intro refreshed
  have hown : ∀ keyspace table,
      (refreshed rows).split? (qualifiedName keyspace table)
          = (refreshed (rowsOf keyspace table rows)).split? (qualifiedName keyspace table) ↔
        Unaliased keyspace table rows := by
    intro keyspace table
    rw [split?_refresh, split?_refresh]
    exact Tables.find?_ofRows_rowsOf_iff
  refine ⟨fun name split hsplit => ⟨?_, fun hapart => ?_⟩, fun keyspace table => ⟨hown _ _, ?_⟩⟩
  · rintro ⟨keyspace, table, rfl, hsame⟩ row hrow other hother hranged hothers hname halias
    have hunaliased := (hown keyspace table).mp (hsplit.trans hsame.symm)
    -- Both rows have the full name, and so both belong to the table itself.
    rcases qualifiedName_eq_iff.mp hname.symm with ⟨rfl, rfl⟩ | hrowAlias
    · exact hunaliased other hother hothers halias
    · exact hunaliased row hrow hranged hrowAlias
  · have hname : name ∈ (Tables.ofRows registry rows).names :=
      Tables.mem_names_iff.mpr ⟨split, split?_refresh c registry rows name ▸ hsplit⟩
    obtain ⟨row, hrow, hranged, rfl⟩ :=
      ((Tables.published_ofRows registry rows).names name).mp hname
    refine ⟨row.keyspace, row.table, rfl, ?_⟩
    rw [← hsplit]
    exact ((hown row.keyspace row.table).mpr fun other hother hothers =>
      hapart row hrow other hother hranged hothers rfl).symm
  · rintro hunaliased fallback level b hkeyspace rfl
    have hplace : (refreshed rows).place fallback level b
        = (refreshed (rowsOf keyspace b.prepared.table rows)).place fallback level b := by
      refine place_congr rfl fun name hname => ?_
      obtain ⟨k, hk, rfl⟩ := Prepared.tableName?_eq_some_iff.mp hname
      obtain rfl := Option.some.inj (hkeyspace.symm.trans hk)
      exact (hown _ _).mpr hunaliased
    refine ⟨hplace, fun placement hplaced => ?_⟩
    obtain ⟨row, hrow, hdescribes⟩ := exists_describes_of_place (hplace.symm.trans hplaced)
    obtain ⟨hrow, htable⟩ := List.mem_filter.mp hrow
    obtain ⟨hkeyspace, htable⟩ := of_decide_eq_true htable
    exact ⟨row, hrow, hkeyspace, htable, hdescribes⟩

namespace Confusion

open SmallCluster

/-- Two hosts, each the replica of one of the tables. -/
def registry : Registry := (Registry.empty.insert (host 0 1)).insert (host 1 2)

/-- The only row of the table `b.c` of the keyspace `a`. -/
def short : PartitionRow := ⟨"a", "b.c", [], [], [(.v4 1, .leader)]⟩

/-- The only row of the table `c` of the keyspace `a.b`. -/
def long : PartitionRow := ⟨"a.b", "c", [], [], [(.v4 2, .leader)]⟩

/-- The cluster after a refresh from rows. -/
def cluster (rows : List PartitionRow) : Cluster :=
  ((default : Cluster).refresh registry rows).cluster

/-- A statement of the table of a row. -/
def statement (row : PartitionRow) : Bound :=
  { bound none with prepared :=
      { (bound none).prepared with keyspace := some row.keyspace, table := row.table } }

end Confusion

open SmallCluster Confusion in
/-- Rows of other tables do not disturb a table without a point in its names. -/
theorem tables_apart_beside_points :
    Unaliased "ks" "t" [long, row [] [] [(.v4 1, .leader)], short] ∧
      (cluster [long, row [] [] [(.v4 1, .leader)], short]).place none none (bound none)
        = (cluster [row [] [] [(.v4 1, .leader)]]).place none none (bound none) := by
  have hunaliased : Unaliased "ks" "t" [long, row [] [] [(.v4 1, .leader)], short] :=
    unaliased_of_point_notMem (by decide) (by decide)
  have happart := (tables_apart_iff default registry
    [long, row [] [] [(.v4 1, .leader)], short]).2 "ks" "t"
  exact ⟨hunaliased, (happart.2 hunaliased none none (bound none) rfl rfl).1⟩

open Confusion in
/-- **Two tables of one full name are taken for one.**  The partitions of both stand in one
split, and a statement of the one is placed in the partition of the other. -/
theorem tables_confused :
    (cluster [short, long]).split? "a.b.c"
        = some (.ofList [short.partition registry, long.partition registry]) ∧
      (cluster [long]).place none none (statement short)
        = .ok ⟨"a.b.c", 19780, long.partition registry, .localOne⟩ ∧
      (short.keyspace, short.table) ≠ (long.keyspace, long.table) :=
  ⟨rfl, by decide +kernel, by decide⟩

end Cluster

end QueryRouting
