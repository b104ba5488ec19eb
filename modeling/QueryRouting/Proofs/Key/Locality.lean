import Mathlib.Data.List.Forall2
import QueryRouting.Key.Routing

/-!
# What a key depends on

The key of a row depends on the routed columns alone, in key order: on the type and the value
that each routing index names.  Two rows in which the indexes name the same, one after another,
have the same key, or the same error.  So the other columns may be changed, added and dropped, and
all columns may stand in another order as long as the indexes follow them.

A fault is a matter of the routed columns too, save that an index without a type or a value is
reported with the number of types or values that there are.

## Main definitions

* `SameComponent types types' values values' index index'` — an index names the same in one row
  as another index in another row.

## Main results

* `routedColumns_congr`, `routingKey_congr` — rows in which the indexes name the same.
* `partitionKey?_congr` — rows in which the indexes name the same or nothing.
* `key_of_sameComponents` — what a key depends on.
-/

namespace QueryRouting

/-! ### Indexes that name the same -/

section

variable {types types' : List ColumnType} {values values' : List Value}
  {index index' : Nat} {indexes indexes' : List Nat}

/-- Two routing indexes, each into a row of its own, that name one type and one value. -/
def SameComponent (types types' : List ColumnType) (values values' : List Value)
    (index index' : Nat) : Prop :=
  ∃ type value, (types[index]? = some type ∧ values[index]? = some value) ∧
    types'[index']? = some type ∧ values'[index']? = some value

theorem SameComponent.routedBytes_eq (h : SameComponent types types' values values' index index') :
    routedBytes types values index = routedBytes types' values' index' := by
  obtain ⟨type, value, ⟨htype, hvalue⟩, htype', hvalue'⟩ := h
  rw [routedBytes, routedBytes, routedComponent, routedComponent, htype, hvalue, htype', hvalue']

/-- **Columns that are named the same have the same bytes together**, or the same error. -/
theorem routedColumns_congr
    (h : List.Forall₂ (SameComponent types types' values values') indexes indexes') :
    routedColumns types values indexes = routedColumns types' values' indexes' := by
  induction h with
  | nil => rfl
  | cons hfirst _ ih => rw [routedColumns, routedColumns, hfirst.routedBytes_eq, ih]

theorem routingKey_congr
    (h : List.Forall₂ (SameComponent types types' values values') indexes indexes') :
    routingKey indexes types values = routingKey indexes' types' values' := by
  have hcolumns := routedColumns_congr h
  cases h with
  | nil => rfl
  | cons _ _ => exact hcolumns

/-! ### Indexes that name the same or nothing -/

/-- Without the error it does not matter how many types and values there are. -/
theorem toOption_routedBytes_congr (htype : types[index]? = types'[index']?)
    (hvalue : values[index]? = values'[index']?) :
    (routedBytes types values index).toOption = (routedBytes types' values' index').toOption := by
  rw [routedBytes, routedBytes, routedComponent, routedComponent, htype, hvalue]
  cases types'[index']? with
  | none => rfl
  | some type =>
    cases values'[index']? with
    | none => rfl
    | some value => rfl

theorem toOption_routedColumns_cons (types : List ColumnType) (values : List Value) (index : Nat)
    (later : List Nat) :
    (routedColumns types values (index :: later)).toOption = do
      return (← (routedBytes types values index).toOption)
        ++ (← (routedColumns types values later).toOption) := by
  rw [routedColumns]
  cases routedBytes types values index with
  | error e => rfl
  | ok front => cases routedColumns types values later <;> rfl

theorem toOption_routedColumns_congr (h : List.Forall₂ (fun i i' => types[i]? = types'[i']? ∧
      values[i]? = values'[i']?) indexes indexes') :
    (routedColumns types values indexes).toOption
      = (routedColumns types' values' indexes').toOption := by
  induction h with
  | nil => rfl
  | cons hfirst _ ih =>
    rw [toOption_routedColumns_cons, toOption_routedColumns_cons,
      toOption_routedBytes_congr hfirst.1 hfirst.2, ih]

theorem partitionKey?_eq_map (types : List ColumnType) (values : List Value) (indexes : List Nat) :
    partitionKey? indexes types values
      = (routingKey indexes types values).toOption.map keyOfBytes := by
  rw [partitionKey?, partitionKey]
  cases routingKey indexes types values <;> rfl

/-- **Rows in which the indexes name the same or nothing have the same partition key**, if any. -/
theorem partitionKey?_congr (h : List.Forall₂ (fun i i' => types[i]? = types'[i']? ∧
      values[i]? = values'[i']?) indexes indexes') :
    partitionKey? indexes types values = partitionKey? indexes' types' values' := by
  have hcolumns := toOption_routedColumns_congr h
  rw [partitionKey?_eq_map, partitionKey?_eq_map]
  cases h with
  | nil => rfl
  | cons _ _ => exact congrArg (Option.map keyOfBytes) hcolumns

end

/-! ### Two rows -/

/-- **The key depends on the routed columns alone**, in key order.  Rows in which the indexes name
the same types and the same values one after another have the same bytes and the same key, or the
same error.  When a row is changed in any way that leaves what the indexes name, at other places
or the same, the key stays: the columns may be permuted, and those that are not routed may be
changed, added and dropped. -/
theorem key_of_sameComponents :
    (∀ {types types' values values' indexes indexes'},
      List.Forall₂ (SameComponent types types' values values') indexes indexes' →
        routingKey indexes types values = routingKey indexes' types' values' ∧
        partitionKey indexes types values = partitionKey indexes' types' values' ∧
        partitionKey? indexes types values = partitionKey? indexes' types' values') ∧
    (∀ {types types' values values' indexes} (place : Nat → Nat),
      (∀ i ∈ indexes, types'[place i]? = types[i]? ∧ values'[place i]? = values[i]?) →
        partitionKey? (indexes.map place) types' values' = partitionKey? indexes types values) := by
  constructor
  · intro types types' values values' indexes indexes' h
    have hkey := routingKey_congr h
    have hpartition : partitionKey indexes types values = partitionKey indexes' types' values' :=
      congrArg (keyOfBytes <$> ·) hkey
    exact ⟨hkey, hpartition, congrArg Except.toOption hpartition⟩
  · intro types types' values values' indexes place h
    apply partitionKey?_congr
    rw [List.forall₂_map_left_iff, List.forall₂_same]
    exact h

namespace Reordered

/-- The key takes the text before the number. -/
def types : List ColumnType := [.int, .text]

def values : List Value := [.int 7, .text "user"]

/-- The columns the other way round, with one between them and a value too many. -/
def otherTypes : List ColumnType := [.text, .boolean, .int]

def otherValues : List Value := [.text "user", .null, .int 7, .blob [1]]

/-- Where the columns have gone. -/
def place (index : Nat) : Nat := 2 - 2 * index

end Reordered

open Reordered in
/-- A row whose columns are turned round, with others that are not routed. -/
theorem key_of_sameComponents_reordered :
    List.Forall₂ (SameComponent types otherTypes values otherValues) [1, 0] [0, 2] ∧
      partitionKey [1, 0] types values = .ok 1351 ∧
      partitionKey [0, 2] otherTypes otherValues = .ok 1351 ∧
      partitionKey? ([1, 0].map place) otherTypes otherValues = some 1351 := by
  have hsame : List.Forall₂ (SameComponent types otherTypes values otherValues) [1, 0] [0, 2] :=
    .cons ⟨.text, .text "user", ⟨rfl, rfl⟩, rfl, rfl⟩
      (.cons ⟨.int, .int 7, ⟨rfl, rfl⟩, rfl, rfl⟩ .nil)
  have hplace : ∀ i ∈ [1, 0], otherTypes[place i]? = types[i]? ∧
      otherValues[place i]? = values[i]? := by
    intro i hi
    simp only [List.mem_cons, List.not_mem_nil, or_false] at hi
    obtain rfl | rfl := hi
    · exact ⟨rfl, rfl⟩
    · exact ⟨rfl, rfl⟩
  have hkey : partitionKey [1, 0] types values = .ok 1351 := by decide
  obtain ⟨-, hother, -⟩ := key_of_sameComponents.1 hsame
  have hmoved := key_of_sameComponents.2 place hplace
  refine ⟨hsame, hkey, hother ▸ hkey, ?_⟩
  rw [hmoved, partitionKey?, hkey]
  rfl

end QueryRouting
