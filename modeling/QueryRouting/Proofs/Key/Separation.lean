import QueryRouting.Key.Routing
import QueryRouting.Proofs.Key.Timestamp

/-!
# Taking a routing key apart

The encodings of the routed columns follow one another with nothing between them, so a
routing key does not say where one of them ends.  When at most one of them may vary in
length, it need not: the others have their widths, and the one that varies shares what is left
with itself, as often as it is routed.  Then the key determines the bytes of every routed
column, and with them the value, save for what a timestamp loses beyond milliseconds.

With two columns that vary in length there are rows of different values and one key.

## Main definitions

* `ColumnType.isVariable`, `ColumnType.width` — the types whose encodings vary in length, and
  the length in the other types.
* `SameToMilli value value'` — the values that one encoding stands for.
* `NoLonger types values values' index` — a column takes no more bytes in one row than in
  another.

## Main results

* `length_of_encode` — a type that does not vary has its width.
* `sameToMilli_of_encode` — values with one encoding are the same to the millisecond.
* `noLonger_or_noLonger` — one of two rows has no column longer than in the other.
* `routedBytes_of_routedColumns` — then columns with one key have the same bytes, one by one.
* `same_of_routingKey` — rows with one routing key have the same values in it.
-/

namespace QueryRouting

/-- Whether values of the type have encodings of several lengths. -/
def ColumnType.isVariable : ColumnType → Bool
  | text | varchar | ascii | blob | inet => true
  | _ => false

/-- The number of bytes of every encoding of the type, when it does not vary. -/
def ColumnType.width : ColumnType → Nat
  | bigint | double | timestamp | time => 8
  | int | float | date => 4
  | smallint => 2
  | tinyint | boolean => 1
  | uuid | timeuuid => 16
  | _ => 0

/-- Whether a routing index names a column whose encodings vary in length. -/
def variableAt (types : List ColumnType) (index : Nat) : Bool :=
  types[index]?.any ColumnType.isVariable

/-- The values that are one but for what timestamps have beyond milliseconds. -/
inductive SameToMilli : Value → Value → Prop where
  | same (value : Value) : SameToMilli value value
  | timestamp {s t : Instant} : s.millis = t.millis → SameToMilli (.timestamp s) (.timestamp t)

/-! ### Encodings -/

section

variable {type : ColumnType} {value value' : Value} {bs : Bytes}

theorem encodeFitting_of_encode (h : encode type value = .ok bs) :
    encodeFitting type value = .ok bs := by
  unfold encode at h
  split at h
  · exact h
  · simp at h

/-- **A type whose encodings do not vary has its width.** -/
theorem length_of_encode (h : encode type value = .ok bs) (hfixed : type.isVariable = false) :
    bs.length = type.width := by
  have hfitting := encodeFitting_of_encode h
  cases fits_of_encodeFitting hfitting with
  | text | varchar | ascii | inet | blob => exact nomatch hfixed
  | bigint | int | smallint | tinyint | timestamp | date =>
    obtain rfl := Except.ok.inj hfitting
    exact BigEndian.length_writeInt ..
  | double | float | uuid | timeuuid =>
    obtain rfl := Except.ok.inj hfitting
    exact BigEndian.length_write ..
  | boolean =>
    obtain rfl := Except.ok.inj hfitting
    rfl
  | time hleap =>
    rw [encodeFitting, if_neg (by simp [hleap])] at hfitting
    obtain rfl := Except.ok.inj hfitting
    exact BigEndian.length_write ..

/-- **Values with one encoding are the same to the millisecond.** -/
theorem sameToMilli_of_encode (h : encode type value = .ok bs)
    (h' : encode type value' = .ok bs) : SameToMilli value value' := by
  have hfitting := encodeFitting_of_encode h
  have hfitting' := encodeFitting_of_encode h'
  by_cases htype : type = .timestamp
  · subst htype
    cases fits_of_encodeFitting hfitting with
    | timestamp s =>
      cases fits_of_encodeFitting hfitting' with
      | timestamp t =>
        obtain ⟨ss, hs, -, hreads⟩ := readInt_of_encode_timestamp s
        obtain ⟨ts, ht, -, hreadt⟩ := readInt_of_encode_timestamp t
        obtain rfl : bs = ss := Except.ok.inj (h.symm.trans hs)
        obtain rfl : bs = ts := Except.ok.inj (h'.symm.trans ht)
        exact .timestamp (by omega)
  · -- The one encoding is read as either value.
    have hread := decodeKey?_of_encodeFitting hfitting htype
    have hread' := decodeKey?_of_encodeFitting hfitting' htype
    obtain rfl : value = value' := Except.ok.inj (Option.some.inj (hread.symm.trans hread'))
    exact .same value

end

/-! ### Routing keys, column by column -/

section

variable {types : List ColumnType} {values values' : List Value} {indexes : List Nat}
  {index : Nat} {bs bs' : Bytes}

/-- The bytes of a routed column in the first row are no more than those in the second. -/
def NoLonger (types : List ColumnType) (values values' : List Value) (index : Nat) : Prop :=
  ∀ {part part' : Bytes}, routedBytes types values index = .ok part →
    routedBytes types values' index = .ok part' → part.length ≤ part'.length

/-- A routed column has bytes when there are a type and a value for it, and the value has an
encoding. -/
theorem routedBytes_eq_ok_iff : routedBytes types values index = .ok bs ↔
    ∃ type value, types[index]? = some type ∧ values[index]? = some value ∧
      encode type value = .ok bs := by
  unfold routedBytes routedComponent
  cases htype : types[index]? with
  | none => simp [bind, Except.bind]
  | some type =>
    cases hvalue : values[index]? with
    | none => simp [bind, Except.bind]
    | some value => simp [bind, Except.bind]

/-- The bytes of several columns are those of the first and then those of the others. -/
theorem routedColumns_cons_eq_ok_iff :
    routedColumns types values (index :: indexes) = .ok bs ↔
      ∃ front rest, routedBytes types values index = .ok front ∧
        routedColumns types values indexes = .ok rest ∧ bs = front ++ rest := by
  rw [routedColumns]
  cases hfront : routedBytes types values index with
  | error e => simp [bind, Except.bind]
  | ok front =>
    cases hrest : routedColumns types values indexes with
    | error e => simp [bind, Except.bind]
    | ok rest =>
      constructor
      · intro h
        exact ⟨front, rest, rfl, rfl, (Except.ok.inj h).symm⟩
      · rintro ⟨front', rest', hfront', hrest', rfl⟩
        obtain rfl := Except.ok.inj hfront'
        obtain rfl := Except.ok.inj hrest'
        rfl

theorem routedColumns_of_routingKey (h : routingKey indexes types values = .ok bs) :
    routedColumns types values indexes = .ok bs := by
  unfold routingKey at h
  split at h
  · simp at h
  · exact h

/-- A column whose encodings do not vary takes no more bytes in one row than in another. -/
theorem noLonger_of_fixed (hfixed : variableAt types index = false) :
    NoLonger types values values' index := by
  intro part part' h h'
  obtain ⟨type, value, htype, -, hbytes⟩ := routedBytes_eq_ok_iff.mp h
  obtain ⟨type', value', htype', -, hbytes'⟩ := routedBytes_eq_ok_iff.mp h'
  obtain rfl : type = type' := Option.some.inj (htype.symm.trans htype')
  have hvariable : type.isVariable = false := by simpa [variableAt, htype] using hfixed
  exact Nat.le_of_eq
    ((length_of_encode hbytes hvariable).trans (length_of_encode hbytes' hvariable).symm)

/-- A column is no longer in one of two rows than in the other. -/
theorem noLonger_total (types : List ColumnType) (values values' : List Value) (index : Nat) :
    NoLonger types values values' index ∨ NoLonger types values' values index := by
  unfold NoLonger
  cases routedBytes types values index with
  | error e => simp
  | ok part =>
    cases routedBytes types values' index with
    | error e => simp
    | ok part' => simpa using Nat.le_total part.length part'.length

/-- When one column at most varies, one of two rows has no column longer than in the other. -/
theorem noLonger_or_noLonger (hvariable : ∀ i ∈ indexes, ∀ j ∈ indexes,
      variableAt types i = true → variableAt types j = true → i = j) :
    (∀ index ∈ indexes, NoLonger types values values' index) ∨
      (∀ index ∈ indexes, NoLonger types values' values index) := by
  by_cases hone : ∃ i ∈ indexes, variableAt types i = true
  · obtain ⟨i, hi, hvaries⟩ := hone
    have hfixed : ∀ j ∈ indexes, j ≠ i → variableAt types j = false := by
      intro j hj hne
      rw [← Bool.not_eq_true]
      intro hother
      exact hne (hvariable j hj i hi hother hvaries)
    -- The one that varies decides between the rows.
    refine (noLonger_total types values values' i).imp ?_ ?_
    all_goals
      intro hle j hj
      by_cases heq : j = i
      · exact heq ▸ hle
      · exact noLonger_of_fixed (hfixed j hj heq)
  · left
    intro j hj
    apply noLonger_of_fixed
    rw [← Bool.not_eq_true]
    intro hvaries
    exact hone ⟨j, hj, hvaries⟩

/-- Columns that are no longer one by one are no longer together. -/
theorem length_le_of_routedColumns (hle : ∀ index ∈ indexes, NoLonger types values values' index)
    (h : routedColumns types values indexes = .ok bs)
    (h' : routedColumns types values' indexes = .ok bs') : bs.length ≤ bs'.length := by
  induction indexes generalizing bs bs' with
  | nil =>
    obtain rfl := Except.ok.inj h
    exact Nat.zero_le _
  | cons index later ih =>
    rw [List.forall_mem_cons] at hle
    obtain ⟨front, rest, hfront, hrest, rfl⟩ := routedColumns_cons_eq_ok_iff.mp h
    obtain ⟨front', rest', hfront', hrest', rfl⟩ := routedColumns_cons_eq_ok_iff.mp h'
    rw [List.length_append, List.length_append]
    exact Nat.add_le_add (hle.1 hfront hfront') (ih hle.2 hrest hrest')

/-- **Columns with one key have the same bytes, one by one**, when none of them is longer in the
first row than in the second. -/
theorem routedBytes_of_routedColumns
    (hle : ∀ index ∈ indexes, NoLonger types values values' index)
    (h : routedColumns types values indexes = .ok bs)
    (h' : routedColumns types values' indexes = .ok bs) :
    ∀ index ∈ indexes, ∃ part, routedBytes types values index = .ok part ∧
      routedBytes types values' index = .ok part := by
  -- By induction from the front: neither the first column nor the later ones are longer, and
  -- together they are as long, so the first column ends where it ends in the other row.
  induction indexes generalizing bs with
  | nil =>
    intro index hindex
    exact absurd hindex List.not_mem_nil
  | cons first later ih =>
    rw [List.forall_mem_cons] at hle
    obtain ⟨front, rest, hfront, hrest, rfl⟩ := routedColumns_cons_eq_ok_iff.mp h
    obtain ⟨front', rest', hfront', hrest', heq⟩ := routedColumns_cons_eq_ok_iff.mp h'
    have hlength : front.length = front'.length := by
      have hfronts := hle.1 hfront hfront'
      have hrests := length_le_of_routedColumns hle.2 hrest hrest'
      have htotal := congrArg List.length heq
      rw [List.length_append, List.length_append] at htotal
      omega
    obtain ⟨rfl, rfl⟩ := List.append_inj heq hlength
    intro index hindex
    cases List.mem_cons.mp hindex with
    | inl hfirst =>
      subst hfirst
      exact ⟨front, hfront, hfront'⟩
    | inr hmem => exact ih hle.2 hrest hrest' index hmem

/-- **Rows with one routing key have the same values in it**, to the millisecond, when the
encodings of at most one routed column vary in length; that column may be routed twice. -/
theorem same_of_routingKey
    (hvariable : ∀ i ∈ indexes, ∀ j ∈ indexes,
      variableAt types i = true → variableAt types j = true → i = j)
    (h : routingKey indexes types values = .ok bs)
    (h' : routingKey indexes types values' = .ok bs) :
    ∀ index ∈ indexes, ∃ type value value' part, types[index]? = some type ∧
      values[index]? = some value ∧ values'[index]? = some value' ∧
      encode type value = .ok part ∧ encode type value' = .ok part ∧ SameToMilli value value' := by
  have hcolumns := routedColumns_of_routingKey h
  have hcolumns' := routedColumns_of_routingKey h'
  intro index hindex
  obtain ⟨part, hpart, hpart'⟩ : ∃ part, routedBytes types values index = .ok part ∧
      routedBytes types values' index = .ok part := by
    cases noLonger_or_noLonger hvariable with
    | inl hle => exact routedBytes_of_routedColumns hle hcolumns hcolumns' index hindex
    | inr hle =>
      obtain ⟨part, hpart', hpart⟩ :=
        routedBytes_of_routedColumns hle hcolumns' hcolumns index hindex
      exact ⟨part, hpart, hpart'⟩
  obtain ⟨type, value, htype, hvalue, hencode⟩ := routedBytes_eq_ok_iff.mp hpart
  obtain ⟨type', value', htype', hvalue', hencode'⟩ := routedBytes_eq_ok_iff.mp hpart'
  obtain rfl : type = type' := Option.some.inj (htype.symm.trans htype')
  exact ⟨type, value, value', part, htype, hvalue, hvalue', hencode, hencode',
    sameToMilli_of_encode hencode hencode'⟩

end

/-- Two columns that vary in length may share out one key in two ways. -/
example : routingKey [0, 1] [.blob, .blob] [.blob [1], .blob [2, 3]]
    = routingKey [0, 1] [.blob, .blob] [.blob [1, 2], .blob [3]] := rfl

namespace BlobFirst

def types : List ColumnType := [.timestamp, .blob, .smallint, .text]

/-- A blob in front of a timestamp and a number; the text is not routed. -/
def indexes : List Nat := [1, 0, 2]

/-- A millisecond and a half after the start of 1970. -/
def values : List Value :=
  [.timestamp ⟨0, 1500000, by decide, by decide⟩, .blob [7, 8], .smallint 5, .text "left"]

/-- A millisecond after the start of 1970. -/
def others : List Value :=
  [.timestamp ⟨0, 1000000, by decide, by decide⟩, .blob [7, 8], .smallint 5, .text "right"]

def bytes : Bytes := [7, 8, 0, 0, 0, 0, 0, 0, 3, 232, 0, 5]

end BlobFirst

open BlobFirst in
/-- Two rows that differ in half a millisecond, and outside of the key. -/
theorem same_of_routingKey_blob_first :
    (∀ i ∈ indexes, ∀ j ∈ indexes,
        variableAt types i = true → variableAt types j = true → i = j) ∧
      routingKey indexes types values = .ok bytes ∧
      routingKey indexes types others = .ok bytes ∧
      ∀ index ∈ indexes, ∃ type value value' part, types[index]? = some type ∧
        values[index]? = some value ∧ others[index]? = some value' ∧
        encode type value = .ok part ∧ encode type value' = .ok part ∧
        SameToMilli value value' := by
  have hvariable : ∀ i ∈ indexes, ∀ j ∈ indexes,
      variableAt types i = true → variableAt types j = true → i = j := by decide
  have h : routingKey indexes types values = .ok bytes := rfl
  have h' : routingKey indexes types others = .ok bytes := rfl
  exact ⟨hvariable, h, h', same_of_routingKey hvariable h h'⟩

end QueryRouting
