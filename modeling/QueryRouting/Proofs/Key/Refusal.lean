import Mathlib.Data.List.Forall2
import QueryRouting.Proofs.Key.Separation

/-!
# Why a row has no key

A row has a routing key when it routes some column, and every column that it routes has a type, a
value and an encoding.  The key is then those encodings in key order.  In every other case the
first routed column that has none of this gives the error, whatever the columns before it have
put into the key already and whatever is wrong with those behind it.

A column is without an encoding for one of six reasons, and each names what is wrong: there is no
type or no value for its index, its type can be part of no key, its value is of a kind that the
type does not take, an ASCII column has a text that is not ASCII, or a time lies within a leap
second.

## Main definitions

* `keylessTypes` — the types that can be part of no key.
* `Value.columnTypes` — the types that take values of a kind.
* `Refused type value e` — a column of the type does not take the value, because of `e`.
* `ColumnFault types values index e` — the column of a routing index has no bytes, because of `e`.
* `FirstFault types values indexes e` — the first such column, or that there is no column.

## Main results

* `encode_eq_error_iff` — how a value is refused.
* `routedColumns_eq_ok_iff` — how several columns are taken.
* `routingKey_eq_error_iff` — how a row is refused.
* `routingKey_reports_first` — the key, or the first fault.
-/

namespace QueryRouting

/-! ### Errors and their reasons -/

section

variable {ε α : Type} {result : Except ε α} {Reason : ε → Prop}

/-- A result is an error for the reason of the error, when a reason is always followed and there
is one whenever there is no value. -/
theorem eq_error_iff_of_total (hfollowed : ∀ e, Reason e → result = .error e)
    (htotal : (∃ a, result = .ok a) ∨ ∃ e, Reason e) {e : ε} :
    result = .error e ↔ Reason e := by
  constructor
  · intro h
    obtain ⟨a, hok⟩ | ⟨e', hreason⟩ := htotal
    · rw [h] at hok
      exact nomatch hok
    · obtain rfl := Except.error.inj (h.symm.trans (hfollowed e' hreason))
      exact hreason
  · exact hfollowed e

/-- Then it is a value when there is no reason for an error. -/
theorem exists_ok_iff_of_total (hfollowed : ∀ e, Reason e → result = .error e)
    (htotal : (∃ a, result = .ok a) ∨ ∃ e, Reason e) :
    (∃ a, result = .ok a) ↔ ∀ e, ¬Reason e := by
  constructor
  · rintro ⟨a, hok⟩ e hreason
    rw [hfollowed e hreason] at hok
    exact nomatch hok
  · intro hnone
    exact htotal.resolve_right fun ⟨e, hreason⟩ => hnone e hreason

end

/-! ### Values that are refused -/

/-- The types that can be part of no key. -/
def keylessTypes : List ColumnType :=
  [.counter, .custom, .decimal, .tuple, .varint, .list, .map, .set, .udt]

/-- The types, of those that can be part of a key, that take values of a kind. -/
def Value.columnTypes : Value → List ColumnType
  | text _ => [.text, .varchar, .ascii]
  | bigint _ => [.bigint]
  | int _ => [.int]
  | smallint _ => [.smallint]
  | tinyint _ => [.tinyint]
  | boolean _ => [.boolean]
  | double _ => [.double]
  | float _ => [.float]
  | timestamp _ => [.timestamp]
  | uuid _ => [.uuid]
  | timeuuid _ => [.timeuuid]
  | inet _ => [.inet]
  | date _ => [.date]
  | time _ => [.time]
  | blob _ => [.blob]
  | null | counter _ | decimal _ _ | varint _ | list _ | set _ | map _ | tuple _ => []

/-- The error with which a column of a type refuses a value. -/
inductive Refused : ColumnType → Value → RoutingError → Prop where
  /-- Whatever the value is. -/
  | unsupported {type : ColumnType} {value : Value} : type ∈ keylessTypes →
      Refused type value (.unsupportedColumnType type)
  | otherKind {type : ColumnType} {value : Value} : type ∉ keylessTypes →
      type ∉ value.columnTypes → Refused type value (.typeMismatch type value.kind)
  | nonAscii {s : String} : (∃ c ∈ s.toList, 0x80 ≤ c.toNat) →
      Refused .ascii (.text s) (.typeMismatch .ascii "non-ascii text")
  | leapSecond {t : TimeOfDay} : 1000000000 ≤ t.nanosecond →
      Refused .time (.time t) (.invalidEncoding .time (.leapSecond t))

variable {type : ColumnType} {value : Value} {e : RoutingError} {bs : Bytes}

theorem isKeyType_iff : type.isKeyType = true ↔ type ∉ keylessTypes := by
  cases type <;> decide

theorem isAsciiText_eq_false_iff {s : String} :
    isAsciiText s = false ↔ ∃ c ∈ s.toList, 0x80 ≤ c.toNat := by
  simp [isAsciiText]

theorem TimeOfDay.isLeap_iff {t : TimeOfDay} : t.isLeap = true ↔ 1000000000 ≤ t.nanosecond :=
  decide_eq_true_iff

theorem encodeFitting_of_otherKind (h : type ∉ value.columnTypes) :
    encodeFitting type value = .error (.typeMismatch type value.kind) := by
  unfold encodeFitting
  split
  case h_18 => rfl
  all_goals exact absurd (by simp [Value.columnTypes]) h

/-- A value that is refused has no encoding. -/
theorem Refused.encode_eq (h : Refused type value e) : encode type value = .error e := by
  cases h with
  | unsupported hmem =>
    have hkey : ¬type.isKeyType = true := fun h => isKeyType_iff.mp h hmem
    rw [encode, if_neg hkey]
  | otherKind hkey hkind =>
    rw [encode, if_pos (isKeyType_iff.mpr hkey), encodeFitting_of_otherKind hkind]
  | nonAscii h =>
    have hascii := isAsciiText_eq_false_iff.mpr h
    show (if isAsciiText _ then _ else _) = _
    rw [if_neg (by simp [hascii])]
  | @leapSecond t h =>
    show (if t.isLeap then _ else _) = _
    rw [if_pos (TimeOfDay.isLeap_iff.mpr h)]

/-- A value of a kind that its type takes has an encoding, unless its content is refused. -/
theorem fits_or_refused (h : type ∈ value.columnTypes) :
    Fits type value ∨ ∃ e, Refused type value e := by
  cases value with
  | text s =>
    simp only [Value.columnTypes, List.mem_cons, List.not_mem_nil, or_false] at h
    obtain rfl | rfl | rfl := h
    · exact .inl (.text s)
    · exact .inl (.varchar s)
    · cases hascii : isAsciiText s with
      | true => exact .inl (.ascii hascii)
      | false => exact .inr ⟨_, .nonAscii (isAsciiText_eq_false_iff.mp hascii)⟩
  | time t =>
    obtain rfl := List.mem_singleton.mp h
    cases hleap : t.isLeap with
    | true => exact .inr ⟨_, .leapSecond (TimeOfDay.isLeap_iff.mp hleap)⟩
    | false => exact .inl (.time hleap)
  | null | counter | decimal | varint | list | set | map | tuple => exact absurd h List.not_mem_nil
  | _ =>
    obtain rfl := List.mem_singleton.mp h
    exact .inl (by constructor)

/-- **A value is encoded or refused.** -/
theorem exists_encode_or_refused (type : ColumnType) (value : Value) :
    (∃ bs, encode type value = .ok bs) ∨ ∃ e, Refused type value e := by
  by_cases hkey : type ∈ keylessTypes
  · exact .inr ⟨_, .unsupported hkey⟩
  · by_cases hkind : type ∈ value.columnTypes
    · exact (fits_or_refused hkind).imp_left exists_encode_iff_fits.mpr
    · exact .inr ⟨_, .otherKind hkey hkind⟩

/-- **The error of the encoder says how the value is refused.** -/
theorem encode_eq_error_iff : encode type value = .error e ↔ Refused type value e :=
  eq_error_iff_of_total (fun _ => Refused.encode_eq) (exists_encode_or_refused type value)

theorem exists_encode_iff_not_refused :
    (∃ bs, encode type value = .ok bs) ↔ ∀ e, ¬Refused type value e :=
  exists_ok_iff_of_total (fun _ => Refused.encode_eq) (exists_encode_or_refused type value)

/-! ### The columns of a row -/

section

variable {types : List ColumnType} {values : List Value} {indexes : List Nat} {index : Nat}

/-- The error with which the column of a routing index has no bytes. -/
inductive ColumnFault (types : List ColumnType) (values : List Value) (index : Nat) :
    RoutingError → Prop where
  | noType : types.length ≤ index →
      ColumnFault types values index (.routingIndexOutOfRange index types.length)
  /-- The types are looked at first. -/
  | noValue : index < types.length → values.length ≤ index →
      ColumnFault types values index (.routingIndexOutOfRange index values.length)
  | refused {type : ColumnType} {value : Value} {e : RoutingError} : types[index]? = some type →
      values[index]? = some value → Refused type value e → ColumnFault types values index e

/-- The error of the first column without bytes, or that there are no columns. -/
inductive FirstFault (types : List ColumnType) (values : List Value) :
    List Nat → RoutingError → Prop where
  | noColumns : FirstFault types values [] .noRoutingColumns
  /-- What comes later does not matter. -/
  | column {earlier later : List Nat} {index : Nat} {e : RoutingError} :
      (∀ i ∈ earlier, ∀ e, ¬ColumnFault types values i e) → ColumnFault types values index e →
      FirstFault types values (earlier ++ index :: later) e

theorem ColumnFault.routedBytes_eq (h : ColumnFault types values index e) :
    routedBytes types values index = .error e := by
  cases h with
  | noType hle =>
    rw [routedBytes, routedComponent, List.getElem?_eq_none hle]
    rfl
  | noValue hlt hle =>
    rw [routedBytes, routedComponent, List.getElem?_eq_getElem hlt, List.getElem?_eq_none hle]
    rfl
  | refused htype hvalue hrefused =>
    rw [routedBytes, routedComponent, htype, hvalue]
    exact hrefused.encode_eq

theorem exists_routedBytes_or_fault (types : List ColumnType) (values : List Value) (index : Nat) :
    (∃ bs, routedBytes types values index = .ok bs) ∨ ∃ e, ColumnFault types values index e := by
  rcases Nat.lt_or_ge index types.length with htype | htype
  · rcases Nat.lt_or_ge index values.length with hvalue | hvalue
    · obtain ⟨bs, hencode⟩ | ⟨e, hrefused⟩ := exists_encode_or_refused types[index] values[index]
      · exact .inl ⟨bs, routedBytes_eq_ok_iff.mpr ⟨_, _, List.getElem?_eq_getElem htype,
          List.getElem?_eq_getElem hvalue, hencode⟩⟩
      · exact .inr ⟨e, .refused (List.getElem?_eq_getElem htype)
          (List.getElem?_eq_getElem hvalue) hrefused⟩
    · exact .inr ⟨_, .noValue htype hvalue⟩
  · exact .inr ⟨_, .noType htype⟩

/-- **A routed column has bytes when it is not at fault.** -/
theorem exists_routedBytes_iff_no_fault :
    (∃ bs, routedBytes types values index = .ok bs) ↔ ∀ e, ¬ColumnFault types values index e :=
  exists_ok_iff_of_total (fun _ => ColumnFault.routedBytes_eq)
    (exists_routedBytes_or_fault types values index)

theorem exists_routedBytes_iff : (∃ bs, routedBytes types values index = .ok bs) ↔
    ∃ (_ : index < types.length) (_ : index < values.length),
      ∃ bs, encode types[index] values[index] = .ok bs := by
  simp only [routedBytes_eq_ok_iff, List.getElem?_eq_some_iff]
  constructor
  · rintro ⟨bs, type, value, ⟨htype, rfl⟩, ⟨hvalue, rfl⟩, hencode⟩
    exact ⟨htype, hvalue, bs, hencode⟩
  · rintro ⟨htype, hvalue, bs, hencode⟩
    exact ⟨bs, _, _, ⟨htype, rfl⟩, ⟨hvalue, rfl⟩, hencode⟩

/-! ### Several columns -/

/-- **Several columns are taken when each of them is**, and make up their bytes in turn. -/
theorem routedColumns_eq_ok_iff : routedColumns types values indexes = .ok bs ↔
    ∃ parts, List.Forall₂ (fun index part => routedBytes types values index = .ok part)
      indexes parts ∧ bs = parts.flatten := by
  induction indexes generalizing bs with
  | nil =>
    constructor
    · intro h
      exact ⟨[], .nil, (Except.ok.inj h).symm⟩
    · rintro ⟨parts, hparts, rfl⟩
      cases hparts
      rfl
  | cons index later ih =>
    rw [routedColumns_cons_eq_ok_iff]
    constructor
    · rintro ⟨front, rest, hfront, hrest, rfl⟩
      obtain ⟨parts, hparts, rfl⟩ := ih.mp hrest
      exact ⟨front :: parts, .cons hfront hparts, rfl⟩
    · rintro ⟨parts, hparts, rfl⟩
      cases hparts with
      | cons hfront hlater => exact ⟨_, _, hfront, ih.mpr ⟨_, hlater, rfl⟩, rfl⟩

theorem exists_routedColumns_iff : (∃ bs, routedColumns types values indexes = .ok bs) ↔
    ∀ i ∈ indexes, ∃ bs, routedBytes types values i = .ok bs := by
  induction indexes with
  | nil => exact ⟨fun _ i hi => absurd hi List.not_mem_nil, fun _ => ⟨[], rfl⟩⟩
  | cons index later ih =>
    rw [List.forall_mem_cons, ← ih]
    constructor
    · rintro ⟨bs, h⟩
      obtain ⟨front, rest, hfront, hrest, -⟩ := routedColumns_cons_eq_ok_iff.mp h
      exact ⟨⟨front, hfront⟩, ⟨rest, hrest⟩⟩
    · rintro ⟨⟨front, hfront⟩, ⟨rest, hrest⟩⟩
      exact ⟨_, routedColumns_cons_eq_ok_iff.mpr ⟨front, rest, hfront, hrest, rfl⟩⟩

/-- Columns behind one without bytes are not looked at. -/
theorem routedColumns_append_of_fault {earlier later : List Nat}
    (hearlier : ∀ i ∈ earlier, ∃ bs, routedBytes types values i = .ok bs)
    (h : routedBytes types values index = .error e) :
    routedColumns types values (earlier ++ index :: later) = .error e := by
  induction earlier with
  | nil =>
    rw [List.nil_append, routedColumns, h]
    rfl
  | cons first earlier ih =>
    rw [List.forall_mem_cons] at hearlier
    obtain ⟨⟨bs, hfirst⟩, hearlier⟩ := hearlier
    rw [List.cons_append, routedColumns, hfirst, ok_bind, ih hearlier]
    rfl

/-- Columns all have bytes, or there is a first one that has none. -/
theorem exists_split_of_fault (types : List ColumnType) (values : List Value)
    (indexes : List Nat) :
    (∀ i ∈ indexes, ∃ bs, routedBytes types values i = .ok bs) ∨
      ∃ earlier index later, indexes = earlier ++ index :: later ∧
        (∀ i ∈ earlier, ∃ bs, routedBytes types values i = .ok bs) ∧
        ∃ e, ColumnFault types values index e := by
  induction indexes with
  | nil => exact .inl (by simp)
  | cons first later ih =>
    obtain hfirst | hfault := exists_routedBytes_or_fault types values first
    · obtain hall | ⟨earlier, index, later, rfl, hearlier, hfault⟩ := ih
      · exact .inl (List.forall_mem_cons.mpr ⟨hfirst, hall⟩)
      · exact .inr ⟨first :: earlier, index, later, rfl,
          List.forall_mem_cons.mpr ⟨hfirst, hearlier⟩, hfault⟩
    · exact .inr ⟨[], first, later, rfl, by simp, hfault⟩

/-! ### The key -/

theorem routingKey_of_ne_nil (h : indexes ≠ []) :
    routingKey indexes types values = routedColumns types values indexes := by
  rw [routingKey, if_neg (by simpa using h)]

theorem FirstFault.routingKey_eq (h : FirstFault types values indexes e) :
    routingKey indexes types values = .error e := by
  cases h with
  | noColumns => rfl
  | column hearlier hfault =>
    rw [routingKey_of_ne_nil (by simp)]
    exact routedColumns_append_of_fault
      (fun i hi => exists_routedBytes_iff_no_fault.mpr (hearlier i hi)) hfault.routedBytes_eq

theorem routingKey_eq_ok_iff : routingKey indexes types values = .ok bs ↔
    indexes ≠ [] ∧ routedColumns types values indexes = .ok bs := by
  by_cases hnil : indexes = []
  · subst hnil
    simp [routingKey]
  · rw [routingKey_of_ne_nil hnil]
    simp [hnil]

/-- **A row has a routing key, or a first fault.** -/
theorem exists_routingKey_or_fault (types : List ColumnType) (values : List Value)
    (indexes : List Nat) :
    (∃ bs, routingKey indexes types values = .ok bs) ∨
      ∃ e, FirstFault types values indexes e := by
  by_cases hnil : indexes = []
  · subst hnil
    exact .inr ⟨_, .noColumns⟩
  · obtain hall | ⟨earlier, index, later, rfl, hearlier, e, hfault⟩ :=
      exists_split_of_fault types values indexes
    · obtain ⟨bs, hbs⟩ := exists_routedColumns_iff.mpr hall
      exact .inl ⟨bs, routingKey_eq_ok_iff.mpr ⟨hnil, hbs⟩⟩
    · exact .inr ⟨e, .column
        (fun i hi => exists_routedBytes_iff_no_fault.mp (hearlier i hi)) hfault⟩

theorem routingKey_eq_error_iff :
    routingKey indexes types values = .error e ↔ FirstFault types values indexes e :=
  eq_error_iff_of_total (fun _ => FirstFault.routingKey_eq)
    (exists_routingKey_or_fault types values indexes)

/-- The partition key fails as the routing key does. -/
theorem partitionKey_eq_error_iff :
    partitionKey indexes types values = .error e ↔ routingKey indexes types values = .error e := by
  unfold partitionKey
  cases routingKey indexes types values <;> simp [Functor.map, Except.map]

theorem partitionKey?_eq_none_iff :
    partitionKey? indexes types values = none ↔
      ∃ e, partitionKey indexes types values = .error e := by
  unfold partitionKey?
  cases partitionKey indexes types values <;> simp [Except.toOption]

/-- **A row has a routing key when it routes some column and every column that it routes has a
type, a value and an encoding**; the key is then these encodings in key order.  Otherwise the
error is that there is no column, or else that of the first routed column that has none of this:
that there is no type for its index, that there is no value, or that of the encoder.  The encoder
refuses the values that are refused by their type, and no others.  The partition key fails with
the error of the routing key. -/
theorem routingKey_reports_first (indexes : List Nat) (types : List ColumnType)
    (values : List Value) :
    ((∃ bs, routingKey indexes types values = .ok bs) ↔
      indexes ≠ [] ∧ ∀ i ∈ indexes, ∃ (_ : i < types.length) (_ : i < values.length),
        ∃ bs, encode types[i] values[i] = .ok bs) ∧
    (∀ bs, routingKey indexes types values = .ok bs ↔ indexes ≠ [] ∧ ∃ parts,
      List.Forall₂ (fun i part => ∃ type value, types[i]? = some type ∧ values[i]? = some value ∧
        encode type value = .ok part) indexes parts ∧ bs = parts.flatten) ∧
    (∀ e, routingKey indexes types values = .error e ↔ FirstFault types values indexes e) ∧
    (∀ e, partitionKey indexes types values = .error e ↔
      routingKey indexes types values = .error e) ∧
    (partitionKey? indexes types values = none ↔
      ∃ e, routingKey indexes types values = .error e) ∧
    (∀ type value e, encode type value = .error e ↔ Refused type value e) ∧
    (∀ type value, (∃ bs, encode type value = .ok bs) ↔ ∀ e, ¬Refused type value e) := by
  refine ⟨?_, ?_, fun _ => routingKey_eq_error_iff, fun _ => partitionKey_eq_error_iff, ?_,
    fun _ _ _ => encode_eq_error_iff, fun _ _ => exists_encode_iff_not_refused⟩
  · simp only [routingKey_eq_ok_iff, exists_and_left, exists_routedColumns_iff,
      exists_routedBytes_iff]
  · intro bs
    rw [routingKey_eq_ok_iff, routedColumns_eq_ok_iff]
    simp only [routedBytes_eq_ok_iff]
  · simp only [partitionKey?_eq_none_iff, partitionKey_eq_error_iff]

end

/-- The second column is at fault before the third, which has no value. -/
example : partitionKey [0, 1, 2] [.int, .time, .blob]
    [.int 7, .time ⟨59, 1000000000, by decide, by decide⟩]
    = .error (.invalidEncoding .time (.leapSecond ⟨59, 1000000000, by decide, by decide⟩)) := rfl

end QueryRouting
