import QueryRouting.Proofs.Key.Canonical
import QueryRouting.Proofs.Text.WellFormed

/-!
# What the decoder accepts

Bytes are read as a value of a type when they have the format of the type: so many bytes, or
bytes that are a text, and for points in time a number within the calendar or the day.  Bytes
of another format are refused with a fault that names the type, and a type that can be part
of no key is refused by its name, whatever the bytes are.

Two refusals of the decoder never come about.  The second and the nanoseconds of a number
within the day always name a time, and a type that has passed the table of key types always
has a way to be read.

## Main definitions

* `Readable type bs` — the byte strings of the format of a type.
* `Reads P result` — a result that is a value under the condition `P`, and else a fault that
  can come about.

## Main results

* `TimeOfDay.exists_ofNanos?_iff` — the nanoseconds of a day are times.
* `exists_reads_decodeKey?` — how the decoder of every key type ends.
* `decode_accepts_iff` — what the decoder accepts, and how it refuses everything else.
-/

namespace QueryRouting

/-- The byte strings of the format of a type. -/
def Readable (type : ColumnType) (bs : Bytes) : Prop :=
  match type with
  | .text | .varchar => Utf8.WellFormed bs
  | .ascii => ∀ b ∈ bs, b.toNat < 0x80
  | .bigint | .double => bs.length = 8
  | .int | .float => bs.length = 4
  | .smallint => bs.length = 2
  | .tinyint | .boolean => bs.length = 1
  | .uuid | .timeuuid => bs.length = 16
  | .inet => bs.length = 4 ∨ bs.length = 16
  | .timestamp => bs.length = 8 ∧ Instant.firstMilli ≤ BigEndian.readInt bs / 1000 ∧
      BigEndian.readInt bs / 1000 ≤ Instant.lastMilli
  | .date => bs.length = 4 ∧ Date.firstDay.dayNumber ≤ (BigEndian.read bs : Int) - 2147483648 ∧
      (BigEndian.read bs : Int) - 2147483648 ≤ Date.lastDay.dayNumber
  | .time => bs.length = 8 ∧ 0 ≤ BigEndian.readInt bs ∧
      BigEndian.readInt bs < 86400 * 1000000000
  | .blob => True
  | .custom | .counter | .decimal | .varint | .list | .map | .set | .udt | .tuple => False

/-! ### Results -/

/-- A result of the decoder that is a value under a condition, and otherwise a fault, but not
that the parts of a time name no time. -/
structure Reads (P : Prop) (result : Except EncodingFault Value) : Prop where
  ok_iff : (∃ value, result = .ok value) ↔ P
  ne_timeRange : result ≠ .error .timeRange

namespace Reads

variable {P Q : Prop} {result : Except EncodingFault Value} {bs : Bytes} {fault : EncodingFault}

theorem ok (value : Value) : Reads True (.ok value) where
  ok_iff := ⟨fun _ => trivial, fun _ => ⟨value, rfl⟩⟩
  ne_timeRange := by simp

theorem error (h : fault ≠ .timeRange) : Reads False (.error fault) where
  ok_iff := by simp
  ne_timeRange := by simpa using h

theorem congr (h : Reads P result) (hiff : P ↔ Q) : Reads Q result where
  ok_iff := h.ok_iff.trans hiff
  ne_timeRange := h.ne_timeRange

/-- Bytes of a width are read on, and other bytes are refused. -/
theorem exactly {width : Nat} {f : Bytes → Except EncodingFault Value} (h : Reads P (f bs)) :
    Reads (bs.length = width ∧ P) (exactly width bs >>= f) := by
  by_cases hlength : bs.length = width
  · rw [exactly_of_length hlength, ok_bind]
    exact h.congr (by simp [hlength])
  · have hfault : QueryRouting.exactly width bs = .error (.width width bs.length) :=
      if_neg hlength
    rw [hfault]
    exact (error (by simp)).congr (by simp [hlength])

/-- Bytes of a width that are read at once. -/
theorem exactly_pure {width : Nat} (f : Bytes → Value) :
    Reads (bs.length = width) (do return f (← QueryRouting.exactly width bs)) :=
  (exactly (ok (f bs))).congr (by simp)

/-- A result that is there is a value, and one that is not there is the fault given for it. -/
theorem orFault {α : Type} {o : Option α} (f : α → Value) (h : fault ≠ .timeRange) :
    Reads (∃ a, o = some a) (do return f (← orFault fault o)) := by
  cases o with
  | none => exact (error h).congr (by simp)
  | some a => exact (ok (f a)).congr (by simp)

end Reads

/-! ### The formats -/

variable {type : ColumnType} {bs : Bytes}

/-- A day has as many nanoseconds as there are times outside of leap seconds. -/
theorem TimeOfDay.exists_ofNanos?_iff {n : Nat} :
    (∃ t, ofNanos? n = some t) ↔ n < nanosPerDay := by
  have hnano : n % nanosPerSecond < nanosPerSecond := Nat.mod_lt _ (by decide)
  have hday : n / nanosPerSecond < 86400 ↔ n < nanosPerDay := by
    rw [nanosPerDay, Nat.div_lt_iff_lt_mul (by decide)]
  unfold ofNanos? of?
  constructor
  · rintro ⟨t, h⟩
    split at h
    · next hsecond => exact hday.mp hsecond
    · simp at h
  · intro h
    rw [dif_pos (hday.mpr h), dif_pos (Or.inl hnano)]
    exact ⟨_, rfl⟩

theorem Ip.exists_ofBytes?_iff : (∃ ip, ofBytes? bs = some ip) ↔ bs.length = 4 ∨ bs.length = 16 := by
  unfold ofBytes?
  by_cases h4 : bs.length = 4
  · simp [h4]
  · by_cases h16 : bs.length = 16
    · simp [h16]
    · simp [h4, h16]

theorem reads_text (bs : Bytes) :
    Reads (Utf8.WellFormed bs) (match Utf8.decode bs with
      | .ok s => .ok (.text s)
      | .error fault => .error (.utf8 fault)) := by
  have hiff : (∃ s, Utf8.decode bs = .ok s) ↔ Utf8.WellFormed bs :=
    Utf8.exists_decode_iff_wellFormed
  cases h : Utf8.decode bs with
  | ok s => exact (Reads.ok _).congr (by simp [← hiff, h])
  | error fault => exact (Reads.error (by simp)).congr (by simp [← hiff, h])

theorem reads_ascii (bs : Bytes) (value : Value) :
    Reads (∀ b ∈ bs, b.toNat < 0x80)
      (if Utf8.isAscii bs then .ok value else .error .nonAsciiByte) := by
  have hiff : Utf8.isAscii bs = true ↔ ∀ b ∈ bs, b.toNat < 0x80 := by simp [Utf8.isAscii]
  by_cases h : Utf8.isAscii bs = true
  · rw [if_pos h]
    exact (Reads.ok _).congr (by simp [← hiff, h])
  · rw [if_neg h]
    exact (Reads.error (by simp)).congr (by simp [← hiff, h])

/-- **Past the check of its range a number of nanoseconds is a time.** -/
theorem reads_time (nanos : Int) :
    Reads (0 ≤ nanos ∧ nanos < 86400 * 1000000000)
      (if 0 ≤ nanos ∧ nanos < nanosPerDay then do
        return Value.time (← orFault .timeRange (TimeOfDay.ofNanos? nanos.toNat))
      else .error (.notTimeOfDay nanos)) := by
  have hday : (nanosPerDay : Int) = 86400 * 1000000000 := rfl
  by_cases h : 0 ≤ nanos ∧ nanos < nanosPerDay
  · rw [if_pos h]
    obtain ⟨t, ht⟩ := TimeOfDay.exists_ofNanos?_iff.mpr (show nanos.toNat < nanosPerDay by omega)
    rw [ht]
    exact (Reads.ok (.time t)).congr (by simp [← hday, h])
  · rw [if_neg h]
    exact (Reads.error (by simp)).congr (by simp [← hday, h])

/-- **How the decoder ends**: every type that can be part of a key has a way to be read, and
bytes are read that way when they have the format of the type. -/
theorem exists_reads_decodeKey? (bs : Bytes) (h : type.isKeyType = true) :
    ∃ result, decodeKey? bs type = some result ∧ Reads (Readable type bs) result := by
  cases type with
  | text | varchar => exact ⟨_, rfl, reads_text bs⟩
  | ascii => exact ⟨_, rfl, reads_ascii bs _⟩
  | bigint | int | smallint | tinyint | boolean | double | float | uuid | timeuuid =>
    exact ⟨_, rfl, Reads.exactly_pure _⟩
  | timestamp =>
    refine ⟨_, rfl, Reads.exactly ?_⟩
    exact (Reads.orFault _ (by simp)).congr Instant.exists_ofMillis?_iff
  | inet =>
    refine ⟨_, rfl, ?_⟩
    exact (Reads.orFault _ (by simp)).congr Ip.exists_ofBytes?_iff
  | date =>
    refine ⟨_, rfl, Reads.exactly ?_⟩
    exact (Reads.orFault _ (by simp)).congr Date.exists_ofDayNumber?_iff
  | time => exact ⟨_, rfl, Reads.exactly (reads_time _)⟩
  | blob => exact ⟨_, rfl, Reads.ok _⟩
  | custom | counter | decimal | varint | list | map | set | udt | tuple => exact nomatch h

/-! ### Every byte string of every type -/

/-- A type has a format when it can be part of a key. -/
theorem Readable.isKeyType (h : Readable type bs) : type.isKeyType = true := by
  cases type with
  | custom | counter | decimal | varint | list | map | set | udt | tuple => exact absurd h id
  | _ => rfl

/-- **The decoder has a way to read the types of the table**, and for no other type. -/
theorem decodeKey?_eq_none_iff : decodeKey? bs type = none ↔ type.isKeyType = false := by
  constructor
  · intro hnone
    rw [Bool.eq_false_iff]
    intro hkey
    obtain ⟨result, hresult, -⟩ := exists_reads_decodeKey? bs hkey
    rw [hnone] at hresult
    exact nomatch hresult
  · intro hkey
    cases type with
    | custom | counter | decimal | varint | list | map | set | udt | tuple => rfl
    | _ => exact nomatch hkey

/-- **The decoder accepts the format of the type and nothing else.**  A type that can be part
of no key is refused by its name, and bytes of another format by a fault of the type.  The
fault is never that the parts of a time name no time, and no type of the table is without a
way to be read. -/
theorem decode_accepts_iff (type : ColumnType) (bs : Bytes) :
    ((∃ value, decode type bs = .ok value) ↔ Readable type bs) ∧
      (decode type bs = .error (.unsupportedColumnType type) ↔ type.isKeyType = false) ∧
      ((∃ fault, decode type bs = .error (.invalidEncoding type fault)) ↔
        type.isKeyType = true ∧ ¬Readable type bs) ∧
      decode type bs ≠ .error (.invalidEncoding type .timeRange) ∧
      (decodeKey? bs type = none ↔ type.isKeyType = false) := by
  have hway : decodeKey? bs type = none ↔ type.isKeyType = false := decodeKey?_eq_none_iff
  cases hkey : type.isKeyType with
  | false =>
    have hdecode : decode type bs = .error (.unsupportedColumnType type) :=
      if_neg (by simp [hkey])
    have hformat : ¬Readable type bs := by
      intro h
      rw [h.isKeyType] at hkey
      simp at hkey
    rw [hkey] at hway
    exact ⟨by simp [hdecode, hformat], by simp [hdecode], by simp [hdecode], by simp [hdecode],
      hway⟩
  | true =>
    rw [hkey] at hway
    obtain ⟨result, hresult, hreads⟩ := exists_reads_decodeKey? bs hkey
    cases result with
    | ok value =>
      have hdecode : decode type bs = .ok value := by rw [decode, if_pos hkey, hresult]
      have hformat : Readable type bs := hreads.ok_iff.mp ⟨value, rfl⟩
      exact ⟨by simp [hdecode, hformat], by simp [hdecode], by simp [hdecode, hformat],
        by simp [hdecode], hway⟩
    | error fault =>
      have hdecode : decode type bs = .error (.invalidEncoding type fault) := by
        rw [decode, if_pos hkey, hresult]
      have hformat : ¬Readable type bs := by
        intro h
        obtain ⟨value, hvalue⟩ := hreads.ok_iff.mpr h
        simp at hvalue
      have hfault : fault ≠ .timeRange := fun h => hreads.ne_timeRange (by rw [h])
      exact ⟨by simp [hdecode, hformat], by simp [hdecode], by simp [hdecode, hformat],
        by simp [hdecode, hfault], hway⟩

end QueryRouting
