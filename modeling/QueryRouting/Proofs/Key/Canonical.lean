import Mathlib.Order.Bounds.Defs
import QueryRouting.Proofs.Calendar.Instant
import QueryRouting.Proofs.Key.Codec

/-!
# The canonical form of a key component

Bytes that are read as a value are the bytes of that value, with two exceptions: any byte
but zero is read as true, and microseconds that make up no whole number of milliseconds
are cut down to one.  So every component that can be read has a canonical form, which is
what its value is encoded as, and which is read as the same value.

## Main definitions

* `Canonical type bs canonical` — `canonical` is the canonical form of `bs`.

## Main results

* `encodeFitting_of_decodeKey?` — the types in which bytes are the bytes of their value.
* `canonical_timestamp` — how a timestamp is cut down.
* `exists_canonical_of_decode` — what is read is encoded in its canonical form, and read back.
-/

namespace QueryRouting

/-! ### Numbers of fixed width -/

namespace BigEndian

variable {width : Nat} {bs : Bytes}

/-- A signed number is read back into the bytes that it was read from. -/
theorem writeInt_readInt (bs : Bytes) : writeInt bs.length (readInt bs) = bs := by
  have hread : ((read bs : Int) % (modulus bs.length : Int)).toNat = read bs := by
    rw [Int.emod_eq_of_lt (by omega) (by exact_mod_cast read_lt bs), Int.toNat_natCast]
  rw [writeInt, readInt, Int.bmod_emod, hread, write_read]

theorem write_read_of_length (h : bs.length = width) : write width (read bs) = bs := by
  rw [← h, write_read]

theorem read_lt_of_length (h : bs.length = width) : read bs < modulus width := by
  rw [← h]
  exact read_lt bs

/-- The balanced residue of a signed number has the bytes of the number. -/
theorem writeInt_eq {n : Int} (h : bs.length = width)
    (hn : n = (readInt bs).bmod (modulus width)) : writeInt width n = bs := by
  rw [hn, ← h, readInt, Int.bmod_bmod]
  exact writeInt_readInt bs

end BigEndian

/-! ### The decoder -/

section

variable {β : Type} {bs : Bytes} {b : β}

/-- A result that asks for a width is there for bytes of that width. -/
theorem exactly_bind_eq_ok_iff {width : Nat} {f : Bytes → Except EncodingFault β} :
    (exactly width bs >>= f) = .ok b ↔ bs.length = width ∧ f bs = .ok b := by
  unfold exactly
  by_cases h : bs.length = width
  · simp [h, ok_bind]
  · simp [h, bind, Except.bind]

theorem orFault_bind_eq_ok_iff {α : Type} {fault : EncodingFault} {o : Option α}
    {f : α → Except EncodingFault β} :
    (orFault fault o >>= f) = .ok b ↔ ∃ a, o = some a ∧ f a = .ok b := by
  cases o with
  | none => simp [orFault, bind, Except.bind]
  | some a => simp [orFault, ok_bind]

end

variable {type : ColumnType} {value : Value} {bs : Bytes}

theorem decode_eq_ok_iff : decode type bs = .ok value ↔ decodeKey? bs type = some (.ok value) := by
  constructor
  · intro h
    unfold decode at h
    split at h
    · split at h <;> simp_all
    · simp at h
  · exact decode_of_decodeKey?

/-! ### Bytes that are those of their value -/

/-- Bytes that are read as a text are those of the text. -/
theorem encodeFitting_of_text (htype : type = .text ∨ type = .varchar)
    (h : decodeKey? bs type = some (.ok value)) : encodeFitting type value = .ok bs := by
  cases hs : Utf8.decode bs with
  | error fault => rcases htype with rfl | rfl <;> simp [decodeKey?, hs] at h
  | ok s =>
    have hvalue : Value.text s = value := by
      rcases htype with rfl | rfl <;> simpa [decodeKey?, hs] using h
    rw [← hvalue, ← Utf8.encode_of_decode hs]
    rcases htype with rfl | rfl <;> rfl

theorem encodeFitting_of_ascii (h : decodeKey? bs .ascii = some (.ok value)) :
    encodeFitting .ascii value = .ok bs := by
  have hread : (if Utf8.isAscii bs then
      Except.ok (Value.text (String.ofList (bs.map fun b => Char.ofNat b.toNat)))
      else .error EncodingFault.nonAsciiByte) = .ok value := Option.some.inj h
  split at hread
  · next hascii =>
    obtain ⟨hchars, hbytes⟩ := Utf8.encode_ofList_map hascii
    obtain rfl := Except.ok.inj hread
    have htext : isAsciiText (String.ofList (bs.map fun b => Char.ofNat b.toNat)) = true := by
      unfold isAsciiText
      simpa using hchars
    show (if isAsciiText _ then Except.ok (Utf8.encode _) else _) = _
    rw [if_pos htext, hbytes]
  · simp at hread

/-- What is read from a fixed number of bytes is written back when it is for bytes of that
number. -/
theorem encodeFitting_of_exactly {width : Nat} {f : Bytes → Value}
    (h : (do return f (← exactly width bs)) = Except.ok value)
    (hwrite : bs.length = width → encodeFitting type (f bs) = .ok bs) :
    encodeFitting type value = .ok bs := by
  obtain ⟨hlength, hvalue⟩ := exactly_bind_eq_ok_iff.mp h
  obtain rfl := Except.ok.inj hvalue
  exact hwrite hlength

/-- The bits of a number are those of the bytes, whatever number they stand for. -/
theorem encodeFitting_of_double (h : bs.length = 8) :
    encodeFitting .double (.double ⟨UInt64.ofNat (BigEndian.read bs)⟩) = .ok bs := by
  have hlt : BigEndian.read bs < UInt64.size := BigEndian.read_lt_of_length h
  show Except.ok (BigEndian.write 8 (UInt64.ofNat (BigEndian.read bs)).toNat) = _
  rw [UInt64.toNat_ofNat_of_lt' hlt, BigEndian.write_read_of_length h]

theorem encodeFitting_of_float (h : bs.length = 4) :
    encodeFitting .float (.float ⟨UInt32.ofNat (BigEndian.read bs)⟩) = .ok bs := by
  have hlt : BigEndian.read bs < UInt32.size := BigEndian.read_lt_of_length h
  show Except.ok (BigEndian.write 4 (UInt32.ofNat (BigEndian.read bs)).toNat) = _
  rw [UInt32.toNat_ofNat_of_lt' hlt, BigEndian.write_read_of_length h]

/-- Sixteen bytes are those of the identifier that they hold. -/
theorem Uuid.bytes_ofBytes (h : bs.length = 16) : (Uuid.ofBytes bs).bytes = bs := by
  have hlt : BigEndian.read bs < 2 ^ 128 := BigEndian.read_lt_of_length h
  rw [Uuid.bytes, Uuid.ofBytes, BitVec.toNat_ofNat, Nat.mod_eq_of_lt hlt,
    BigEndian.write_read_of_length h]

/-- Four or sixteen bytes are those of the address that they hold. -/
theorem Ip.bytes_of_ofBytes? {ip : Ip} (h : ofBytes? bs = some ip) : ip.bytes = bs := by
  unfold ofBytes? at h
  split at h
  · next hlength =>
    obtain rfl := Option.some.inj h
    have hnumber : BigEndian.read bs < 2 ^ 32 := BigEndian.read_lt_of_length hlength
    rw [bytes, BitVec.toNat_ofNat, Nat.mod_eq_of_lt hnumber, BigEndian.write_read_of_length hlength]
  · split at h
    · next hlength =>
      obtain rfl := Option.some.inj h
      have hnumber : BigEndian.read bs < 2 ^ 128 := BigEndian.read_lt_of_length hlength
      rw [bytes, BitVec.toNat_ofNat, Nat.mod_eq_of_lt hnumber,
        BigEndian.write_read_of_length hlength]
    · simp at h

theorem encodeFitting_of_inet (h : decodeKey? bs .inet = some (.ok value)) :
    encodeFitting .inet value = .ok bs := by
  obtain ⟨ip, hip, hvalue⟩ := orFault_bind_eq_ok_iff.mp (Option.some.inj h)
  obtain rfl := Except.ok.inj hvalue
  exact congrArg Except.ok (Ip.bytes_of_ofBytes? hip)

/-- The days that four bytes count are moved down and up again. -/
theorem encodeFitting_of_date (h : decodeKey? bs .date = some (.ok value)) :
    encodeFitting .date value = .ok bs := by
  obtain ⟨hlength, hbody⟩ := exactly_bind_eq_ok_iff.mp (Option.some.inj h)
  obtain ⟨date, hdate, hvalue⟩ := orFault_bind_eq_ok_iff.mp hbody
  obtain rfl := Except.ok.inj hvalue
  have hnumber : date.dayNumber + dateBias = BigEndian.read bs := by
    rw [Date.dayNumber_of_ofDayNumber? hdate]
    omega
  have hlt := BigEndian.read_lt_of_length hlength
  show Except.ok (BigEndian.writeInt 4 (date.dayNumber + dateBias)) = _
  rw [hnumber, BigEndian.writeInt, Int.emod_eq_of_lt (by omega) (by omega), Int.toNat_natCast,
    BigEndian.write_read_of_length hlength]

/-- A time that is read from nanoseconds is no leap second, and has so many of them. -/
theorem TimeOfDay.nanos_of_ofNanos? {n : Nat} {t : TimeOfDay} (h : ofNanos? n = some t) :
    t.isLeap = false ∧ t.nanos = n := by
  have hlt : n % nanosPerSecond < nanosPerSecond := Nat.mod_lt _ (by decide)
  unfold ofNanos? of? at h
  split at h
  · rw [dif_pos (Or.inl hlt)] at h
    obtain rfl := Option.some.inj h
    exact ⟨isLeap_eq_false_iff.mpr hlt, Nat.div_add_mod' n nanosPerSecond⟩
  · simp at h

theorem encodeFitting_of_time (h : decodeKey? bs .time = some (.ok value)) :
    encodeFitting .time value = .ok bs := by
  obtain ⟨hlength, hbody⟩ := exactly_bind_eq_ok_iff.mp (Option.some.inj h)
  dsimp only at hbody
  split at hbody
  · next hday =>
    obtain ⟨time, htime, hvalue⟩ := orFault_bind_eq_ok_iff.mp hbody
    obtain rfl := Except.ok.inj hvalue
    obtain ⟨hleap, hnanos⟩ := TimeOfDay.nanos_of_ofNanos? htime
    have hread : (time.nanos : Int) = BigEndian.readInt bs := by
      rw [hnanos, Int.toNat_of_nonneg hday.1]
    have hlt := time.nanos_mul_two_lt
    have hbytes : BigEndian.write 8 time.nanos = bs := by
      have hwrite := BigEndian.writeInt_readInt bs
      rw [← hread, hlength, BigEndian.writeInt, Int.emod_eq_of_lt (by omega) (by omega),
        Int.toNat_natCast] at hwrite
      exact hwrite
    show (if time.isLeap then _ else Except.ok (BigEndian.write 8 time.nanos)) = _
    rw [if_neg (by simp [hleap]), hbytes]
  · simp at hbody

/-- **Bytes that are read as a value are those of the value**, in every type but those of
booleans and of timestamps. -/
theorem encodeFitting_of_decodeKey? (h : decodeKey? bs type = some (.ok value))
    (hboolean : type ≠ .boolean) (htimestamp : type ≠ .timestamp) :
    encodeFitting type value = .ok bs := by
  cases type with
  | text => exact encodeFitting_of_text (Or.inl rfl) h
  | varchar => exact encodeFitting_of_text (Or.inr rfl) h
  | ascii => exact encodeFitting_of_ascii h
  | bigint =>
    apply encodeFitting_of_exactly (Option.some.inj h)
    intro hlength
    exact congrArg Except.ok (BigEndian.writeInt_eq hlength Int64.toInt_ofInt)
  | int =>
    apply encodeFitting_of_exactly (Option.some.inj h)
    intro hlength
    exact congrArg Except.ok (BigEndian.writeInt_eq hlength Int32.toInt_ofInt)
  | smallint =>
    apply encodeFitting_of_exactly (Option.some.inj h)
    intro hlength
    exact congrArg Except.ok (BigEndian.writeInt_eq hlength Int16.toInt_ofInt)
  | tinyint =>
    apply encodeFitting_of_exactly (Option.some.inj h)
    intro hlength
    exact congrArg Except.ok (BigEndian.writeInt_eq hlength Int8.toInt_ofInt)
  | boolean => exact absurd rfl hboolean
  | double => exact encodeFitting_of_exactly (Option.some.inj h) encodeFitting_of_double
  | float => exact encodeFitting_of_exactly (Option.some.inj h) encodeFitting_of_float
  | timestamp => exact absurd rfl htimestamp
  | uuid | timeuuid =>
    apply encodeFitting_of_exactly (Option.some.inj h)
    intro hlength
    exact congrArg Except.ok (Uuid.bytes_ofBytes hlength)
  | inet => exact encodeFitting_of_inet h
  | date => exact encodeFitting_of_date h
  | time => exact encodeFitting_of_time h
  | blob =>
    obtain rfl := Except.ok.inj (Option.some.inj h)
    rfl
  | _ => exact absurd (isKeyType_of_decodeKey? h) Bool.false_ne_true

/-! ### Booleans and timestamps -/

/-- The form in which the value that bytes stand for is encoded. -/
inductive Canonical : ColumnType → Bytes → Bytes → Prop where
  | falsity : Canonical .boolean [0] [0]
  /-- Every byte but zero is true, and true is one. -/
  | truth {b : UInt8} : b ≠ 0 → Canonical .boolean [b] [1]
  /-- Microseconds go down to a whole number of milliseconds, before 1970 too. -/
  | timestamp {bs canonical : Bytes} : canonical.length = 8 →
      IsGreatest {n : Int | 1000 ∣ n ∧ n ≤ BigEndian.readInt bs} (BigEndian.readInt canonical) →
      Canonical .timestamp bs canonical
  /-- In every other type a value has one form. -/
  | same {type : ColumnType} {bs : Bytes} : type ≠ .boolean → type ≠ .timestamp →
      Canonical type bs bs

theorem canonical_boolean (h : decodeKey? bs .boolean = some (.ok value)) :
    ∃ canonical, encodeFitting .boolean value = .ok canonical ∧
      decodeKey? canonical .boolean = some (.ok value) ∧ Canonical .boolean bs canonical := by
  obtain ⟨hlength, hvalue⟩ := exactly_bind_eq_ok_iff.mp (Option.some.inj h)
  obtain rfl := Except.ok.inj hvalue
  obtain ⟨b, rfl⟩ := List.length_eq_one_iff.mp hlength
  by_cases hb : b = 0
  · subst hb
    exact ⟨[0], rfl, rfl, .falsity⟩
  · have hread : BigEndian.read [b] ≠ 0 := by
      intro hzero
      apply hb
      apply UInt8.toNat.inj
      simpa [BigEndian.read] using hzero
    refine ⟨[1], ?_, ?_, .truth hb⟩
    · show Except.ok [if decide (BigEndian.read [b] ≠ 0) then 1 else 0] = _
      simp [hread]
    · simp only [hread, ne_eq, not_false_eq_true, decide_true]
      rfl

/-- The bytes of an instant name its milliseconds, in microseconds. -/
theorem readInt_writeInt_millis (t : Instant) :
    BigEndian.readInt (BigEndian.writeInt 8 (t.millis * 1000)) = t.millis * 1000 := by
  obtain ⟨hlow, hhigh⟩ := t.millis_mul_lt
  have hmodulus : (BigEndian.modulus 8 : Int) = 18446744073709551616 := rfl
  apply BigEndian.readInt_writeInt_of_bmod
  apply Int.bmod_eq_of_le_mul_two
  · omega
  · omega

/-- **A timestamp is cut down to whole milliseconds.**  The decoder rounds down and the
encoder towards zero, but what the decoder has read is a whole number of milliseconds, so
the encoder has nothing left to round. -/
theorem canonical_timestamp (h : decodeKey? bs .timestamp = some (.ok value)) :
    ∃ canonical, encodeFitting .timestamp value = .ok canonical ∧
      decodeKey? canonical .timestamp = some (.ok value) ∧
      Canonical .timestamp bs canonical := by
  obtain ⟨hlength, hbody⟩ := exactly_bind_eq_ok_iff.mp (Option.some.inj h)
  obtain ⟨t, ht, hvalue⟩ := orFault_bind_eq_ok_iff.mp hbody
  obtain rfl := Except.ok.inj hvalue
  obtain ⟨-, hnanos⟩ := Instant.nanos_of_ofMillis? ht
  have hmillis : t.millis = BigEndian.readInt bs / 1000 := Instant.millis_of_nanos hnanos
  have hread := readInt_writeInt_millis t
  refine ⟨BigEndian.writeInt 8 (t.millis * 1000), rfl, ?_,
    .timestamp (BigEndian.length_writeInt ..) ?_⟩
  · refine congrArg some (exactly_bind_eq_ok_iff.mpr ⟨BigEndian.length_writeInt .., ?_⟩)
    refine orFault_bind_eq_ok_iff.mpr ⟨t, ?_, rfl⟩
    rw [hread, Int.mul_ediv_cancel _ (by decide), hmillis, ht]
  · rw [hread, hmillis]
    refine ⟨⟨Int.dvd_mul_left .., ?_⟩, ?_⟩
    · omega
    · rintro n ⟨hdvd, hle⟩
      omega

/-! ### Components that are read -/

/-- **What is read is encoded in its canonical form, and is read from that again.**  The
canonical form is the bytes themselves, save that true is one and that microseconds are
cut down to whole milliseconds. -/
theorem exists_canonical_of_decode (h : decode type bs = .ok value) :
    ∃ canonical, encode type value = .ok canonical ∧ decode type canonical = .ok value ∧
      Canonical type bs canonical := by
  rw [decode_eq_ok_iff] at h
  have hencode : encode type value = encodeFitting type value :=
    if_pos (isKeyType_of_decodeKey? h)
  simp only [hencode, decode_eq_ok_iff]
  by_cases hboolean : type = .boolean
  · subst hboolean
    exact canonical_boolean h
  · by_cases htimestamp : type = .timestamp
    · subst htimestamp
      exact canonical_timestamp h
    · exact ⟨bs, encodeFitting_of_decodeKey? h hboolean htimestamp, h, .same hboolean htimestamp⟩

namespace BeforeEpoch

/-- A microsecond before 1970. -/
def bytes : Bytes := [0xff, 0xff, 0xff, 0xff, 0xff, 0xff, 0xff, 0xff]

/-- The last whole millisecond before 1970. -/
def instant : Instant := ⟨-1, 999000000, by decide, by decide⟩

end BeforeEpoch

open BeforeEpoch in
/-- A microsecond before 1970 is cut down to a millisecond before 1970. -/
theorem exists_canonical_of_decode_before_epoch :
    decode .timestamp bytes = .ok (.timestamp instant) ∧
      ∃ canonical, encode .timestamp (.timestamp instant) = .ok canonical ∧
        decode .timestamp canonical = .ok (.timestamp instant) ∧
        BigEndian.readInt canonical = -1000 := by
  have hmillis : Instant.ofMillis? (BigEndian.readInt bytes / 1000) = some instant := by decide
  have hread : decode .timestamp bytes = .ok (.timestamp instant) :=
    decode_eq_ok_iff.mpr (congrArg some (exactly_bind_eq_ok_iff.mpr
      ⟨rfl, orFault_bind_eq_ok_iff.mpr ⟨instant, hmillis, rfl⟩⟩))
  obtain ⟨canonical, hencode, hdecode, hcanonical⟩ := exists_canonical_of_decode hread
  refine ⟨hread, canonical, hencode, hdecode, ?_⟩
  cases hcanonical with
  | timestamp hlength hgreatest =>
    have hmicros : BigEndian.readInt bytes = -1 := by decide
    rw [hmicros] at hgreatest
    have hle : (-1000 : Int) ≤ BigEndian.readInt canonical :=
      hgreatest.2 ⟨by decide, by decide⟩
    obtain ⟨hdvd, hbelow⟩ := hgreatest.1
    omega
  | same hboolean htimestamp => exact absurd rfl htimestamp

end QueryRouting
