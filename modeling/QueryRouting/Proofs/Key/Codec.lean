import QueryRouting.Key.Codec
import QueryRouting.Proofs.Calendar.Date
import QueryRouting.Proofs.Text.Utf8

/-!
# Reading key components back

A value that can be encoded is read back from its bytes, save that a timestamp loses what
goes beyond whole milliseconds.  Which values can be encoded is a matter of kind, and in two
types of content: an ASCII column takes ASCII texts, and a time within a leap second is no
number of nanoseconds since midnight.

## Main definitions

* `Fits type value` — the values that a column of a type has an encoding for.

## Main results

* `exists_encode_iff_fits` — these values are encoded, and no others.
* `decodeKey?_of_encodeFitting` — the bytes of a value are read as the value, type by type.
* `decode_of_encode` — decoding undoes encoding.
-/

namespace QueryRouting

/-! ### Numbers of fixed width -/

namespace BigEndian

/-- A number that fits is read back. -/
theorem read_write_of_lt {width x : Nat} (h : x < modulus width) : read (write width x) = x := by
  rw [read_write, Nat.mod_eq_of_lt h]

/-- A signed number that fits is read back. -/
theorem readInt_writeInt_of_bmod {width : Nat} {x : Int} (h : x.bmod (modulus width) = x) :
    readInt (writeInt width x) = x := by
  rw [readInt_writeInt, h]

/-- A number below the half of the modulus is read back as a signed one. -/
theorem readInt_write_of_lt {width x : Nat} (h : x * 2 < modulus width) :
    readInt (write width x) = x := by
  rw [readInt, length_write, read_write_of_lt (by omega)]
  exact Int.bmod_eq_of_le_mul_two (by omega) (by omega)

/-- A number that is not negative and fits is read back as an unsigned one. -/
theorem read_writeInt_of_lt {width : Nat} {x : Int} (h0 : 0 ≤ x) (h : x < modulus width) :
    (read (writeInt width x) : Int) = x := by
  rw [writeInt, Int.emod_eq_of_lt h0 h, read_write_of_lt (by omega), Int.toNat_of_nonneg h0]

end BigEndian

namespace TimeOfDay

/-- A time outside of leap seconds is read back from its nanoseconds. -/
theorem ofNanos?_nanos {t : TimeOfDay} (h : t.isLeap = false) :
    ofNanos? t.nanos = some t := by
  have hnano := isLeap_eq_false_iff.mp h
  have hpos : 0 < nanosPerSecond := by decide
  have hdiv : t.nanos / nanosPerSecond = t.second := by
    rw [nanos, Nat.mul_comm, Nat.mul_add_div hpos, Nat.div_eq_of_lt hnano, Nat.add_zero]
  have hmod : t.nanos % nanosPerSecond = t.nanosecond := by
    rw [nanos, Nat.mul_comm, Nat.mul_add_mod, Nat.mod_eq_of_lt hnano]
  simp [ofNanos?, hdiv, hmod, of?, t.second_lt, hnano]

/-- A time outside of leap seconds is within its day. -/
theorem nanos_lt {t : TimeOfDay} (h : t.isLeap = false) : t.nanos < nanosPerDay := by
  have hnano := isLeap_eq_false_iff.mp h
  have hsecond := t.second_lt
  rw [nanos, nanosPerDay]
  simp only [nanosPerSecond] at hnano ⊢
  omega

/-- A day has less nanoseconds than eight bytes count, even with a sign. -/
theorem nanos_mul_two_lt (t : TimeOfDay) : t.nanos * 2 < BigEndian.modulus 8 := by
  have hsecond := t.second_lt
  have hnano := t.nanosecond_lt
  have hmodulus : BigEndian.modulus 8 = 18446744073709551616 := rfl
  rw [nanos]
  simp only [nanosPerSecond] at hnano ⊢
  omega

end TimeOfDay

/-- The bytes of an address are read back as the address. -/
@[simp] theorem Ip.ofBytes?_bytes (ip : Ip) : ofBytes? ip.bytes = some ip := by
  cases ip with
  | v4 n =>
    have hn : n.toNat < BigEndian.modulus 4 := n.isLt
    simp [ofBytes?, bytes, BigEndian.read_write_of_lt hn]
  | v6 n =>
    have hn : n.toNat < BigEndian.modulus 16 := n.isLt
    simp [ofBytes?, bytes, BigEndian.read_write_of_lt hn]

theorem Uuid.length_bytes (u : Uuid) : u.bytes.length = 16 := BigEndian.length_write ..

/-- The bytes of an identifier are read back as the identifier. -/
@[simp] theorem Uuid.ofBytes_bytes (u : Uuid) : ofBytes u.bytes = u := by
  have hn : u.number.toNat < BigEndian.modulus 16 := u.number.isLt
  simp [ofBytes, bytes, BigEndian.read_write_of_lt hn]

/-! ### Values that can be encoded -/

/-- The values that a column of a type has an encoding for. -/
inductive Fits : ColumnType → Value → Prop where
  | text (s : String) : Fits .text (.text s)
  | varchar (s : String) : Fits .varchar (.text s)
  | ascii {s : String} : isAsciiText s = true → Fits .ascii (.text s)
  | bigint (n : Int64) : Fits .bigint (.bigint n)
  | int (n : Int32) : Fits .int (.int n)
  | smallint (n : Int16) : Fits .smallint (.smallint n)
  | tinyint (n : Int8) : Fits .tinyint (.tinyint n)
  | boolean (b : Bool) : Fits .boolean (.boolean b)
  | double (x : Binary64) : Fits .double (.double x)
  | float (x : Binary32) : Fits .float (.float x)
  | timestamp (t : Instant) : Fits .timestamp (.timestamp t)
  | uuid (u : Uuid) : Fits .uuid (.uuid u)
  | timeuuid (u : Uuid) : Fits .timeuuid (.timeuuid u)
  | inet (ip : Ip) : Fits .inet (.inet ip)
  | date (d : Date) : Fits .date (.date d)
  /-- A leap second is no time of a day of 86400 seconds. -/
  | time {t : TimeOfDay} : t.isLeap = false → Fits .time (.time t)
  | blob (bs : Bytes) : Fits .blob (.blob bs)

variable {type : ColumnType} {value : Value} {bs : Bytes}

/-- A value that has an encoding fits its type. -/
theorem fits_of_encodeFitting (h : encodeFitting type value = .ok bs) : Fits type value := by
  unfold encodeFitting at h
  split at h
  case h_3 =>
    split at h
    · next hascii => exact .ascii hascii
    · simp at h
  case h_16 =>
    split at h
    · simp at h
    · next hleap => exact .time (by simpa using hleap)
  case h_18 => simp at h
  all_goals constructor

/-- A type that some value fits can be part of a key. -/
theorem Fits.isKeyType (h : Fits type value) : type.isKeyType = true := by
  cases h <;> rfl

/-- **The values that fit are encoded, and no others.** -/
theorem exists_encode_iff_fits : (∃ bs, encode type value = .ok bs) ↔ Fits type value := by
  constructor
  · rintro ⟨bs, h⟩
    rw [encode] at h
    split at h
    · exact fits_of_encodeFitting h
    · simp at h
  · intro h
    rw [encode, if_pos h.isKeyType]
    cases h with
    | ascii hascii => exact ⟨_, if_pos hascii⟩
    | time hleap => exact ⟨_, if_neg (by simp [hleap])⟩
    | _ => exact ⟨_, rfl⟩

/-! ### The bytes of each type -/

/-- A result is handed on. -/
theorem ok_bind {ε α β : Type} (a : α) (f : α → Except ε β) : (Except.ok a >>= f) = f a := rfl

theorem exactly_of_length {width : Nat} (h : bs.length = width) : exactly width bs = .ok bs :=
  if_pos h

theorem decodeKey?_bigint (n : Int64) :
    decodeKey? (BigEndian.writeInt 8 n.toInt) .bigint = some (.ok (.bigint n)) := by
  have hn : BigEndian.readInt (BigEndian.writeInt 8 n.toInt) = n.toInt :=
    BigEndian.readInt_writeInt_of_bmod n.toInt_bmod
  show some (do return Value.bigint (Int64.ofInt (BigEndian.readInt (← exactly 8 _)))) = _
  rw [exactly_of_length (BigEndian.length_writeInt ..), ok_bind, hn,
    Int64.ofInt_toInt]
  rfl

theorem decodeKey?_int (n : Int32) :
    decodeKey? (BigEndian.writeInt 4 n.toInt) .int = some (.ok (.int n)) := by
  have hn : BigEndian.readInt (BigEndian.writeInt 4 n.toInt) = n.toInt :=
    BigEndian.readInt_writeInt_of_bmod n.toInt_bmod
  show some (do return Value.int (Int32.ofInt (BigEndian.readInt (← exactly 4 _)))) = _
  rw [exactly_of_length (BigEndian.length_writeInt ..), ok_bind, hn,
    Int32.ofInt_toInt]
  rfl

theorem decodeKey?_smallint (n : Int16) :
    decodeKey? (BigEndian.writeInt 2 n.toInt) .smallint = some (.ok (.smallint n)) := by
  have hn : BigEndian.readInt (BigEndian.writeInt 2 n.toInt) = n.toInt :=
    BigEndian.readInt_writeInt_of_bmod n.toInt_bmod
  show some (do return Value.smallint (Int16.ofInt (BigEndian.readInt (← exactly 2 _)))) = _
  rw [exactly_of_length (BigEndian.length_writeInt ..), ok_bind, hn,
    Int16.ofInt_toInt]
  rfl

theorem decodeKey?_tinyint (n : Int8) :
    decodeKey? (BigEndian.writeInt 1 n.toInt) .tinyint = some (.ok (.tinyint n)) := by
  have hn : BigEndian.readInt (BigEndian.writeInt 1 n.toInt) = n.toInt :=
    BigEndian.readInt_writeInt_of_bmod n.toInt_bmod
  show some (do return Value.tinyint (Int8.ofInt (BigEndian.readInt (← exactly 1 _)))) = _
  rw [exactly_of_length (BigEndian.length_writeInt ..), ok_bind, hn,
    Int8.ofInt_toInt]
  rfl

/-- The bits of a number come back, those of a NaN and the sign of a zero included. -/
theorem decodeKey?_double (x : Binary64) :
    decodeKey? (BigEndian.write 8 x.bits.toNat) .double = some (.ok (.double x)) := by
  have hx : x.bits.toNat < BigEndian.modulus 8 := x.bits.toNat_lt
  show some (do return Value.double ⟨UInt64.ofNat (BigEndian.read (← exactly 8 _))⟩) = _
  rw [exactly_of_length (BigEndian.length_write ..), ok_bind,
    BigEndian.read_write_of_lt hx, UInt64.ofNat_toNat]
  rfl

theorem decodeKey?_float (x : Binary32) :
    decodeKey? (BigEndian.write 4 x.bits.toNat) .float = some (.ok (.float x)) := by
  have hx : x.bits.toNat < BigEndian.modulus 4 := x.bits.toNat_lt
  show some (do return Value.float ⟨UInt32.ofNat (BigEndian.read (← exactly 4 _))⟩) = _
  rw [exactly_of_length (BigEndian.length_write ..), ok_bind,
    BigEndian.read_write_of_lt hx, UInt32.ofNat_toNat]
  rfl

theorem decodeKey?_uuid (u : Uuid) : decodeKey? u.bytes .uuid = some (.ok (.uuid u)) := by
  show some (do return Value.uuid (Uuid.ofBytes (← exactly 16 _))) = _
  rw [exactly_of_length u.length_bytes, ok_bind, u.ofBytes_bytes]
  rfl

theorem decodeKey?_timeuuid (u : Uuid) :
    decodeKey? u.bytes .timeuuid = some (.ok (.timeuuid u)) := by
  show some (do return Value.timeuuid (Uuid.ofBytes (← exactly 16 _))) = _
  rw [exactly_of_length u.length_bytes, ok_bind, u.ofBytes_bytes]
  rfl

theorem decodeKey?_ascii {s : String} (h : isAsciiText s = true) :
    decodeKey? (Utf8.encode s) .ascii = some (.ok (.text s)) := by
  have hchars : ∀ c ∈ s.toList, c.toNat < 0x80 := by simpa [isAsciiText] using h
  have hbytes := Utf8.isAscii_encode hchars
  show some (if Utf8.isAscii (Utf8.encode s) then _ else _) = _
  rw [if_pos hbytes, Utf8.ofList_map_encode hchars]

/-- The days of the calendar, moved up, are numbers of four bytes. -/
theorem decodeKey?_date (d : Date) :
    decodeKey? (BigEndian.writeInt 4 (d.dayNumber + dateBias)) .date = some (.ok (.date d)) := by
  obtain ⟨hlow, hhigh⟩ := d.dayNumber_mem
  have hmodulus : (BigEndian.modulus 4 : Int) = 4294967296 := rfl
  have hbias : dateBias = 2147483648 := rfl
  have hdays : (BigEndian.read (BigEndian.writeInt 4 (d.dayNumber + dateBias)) : Int) - dateBias
      = d.dayNumber := by
    rw [BigEndian.read_writeInt_of_lt (by omega) (by omega)]
    omega
  show some (do
    let days := (BigEndian.read (← exactly 4 _) : Int) - dateBias
    return Value.date (← orFault .dateRange (Date.ofDayNumber? days))) = _
  rw [exactly_of_length (BigEndian.length_writeInt ..), ok_bind]
  simp only [hdays, Date.ofDayNumber?_dayNumber]
  rfl

theorem decodeKey?_time {t : TimeOfDay} (h : t.isLeap = false) :
    decodeKey? (BigEndian.write 8 t.nanos) .time = some (.ok (.time t)) := by
  have hnanos : BigEndian.readInt (BigEndian.write 8 t.nanos) = t.nanos :=
    BigEndian.readInt_write_of_lt t.nanos_mul_two_lt
  have hday := TimeOfDay.nanos_lt h
  show some (do
    let nanos := BigEndian.readInt (← exactly 8 _)
    if 0 ≤ nanos ∧ nanos < nanosPerDay then
      return Value.time (← orFault .timeRange (TimeOfDay.ofNanos? nanos.toNat))
    else .error (.notTimeOfDay nanos)) = _
  rw [exactly_of_length (BigEndian.length_write ..), ok_bind, hnanos]
  simp only [Int.toNat_natCast, TimeOfDay.ofNanos?_nanos h]
  rw [if_pos (by omega)]
  rfl

/-! ### Decoding -/

/-- **The bytes of a value are read as the value**, whatever its type is but a timestamp. -/
theorem decodeKey?_of_encodeFitting (h : encodeFitting type value = .ok bs)
    (htype : type ≠ .timestamp) : decodeKey? bs type = some (.ok value) := by
  cases fits_of_encodeFitting h with
  | text s | varchar s =>
    obtain rfl := Except.ok.inj h
    rw [decodeKey?, Utf8.decode_encode]
  | ascii hascii =>
    rw [encodeFitting, if_pos hascii] at h
    obtain rfl := Except.ok.inj h
    exact decodeKey?_ascii hascii
  | bigint n =>
    obtain rfl := Except.ok.inj h
    exact decodeKey?_bigint n
  | int n =>
    obtain rfl := Except.ok.inj h
    exact decodeKey?_int n
  | smallint n =>
    obtain rfl := Except.ok.inj h
    exact decodeKey?_smallint n
  | tinyint n =>
    obtain rfl := Except.ok.inj h
    exact decodeKey?_tinyint n
  | boolean b =>
    obtain rfl := Except.ok.inj h
    cases b <;> rfl
  | double x =>
    obtain rfl := Except.ok.inj h
    exact decodeKey?_double x
  | float x =>
    obtain rfl := Except.ok.inj h
    exact decodeKey?_float x
  | timestamp t => exact absurd rfl htype
  | uuid u =>
    obtain rfl := Except.ok.inj h
    exact decodeKey?_uuid u
  | timeuuid u =>
    obtain rfl := Except.ok.inj h
    exact decodeKey?_timeuuid u
  | inet ip =>
    obtain rfl := Except.ok.inj h
    rw [decodeKey?, Ip.ofBytes?_bytes]
    rfl
  | date d =>
    obtain rfl := Except.ok.inj h
    exact decodeKey?_date d
  | time hleap =>
    rw [encodeFitting, if_neg (by simp [hleap])] at h
    obtain rfl := Except.ok.inj h
    exact decodeKey?_time hleap
  | blob bytes =>
    obtain rfl := Except.ok.inj h
    rfl

/-- Values are read in the types that can be part of a key. -/
theorem isKeyType_of_decodeKey? (h : decodeKey? bs type = some (.ok value)) :
    type.isKeyType = true := by
  cases type with
  | custom | counter | decimal | varint | list | map | set | udt | tuple => exact nomatch h
  | _ => rfl

theorem decode_of_decodeKey? (h : decodeKey? bs type = some (.ok value)) :
    decode type bs = .ok value := by
  rw [decode, if_pos (isKeyType_of_decodeKey? h), h]

/-- **Decoding undoes encoding.**  A column of a type that can be part of a key takes the
values that fit it and no others, and every value that it takes comes back from its bytes,
unless the type is that of timestamps. -/
theorem decode_of_encode (htype : type ≠ .timestamp) (value : Value) :
    ((∃ bs, encode type value = .ok bs) ↔ Fits type value) ∧
      ∀ bs, encode type value = .ok bs → decode type bs = .ok value := by
  refine ⟨exists_encode_iff_fits, fun bs h => ?_⟩
  rw [encode] at h
  split at h
  · exact decode_of_decodeKey? (decodeKey?_of_encodeFitting h htype)
  · simp at h

namespace FirstDay

def date : Date := ⟨Date.firstYear, 1, 1, by decide, by decide, by decide⟩

/-- Some ninety-six million days before 1970. -/
def bytes : Bytes := [0x7a, 0x40, 0x0e, 0x74]

theorem writeInt_dayNumber : BigEndian.writeInt 4 (date.dayNumber + dateBias) = bytes := by decide

end FirstDay

open FirstDay in
/-- The first day of the calendar comes back. -/
theorem decode_of_encode_first_day :
    ColumnType.date ≠ .timestamp ∧ encode .date (.date date) = .ok bytes ∧
      decode .date bytes = .ok (.date date) := by
  have htype : ColumnType.date ≠ .timestamp := by decide
  have hbytes : encode .date (.date date) = .ok bytes := congrArg Except.ok writeInt_dayNumber
  exact ⟨htype, hbytes, (decode_of_encode htype (.date date)).2 bytes hbytes⟩

end QueryRouting
