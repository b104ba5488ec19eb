import QueryRouting.Proofs.Calendar.Order
import QueryRouting.Proofs.Key.Timestamp

/-!
# Points in time in keys

The numbers that stand for points in time are computed in machine words, which wrap.  Within the
calendar and the day none of them does: the microseconds of an instant, leap seconds included, and
its whole milliseconds in microseconds fit 64 bits with a sign, the days of a date, moved up, fit
32 bits without one, and the nanoseconds of a time are those of a day.  So the encoded numbers are
the exact ones, and they are in the order of what they stand for.

## Main definitions

* `Instant.microsWord`, `Instant.millisWord` — microseconds, and whole milliseconds in
  microseconds, computed in words of 64 bits.
* `Date.daysWord` — the days of a date, moved up, cut to 32 bits.
* `TimeOfDay.nanosWord` — nanoseconds since midnight, computed in words of 64 bits.

## Main results

* `Instant.toInt_microsWord`, `Instant.toInt_millisWord`, `Date.toNat_daysWord`,
  `TimeOfDay.toInt_nanosWord` — the words are the exact numbers.
* `temporal_encodings_exact` — the encoded numbers, and their order.
-/

namespace QueryRouting

/-- A number of 64 bits with a sign is its own balanced residue. -/
theorem bmod_word {n : Int} (hlow : -9223372036854775808 ≤ n) (hhigh : n < 9223372036854775808) :
    n.bmod (2 ^ 64) = n :=
  Int.bmod_eq_of_le_mul_two (by omega) (by omega)

/-! ### Instants -/

namespace Instant

/-- Microseconds since the start of 1970, computed in words of 64 bits. -/
def microsWord (t : Instant) : Int64 :=
  Int64.ofInt t.second * 1000000 + Int64.ofNat (t.nanosecond / 1000)

/-- The whole milliseconds of the microseconds, in microseconds again. -/
def millisWord (t : Instant) : Int64 := t.microsWord / 1000 * 1000

/-- The microseconds of an instant are a number of eight bytes, with those of a leap second. -/
theorem micros_mem (t : Instant) :
    -9223372036854775808 ≤ t.micros ∧ t.micros < 9223372036854775808 := by
  have hsecond := t.second_mem
  have hnano := t.nanosecond_lt
  rw [micros]
  simp only [firstSecond, lastSecond, nanosPerSecond] at hsecond hnano
  omega

/-- **The microseconds of an instant do not wrap**, nor do those of its whole seconds. -/
theorem toInt_microsWord (t : Instant) : t.microsWord.toInt = t.micros := by
  obtain ⟨hlow, hhigh⟩ := t.micros_mem
  have hmem := t.second_mem
  have hnano := t.nanosecond_lt
  simp only [firstSecond, lastSecond, nanosPerSecond] at hmem hnano
  have hsecond : (Int64.ofInt t.second).toInt = t.second :=
    Int64.toInt_ofInt_of_le (by omega) (by omega)
  have hrest : (Int64.ofNat (t.nanosecond / 1000)).toInt = (t.nanosecond / 1000 : Nat) :=
    Int64.toInt_ofNat_of_lt (by omega)
  have hfactor : (1000000 : Int64).toInt = 1000000 := rfl
  have hproduct : (Int64.ofInt t.second * 1000000).toInt = t.second * 1000000 := by
    rw [Int64.toInt_mul, hsecond, hfactor]
    exact bmod_word (by omega) (by omega)
  rw [microsWord, Int64.toInt_add, hproduct, hrest]
  exact bmod_word hlow hhigh

/-- The division by a thousand is exact too. -/
theorem toInt_microsWord_div (t : Instant) : (t.microsWord / 1000).toInt = t.millis := by
  obtain ⟨hlow, hhigh⟩ := t.millis_mul_lt
  have hdivisor : (1000 : Int64).toInt = 1000 := rfl
  rw [Int64.toInt_div, toInt_microsWord, hdivisor]
  exact bmod_word (by rw [← millis]; omega) (by rw [← millis]; omega)

/-- **The whole milliseconds of an instant do not wrap** on the way back to microseconds. -/
theorem toInt_millisWord (t : Instant) : t.millisWord.toInt = t.millis * 1000 := by
  obtain ⟨hlow, hhigh⟩ := t.millis_mul_lt
  have hfactor : (1000 : Int64).toInt = 1000 := rfl
  rw [millisWord, Int64.toInt_mul, toInt_microsWord_div, hfactor]
  exact bmod_word hlow hhigh

end Instant

/-! ### Dates -/

namespace Date

/-- The days since the start of 1970, moved up in a word of 64 bits and cut to one of 32. -/
def daysWord (d : Date) : UInt32 :=
  (Int64.ofInt d.dayNumber + Int64.ofInt dateBias).toUInt64.toUInt32

/-- The days of a date, moved up, are a number of four bytes. -/
theorem dayNumber_add_bias_mem (d : Date) :
    0 ≤ d.dayNumber + 2147483648 ∧ d.dayNumber + 2147483648 ≤ 4294967295 := by
  obtain ⟨hlow, hhigh⟩ := d.dayNumber_mem
  omega

/-- **The cut takes nothing off the days of a date.** -/
theorem toNat_daysWord (d : Date) : (d.daysWord.toNat : Int) = d.dayNumber + 2147483648 := by
  obtain ⟨hlow, hhigh⟩ := d.dayNumber_add_bias_mem
  have hbias : (Int64.ofInt dateBias).toInt = 2147483648 := by decide
  have hdays : (Int64.ofInt d.dayNumber).toInt = d.dayNumber :=
    Int64.toInt_ofInt_of_le (by omega) (by omega)
  have hsum : (Int64.ofInt d.dayNumber + Int64.ofInt dateBias).toInt
      = d.dayNumber + 2147483648 := by
    rw [Int64.toInt_add, hdays, hbias]
    exact bmod_word (by omega) (by omega)
  have hnonneg : 0 ≤ Int64.ofInt d.dayNumber + Int64.ofInt dateBias := by
    rw [Int64.le_iff_toInt_le, hsum]
    exact hlow
  rw [daysWord, UInt64.toNat_toUInt32, Int64.toNat_toUInt64_of_le hnonneg, ← Int64.toNat_toInt,
    hsum]
  omega

end Date

/-! ### Times of day -/

namespace TimeOfDay

/-- Nanoseconds since midnight, computed in words of 64 bits. -/
def nanosWord (t : TimeOfDay) : Int64 :=
  Int64.ofNat t.second * Int64.ofNat nanosPerSecond + Int64.ofNat t.nanosecond

/-- **The nanoseconds of a time do not wrap.** -/
theorem toInt_nanosWord (t : TimeOfDay) : t.nanosWord.toInt = t.nanos := by
  have hmem := t.second_lt
  have hlt := t.nanosecond_lt
  simp only [nanosPerSecond] at hlt
  have hsecond : (Int64.ofNat t.second).toInt = t.second := Int64.toInt_ofNat_of_lt (by omega)
  have hnano : (Int64.ofNat t.nanosecond).toInt = t.nanosecond :=
    Int64.toInt_ofNat_of_lt (by omega)
  have hfactor : (Int64.ofNat nanosPerSecond).toInt = 1000000000 := by decide
  have hproduct : (Int64.ofNat t.second * Int64.ofNat nanosPerSecond).toInt
      = t.second * 1000000000 := by
    rw [Int64.toInt_mul, hsecond, hfactor]
    exact bmod_word (by omega) (by omega)
  have hnanos : (t.nanos : Int) = t.second * 1000000000 + t.nanosecond := by
    rw [nanos]
    rfl
  rw [nanosWord, Int64.toInt_add, hproduct, hnano, hnanos]
  exact bmod_word (by omega) (by omega)

end TimeOfDay

/-! ### Encoded numbers -/

/-- A timestamp is encoded as the word of its whole milliseconds. -/
theorem encode_timestamp_millisWord (t : Instant) :
    ∃ bs, encode .timestamp (.timestamp t) = .ok bs ∧ bs.length = 8 ∧
      BigEndian.readInt bs = t.millisWord.toInt := by
  rw [t.toInt_millisWord]
  exact readInt_of_encode_timestamp t

/-- A date is encoded as the word of its days. -/
theorem encode_date_daysWord (d : Date) :
    ∃ bs, encode .date (.date d) = .ok bs ∧ bs.length = 4 ∧
      BigEndian.read bs = d.daysWord.toNat := by
  refine ⟨_, rfl, BigEndian.length_writeInt .., ?_⟩
  obtain ⟨hlow, hhigh⟩ := d.dayNumber_add_bias_mem
  have hmodulus : (BigEndian.modulus 4 : Int) = 4294967296 := rfl
  have hbias : dateBias = 2147483648 := rfl
  have hread : (BigEndian.read (BigEndian.writeInt 4 (d.dayNumber + dateBias)) : Int)
      = d.dayNumber + dateBias := BigEndian.read_writeInt_of_lt (by omega) (by omega)
  have hword := d.toNat_daysWord
  omega

/-- A time outside of leap seconds is encoded as the word of its nanoseconds. -/
theorem encode_time_nanosWord {t : TimeOfDay} (hleap : t.isLeap = false) :
    ∃ bs, encode .time (.time t) = .ok bs ∧ bs.length = 8 ∧
      BigEndian.readInt bs = t.nanosWord.toInt := by
  have hencode : encode .time (.time t) = .ok (BigEndian.write 8 t.nanos) := by
    show (if t.isLeap then _ else _) = _
    rw [if_neg (by simp [hleap])]
  refine ⟨_, hencode, BigEndian.length_write .., ?_⟩
  rw [BigEndian.readInt_write_of_lt t.nanos_mul_two_lt, t.toInt_nanosWord]

/-! ### The order of the encoded numbers -/

section

variable {bs bs' : Bytes}

/-- What holds of some encoding of a value holds of its encoding. -/
theorem of_encode_eq {type : ColumnType} {value : Value} {Holds : Bytes → Prop}
    (h : ∃ bs, encode type value = .ok bs ∧ Holds bs) (hbs : encode type value = .ok bs) :
    Holds bs := by
  obtain ⟨bs', hbs', hholds⟩ := h
  obtain rfl : bs = bs' := Except.ok.inj (hbs.symm.trans hbs')
  exact hholds

/-- Later dates have greater encodings. -/
theorem read_lt_of_date_lt {d e : Date} (h : d < e) (hd : encode .date (.date d) = .ok bs)
    (he : encode .date (.date e) = .ok bs') : BigEndian.read bs < BigEndian.read bs' := by
  obtain ⟨-, hread⟩ := of_encode_eq (encode_date_daysWord d) hd
  obtain ⟨-, hread'⟩ := of_encode_eq (encode_date_daysWord e) he
  have hlt := Date.dayNumber_lt_of_lt h
  have hword := d.toNat_daysWord
  have hword' := e.toNat_daysWord
  omega

/-- Later times have greater encodings. -/
theorem readInt_lt_of_time_lt {t u : TimeOfDay} (ht : t.isLeap = false) (hu : u.isLeap = false)
    (h : t < u) (hbs : encode .time (.time t) = .ok bs)
    (hbs' : encode .time (.time u) = .ok bs') : BigEndian.readInt bs < BigEndian.readInt bs' := by
  obtain ⟨-, hread⟩ := of_encode_eq (encode_time_nanosWord ht) hbs
  obtain ⟨-, hread'⟩ := of_encode_eq (encode_time_nanosWord hu) hbs'
  rw [hread, hread', t.toInt_nanosWord, u.toInt_nanosWord]
  exact_mod_cast TimeOfDay.nanos_lt_of_lt ht h

/-- Later instants have no smaller encodings. -/
theorem readInt_le_of_instant_le {t u : Instant} (ht : t.isLeap = false) (h : t ≤ u)
    (hbs : encode .timestamp (.timestamp t) = .ok bs)
    (hbs' : encode .timestamp (.timestamp u) = .ok bs') :
    BigEndian.readInt bs ≤ BigEndian.readInt bs' := by
  obtain ⟨-, hread⟩ := of_encode_eq (readInt_of_encode_timestamp t) hbs
  obtain ⟨-, hread'⟩ := of_encode_eq (readInt_of_encode_timestamp u) hbs'
  have hle := Instant.millis_le_of_le ht h
  omega

end

/-- What rises with each step up rises strictly between different points. -/
theorem le_and_lt_of_le {α β : Type} [PartialOrder α] [Preorder β] {x y : α} {m n : β}
    (hle : x ≤ y) (heq : x = y → m = n) (hlt : x < y → m < n) : m ≤ n ∧ (x ≠ y → m < n) := by
  obtain hsame | hless := hle.eq_or_lt
  · exact ⟨(heq hsame).le, fun hne => absurd hsame hne⟩
  · exact ⟨(hlt hless).le, fun _ => hlt hless⟩

/-- **No encoding of a point in time wraps or is cut.**  The microseconds of an instant, leap
seconds included, fit 64 bits, and so do its whole milliseconds in microseconds.  The days of a
date, moved up, fit 32 bits, and the nanoseconds of a time are less than those of a day.  What is
encoded is the word, which is the exact number.  So the numbers are in the order of the dates, of
the times and of the instants outside of leap seconds, strictly for dates and for times. -/
theorem temporal_encodings_exact :
    (∀ t : Instant,
      (-9223372036854775808 ≤ t.second * 1000000 + (t.nanosecond / 1000 : Nat) ∧
        t.second * 1000000 + (t.nanosecond / 1000 : Nat) ≤ 9223372036854775807) ∧
      t.microsWord.toInt = t.second * 1000000 + (t.nanosecond / 1000 : Nat) ∧
      (t.microsWord / 1000 * 1000).toInt = (t.microsWord / 1000).toInt * 1000 ∧
      ∃ bs, encode .timestamp (.timestamp t) = .ok bs ∧ bs.length = 8 ∧
        BigEndian.readInt bs = (t.microsWord / 1000 * 1000).toInt) ∧
    (∀ d : Date,
      (0 ≤ d.dayNumber + 2147483648 ∧ d.dayNumber + 2147483648 ≤ 4294967295) ∧
      (d.daysWord.toNat : Int) = d.dayNumber + 2147483648 ∧
      ∃ bs, encode .date (.date d) = .ok bs ∧ bs.length = 4 ∧
        BigEndian.read bs = d.daysWord.toNat) ∧
    (∀ t : TimeOfDay, t.isLeap = false →
      t.nanos ≤ 86400 * 1000000000 - 1 ∧ t.nanosWord.toInt = t.nanos ∧
      ∃ bs, encode .time (.time t) = .ok bs ∧ bs.length = 8 ∧
        BigEndian.readInt bs = t.nanosWord.toInt) ∧
    (∀ (d e : Date) (bs bs' : Bytes), encode .date (.date d) = .ok bs →
      encode .date (.date e) = .ok bs' → d ≤ e → BigEndian.read bs ≤ BigEndian.read bs' ∧
        (d ≠ e → BigEndian.read bs < BigEndian.read bs')) ∧
    (∀ (t u : TimeOfDay) (bs bs' : Bytes), t.isLeap = false → u.isLeap = false →
      encode .time (.time t) = .ok bs → encode .time (.time u) = .ok bs' → t ≤ u →
        BigEndian.readInt bs ≤ BigEndian.readInt bs' ∧
        (t ≠ u → BigEndian.readInt bs < BigEndian.readInt bs')) ∧
    (∀ (t u : Instant) (bs bs' : Bytes), t.isLeap = false → u.isLeap = false →
      encode .timestamp (.timestamp t) = .ok bs → encode .timestamp (.timestamp u) = .ok bs' →
      t ≤ u → BigEndian.readInt bs ≤ BigEndian.readInt bs') := by
  refine ⟨fun t => ?_, fun d => ⟨d.dayNumber_add_bias_mem, d.toNat_daysWord,
    encode_date_daysWord d⟩, fun t hleap => ?_, ?_, ?_, ?_⟩
  · obtain ⟨hlow, hhigh⟩ := t.micros_mem
    refine ⟨⟨hlow, Int.le_of_lt_add_one hhigh⟩, t.toInt_microsWord, ?_,
      encode_timestamp_millisWord t⟩
    rw [t.toInt_microsWord_div]
    exact t.toInt_millisWord
  · exact ⟨Nat.le_sub_one_of_lt (TimeOfDay.nanos_lt hleap), t.toInt_nanosWord,
      encode_time_nanosWord hleap⟩
  · intro d e bs bs' hd he hle
    apply le_and_lt_of_le hle
    · rintro rfl
      rw [Except.ok.inj (hd.symm.trans he)]
    · intro hlt
      exact read_lt_of_date_lt hlt hd he
  · intro t u bs bs' ht hu hbs hbs' hle
    apply le_and_lt_of_le hle
    · rintro rfl
      rw [Except.ok.inj (hbs.symm.trans hbs')]
    · intro hlt
      exact readInt_lt_of_time_lt ht hu hlt hbs hbs'
  · intro t u bs bs' ht _ hbs hbs' hle
    exact readInt_le_of_instant_le ht hle hbs hbs'

namespace AroundEpoch

/-- A nanosecond more than a second before the start of 1970, and as much after it. -/
def before : Instant := ⟨-2, 999999999, by decide, by decide⟩

def after : Instant := (Instant.of? 1 1).get (by decide)

/-- The last second of a day, and a nanosecond before its end. -/
def lastSecond : TimeOfDay := ⟨86399, 0, by decide, by decide⟩

def lastNano : TimeOfDay := ⟨86399, 999999999, by decide, by decide⟩

end AroundEpoch

open AroundEpoch in
/-- An instant before the start of 1970 is encoded no greater than one after it, the first day of
the calendar less than the last, and the last second of a day less than its last nanosecond. -/
theorem temporal_encodings_exact_around_epoch :
    (before ≤ after ∧ ∃ bs bs', encode .timestamp (.timestamp before) = .ok bs ∧
      encode .timestamp (.timestamp after) = .ok bs' ∧
      BigEndian.readInt bs ≤ BigEndian.readInt bs') ∧
    (Date.firstDay ≤ Date.lastDay ∧ ∃ bs bs', encode .date (.date Date.firstDay) = .ok bs ∧
      encode .date (.date Date.lastDay) = .ok bs' ∧ BigEndian.read bs < BigEndian.read bs') ∧
    (lastSecond ≤ lastNano ∧ ∃ bs bs', encode .time (.time lastSecond) = .ok bs ∧
      encode .time (.time lastNano) = .ok bs' ∧ BigEndian.readInt bs < BigEndian.readInt bs') := by
  obtain ⟨hinstant, hdate, htime, hdates, htimes, hinstants⟩ := temporal_encodings_exact
  refine ⟨⟨by decide, ?_⟩, ⟨by decide, ?_⟩, by decide, ?_⟩
  · obtain ⟨-, -, -, bs, hbs, -⟩ := hinstant before
    obtain ⟨-, -, -, bs', hbs', -⟩ := hinstant after
    exact ⟨bs, bs', hbs, hbs', hinstants _ _ bs bs' rfl rfl hbs hbs' (by decide)⟩
  · obtain ⟨-, -, bs, hbs, -⟩ := hdate Date.firstDay
    obtain ⟨-, -, bs', hbs', -⟩ := hdate Date.lastDay
    exact ⟨bs, bs', hbs, hbs', (hdates _ _ bs bs' hbs hbs' (by decide)).2 (by decide)⟩
  · obtain ⟨-, -, bs, hbs, -⟩ := htime lastSecond rfl
    obtain ⟨-, -, bs', hbs', -⟩ := htime lastNano rfl
    exact ⟨bs, bs', hbs, hbs', (htimes _ _ bs bs' rfl rfl hbs hbs' (by decide)).2 (by decide)⟩

end QueryRouting
