import QueryRouting.Proofs.Key.Canonical

/-!
# Timestamps in keys

A timestamp is encoded as its milliseconds, a thousand times each, and the decoder makes an
instant of them again.  Both ends of that have an exception.  The milliseconds are those of
the nanoseconds rounded towards zero, save just after a whole millisecond before 1970, where
they are rounded away from zero.  And the instant is there for every timestamp, save for a
leap second at the very end of the calendar: its milliseconds are beyond the last instant.

## Main results

* `readInt_of_encode_timestamp` — the bytes of a timestamp name its milliseconds.
* `encode_timestamp_truncates_iff` — where the milliseconds are rounded towards zero.
* `decode_timestamp_eq_ok_iff`, `decode_timestamp_of_none` — what eight bytes are read as.
* `decode_timestamp_of_encode_iff` — which timestamps are read back, to the millisecond.
-/

namespace QueryRouting

variable {bs : Bytes}

/-- A timestamp has eight bytes, and they name its milliseconds, in microseconds. -/
theorem readInt_of_encode_timestamp (t : Instant) :
    ∃ bs, encode .timestamp (.timestamp t) = .ok bs ∧ bs.length = 8 ∧
      BigEndian.readInt bs = t.millis * 1000 :=
  ⟨BigEndian.writeInt 8 (t.millis * 1000), rfl, BigEndian.length_writeInt ..,
    readInt_writeInt_millis t⟩

/-! ### Rounding -/

/-- **A timestamp is encoded as its nanoseconds rounded towards zero to a millisecond**, in
microseconds, unless it is before 1970 and comes less than a microsecond after a whole
millisecond.  Then it is encoded as that millisecond, which is one further from zero. -/
theorem encode_timestamp_truncates_iff (t : Instant) :
    ∃ bs, encode .timestamp (.timestamp t) = .ok bs ∧ bs.length = 8 ∧
      (BigEndian.readInt bs = 1000 * t.nanos.tdiv 1000000 ↔ ¬Instant.RoundsAway t.nanos) ∧
      (BigEndian.readInt bs = 1000 * (t.nanos.tdiv 1000000 - 1) ↔
        Instant.RoundsAway t.nanos) := by
  obtain ⟨bs, hencode, hlength, hread⟩ := readInt_of_encode_timestamp t
  refine ⟨bs, hencode, hlength, ?_⟩
  rw [hread, Instant.millis_eq]
  by_cases haway : Instant.RoundsAway t.nanos
  · simp only [haway, if_true, not_true_eq_false, iff_true, iff_false]
    omega
  · simp only [haway, if_false, not_false_eq_true, iff_true, iff_false]
    omega

namespace RoundedAway

/-- A nanosecond after the start of the last day before 1970. -/
def instant : Instant := ⟨-86400, 1, by decide, by decide⟩

end RoundedAway

open RoundedAway in
/-- A nanosecond after the start of the last day before 1970 is encoded as the start of that
day, and not as the millisecond after it. -/
theorem encode_timestamp_rounded_away :
    instant.isLeap = false ∧ instant.nanos.tdiv 1000000 = -86399999 ∧
      encode .timestamp (.timestamp instant) = .ok (BigEndian.writeInt 8 (-86400000000)) ∧
      encode .timestamp (.timestamp instant)
        ≠ .ok (BigEndian.writeInt 8 (1000 * instant.nanos.tdiv 1000000)) := by
  have hbytes :
      encode .timestamp (.timestamp instant) = .ok (BigEndian.writeInt 8 (-86400000000)) := rfl
  refine ⟨by decide, by decide, hbytes, ?_⟩
  rw [hbytes]
  intro h
  exact absurd (Except.ok.inj h) (by decide)

/-! ### Reading back -/

/-- Eight bytes are read as the instant of their milliseconds, rounded down. -/
theorem decode_timestamp_eq_ok_iff {value : Value} :
    decode .timestamp bs = .ok value ↔ bs.length = 8 ∧
      ∃ t, Instant.ofMillis? (BigEndian.readInt bs / 1000) = some t ∧ value = .timestamp t := by
  rw [decode_eq_ok_iff]
  constructor
  · intro h
    obtain ⟨hlength, hbody⟩ := exactly_bind_eq_ok_iff.mp (Option.some.inj h)
    obtain ⟨t, ht, hvalue⟩ := orFault_bind_eq_ok_iff.mp hbody
    exact ⟨hlength, t, ht, (Except.ok.inj hvalue).symm⟩
  · rintro ⟨hlength, t, ht, rfl⟩
    exact congrArg some (exactly_bind_eq_ok_iff.mpr
      ⟨hlength, orFault_bind_eq_ok_iff.mpr ⟨t, ht, rfl⟩⟩)

/-- Eight bytes whose milliseconds are no instant are out of range. -/
theorem decode_timestamp_of_none (hlength : bs.length = 8)
    (h : Instant.ofMillis? (BigEndian.readInt bs / 1000) = none) :
    decode .timestamp bs = .error (.invalidEncoding .timestamp .timestampRange) := by
  have hread : decodeKey? bs .timestamp = some (.error .timestampRange) := by
    show some (do
      let micros := BigEndian.readInt (← exactly 8 bs)
      return Value.timestamp (← orFault .timestampRange (Instant.ofMillis? (micros / 1000)))) = _
    rw [exactly_of_length hlength, ok_bind]
    simp only [h]
    rfl
  have hkey : ColumnType.timestamp.isKeyType = true := rfl
  rw [decode, if_pos hkey, hread]

/-- The bytes of an instant's milliseconds are read as these, save at the end of the calendar. -/
theorem exists_decode_timestamp {t : Instant} (hlength : bs.length = 8)
    (hread : BigEndian.readInt bs = t.millis * 1000)
    (hend : ¬(t.isLeap = true ∧ t.second = Instant.lastSecond)) :
    ∃ u, decode .timestamp bs = .ok (.timestamp u) ∧ u.isLeap = false ∧
      u.nanos = t.millis * 1000000 := by
  have hmillis : BigEndian.readInt bs / 1000 = t.millis := by
    rw [hread]
    omega
  obtain ⟨u, hu⟩ := Instant.exists_ofMillis?_iff.mpr
    ⟨t.firstMilli_le_millis, Instant.millis_le_lastMilli_iff.mpr hend⟩
  obtain ⟨hleap, hnanos⟩ := Instant.nanos_of_ofMillis? hu
  exact ⟨u, decode_timestamp_eq_ok_iff.mpr ⟨hlength, u, by rw [hmillis, hu], rfl⟩, hleap, hnanos⟩

/-- At the end of the calendar they are refused. -/
theorem decode_timestamp_refused {t : Instant} (hlength : bs.length = 8)
    (hread : BigEndian.readInt bs = t.millis * 1000)
    (hend : t.isLeap = true ∧ t.second = Instant.lastSecond) :
    decode .timestamp bs = .error (.invalidEncoding .timestamp .timestampRange) := by
  have hmillis : BigEndian.readInt bs / 1000 = t.millis := by
    rw [hread]
    omega
  apply decode_timestamp_of_none hlength
  rw [hmillis, Option.eq_none_iff_forall_ne_some]
  intro u hu
  have hrange := Instant.exists_ofMillis?_iff.mp ⟨u, hu⟩
  exact Instant.millis_le_lastMilli_iff.mp hrange.2 hend

/-- **Every timestamp is read back to the millisecond**, and what is read back has the same
bytes, save for a leap second that ends the calendar: that one is out of range. -/
theorem decode_timestamp_of_encode_iff (t : Instant) :
    ∃ bs, encode .timestamp (.timestamp t) = .ok bs ∧
      ((∃ u : Instant, decode .timestamp bs = .ok (.timestamp u) ∧ u.isLeap = false ∧
          u.nanos = BigEndian.readInt bs * 1000 ∧ 1000000 ∣ u.nanos ∧
          encode .timestamp (.timestamp u) = .ok bs) ↔
        ¬(t.isLeap = true ∧ t.second = Instant.lastSecond)) ∧
      (decode .timestamp bs = .error (.invalidEncoding .timestamp .timestampRange) ↔
        t.isLeap = true ∧ t.second = Instant.lastSecond) := by
  obtain ⟨bs, hencode, hlength, hread⟩ := readInt_of_encode_timestamp t
  refine ⟨bs, hencode, ?_⟩
  by_cases hend : t.isLeap = true ∧ t.second = Instant.lastSecond
  · have herror := decode_timestamp_refused hlength hread hend
    refine ⟨⟨?_, fun hnot => absurd hend hnot⟩, fun _ => hend, fun _ => herror⟩
    rintro ⟨u, hok, -⟩
    rw [herror] at hok
    exact absurd hok (by simp)
  · obtain ⟨u, hok, hleap, hnanos⟩ := exists_decode_timestamp hlength hread hend
    have hnamed : u.nanos = BigEndian.readInt bs * 1000 := by
      rw [hnanos, hread]
      omega
    -- What is read has whole milliseconds, so there is nothing left to round.
    have hagain : encode .timestamp (.timestamp u) = .ok bs := by
      show Except.ok (BigEndian.writeInt 8 (u.millis * 1000)) = _
      rw [Instant.millis_of_nanos hnanos]
      exact hencode
    have hwhole : 1000000 ∣ u.nanos := ⟨t.millis, by rw [hnanos, Int.mul_comm]⟩
    refine ⟨⟨fun _ => hend, fun _ => ⟨u, hok, hleap, hnamed, hwhole, hagain⟩⟩, ?_, ?_⟩
    · intro herror
      rw [hok] at herror
      exact absurd herror (by simp)
    · intro h
      exact absurd h hend

namespace EndOfCalendar

/-- The last nanosecond of a leap second that ends the calendar. -/
def instant : Instant := ⟨Instant.lastSecond, 1999999999, by decide, by decide⟩

end EndOfCalendar

open EndOfCalendar in
/-- A leap second that ends the calendar is encoded, and its bytes are refused. -/
theorem decode_timestamp_end_of_calendar :
    encode .timestamp (.timestamp instant) = .ok (BigEndian.writeInt 8 8210266876800999000) ∧
      decode .timestamp (BigEndian.writeInt 8 8210266876800999000)
        = .error (.invalidEncoding .timestamp .timestampRange) := by
  have hnone : Instant.ofMillis?
      (BigEndian.readInt (BigEndian.writeInt 8 8210266876800999000) / 1000) = none := by decide
  exact ⟨rfl, decode_timestamp_of_none (BigEndian.length_writeInt ..) hnone⟩

end QueryRouting
