import QueryRouting.Calendar.Instant

/-!
# Instants and milliseconds

An instant is so many nanoseconds away from the start of 1970, and a whole number of
milliseconds is an instant again when it falls within the calendar.  On the way to
milliseconds an instant is rounded twice: down to microseconds, and then towards zero.
That is to round towards zero once, with one exception.  Before 1970 an instant that comes
less than a microsecond after a whole number of milliseconds is first rounded down to that
number, and there is nothing left to round towards zero.

A leap second takes an instant beyond the second that it belongs to, and in the last second
of the calendar beyond the calendar.

## Main definitions

* `Instant.nanos`, `Instant.millis` — nanoseconds, and milliseconds as they are rounded.
* `Instant.RoundsAway` — the instants whose milliseconds are rounded away from zero.
* `Instant.firstMilli`, `Instant.lastMilli` — the milliseconds of the calendar.

## Main results

* `Instant.millis_eq` — milliseconds are nanoseconds rounded towards zero, with the exception.
* `Instant.exists_ofMillis?_iff` — which milliseconds are instants.
* `Instant.millis_le_lastMilli_iff` — which instants have milliseconds that are instants.
-/

namespace QueryRouting
namespace Instant

/-- Nanoseconds since the start of 1970. -/
def nanos (t : Instant) : Int := t.second * 1000000000 + t.nanosecond

/-- Milliseconds since the start of 1970, towards zero from the microseconds. -/
def millis (t : Instant) : Int := t.micros.tdiv 1000

/-- Whether a number of nanoseconds is negative and comes less than a thousand after a whole
million, but after it. -/
def RoundsAway (nanos : Int) : Prop := nanos < 0 ∧ 0 < nanos % 1000000 ∧ nanos % 1000000 < 1000

instance (nanos : Int) : Decidable (RoundsAway nanos) :=
  inferInstanceAs (Decidable (_ ∧ _ ∧ _))

/-- The first millisecond of the calendar. -/
def firstMilli : Int := -8334601228800000

/-- The last millisecond of the calendar. -/
def lastMilli : Int := 8210266876799999

/-! ### Rounding -/

/-- A quotient that is rounded towards zero is rounded down in its magnitude. -/
theorem tdiv_eq_ite (n d : Int) : n.tdiv d = if 0 ≤ n then n / d else -(-n / d) := by
  split
  · next h => exact Int.tdiv_eq_ediv_of_nonneg h
  · next h =>
    rw [← Int.tdiv_eq_ediv_of_nonneg (by omega), Int.neg_tdiv, Int.neg_neg]

/-- **Rounding down by a thousand and then towards zero by a thousand** is rounding towards
zero by a million, and one less for the numbers that are rounded away. -/
theorem tdiv_ediv_eq (n : Int) :
    (n / 1000).tdiv 1000 = n.tdiv 1000000 - if RoundsAway n then 1 else 0 := by
  by_cases haway : RoundsAway n
  · rw [if_pos haway]
    obtain ⟨hneg, hpos, hlt⟩ := haway
    rw [tdiv_eq_ite, if_neg (by omega), tdiv_eq_ite, if_neg (by omega)]
    omega
  · rw [if_neg haway]
    unfold RoundsAway at haway
    by_cases hneg : n < 0
    · rw [tdiv_eq_ite, if_neg (by omega), tdiv_eq_ite, if_neg (by omega)]
      omega
    · rw [tdiv_eq_ite, if_pos (by omega), tdiv_eq_ite, if_pos (by omega)]
      omega

variable {t : Instant} {n : Int}

theorem micros_eq (t : Instant) : t.micros = t.nanos / 1000 := by
  rw [micros, nanos]
  omega

/-- **Milliseconds are nanoseconds rounded towards zero**, and one less before 1970 within a
microsecond after a whole millisecond. -/
theorem millis_eq (t : Instant) :
    t.millis = t.nanos.tdiv 1000000 - if RoundsAway t.nanos then 1 else 0 := by
  rw [millis, micros_eq, tdiv_ediv_eq]

/-- A whole number of milliseconds is not rounded. -/
theorem millis_of_nanos (h : t.nanos = n * 1000000) : t.millis = n := by
  have hmicros : n * 1000000 / 1000 = n * 1000 := by omega
  rw [millis, micros_eq, h, hmicros, Int.mul_tdiv_cancel _ (by decide)]

/-! ### Milliseconds within the calendar -/

/-- An instant that is read from milliseconds is that many after the start of 1970. -/
theorem nanos_of_ofMillis? (h : ofMillis? n = some t) :
    t.isLeap = false ∧ t.nanos = n * 1000000 := by
  have hlt : (n % 1000).toNat * 1000000 < nanosPerSecond := by
    rw [nanosPerSecond]
    omega
  unfold ofMillis? of? at h
  split at h
  · rw [dif_pos (Or.inl hlt)] at h
    obtain rfl := Option.some.inj h
    refine ⟨isLeap_eq_false_iff.mpr hlt, ?_⟩
    simp only [nanos]
    omega
  · simp at h

/-- **The milliseconds of the calendar are instants**, and no others. -/
theorem exists_ofMillis?_iff : (∃ t, ofMillis? n = some t) ↔ firstMilli ≤ n ∧ n ≤ lastMilli := by
  have hlt : (n % 1000).toNat * 1000000 < nanosPerSecond := by
    rw [nanosPerSecond]
    omega
  have hseconds : (firstSecond ≤ n / 1000 ∧ n / 1000 ≤ lastSecond)
      ↔ firstMilli ≤ n ∧ n ≤ lastMilli := by
    simp only [firstSecond, lastSecond, firstMilli, lastMilli]
    omega
  rw [← hseconds]
  unfold ofMillis? of?
  constructor
  · rintro ⟨t, h⟩
    split at h
    · next hsecond => exact hsecond
    · simp at h
  · intro hsecond
    rw [dif_pos hsecond, dif_pos (Or.inl hlt)]
    exact ⟨_, rfl⟩

/-- The milliseconds of an instant are not before the calendar. -/
theorem firstMilli_le_millis (t : Instant) : firstMilli ≤ t.millis := by
  have hsecond := t.second_mem.1
  rw [millis, tdiv_eq_ite, micros]
  simp only [firstSecond, firstMilli] at hsecond ⊢
  split
  · omega
  · omega

/-- **The milliseconds of an instant are within the calendar**, unless it is a leap second at
the very end. -/
theorem millis_le_lastMilli_iff :
    t.millis ≤ lastMilli ↔ ¬(t.isLeap = true ∧ t.second = lastSecond) := by
  have hsecond := t.second_mem.2
  have hnano := t.nanosecond_lt
  rw [millis, tdiv_eq_ite, micros, isLeap, decide_eq_true_iff]
  simp only [lastSecond, lastMilli, nanosPerSecond] at hsecond hnano ⊢
  split
  · omega
  · omega

/-- The milliseconds of an instant, in microseconds, are a number of eight bytes. -/
theorem millis_mul_lt (t : Instant) :
    -9223372036854775808 ≤ t.millis * 1000 ∧ t.millis * 1000 < 9223372036854775808 := by
  have hsecond := t.second_mem
  have hnano := t.nanosecond_lt
  rw [millis, tdiv_eq_ite, micros]
  simp only [firstSecond, lastSecond, nanosPerSecond] at hsecond hnano
  split
  · omega
  · omega

end Instant
end QueryRouting
