import Mathlib.Data.Prod.Lex
import Mathlib.Order.Monotone.Basic
import QueryRouting.Proofs.Calendar.Date
import QueryRouting.Proofs.Calendar.Instant

/-!
# Earlier and later

Dates are compared by year, then by month, then by day, and times of day and instants by second,
then by nanosecond.  Of two dates the later one has the greater day number.  For times and
instants the same holds outside of leap seconds; the nanoseconds of a leap second run on into
those of the second after it.

## Main definitions

* `Date.parts`, `TimeOfDay.parts`, `Instant.parts` — the parts in the order of comparison, from
  which each type has its linear order.

## Main results

* `Date.dayNumber_lt_of_lt`, `TimeOfDay.nanos_lt_of_lt` — later is greater.
* `Instant.millis_le_of_le` — later is not less, since milliseconds are rounded.
-/

namespace QueryRouting

/-! ### Dates -/

namespace Date

/-- The parts of a date in the order of comparison. -/
def parts (d : Date) : ℤ ×ₗ ℕ ×ₗ ℕ := toLex (d.year, toLex (d.month, d.day))

theorem parts_injective : Function.Injective parts := by
  rintro ⟨year, month, day, _, _, _⟩ ⟨year', month', day', _, _, _⟩ h
  obtain ⟨rfl, h⟩ := Prod.mk.inj h
  obtain ⟨rfl, rfl⟩ := Prod.mk.inj h
  rfl

instance : LinearOrder Date := LinearOrder.lift' parts parts_injective

variable {d e : Date} {year : Int}

theorem lt_iff : d < e ↔ d.year < e.year ∨ d.year = e.year ∧
    (d.month < e.month ∨ d.month = e.month ∧ d.day < e.day) := by
  show d.parts < e.parts ↔ _
  rw [parts, parts, Prod.Lex.toLex_lt_toLex, Prod.Lex.toLex_lt_toLex]

/-- Later months begin later. -/
theorem daysBeforeMonth_le {month later : Nat} (h : month ≤ later) :
    daysBeforeMonth year month ≤ daysBeforeMonth year later :=
  monotone_nat_of_le_succ (fun month => Nat.le_add_right _ (monthLength year month)) h

/-- **Later dates have greater numbers.** -/
theorem dayNumber_lt_of_lt (h : d < e) : d.dayNumber < e.dayNumber := by
  have hday := d.day_sub_one_lt
  rw [dayNumber, dayNumber]
  obtain hyear | ⟨hyear, hmonth | ⟨hmonth, hlt⟩⟩ := lt_iff.mp h
  · -- The year of the first date ends before that of the second begins.
    have hfirst := daysBeforeMonth_add_lt d.month_mem hday
    have hsecond := daysBeforeYear_le (Int.add_one_le_of_lt hyear)
    rw [daysBeforeYear_add_one] at hsecond
    omega
  · have hsecond : daysBeforeMonth d.year (d.month + 1) ≤ daysBeforeMonth d.year e.month :=
      daysBeforeMonth_le hmonth
    rw [daysBeforeMonth] at hsecond
    rw [← hyear]
    omega
  · have hfirst := d.day_mem.1
    rw [← hyear, ← hmonth]
    omega

end Date

/-! ### Times of day -/

namespace TimeOfDay

/-- The parts of a time in the order of comparison. -/
def parts (t : TimeOfDay) : ℕ ×ₗ ℕ := toLex (t.second, t.nanosecond)

theorem parts_injective : Function.Injective parts := by
  rintro ⟨second, nanosecond, _, _⟩ ⟨second', nanosecond', _, _⟩ h
  obtain ⟨rfl, rfl⟩ := Prod.mk.inj h
  rfl

instance : LinearOrder TimeOfDay := LinearOrder.lift' parts parts_injective

variable {t u : TimeOfDay}

theorem lt_iff : t < u ↔ t.second < u.second ∨ t.second = u.second ∧ t.nanosecond < u.nanosecond :=
  Prod.Lex.toLex_lt_toLex

/-- **Later times have more nanoseconds**, from a time outside of leap seconds on. -/
theorem nanos_lt_of_lt (hleap : t.isLeap = false) (h : t < u) : t.nanos < u.nanos := by
  have hnano := isLeap_eq_false_iff.mp hleap
  rw [nanos, nanos]
  simp only [nanosPerSecond] at hnano ⊢
  obtain hsecond | ⟨hsecond, hlt⟩ := lt_iff.mp h
  · omega
  · omega

end TimeOfDay

/-! ### Instants -/

namespace Instant

/-- The parts of an instant in the order of comparison. -/
def parts (t : Instant) : ℤ ×ₗ ℕ := toLex (t.second, t.nanosecond)

theorem parts_injective : Function.Injective parts := by
  rintro ⟨second, nanosecond, _, _⟩ ⟨second', nanosecond', _, _⟩ h
  obtain ⟨rfl, rfl⟩ := Prod.mk.inj h
  rfl

instance : LinearOrder Instant := LinearOrder.lift' parts parts_injective

variable {t u : Instant}

theorem lt_iff : t < u ↔ t.second < u.second ∨ t.second = u.second ∧ t.nanosecond < u.nanosecond :=
  Prod.Lex.toLex_lt_toLex

/-- **Later instants have more nanoseconds**, from an instant outside of leap seconds on. -/
theorem nanos_lt_of_lt (hleap : t.isLeap = false) (h : t < u) : t.nanos < u.nanos := by
  have hnano := isLeap_eq_false_iff.mp hleap
  rw [nanos, nanos]
  simp only [nanosPerSecond] at hnano
  obtain hsecond | ⟨hsecond, hlt⟩ := lt_iff.mp h
  · omega
  · omega

/-- **Later instants have no less milliseconds**: both ways of rounding keep the order. -/
theorem millis_le_of_le (hleap : t.isLeap = false) (h : t ≤ u) : t.millis ≤ u.millis := by
  have hnanos : t.nanos ≤ u.nanos := by
    obtain rfl | hlt := h.eq_or_lt
    · exact Int.le_refl _
    · exact Int.le_of_lt (nanos_lt_of_lt hleap hlt)
  have hmicros : t.micros ≤ u.micros := by
    rw [micros_eq, micros_eq]
    exact Int.ediv_le_ediv (by decide) hnanos
  exact Int.tdiv_le_tdiv (by decide) hmicros

end Instant

end QueryRouting
