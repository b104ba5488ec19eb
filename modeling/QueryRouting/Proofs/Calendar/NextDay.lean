import QueryRouting.Proofs.Calendar.Order

/-!
# From one day to the next

The calendar by its rules, without any count of days: a day is followed by the next one of its
month, the last day of a month by the first of the month after it, and the last of a year by the
first of the year after it.  The day number goes up by one with each such step, and with no other,
so counting days and going through the calendar are the same.

## Main definitions

* `Date.LeapYear`, `Date.MonthHas` — the leap years, and how many days a month has.
* `Date.NextDay d e` — the day `e` follows the day `d`.

## Main results

* `Date.exists_nextDay` — every day but the last is followed by one.
* `Date.nextDay_iff` — the next day is the one with the next number.
-/

namespace QueryRouting
namespace Date

/-- Every fourth year is a leap year; of the hundredth ones every fourth is. -/
def LeapYear (year : Int) : Prop := 4 ∣ year ∧ (100 ∣ year → 400 ∣ year)

/-- A month of a year has so many days. -/
inductive MonthHas (year : Int) : Nat → Nat → Prop where
  | thirtyOne {month : Nat} : month ∈ [1, 3, 5, 7, 8, 10, 12] → MonthHas year month 31
  | thirty {month : Nat} : month ∈ [4, 6, 9, 11] → MonthHas year month 30
  | leapFebruary : LeapYear year → MonthHas year 2 29
  | february : ¬LeapYear year → MonthHas year 2 28

/-- The day `e` follows the day `d`. -/
inductive NextDay (d e : Date) : Prop where
  | inMonth {length : Nat} : MonthHas d.year d.month length → d.day < length →
      e.year = d.year → e.month = d.month → e.day = d.day + 1 → NextDay d e
  | nextMonth : MonthHas d.year d.month d.day → d.month < 12 →
      e.year = d.year → e.month = d.month + 1 → e.day = 1 → NextDay d e
  | nextYear : d.month = 12 → d.day = 31 →
      e.year = d.year + 1 → e.month = 1 → e.day = 1 → NextDay d e

variable {d e : Date} {year : Int} {month length : Nat}

/-! ### Months -/

theorem leapYear_iff : LeapYear year ↔ isLeapYear year = true := by
  rw [LeapYear, isLeapYear, Bool.and_eq_true, Bool.or_eq_true, decide_eq_true_iff,
    decide_eq_true_iff, decide_eq_true_iff]
  omega

theorem MonthHas.eq (h : MonthHas year month length) : length = monthLength year month := by
  cases h with
  | thirtyOne hmonth =>
    simp only [List.mem_cons, List.not_mem_nil, or_false] at hmonth
    rcases hmonth with rfl | rfl | rfl | rfl | rfl | rfl | rfl <;> rfl
  | thirty hmonth =>
    simp only [List.mem_cons, List.not_mem_nil, or_false] at hmonth
    rcases hmonth with rfl | rfl | rfl | rfl <;> rfl
  | leapFebruary hleap => simp [monthLength, monthLengths, leapYear_iff.mp hleap]
  | february hleap =>
    rw [leapYear_iff, Bool.not_eq_true] at hleap
    simp [monthLength, monthLengths, hleap]

theorem monthHas_monthLength (hmonth : 1 ≤ month ∧ month ≤ 12) :
    MonthHas year month (monthLength year month) := by
  obtain hthirtyOne | hthirty | rfl : month ∈ [1, 3, 5, 7, 8, 10, 12] ∨ month ∈ [4, 6, 9, 11] ∨
      month = 2 := by
    simp only [List.mem_cons, List.not_mem_nil, or_false]
    omega
  · have h : MonthHas year month 31 := .thirtyOne hthirtyOne
    rwa [← h.eq]
  · have h : MonthHas year month 30 := .thirty hthirty
    rwa [← h.eq]
  · by_cases hleap : LeapYear year
    · have h : MonthHas year 2 29 := .leapFebruary hleap
      rwa [← h.eq]
    · have h : MonthHas year 2 28 := .february hleap
      rwa [← h.eq]

theorem MonthHas.one_le (h : MonthHas year month length) : 1 ≤ length := by
  cases h <;> decide

/-! ### Counting days -/

/-- The months before December and December make up the year. -/
theorem daysBeforeMonth_december (year : Int) : daysBeforeMonth year 12 + 31 = yearLength year := by
  have hyear : daysBeforeMonth year 13 = yearLength year := by
    rw [daysBeforeMonth_succ year (Nat.le_refl 12), ← sum_monthLengths]
    rfl
  exact hyear

/-- **The number of the next day is one more.** -/
theorem NextDay.dayNumber_eq (h : NextDay d e) : e.dayNumber = d.dayNumber + 1 := by
  have hday := d.day_mem
  rw [dayNumber, dayNumber]
  cases h with
  | inMonth _ _ hyear hmonth hnext =>
    rw [hyear, hmonth, hnext]
    omega
  | nextMonth hhas _ hyear hmonth hnext =>
    have hlast := hhas.eq
    rw [hyear, hmonth, hnext, daysBeforeMonth]
    omega
  | nextYear hdecember hlast hyear hmonth hnext =>
    have hmonths := daysBeforeMonth_december d.year
    rw [hyear, hmonth, hnext, daysBeforeYear_add_one, hdecember, hlast]
    have hfirst : daysBeforeMonth (d.year + 1) 1 = 0 := rfl
    omega

/-- **Every day but the last of the calendar is followed by one.** -/
theorem exists_nextDay (h : (d.year, d.month, d.day) ≠ (lastYear, 12, 31)) : ∃ e, NextDay d e := by
  have hhas : MonthHas d.year d.month (monthLength d.year d.month) :=
    monthHas_monthLength d.month_mem
  obtain ⟨hfirstYear, hlastYear⟩ := d.year_mem
  obtain ⟨hfirstMonth, hlastMonth⟩ := d.month_mem
  obtain ⟨hfirstDay, hlastDay⟩ := d.day_mem
  rcases Nat.lt_or_eq_of_le hlastDay with hlt | hlast
  · exact ⟨⟨d.year, d.month, d.day + 1, d.year_mem, d.month_mem, Nat.le_add_left .., hlt⟩,
      .inMonth hhas hlt rfl rfl rfl⟩
  rw [← hlast] at hhas
  rcases Nat.lt_or_eq_of_le hlastMonth with hlt | hdecember
  · have hnext : 1 ≤ d.month + 1 ∧ d.month + 1 ≤ 12 := ⟨Nat.le_add_left .., hlt⟩
    have hlength : 1 ≤ monthLength d.year (d.month + 1) := (monthHas_monthLength hnext).one_le
    exact ⟨⟨d.year, d.month + 1, 1, d.year_mem, hnext, Nat.le_refl 1, hlength⟩,
      .nextMonth hhas hlt rfl rfl rfl⟩
  · have hday : d.day = 31 := by
      rw [hdecember] at hlast
      exact hlast
    have hyear : d.year ≠ lastYear := by
      intro hyear
      rw [hyear, hdecember, hday] at h
      exact h rfl
    exact ⟨⟨d.year + 1, 1, 1, ⟨by omega, by omega⟩, by decide, Nat.le_refl 1, (by decide : 1 ≤ 31)⟩,
      .nextYear hdecember hday rfl rfl rfl⟩

theorem dayNumber_injective : Function.Injective dayNumber := by
  intro d e h
  have hread := ofDayNumber?_dayNumber d
  rw [h, ofDayNumber?_dayNumber] at hread
  exact (Option.some.inj hread).symm

/-- **The next day is the one with the next number.** -/
theorem nextDay_iff : NextDay d e ↔ e.dayNumber = d.dayNumber + 1 := by
  constructor
  · exact NextDay.dayNumber_eq
  · intro h
    -- The last day has no greater number after it.
    have hnot : (d.year, d.month, d.day) ≠ (lastYear, 12, 31) := by
      intro hlast
      have hd : d = lastDay := parts_injective (by
        obtain ⟨hyear, hrest⟩ := Prod.mk.inj hlast
        obtain ⟨hmonth, hday⟩ := Prod.mk.inj hrest
        rw [parts, hyear, hmonth, hday]
        rfl)
      have hle := (exists_ofDayNumber?_iff.mp ⟨e, ofDayNumber?_dayNumber e⟩).2
      rw [hd] at h
      omega
    obtain ⟨e', hnext⟩ := exists_nextDay hnot
    have hsame : e' = e := dayNumber_injective (hnext.dayNumber_eq.trans h.symm)
    rwa [← hsame]

/-- A day is followed by one day only. -/
theorem NextDay.unique {e' : Date} (h : NextDay d e) (h' : NextDay d e') : e = e' :=
  dayNumber_injective (h.dayNumber_eq.trans h'.dayNumber_eq.symm)

end Date
end QueryRouting
