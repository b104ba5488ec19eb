import Mathlib.Algebra.GroupWithZero.Nat
import QueryRouting.Calendar.Date

/-!
# Dates and day numbers

A date is read back from its day number.  The number of a date is that of its year, of its
month in the year and of its day in the month, and each part is read back from what the
part before leaves.  For the year this is a count in cycles: a year is so many cycles of
four hundred years, of one hundred, of four and of one, and its first day comes after so
many cycles of days, each a fixed number of days long.

## Main definitions

* `Date.yearLength` — the number of days of a year.
* `Date.yearOfCycles`, `Date.daysOfCycles` — the year after so many cycles, and their days.
* `Date.firstDay`, `Date.lastDay` — the ends of the calendar.

## Main results

* `Date.yearOfDays_daysBeforeYear_add` — the year and the day of the year are read back.
* `Date.monthOfDays_daysBeforeMonth_add` — the month and the day of the month are read back.
* `Date.ofDayNumber?_dayNumber` — a date is read back from its day number.
* `Date.dayNumber_mem` — the day numbers of the calendar.
* `Date.dayNumber_of_ofDayNumber?` — the date of a day number has that number.
* `Date.exists_ofDayNumber?_iff` — which day numbers have a date.
-/

namespace QueryRouting
namespace Date

/-! ### Years -/

/-- The number of days of a year. -/
def yearLength (year : Int) : Nat := if isLeapYear year then 366 else 365

/-- The year that comes after so many cycles of four hundred years, of one hundred, of four
and of one since year one. -/
def yearOfCycles (fourHundreds hundreds fours ones : Int) : Int :=
  400 * fourHundreds + 100 * hundreds + 4 * fours + ones + 1

/-- The number of days of so many cycles. -/
def daysOfCycles (fourHundreds hundreds fours ones : Int) : Int :=
  146097 * fourHundreds + 36524 * hundreds + 1461 * fours + 365 * ones

section

variable {q h f o : Int}

/-- Every year comes after so many cycles, with less than four of one hundred years, less
than twenty-five of four, and less than four of one. -/
theorem exists_yearOfCycles (year : Int) :
    ∃ q h f o, year = yearOfCycles q h f o ∧ (0 ≤ h ∧ h < 4) ∧ (0 ≤ f ∧ f < 25) ∧
      (0 ≤ o ∧ o < 4) := by
  refine ⟨(year - 1) / 400, (year - 1) % 400 / 100, (year - 1) % 100 / 4, (year - 1) % 4, ?_⟩
  rw [yearOfCycles]
  omega

/-- The days before a year are those of the cycles before it. -/
theorem daysBeforeYear_yearOfCycles (hh : 0 ≤ h ∧ h < 4) (hf : 0 ≤ f ∧ f < 25)
    (ho : 0 ≤ o ∧ o < 4) :
    daysBeforeYear (yearOfCycles q h f o) = daysOfCycles q h f o := by
  have hfours : (yearOfCycles q h f o - 1) / 4 = 100 * q + 25 * h + f := by
    rw [yearOfCycles]
    omega
  have hhundreds : (yearOfCycles q h f o - 1) / 100 = 4 * q + h := by
    rw [yearOfCycles]
    omega
  have hfourHundreds : (yearOfCycles q h f o - 1) / 400 = q := by
    rw [yearOfCycles]
    omega
  rw [daysBeforeYear, hfours, hhundreds, hfourHundreds, yearOfCycles, daysOfCycles]
  omega

/-- A leap year is the last of four years, and not the last of one hundred, unless it is
the last of four hundred. -/
theorem isLeapYear_yearOfCycles_iff (hh : 0 ≤ h ∧ h < 4) (hf : 0 ≤ f ∧ f < 25)
    (ho : 0 ≤ o ∧ o < 4) :
    isLeapYear (yearOfCycles q h f o) = true ↔ o = 3 ∧ (f ≠ 24 ∨ h = 3) := by
  rw [isLeapYear, Bool.and_eq_true, Bool.or_eq_true, decide_eq_true_iff, decide_eq_true_iff,
    decide_eq_true_iff, yearOfCycles]
  omega

/-- Days within a year are not enough for a further cycle of any kind, save that the last
day of a leap year may fill one of the cycles that are taken three times at most. -/
theorem yearOfDays_daysOfCycles_add (hh : 0 ≤ h ∧ h < 4) (hf : 0 ≤ f ∧ f < 25)
    (ho : 0 ≤ o ∧ o < 4) {days : Nat}
    (hdays : days < 365 ∨ (days = 365 ∧ o = 3 ∧ (f ≠ 24 ∨ h = 3))) :
    yearOfDays (daysOfCycles q h f o + days) = (yearOfCycles q h f o, days) := by
  have hq : (daysOfCycles q h f o + days) / 146097 = q := by
    rw [daysOfCycles]
    omega
  have hinQ : (daysOfCycles q h f o + days) % 146097 = 36524 * h + 1461 * f + 365 * o + days := by
    rw [daysOfCycles]
    omega
  have hhundreds : min 3 ((36524 * h + 1461 * f + 365 * o + days) / 36524) = h := by omega
  have hinH : 36524 * h + 1461 * f + 365 * o + days - 36524 * h = 1461 * f + 365 * o + days := by
    omega
  have hfours : (1461 * f + 365 * o + days) / 1461 = f := by omega
  have hinF : (1461 * f + 365 * o + days) % 1461 = 365 * o + days := by omega
  have hones : min 3 ((365 * o + days) / 365) = o := by omega
  have hdays : (365 * o + days - 365 * o).toNat = days := by omega
  simp only [yearOfDays, hq, hinQ, hhundreds, hinH, hfours, hinF, hones, hdays, yearOfCycles]

end

/-- **The year and the day of the year are read back.** -/
theorem yearOfDays_daysBeforeYear_add {year : Int} {days : Nat} (h : days < yearLength year) :
    yearOfDays (daysBeforeYear year + days) = (year, days) := by
  obtain ⟨q, hundreds, f, o, rfl, hh, hf, ho⟩ := exists_yearOfCycles year
  rw [daysBeforeYear_yearOfCycles hh hf ho]
  refine yearOfDays_daysOfCycles_add hh hf ho ?_
  have hleap := isLeapYear_yearOfCycles_iff (q := q) hh hf ho
  rw [yearLength] at h
  split at h
  · next hyear =>
    have := hleap.mp hyear
    omega
  · exact Or.inl h

/-! ### Months -/

/-- A day within a month, counted from the first month of a list, is read back. -/
theorem monthOfDays_sum_take_add {lengths : List Nat} {i n : Nat} (hi : i < lengths.length)
    (hn : n < lengths[i]) (month : Nat) :
    monthOfDays month lengths ((lengths.take i).sum + n) = (month + i, n + 1) := by
  induction lengths generalizing i month with
  | nil => exact absurd hi (Nat.not_lt_zero i)
  | cons length later ih =>
    cases i with
    | zero =>
      have hlt : n < length := hn
      simp [monthOfDays, hlt]
    | succ i =>
      have hle : ¬length + (later.take i).sum + n < length := by omega
      have hrest : length + (later.take i).sum + n - length = (later.take i).sum + n := by omega
      have hmonth : month + 1 + i = month + (i + 1) := by omega
      rw [List.take_succ_cons, List.sum_cons, monthOfDays, if_neg hle, hrest,
        ih (Nat.lt_of_succ_lt_succ hi) hn, hmonth]

/-- A day within a month is a day within the months up to it. -/
theorem sum_take_add_lt {lengths : List Nat} {i n : Nat} (hi : i < lengths.length)
    (hn : n < lengths[i]) : (lengths.take i).sum + n < lengths.sum := by
  induction lengths generalizing i with
  | nil => exact absurd hi (Nat.not_lt_zero i)
  | cons length later ih =>
    cases i with
    | zero =>
      have hlt : n < length := hn
      rw [List.take_zero, List.sum_nil, List.sum_cons]
      omega
    | succ i =>
      have := ih (Nat.lt_of_succ_lt_succ hi) hn
      rw [List.take_succ_cons, List.sum_cons, List.sum_cons]
      omega

/-- The months of a year make up the year. -/
theorem sum_monthLengths (year : Int) :
    (monthLengths (isLeapYear year)).sum = yearLength year := by
  rw [yearLength]
  cases isLeapYear year <;> rfl

theorem monthLength_succ {year : Int} {i : Nat} (hi : i < 12) :
    monthLength year (i + 1) = (monthLengths (isLeapYear year))[i] := by
  rw [monthLength, List.getD_eq_getElem?_getD, List.getElem?_eq_getElem hi, Option.getD_some]

/-- The days before a month are those of the months before it. -/
theorem daysBeforeMonth_succ (year : Int) {i : Nat} (hi : i ≤ 12) :
    daysBeforeMonth year (i + 1) = ((monthLengths (isLeapYear year)).take i).sum := by
  induction i with
  | zero => rfl
  | succ i ih =>
    have hlt : i < (monthLengths (isLeapYear year)).length := hi
    rw [daysBeforeMonth, ih (by omega), monthLength_succ hi, List.take_succ_eq_append_getElem hlt,
      List.sum_append, List.sum_singleton]
    rfl

section

variable {year : Int} {month n : Nat}

/-- **The month and the day of the month are read back.** -/
theorem monthOfDays_daysBeforeMonth_add (hmonth : 1 ≤ month ∧ month ≤ 12)
    (hn : n < monthLength year month) :
    monthOfDays 1 (monthLengths (isLeapYear year)) (daysBeforeMonth year month + n)
      = (month, n + 1) := by
  obtain ⟨i, rfl⟩ : ∃ i, month = i + 1 := ⟨month - 1, by omega⟩
  have hi : i < 12 := by omega
  rw [monthLength_succ hi] at hn
  rw [daysBeforeMonth_succ year (by omega), monthOfDays_sum_take_add hi hn, Nat.add_comm]

/-- A day of a month is a day of the year. -/
theorem daysBeforeMonth_add_lt (hmonth : 1 ≤ month ∧ month ≤ 12)
    (hn : n < monthLength year month) : daysBeforeMonth year month + n < yearLength year := by
  obtain ⟨i, rfl⟩ : ∃ i, month = i + 1 := ⟨month - 1, by omega⟩
  have hi : i < 12 := by omega
  rw [monthLength_succ hi] at hn
  rw [daysBeforeMonth_succ year (by omega), ← sum_monthLengths]
  exact sum_take_add_lt hi hn

end

/-! ### Day numbers -/

/-- The day of the year of a date, counted from zero. -/
theorem day_sub_one_lt (d : Date) : d.day - 1 < monthLength d.year d.month := by
  have := d.day_mem
  omega

/-- **A date is read back from its day number.** -/
@[simp] theorem ofDayNumber?_dayNumber (d : Date) : ofDayNumber? d.dayNumber = some d := by
  have hyear := yearOfDays_daysBeforeYear_add (daysBeforeMonth_add_lt d.month_mem d.day_sub_one_lt)
  have hmonth := monthOfDays_daysBeforeMonth_add d.month_mem d.day_sub_one_lt
  have hdays : d.dayNumber + epochOffset
      = daysBeforeYear d.year + (daysBeforeMonth d.year d.month + (d.day - 1) : Nat) := by
    rw [dayNumber]
    omega
  have hday : d.day - 1 + 1 = d.day := by
    have := d.day_mem
    omega
  simp only [ofDayNumber?, hdays, hyear, hmonth, hday, ofCivil?_parts]

/-- The days of the calendar are less than a hundred million days away from 1970. -/
theorem dayNumber_mem (d : Date) : -100000000 < d.dayNumber ∧ d.dayNumber < 100000000 := by
  have hyear := d.year_mem
  have hday := daysBeforeMonth_add_lt d.month_mem d.day_sub_one_lt
  have hlength : yearLength d.year ≤ 366 := by
    rw [yearLength]
    split <;> omega
  simp only [firstYear, lastYear] at hyear
  simp only [dayNumber, daysBeforeYear, epochOffset]
  omega

/-! ### Every day has a date -/

/-- **Every day lies in a year**, the one that is read from its number. -/
theorem daysBeforeYear_yearOfDays (n : Int) :
    daysBeforeYear (yearOfDays n).1 + (yearOfDays n).2 = n ∧
      (yearOfDays n).2 < yearLength (yearOfDays n).1 := by
  -- The cycles that are taken off, each as often as its bound allows.
  obtain ⟨q, hq⟩ : ∃ q, q = n / 146097 := ⟨_, rfl⟩
  obtain ⟨h, hh⟩ : ∃ h, h = min 3 (n % 146097 / 36524) := ⟨_, rfl⟩
  obtain ⟨f, hf⟩ : ∃ f, f = (n % 146097 - 36524 * h) / 1461 := ⟨_, rfl⟩
  obtain ⟨o, ho⟩ : ∃ o, o = min 3 ((n % 146097 - 36524 * h) % 1461 / 365) := ⟨_, rfl⟩
  obtain ⟨days, hdays⟩ : ∃ days, days = ((n % 146097 - 36524 * h) % 1461 - 365 * o).toNat :=
    ⟨_, rfl⟩
  have hyear : yearOfDays n = (yearOfCycles q h f o, days) := by
    simp only [yearOfDays, yearOfCycles, hq, hh, hf, ho, hdays]
  have hh' : 0 ≤ h ∧ h < 4 := by omega
  have hf' : 0 ≤ f ∧ f < 25 := by omega
  have ho' : 0 ≤ o ∧ o < 4 := by omega
  have hsum : daysOfCycles q h f o + days = n := by
    rw [daysOfCycles]
    omega
  have hlast : days < 365 ∨ (days = 365 ∧ o = 3 ∧ (f ≠ 24 ∨ h = 3)) := by omega
  rw [hyear, daysBeforeYear_yearOfCycles hh' hf' ho']
  refine ⟨hsum, ?_⟩
  have hleap := isLeapYear_yearOfCycles_iff (q := q) hh' hf' ho'
  rw [yearLength]
  split
  · omega
  · next hnot =>
    rw [hleap] at hnot
    omega

/-- A day within the months of a list lies in one of them. -/
theorem exists_take_of_lt_sum {lengths : List Nat} {n : Nat} (h : n < lengths.sum) :
    ∃ (i : Nat) (hi : i < lengths.length) (k : Nat), k < lengths[i] ∧ n = (lengths.take i).sum + k := by
  induction lengths generalizing n with
  | nil => exact absurd h (Nat.not_lt_zero n)
  | cons length later ih =>
    rw [List.sum_cons] at h
    rcases Nat.lt_or_ge n length with hlt | hge
    · exact ⟨0, Nat.zero_lt_succ _, n, hlt, by simp⟩
    · obtain ⟨i, hi, k, hk, hn⟩ := ih (n := n - length) (by omega)
      refine ⟨i + 1, Nat.succ_lt_succ hi, k, hk, ?_⟩
      rw [List.take_succ_cons, List.sum_cons]
      omega

/-- **Every day of a year lies in a month**, the one that is read from its number. -/
theorem daysBeforeMonth_monthOfDays {year : Int} {days : Nat} (h : days < yearLength year) :
    ∃ month day, monthOfDays 1 (monthLengths (isLeapYear year)) days = (month, day) ∧
      daysBeforeMonth year month + (day - 1) = days ∧ (1 ≤ month ∧ month ≤ 12) ∧
      1 ≤ day ∧ day ≤ monthLength year month := by
  rw [← sum_monthLengths] at h
  obtain ⟨i, hi, k, hk, rfl⟩ := exists_take_of_lt_sum h
  have hi' : i < 12 := hi
  refine ⟨1 + i, k + 1, monthOfDays_sum_take_add hi hk 1, ?_, by omega, by omega, ?_⟩
  · rw [Nat.add_comm 1 i, daysBeforeMonth_succ year (by omega), Nat.add_sub_cancel]
  · rw [Nat.add_comm 1 i, monthLength_succ hi']
    exact hk

/-- The parts of a date are the ones that it is made of. -/
theorem parts_of_ofCivil? {year : Int} {month day : Nat} {d : Date}
    (h : ofCivil? year month day = some d) : d.year = year ∧ d.month = month ∧ d.day = day := by
  unfold ofCivil? at h
  split at h
  · split at h
    · split at h
      · obtain rfl := Option.some.inj h
        exact ⟨rfl, rfl, rfl⟩
      · simp at h
    · simp at h
  · simp at h

/-- **A day number is read back from its date.** -/
theorem dayNumber_of_ofDayNumber? {n : Int} {d : Date} (h : ofDayNumber? n = some d) :
    d.dayNumber = n := by
  obtain ⟨hyear, hlt⟩ := daysBeforeYear_yearOfDays (n + epochOffset)
  obtain ⟨month, day, hmonth, hdays, -⟩ := daysBeforeMonth_monthOfDays hlt
  simp only [ofDayNumber?, hmonth] at h
  obtain ⟨hy, hm, hd⟩ := parts_of_ofCivil? h
  rw [dayNumber, hy, hm, hd]
  omega

/-! ### The ends of the calendar -/

/-- The first day of the calendar. -/
def firstDay : Date := (ofCivil? firstYear 1 1).get (by decide)

/-- The last day of the calendar. -/
def lastDay : Date := (ofCivil? lastYear 12 31).get (by decide)

/-- A year begins where the year before it ends. -/
theorem daysBeforeYear_add_one (year : Int) :
    daysBeforeYear (year + 1) = daysBeforeYear year + yearLength year := by
  have hleap : isLeapYear year = true ↔ year % 4 = 0 ∧ (year % 100 ≠ 0 ∨ year % 400 = 0) := by
    rw [isLeapYear, Bool.and_eq_true, Bool.or_eq_true, decide_eq_true_iff, decide_eq_true_iff,
      decide_eq_true_iff]
  rw [yearLength, daysBeforeYear, daysBeforeYear]
  split
  · next hyear =>
    rw [hleap] at hyear
    omega
  · next hyear =>
    rw [hleap] at hyear
    omega

/-- Later years begin later. -/
theorem daysBeforeYear_le {year later : Int} (h : year ≤ later) :
    daysBeforeYear year ≤ daysBeforeYear later := by
  rcases Int.lt_or_eq_of_le h with hlt | rfl
  · rw [daysBeforeYear, daysBeforeYear]
    omega
  · exact Int.le_refl _

/-- **The year of a day is the last that begins no later than the day.** -/
theorem le_yearOfDays_iff {year n : Int} : year ≤ (yearOfDays n).1 ↔ daysBeforeYear year ≤ n := by
  obtain ⟨hsum, hlt⟩ := daysBeforeYear_yearOfDays n
  constructor
  · intro h
    have hle := daysBeforeYear_le h
    omega
  · intro h
    apply Int.not_lt.mp
    intro hyear
    have hle := daysBeforeYear_le (Int.add_one_le_of_lt hyear)
    rw [daysBeforeYear_add_one] at hle
    omega

/-- A day has a date when its year is one of the calendar. -/
theorem exists_ofDayNumber?_iff_year {n : Int} :
    (∃ d, ofDayNumber? n = some d) ↔
      firstYear ≤ (yearOfDays (n + epochOffset)).1 ∧
        (yearOfDays (n + epochOffset)).1 ≤ lastYear := by
  obtain ⟨-, hlt⟩ := daysBeforeYear_yearOfDays (n + epochOffset)
  obtain ⟨month, day, hmonth, -, hmonths, hdays⟩ := daysBeforeMonth_monthOfDays hlt
  simp only [ofDayNumber?, hmonth]
  constructor
  · rintro ⟨d, hd⟩
    obtain ⟨hyear, -⟩ := parts_of_ofCivil? hd
    rw [← hyear]
    exact d.year_mem
  · intro hyear
    rw [ofCivil?, dif_pos hyear, dif_pos hmonths, dif_pos hdays]
    exact ⟨_, rfl⟩

/-- **The days of the calendar are those from its first to its last.** -/
theorem exists_ofDayNumber?_iff {n : Int} :
    (∃ d, ofDayNumber? n = some d) ↔ firstDay.dayNumber ≤ n ∧ n ≤ lastDay.dayNumber := by
  have hfirst : firstDay.dayNumber = daysBeforeYear firstYear - epochOffset := by decide
  have hlast : lastDay.dayNumber = daysBeforeYear (lastYear + 1) - epochOffset - 1 := by decide
  have hafter : lastYear + 1 ≤ (yearOfDays (n + epochOffset)).1 ↔
      daysBeforeYear (lastYear + 1) ≤ n + epochOffset := le_yearOfDays_iff
  rw [exists_ofDayNumber?_iff_year, le_yearOfDays_iff, hfirst, hlast]
  omega

end Date
end QueryRouting
