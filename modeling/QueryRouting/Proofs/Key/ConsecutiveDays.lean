import QueryRouting.Proofs.Calendar.NextDay
import QueryRouting.Proofs.Key.Temporal

/-!
# Dates in keys go through the calendar

The number that stands for a date goes up by one from each day of the calendar to the next, month
ends, leap days and the years before and after zero included.  Read the other way, two numbers in
a row are two days in a row.  With the number of one day this fixes that of every other.

## Main results

* `read_of_encode_date`, `exists_date_of_decode` — the number of a date, written and read.
* `encode_date_consecutive` — the numbers go through the calendar.
-/

namespace QueryRouting

/-- The number that stands for a date. -/
theorem read_of_encode_date (d : Date) :
    ∃ bs, encode .date (.date d) = .ok bs ∧ bs.length = 4 ∧
      (BigEndian.read bs : Int) = d.dayNumber + dateBias := by
  obtain ⟨bs, hbs, hlength, hread⟩ := encode_date_daysWord d
  refine ⟨bs, hbs, hlength, ?_⟩
  rw [hread]
  exact d.toNat_daysWord

/-- The bytes that are read as a date are those of its number. -/
theorem exists_date_of_decode {bs : Bytes} {value : Value} (h : decode .date bs = .ok value) :
    ∃ d, value = .date d ∧ (BigEndian.read bs : Int) = d.dayNumber + dateBias := by
  obtain ⟨-, hbody⟩ := exactly_bind_eq_ok_iff.mp (Option.some.inj (decode_eq_ok_iff.mp h))
  obtain ⟨d, hdate, hvalue⟩ := orFault_bind_eq_ok_iff.mp hbody
  refine ⟨d, (Except.ok.inj hvalue).symm, ?_⟩
  have hnumber := Date.dayNumber_of_ofDayNumber? hdate
  omega

/-- **Dates are encoded as consecutive numbers, in the order of the calendar.**  Every day but
the last of the calendar is followed by one day, whose number is one more, and the first day of
1970 has the number in the middle of four bytes.  Two byte strings that are read as dates and
whose numbers follow each other are read as a day and the one that follows it. -/
theorem encode_date_consecutive :
    (∀ d : Date, (d.year, d.month, d.day) ≠ (262142, 12, 31) →
      ∃ e, d.NextDay e ∧ (∀ e', d.NextDay e' → e' = e) ∧
        ∃ bs bs', encode .date (.date d) = .ok bs ∧ encode .date (.date e) = .ok bs' ∧
          bs.length = 4 ∧ bs'.length = 4 ∧ BigEndian.read bs' = BigEndian.read bs + 1) ∧
    (∀ d : Date, (d.year, d.month, d.day) = (1970, 1, 1) →
      ∃ bs, encode .date (.date d) = .ok bs ∧ bs.length = 4 ∧
        BigEndian.read bs = 2147483648) ∧
    ∀ (bs bs' : Bytes) (value value' : Value), decode .date bs = .ok value →
      decode .date bs' = .ok value' → BigEndian.read bs' = BigEndian.read bs + 1 →
        ∃ d e, value = .date d ∧ value' = .date e ∧ d.NextDay e := by
  refine ⟨?_, ?_, ?_⟩
  · intro d hd
    obtain ⟨e, hnext⟩ := Date.exists_nextDay hd
    obtain ⟨bs, hbs, hlength, hread⟩ := read_of_encode_date d
    obtain ⟨bs', hbs', hlength', hread'⟩ := read_of_encode_date e
    refine ⟨e, hnext, fun e' h => h.unique hnext, bs, bs', hbs, hbs', hlength, hlength', ?_⟩
    have hnumber := hnext.dayNumber_eq
    omega
  · intro d hd
    obtain ⟨bs, hbs, hlength, hread⟩ := read_of_encode_date d
    have hnumber : d.dayNumber = 0 := by
      obtain ⟨hyear, hrest⟩ := Prod.mk.inj hd
      obtain ⟨hmonth, hday⟩ := Prod.mk.inj hrest
      rw [Date.dayNumber, hyear, hmonth, hday]
      rfl
    rw [hnumber, dateBias] at hread
    exact ⟨bs, hbs, hlength, by omega⟩
  · intro bs bs' value value' h h' hnext
    obtain ⟨d, hd, hread⟩ := exists_date_of_decode h
    obtain ⟨e, he, hread'⟩ := exists_date_of_decode h'
    refine ⟨d, e, hd, he, Date.nextDay_iff.mpr ?_⟩
    omega

end QueryRouting
