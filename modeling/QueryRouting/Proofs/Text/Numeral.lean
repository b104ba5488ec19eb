import QueryRouting.Text.Numeral

/-!
# Reading numbers back

The decimal numeral of a number is a run of digits that stands for the number.  So a number that
fits in a word is read back from its numeral.

## Main results

* `Numeral.read?_toDigits` — the digits of a number are read as the number.
* `Numeral.readWord64?_toString` — a number that fits in a word is read back.
-/

namespace QueryRouting
namespace Numeral

variable {n : Nat}

/-- The digits of a number are ASCII digits. -/
theorem isDigit_of_mem_toDigits {c : Char} (h : c ∈ Nat.toDigits 10 n) : isDigit c = true := by
  have hdigit := Nat.isDigit_of_mem_toDigits (by decide) (by decide) h
  rw [Char.isDigit, Bool.and_eq_true, decide_eq_true_eq, decide_eq_true_eq] at hdigit
  rw [isDigit, Bool.and_eq_true, decide_eq_true_eq, decide_eq_true_eq]
  exact hdigit

/-- **The digits of a number are read as the number.** -/
theorem read?_toDigits (n : Nat) : read? (Nat.toDigits 10 n) = some n := by
  have hsome : (Nat.toDigits 10 n).isEmpty = false :=
    List.isEmpty_eq_false_iff.mpr Nat.toDigits_ne_nil
  have hdigits : (Nat.toDigits 10 n).all isDigit = true := by
    rw [List.all_eq_true]
    intro c hc
    exact isDigit_of_mem_toDigits hc
  have hvalue : value (Nat.toDigits 10 n) = n := by
    rw [value]
    have h := Nat.ofDigitChars_ten_toDigits (n := n)
    rw [Nat.ofDigitChars_eq_foldl] at h
    simpa [Nat.mul_comm] using h
  rw [read?, hsome, hdigits, hvalue]
  rfl

/-- **A number that fits in a word is read back** from its decimal numeral. -/
theorem readWord64?_toString (h : n < wordCount) : readWord64? (toString n) = some n := by
  have hbelow : readBelow? wordCount (Nat.toDigits 10 n) = some n := by
    rw [readBelow?, read?_toDigits]
    simp [h]
  rw [readWord64?, Nat.toString_eq_repr, Nat.toList_repr]
  split
  · next cs hplus =>
    -- A plus sign is no digit.
    have hmem : '+' ∈ Nat.toDigits 10 n := by
      rw [hplus]
      exact List.mem_cons_self
    exact absurd (isDigit_of_mem_toDigits hmem) (by decide)
  · exact hbelow

end Numeral
end QueryRouting
