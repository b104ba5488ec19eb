import QueryRouting.Text.Blank

/-!
# Trimmed text

Trimming takes the blank characters off both ends of a text, and stops at the first character at
either end that is not blank.  What is left begins and ends with such a character, or is empty; so
trimming has no effect on it, and blanks that are put around it are all that is taken off.

## Main definitions

* `Blank.Trimmed cs` — no blank character stands at either end.

## Main results

* `Blank.trimmed_trimChars` — trimming leaves no blank at the ends.
* `Blank.exists_append_trimChars` — it takes off blanks only.
* `Blank.trimChars_append` — blanks around a trimmed text are taken off, and the text stays.
-/

namespace QueryRouting
namespace Blank

variable {cs before after : List Char} {c : Char}

/-- Neither the first nor the last character is blank. -/
structure Trimmed (cs : List Char) : Prop where
  first : ∀ c, cs.head? = some c → isBlank c = false
  last : ∀ c, cs.getLast? = some c → isBlank c = false

/-- What is left behind a stretch of blanks does not begin with one. -/
theorem isBlank_of_head?_dropWhile (h : (cs.dropWhile isBlank).head? = some c) :
    isBlank c = false := by
  have hhead := List.head?_dropWhile_not isBlank cs
  rwa [h] at hhead

/-- **Trimming leaves no blank at the ends.** -/
theorem trimmed_trimChars (cs : List Char) : Trimmed (trimChars cs) where
  first c h := by
    -- What trimming leaves is the beginning of what the first half of it leaves.
    have hbegins : trimChars cs <+: cs.dropWhile isBlank := by
      have hends := (List.dropWhile_suffix (l := (cs.dropWhile isBlank).reverse) isBlank).reverse
      rwa [List.reverse_reverse] at hends
    obtain ⟨rest, hrest⟩ := hbegins
    apply isBlank_of_head?_dropWhile
    rw [← hrest, List.head?_append, h]
    rfl
  last c h := by
    rw [trimChars, List.getLast?_reverse] at h
    exact isBlank_of_head?_dropWhile h

/-- **Trimming takes off blanks only.** -/
theorem exists_append_trimChars (cs : List Char) : ∃ before after,
    (∀ c ∈ before, isBlank c = true) ∧ (∀ c ∈ after, isBlank c = true) ∧
      cs = before ++ trimChars cs ++ after := by
  refine ⟨cs.takeWhile isBlank, ((cs.dropWhile isBlank).reverse.takeWhile isBlank).reverse,
    ?_, ?_, ?_⟩
  · intro c hc
    exact List.all_eq_true.mp List.all_takeWhile c hc
  · intro c hc
    exact List.all_eq_true.mp List.all_takeWhile c (List.mem_reverse.mp hc)
  · rw [trimChars, List.append_assoc, ← List.reverse_append, List.takeWhile_append_dropWhile,
      List.reverse_reverse, List.takeWhile_append_dropWhile]

/-- Blanks in front of a text that does not begin with one are dropped, and no more. -/
theorem dropWhile_append (hbefore : ∀ c ∈ before, isBlank c = true)
    (hfirst : ∀ c, cs.head? = some c → isBlank c = false) :
    (before ++ cs).dropWhile isBlank = cs := by
  rw [List.dropWhile_append_of_pos hbefore]
  cases cs with
  | nil => rfl
  | cons c cs => simp [hfirst c rfl]

/-- **Blanks around a trimmed text are taken off**, and the text stays. -/
theorem trimChars_append (hbefore : ∀ c ∈ before, isBlank c = true) (h : Trimmed cs)
    (hafter : ∀ c ∈ after, isBlank c = true) : trimChars (before ++ cs ++ after) = cs := by
  have hblank : ∀ c ∈ after.reverse, isBlank c = true := by
    intro c hc
    exact hafter c (List.mem_reverse.mp hc)
  cases cs with
  | nil =>
    have hall : ∀ c ∈ before ++ after, isBlank c = true := by
      intro c hc
      exact (List.mem_append.mp hc).elim (hbefore c) (hafter c)
    have hnone : (before ++ after ++ []).dropWhile isBlank = [] := dropWhile_append hall (by simp)
    rw [List.append_nil] at hnone
    rw [trimChars, List.append_nil, hnone]
    rfl
  | cons c cs =>
    have hfirst : ∀ c', (c :: cs ++ after).head? = some c' → isBlank c' = false := h.first
    have hlast : ∀ c', (c :: cs).reverse.head? = some c' → isBlank c' = false := by
      intro c' hc'
      exact h.last c' (by rwa [List.head?_reverse] at hc')
    rw [trimChars, List.append_assoc, dropWhile_append hbefore hfirst, List.reverse_append,
      dropWhile_append hblank hlast, List.reverse_reverse]

/-- A trimmed text stays as it is. -/
theorem Trimmed.trimChars_eq (h : Trimmed cs) : trimChars cs = cs := by
  have hnone : ∀ c ∈ ([] : List Char), isBlank c = true := by simp
  have hpadded := trimChars_append hnone h hnone
  rwa [List.nil_append, List.append_nil] at hpadded

end Blank
end QueryRouting
