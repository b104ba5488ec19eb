import Mathlib.Data.List.Forall2
import QueryRouting.Consistency
import QueryRouting.Proofs.Text.Blank

/-!
# The spellings of a level

A text names a level when it spells the name of the level, with letters of either case, with hyphens
or low lines, and with blanks around it.  These are all texts that name it.

## Main definitions

* `Consistency.SpellsLetter` — a character stands for a letter of a name.
* `Consistency.Spells` — a text stands for the name of a level.

## Main results

* `Consistency.ofName?_eq_some_iff` — a level is known by its name.
* `Consistency.parse_eq_ok_iff` — the texts that name a level are the spellings of its name.
* `Consistency.parse_eq_error_iff` — all other texts are refused.
-/

namespace QueryRouting
namespace Consistency

variable {level : Consistency} {letter c : Char}

/-- A character stands for a letter of a name: it is the letter, in either case, or a hyphen in
place of the low line. -/
inductive SpellsLetter : Char → Char → Prop where
  | same (letter : Char) : SpellsLetter letter letter
  | lower (letter : Char) : SpellsLetter letter letter.toLower
  | hyphen : SpellsLetter '_' '-'

/-- A text spells the name of a level, with blanks around it or without. -/
def Spells (level : Consistency) (s : String) : Prop :=
  ∃ before letters after, s.toList = before ++ letters ++ after ∧
    (∀ c ∈ before, Blank.isBlank c = true) ∧ (∀ c ∈ after, Blank.isBlank c = true) ∧
    List.Forall₂ SpellsLetter level.name.toList letters

/-! ### Letters -/

/-- A character that is not its own capital is the small letter of its capital. -/
theorem toUpper_eq_or (c : Char) : c.toUpper = c ∨ c.toUpper.toLower = c := by
  by_cases hsmall : c.val ≥ 'a'.val ∧ c.val ≤ 'z'.val
  · -- The small letters are tried one by one.
    have hletters : ∀ n ∈ List.range' 97 26,
        (Char.ofNat n).toUpper.toLower = Char.ofNat n := by decide
    have hmem : c.toNat ∈ List.range' 97 26 := by
      have hfirst : 97 ≤ c.toNat := UInt32.le_iff_toNat_le.mp hsmall.1
      have hlast : c.toNat ≤ 122 := UInt32.le_iff_toNat_le.mp hsmall.2
      rw [List.mem_range'_1]
      omega
    have hletter := hletters c.toNat hmem
    rw [Char.ofNat_toNat] at hletter
    exact Or.inr hletter
  · exact Or.inl (dif_neg hsmall)

/-- A character stands for the letter that it is read as. -/
theorem spellsLetter_nameLetter (c : Char) : SpellsLetter (nameLetter c) c := by
  unfold nameLetter
  split
  · next hhyphen =>
    rw [hhyphen]
    exact .hyphen
  · rcases toUpper_eq_or c with hkept | hsmall
    · rw [hkept]
      exact .same c
    · have hlower := SpellsLetter.lower c.toUpper
      rwa [hsmall] at hlower

/-- The letters of a name are read as themselves in either case, and none of them is blank. -/
theorem nameLetter_of_mem (h : letter ∈ level.name.toList) :
    (nameLetter letter = letter ∧ nameLetter letter.toLower = letter) ∧
      Blank.isBlank letter = false ∧ Blank.isBlank letter.toLower = false := by
  -- The letters of the name are tried one by one, not all the characters there are.
  have hall : (level.name.toList.all fun c =>
      decide ((nameLetter c = c ∧ nameLetter c.toLower = c) ∧
        Blank.isBlank c = false ∧ Blank.isBlank c.toLower = false)) = true := by
    cases level <;> decide +kernel
  exact of_decide_eq_true (List.all_eq_true.mp hall letter h)

theorem SpellsLetter.nameLetter_eq (h : SpellsLetter letter c) (hmem : letter ∈ level.name.toList) :
    nameLetter c = letter ∧ Blank.isBlank c = false := by
  obtain ⟨hread, hblank⟩ := nameLetter_of_mem hmem
  cases h with
  | same => exact ⟨hread.1, hblank.1⟩
  | lower => exact ⟨hread.2, hblank.2⟩
  | hyphen => decide

/-! ### Names -/

/-- The letters that spell a name, or a part of one, are read as it, and none of them is blank. -/
theorem map_nameLetter_eq {letters cs : List Char} (h : List.Forall₂ SpellsLetter letters cs)
    (hmem : ∀ letter ∈ letters, letter ∈ level.name.toList) :
    cs.map nameLetter = letters ∧ ∀ c ∈ cs, Blank.isBlank c = false := by
  induction h with
  | nil => exact ⟨rfl, by simp⟩
  | @cons letter c letters cs hletter _ ih =>
    obtain ⟨hread, hblank⟩ := hletter.nameLetter_eq (hmem letter List.mem_cons_self)
    obtain ⟨hrest, hblanks⟩ := ih fun l hl => hmem l (List.mem_cons_of_mem letter hl)
    constructor
    · rw [List.map_cons, hread, hrest]
    · intro c' hc'
      rcases List.mem_cons.mp hc' with rfl | hc'
      · exact hblank
      · exact hblanks c' hc'

/-- **A level is known by its name.** -/
theorem ofName?_eq_some_iff {s : String} : ofName? s = some level ↔ s = level.name := by
  constructor
  · intro h
    have hname := List.find?_some h
    exact (of_decide_eq_true hname).symm
  · rintro rfl
    cases level <;> decide

theorem spells_name (level : Consistency) : level.Spells level.name := by
  refine ⟨[], level.name.toList, [], by simp, by simp, by simp, ?_⟩
  exact List.forall₂_same.mpr fun letter _ => .same letter

/-- **The texts that name a level are the spellings of its name.** -/
theorem parse_eq_ok_iff {s : String} : parse s = .ok level ↔ level.Spells s := by
  have hparse : parse s = .ok level ↔
      (Blank.trimChars s.toList).map nameLetter = level.name.toList := by
    rw [← String.toList_ofList (l := (Blank.trimChars s.toList).map nameLetter),
      String.toList_inj, ← ofName?_eq_some_iff, parse]
    cases ofName? (String.ofList ((Blank.trimChars s.toList).map nameLetter)) <;> simp
  rw [hparse]
  constructor
  · intro hname
    obtain ⟨before, after, hbefore, hafter, hs⟩ := Blank.exists_append_trimChars s.toList
    refine ⟨before, Blank.trimChars s.toList, after, hs, hbefore, hafter, ?_⟩
    rw [← hname, List.forall₂_map_left_iff]
    exact List.forall₂_same.mpr fun c _ => spellsLetter_nameLetter c
  · rintro ⟨before, letters, after, hs, hbefore, hafter, hspells⟩
    obtain ⟨hread, hblanks⟩ := map_nameLetter_eq hspells fun _ hl => hl
    have htrimmed : Blank.Trimmed letters := by
      constructor
      · intro c hc
        exact hblanks c (List.mem_of_head? hc)
      · intro c hc
        exact hblanks c (List.mem_of_getLast? hc)
    rw [hs, Blank.trimChars_append hbefore htrimmed hafter]
    exact hread

/-- **A text that spells no level is refused**, and no other text is. -/
theorem parse_eq_error_iff {s : String} {e : UnknownConsistency} :
    parse s = .error e ↔ e = ⟨s⟩ ∧ ∀ level : Consistency, ¬level.Spells s := by
  simp only [← parse_eq_ok_iff]
  cases hparse : parse s with
  | ok level =>
    constructor
    · nofun
    · rintro ⟨-, hnone⟩
      exact absurd rfl (hnone level)
  | error refused =>
    have hrefused : refused = ⟨s⟩ := by
      rw [parse] at hparse
      split at hparse
      · contradiction
      · exact (Except.error.inj hparse).symm
    constructor
    · intro h
      exact ⟨(Except.error.inj h).symm.trans hrefused, nofun⟩
    · rintro ⟨rfl, -⟩
      rw [hrefused]

example : localQuorum.Spells " Local-QUORUM\t" := parse_eq_ok_iff.mp (by decide +kernel)

end Consistency
end QueryRouting
