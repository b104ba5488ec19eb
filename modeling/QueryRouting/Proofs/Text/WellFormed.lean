import QueryRouting.Proofs.Text.Utf8

/-!
# Well-formed UTF-8

One to four bytes spell a number by their bits: the lead byte says how many bytes there are,
and every byte holds some of the bits.  That by itself admits too much.  A number may be
spelled with more bytes than it needs, and it may be a surrogate or lie above the last
character.  A byte string is well formed when it is made up of spellings that are the
shortest of their number, and whose number is that of a character.

The decoder does not look at it this way.  It has a table of what may follow a lead byte, and
the table rules out the same spellings.

## Main definitions

* `Utf8.Spells bs n` — the bytes `bs` spell the number `n`, by their bits alone.
* `Utf8.SpellsChar bs n` — they are its shortest spelling, and it is that of a character.
* `Utf8.WellFormed bs` — the byte string is made up of such spellings.

## Main results

* `Utf8.Spells.eq_of_length` — a number has one spelling of each length.
* `Utf8.sequence_iff_spellsChar` — the sequences of the table are these spellings.
* `Utf8.exists_decode_iff_wellFormed` — the decoder accepts what is well formed.
-/

namespace QueryRouting
namespace Utf8

/-- The numbers that bytes spell by their bits. -/
inductive Spells : Bytes → Nat → Prop where
  | one {b : UInt8} : b.toNat < 0x80 → Spells [b] b.toNat
  | two {b c : UInt8} : 0xC0 ≤ b.toNat → b.toNat < 0xE0 → isContinuation c = true →
      Spells [b, c] ((b.toNat - 0xC0) * 64 + (c.toNat - 0x80))
  | three {b c d : UInt8} : 0xE0 ≤ b.toNat → b.toNat < 0xF0 → isContinuation c = true →
      isContinuation d = true →
      Spells [b, c, d] ((b.toNat - 0xE0) * 4096 + (c.toNat - 0x80) * 64 + (d.toNat - 0x80))
  | four {b c d e : UInt8} : 0xF0 ≤ b.toNat → b.toNat < 0xF8 → isContinuation c = true →
      isContinuation d = true → isContinuation e = true →
      Spells [b, c, d, e] ((b.toNat - 0xF0) * 262144 + (c.toNat - 0x80) * 4096
        + (d.toNat - 0x80) * 64 + (e.toNat - 0x80))

/-- The spellings that are allowed. -/
structure SpellsChar (bs : Bytes) (n : Nat) : Prop where
  spells : Spells bs n
  /-- The form is not overlong. -/
  shortest : ∀ cs, Spells cs n → bs.length ≤ cs.length
  /-- The number is no surrogate, and not above the last character. -/
  isChar : n < 0xD800 ∨ (0xDFFF < n ∧ n ≤ 0x10FFFF)

/-- The byte strings that are made up of allowed spellings. -/
inductive WellFormed : Bytes → Prop where
  | nil : WellFormed []
  | append {front rest : Bytes} {n : Nat} : SpellsChar front n → WellFormed rest →
      WellFormed (front ++ rest)

variable {bs cs : Bytes} {n : Nat}

/-! ### Spellings and sequences -/

/-- How far the numbers of each length reach. -/
theorem Spells.lt_of_length (h : Spells bs n) :
    (bs.length = 1 ∧ n < 0x80) ∨ (bs.length = 2 ∧ n < 0x800) ∨
      (bs.length = 3 ∧ n < 0x10000) ∨ bs.length = 4 := by
  cases h with
  | one hb => exact Or.inl ⟨rfl, hb⟩
  | two hb hb' hc =>
    rw [isContinuation_iff] at hc
    exact Or.inr (Or.inl ⟨rfl, by omega⟩)
  | three hb hb' hc hd =>
    rw [isContinuation_iff] at hc hd
    exact Or.inr (Or.inr (Or.inl ⟨rfl, by omega⟩))
  | four hb hb' hc hd he => exact Or.inr (Or.inr (Or.inr rfl))

/-- The table rules out the numbers that fewer bytes spell. -/
theorem Sequence.le_of_length (h : Sequence bs n) :
    bs.length = 1 ∨ (bs.length = 2 ∧ 0x80 ≤ n) ∨ (bs.length = 3 ∧ 0x800 ≤ n) ∨
      (bs.length = 4 ∧ 0x10000 ≤ n) := by
  cases h with
  | one hb => exact Or.inl rfl
  | two hlead hlow hhigh hb =>
    obtain ⟨hrange, hsecond, -⟩ := bounds_of_secondRange hlead
    exact Or.inr (Or.inl ⟨rfl, by omega⟩)
  | three hlead hlow hhigh hd hb hb' =>
    obtain ⟨hrange, hsecond, hE0, -⟩ := bounds_of_secondRange hlead
    exact Or.inr (Or.inr (Or.inl ⟨rfl, by omega⟩))
  | four hlead hlow hhigh hd he hb =>
    obtain ⟨hrange, hsecond, -, -, hF0, -⟩ := bounds_of_secondRange hlead
    exact Or.inr (Or.inr (Or.inr ⟨rfl, by omega⟩))

/-- A sequence spells its number. -/
theorem Sequence.spells (h : Sequence bs n) : Spells bs n := by
  cases h with
  | one hb => exact .one hb
  | two hlead hlow hhigh hb =>
    obtain ⟨hrange, hsecond, -⟩ := bounds_of_secondRange hlead
    exact .two (by omega) hb (isContinuation_iff.mpr (by omega))
  | three hlead hlow hhigh hd hb hb' =>
    obtain ⟨hrange, hsecond, -⟩ := bounds_of_secondRange hlead
    exact .three hb hb' (isContinuation_iff.mpr (by omega)) hd
  | four hlead hlow hhigh hd he hb =>
    obtain ⟨hrange, hsecond, -⟩ := bounds_of_secondRange hlead
    exact .four hb (by omega) (isContinuation_iff.mpr (by omega)) hd he

/-- **A number has one spelling of each length.** -/
theorem Spells.eq_of_length (h : Spells bs n) (h' : Spells cs n)
    (hlength : bs.length = cs.length) : bs = cs := by
  generalize hm : n = m at h'
  -- The length leaves one form for the other spelling, and each byte is a part of the number.
  cases h with
  | @one b hb =>
    cases h' with
    | @one b' hb' => rw [UInt8.toNat.inj hm]
    | _ => simp at hlength
  | @two b c hb hb₁ hc =>
    cases h' with
    | @two b' c' hb' hb₁' hc' =>
      rw [isContinuation_iff] at hc hc'
      have hlead : b = b' := UInt8.toNat.inj (by omega)
      have hsecond : c = c' := UInt8.toNat.inj (by omega)
      rw [hlead, hsecond]
    | _ => simp at hlength
  | @three b c d hb hb₁ hc hd =>
    cases h' with
    | @three b' c' d' hb' hb₁' hc' hd' =>
      rw [isContinuation_iff] at hc hd hc' hd'
      have hlead : b = b' := UInt8.toNat.inj (by omega)
      have hsecond : c = c' := UInt8.toNat.inj (by omega)
      have hthird : d = d' := UInt8.toNat.inj (by omega)
      rw [hlead, hsecond, hthird]
    | _ => simp at hlength
  | @four b c d e hb hb₁ hc hd he =>
    cases h' with
    | @four b' c' d' e' hb' hb₁' hc' hd' he' =>
      rw [isContinuation_iff] at hc hd he hc' hd' he'
      have hlead : b = b' := UInt8.toNat.inj (by omega)
      have hsecond : c = c' := UInt8.toNat.inj (by omega)
      have hthird : d = d' := UInt8.toNat.inj (by omega)
      have hfourth : e = e' := UInt8.toNat.inj (by omega)
      rw [hlead, hsecond, hthird, hfourth]
    | _ => simp at hlength

theorem Sequence.spellsChar (h : Sequence bs n) : SpellsChar bs n where
  spells := h.spells
  shortest := by
    intro cs hcs
    have hleast := h.le_of_length
    have hmost := hcs.lt_of_length
    omega
  isChar := by
    have hvalid := h.isValidChar
    unfold Nat.isValidChar at hvalid
    omega

/-- **The table admits the shortest spellings of characters**, and no others. -/
theorem sequence_iff_spellsChar : Sequence bs n ↔ SpellsChar bs n := by
  constructor
  · exact Sequence.spellsChar
  · intro h
    have hvalid : n.isValidChar := by
      have hchar := h.isChar
      unfold Nat.isValidChar
      omega
    -- The bytes of the character are a sequence, so they are as short.
    have hchar := sequence_encodeChar (Char.ofNat n)
    rw [toNat_charOfNat hvalid] at hchar
    have hle := h.shortest _ hchar.spells
    have hge := hchar.spellsChar.shortest _ h.spells
    rw [h.spells.eq_of_length hchar.spells (Nat.le_antisymm hle hge)]
    exact hchar

/-! ### Byte strings -/

/-- What is well formed is read, from any position on. -/
theorem WellFormed.exists_decodeFrom (h : WellFormed bs) (start : Nat) :
    ∃ chars, decodeFrom start bs = .ok chars := by
  induction h generalizing start with
  | nil => exact ⟨[], rfl⟩
  | append hfront hrest ih =>
    obtain ⟨chars, hchars⟩ := ih (start + _)
    rw [decodeFrom_append (sequence_iff_spellsChar.mpr hfront), hchars]
    exact ⟨_, rfl⟩

/-- What is read is well formed. -/
theorem wellFormed_of_decodeFrom {start : Nat} {chars : List Char}
    (h : decodeFrom start bs = .ok chars) : WellFormed bs := by
  induction chars generalizing start bs with
  | nil =>
    rcases exists_sequence_of_decodeFrom h with ⟨rfl, -⟩ | ⟨front, n, rest, later, -, -, hcs, -⟩
    · exact .nil
    · simp at hcs
  | cons c chars ih =>
    rcases exists_sequence_of_decodeFrom h with
      ⟨-, hcs⟩ | ⟨front, n, rest, later, rfl, hfront, hcs, hrest⟩
    · simp at hcs
    · obtain ⟨-, rfl⟩ := List.cons.inj hcs
      exact .append hfront.spellsChar (ih hrest)

/-- **The decoder accepts what is well formed**, and nothing else. -/
theorem exists_decode_iff_wellFormed : (∃ s, decode bs = .ok s) ↔ WellFormed bs := by
  constructor
  · rintro ⟨s, h⟩
    obtain ⟨chars, hchars, -⟩ := map_eq_ok_iff.mp h
    exact wellFormed_of_decodeFrom hchars
  · intro h
    obtain ⟨chars, hchars⟩ := h.exists_decodeFrom 0
    exact ⟨String.ofList chars, map_eq_ok_iff.mpr ⟨chars, hchars, rfl⟩⟩

end Utf8
end QueryRouting
