import QueryRouting.Text.Utf8

/-!
# Reading text back

The bytes of a character are a sequence of one of four forms, whose lead byte says how many
bytes follow it.  The decoder takes a sequence off the front of its input and goes on
behind it, so it reads the bytes of a text back as the text.  A sequence is the bytes of
the character of its number, so what the decoder accepts is the bytes of the text it reads.

## Main definitions

* `Utf8.Sequence bs n` — the bytes `bs` are the sequence of the number `n`.

## Main results

* `Utf8.sequence_encodeChar` — the bytes of a character are a sequence.
* `Utf8.decodeFrom_append` — the decoder takes a sequence off the front.
* `Utf8.decode_encode` — a text is read back from its bytes.
* `Utf8.isAscii_encode` — a text of ASCII characters has one byte for each of them.
* `Utf8.Sequence.encodeChar_eq` — a sequence is the bytes of the character of its number.
* `Utf8.encode_of_decode` — bytes that are read as a text are those of the text.
-/

namespace QueryRouting
namespace Utf8

/-- The sequences of bytes that stand for a number, by the number of bytes. -/
inductive Sequence : Bytes → Nat → Prop where
  | one {b : UInt8} : b.toNat < 0x80 → Sequence [b] b.toNat
  /-- A lead byte and the byte that it asks for. -/
  | two {b c : UInt8} {low high : Nat} : secondRange b.toNat = some (low, high) →
      low ≤ c.toNat → c.toNat ≤ high → b.toNat < 0xE0 →
      Sequence [b, c] ((b.toNat - 0xC0) * 64 + (c.toNat - 0x80))
  | three {b c d : UInt8} {low high : Nat} : secondRange b.toNat = some (low, high) →
      low ≤ c.toNat → c.toNat ≤ high → isContinuation d = true →
      0xE0 ≤ b.toNat → b.toNat < 0xF0 →
      Sequence [b, c, d] ((b.toNat - 0xE0) * 4096 + (c.toNat - 0x80) * 64 + (d.toNat - 0x80))
  | four {b c d e : UInt8} {low high : Nat} : secondRange b.toNat = some (low, high) →
      low ≤ c.toNat → c.toNat ≤ high → isContinuation d = true → isContinuation e = true →
      0xF0 ≤ b.toNat →
      Sequence [b, c, d, e] ((b.toNat - 0xF0) * 262144 + (c.toNat - 0x80) * 4096
        + (d.toNat - 0x80) * 64 + (e.toNat - 0x80))

/-- A byte that leads several is no ASCII character. -/
theorem le_of_secondRange_eq_some {lead low high : Nat}
    (h : secondRange lead = some (low, high)) : 0xC2 ≤ lead := by
  refine Nat.le_of_not_lt fun hlt => ?_
  rw [secondRange, if_pos hlt] at h
  exact absurd h (by simp)

/-- **The decoder takes a sequence off the front of its input.** -/
theorem decodeFrom_append {bs : Bytes} {n : Nat} (h : Sequence bs n) (start : Nat)
    (rest : Bytes) :
    decodeFrom start (bs ++ rest)
      = (Char.ofNat n :: ·) <$> decodeFrom (start + bs.length) rest := by
  cases h with
  | one hb => rw [List.singleton_append, decodeFrom, if_pos hb]; rfl
  | two hlead hlow hhigh hb =>
    have hascii := le_of_secondRange_eq_some hlead
    rw [List.cons_append, decodeFrom, if_neg (by omega), hlead]
    simp [hlow, hhigh, hb]
  | three hlead hlow hhigh hd hb hb' =>
    have hascii := le_of_secondRange_eq_some hlead
    rw [List.cons_append, decodeFrom, if_neg (by omega), hlead]
    simp [hlow, hhigh, hd, Nat.not_lt.mpr hb, hb']
  | @four b c d e low high hlead hlow hhigh hd he hb =>
    have hascii := le_of_secondRange_eq_some hlead
    have hlong : ¬b.toNat < 0xE0 := by omega
    rw [List.cons_append, decodeFrom, if_neg (by omega), hlead]
    simp [hlow, hhigh, hd, he, hlong, Nat.not_lt.mpr hb]

/-! ### The bytes of a character -/

theorem toNat_ofNat {n : Nat} (h : n < 256) : (UInt8.ofNat n).toNat = n :=
  UInt8.toNat_ofNat_of_lt' h

/-- A byte that holds six bits of a number continues a sequence. -/
theorem isContinuation_ofNat (n : Nat) : isContinuation (UInt8.ofNat (0x80 + n % 64)) = true := by
  rw [isContinuation, toNat_ofNat (by omega), Bool.and_eq_true, decide_eq_true_eq,
    decide_eq_true_eq]
  omega

/-- A character is no surrogate, and none is above `10FFFF`. -/
theorem toNat_lt (c : Char) : c.toNat < 0xD800 ∨ (0xDFFF < c.toNat ∧ c.toNat < 0x110000) :=
  c.valid

section

variable {n : Nat}

theorem secondRange_of_two (h : 0x80 ≤ n) (h' : n < 0x800) :
    secondRange (0xC0 + n / 64) = some (0x80, 0xBF) := by
  rw [secondRange, if_neg (by omega), if_pos (by omega)]

/-- The second of three bytes is in its range, for a number that is no surrogate. -/
theorem secondRange_of_three (h : 0x800 ≤ n) (h' : n < 0x10000)
    (hvalid : n < 0xD800 ∨ 0xDFFF < n) :
    ∃ low high, secondRange (0xE0 + n / 4096) = some (low, high) ∧
      low ≤ 0x80 + n / 64 % 64 ∧ 0x80 + n / 64 % 64 ≤ high := by
  rw [secondRange, if_neg (by omega), if_neg (by omega)]
  split
  · exact ⟨0xA0, 0xBF, rfl, by omega, by omega⟩
  · split
    · exact ⟨0x80, 0x9F, rfl, by omega, by omega⟩
    · rw [if_pos (by omega)]
      exact ⟨0x80, 0xBF, rfl, by omega, by omega⟩

/-- The second of four bytes is in its range, for a number up to the last character. -/
theorem secondRange_of_four (h : 0x10000 ≤ n) (h' : n < 0x110000) :
    ∃ low high, secondRange (0xF0 + n / 262144) = some (low, high) ∧
      low ≤ 0x80 + n / 4096 % 64 ∧ 0x80 + n / 4096 % 64 ≤ high := by
  rw [secondRange, if_neg (by omega), if_neg (by omega), if_neg (by omega), if_neg (by omega),
    if_neg (by omega)]
  split
  · exact ⟨0x90, 0xBF, rfl, by omega, by omega⟩
  · split
    · exact ⟨0x80, 0xBF, rfl, by omega, by omega⟩
    · rw [if_pos (by omega)]
      exact ⟨0x80, 0x8F, rfl, by omega, by omega⟩

end

/-- **The bytes of a character are the sequence of its number.** -/
theorem sequence_encodeChar (c : Char) : Sequence (encodeChar c) c.toNat := by
  have hvalid := toNat_lt c
  unfold encodeChar
  generalize c.toNat = n at hvalid
  -- The parts of the number are read back from the bytes that hold them.
  have sequence_of_eq : ∀ {bs : Bytes} {m : Nat}, Sequence bs m → m = n → Sequence bs n :=
    fun h e => e ▸ h
  simp only
  split
  · next h1 =>
    have hb := toNat_ofNat (n := n) (by omega)
    exact sequence_of_eq (.one (by omega)) hb
  · next h1 =>
    have hlast := toNat_ofNat (n := 0x80 + n % 64) (by omega)
    have hthird := toNat_ofNat (n := 0x80 + n / 64 % 64) (by omega)
    split
    · next h2 =>
      have hlead := toNat_ofNat (n := 0xC0 + n / 64) (by omega)
      have hrange := secondRange_of_two (by omega) h2
      rw [← hlead] at hrange
      exact sequence_of_eq (.two hrange (by omega) (by omega) (by omega)) (by omega)
    · split
      · next h2 h3 =>
        have hlead := toNat_ofNat (n := 0xE0 + n / 4096) (by omega)
        obtain ⟨low, high, hrange, hlow, hhigh⟩ := secondRange_of_three (n := n) (by omega) h3
          (by omega)
        rw [← hlead] at hrange
        exact sequence_of_eq (.three hrange (by omega) (by omega) (isContinuation_ofNat n)
          (by omega) (by omega)) (by omega)
      · next h2 h3 =>
        have hlead := toNat_ofNat (n := 0xF0 + n / 262144) (by omega)
        have hsecond := toNat_ofNat (n := 0x80 + n / 4096 % 64) (by omega)
        obtain ⟨low, high, hrange, hlow, hhigh⟩ := secondRange_of_four (n := n) (by omega)
          (by omega)
        rw [← hlead] at hrange
        exact sequence_of_eq (.four hrange (by omega) (by omega) (isContinuation_ofNat (n / 64))
          (isContinuation_ofNat n) (by omega)) (by omega)

/-! ### Texts -/

/-- The characters of a run are read back from their bytes. -/
theorem decodeFrom_encodeChars (cs : List Char) (start : Nat) :
    decodeFrom start (encodeChars cs) = .ok cs := by
  induction cs generalizing start with
  | nil => rfl
  | cons c cs ih =>
    rw [encodeChars, List.flatMap_cons, decodeFrom_append (sequence_encodeChar c),
      Char.ofNat_toNat]
    rw [encodeChars] at ih
    rw [ih]
    rfl

/-- **A text is read back from its bytes.** -/
theorem decode_encode (s : String) : decode (encode s) = .ok s := by
  rw [decode, encode, decodeFrom_encodeChars]
  exact congrArg Except.ok String.ofList_toList

/-- A run of ASCII characters has one byte for each of them. -/
theorem encodeChars_of_ascii {cs : List Char} (h : ∀ c ∈ cs, c.toNat < 0x80) :
    encodeChars cs = cs.map fun c => UInt8.ofNat c.toNat := by
  induction cs with
  | nil => rfl
  | cons c cs ih =>
    rw [List.forall_mem_cons] at h
    rw [encodeChars, List.flatMap_cons, encodeChar, if_pos h.1, List.map_cons, ← ih h.2]
    rfl

variable {s : String}

/-- The bytes of an ASCII text are ASCII. -/
theorem isAscii_encode (h : ∀ c ∈ s.toList, c.toNat < 0x80) : isAscii (encode s) = true := by
  rw [encode, encodeChars_of_ascii h, isAscii, List.all_map, List.all_eq_true]
  intro c hc
  have hlt := h c hc
  simp only [Function.comp_apply, toNat_ofNat (Nat.lt_trans hlt (by decide)), decide_eq_true_eq]
  exact hlt

/-- An ASCII text is read back from its bytes one character at a time. -/
theorem ofList_map_encode (h : ∀ c ∈ s.toList, c.toNat < 0x80) :
    String.ofList ((encode s).map fun b => Char.ofNat b.toNat) = s := by
  have hchars : (encode s).map (fun b => Char.ofNat b.toNat) = s.toList := by
    rw [encode, encodeChars_of_ascii h, List.map_map]
    calc _ = s.toList.map id := List.map_congr_left fun c hc => ?_
      _ = s.toList := List.map_id _
    have hlt := h c hc
    rw [Function.comp_apply, toNat_ofNat (Nat.lt_trans hlt (by decide)), Char.ofNat_toNat, id]
  rw [hchars]
  exact String.ofList_toList

/-! ### Every text has one form -/

/-- The bytes that may lead several and those that may come second, with what they rule
out: overlong forms, surrogates, and numbers above the last character. -/
theorem bounds_of_secondRange {lead low high : Nat} (h : secondRange lead = some (low, high)) :
    (0xC2 ≤ lead ∧ lead ≤ 0xF4) ∧ (0x80 ≤ low ∧ high ≤ 0xBF) ∧
      (lead = 0xE0 → 0xA0 ≤ low) ∧ (lead = 0xED → high ≤ 0x9F) ∧
      (lead = 0xF0 → 0x90 ≤ low) ∧ (lead = 0xF4 → high ≤ 0x8F) := by
  unfold secondRange at h
  repeat' split at h
  all_goals simp only [Option.some.injEq, Prod.mk.injEq, reduceCtorEq] at h
  all_goals omega

theorem isContinuation_iff {b : UInt8} :
    isContinuation b = true ↔ 0x80 ≤ b.toNat ∧ b.toNat ≤ 0xBF := by
  simp [isContinuation]

/-- The number of a sequence is that of a character. -/
theorem Sequence.isValidChar {bs : Bytes} {n : Nat} (h : Sequence bs n) : n.isValidChar := by
  unfold Nat.isValidChar
  cases h with
  | one hb => omega
  | two hlead hlow hhigh hb =>
    obtain ⟨hrange, hsecond, -⟩ := bounds_of_secondRange hlead
    omega
  | three hlead hlow hhigh hd hb hb' =>
    obtain ⟨hrange, hsecond, hE0, hED, -⟩ := bounds_of_secondRange hlead
    rw [isContinuation_iff] at hd
    omega
  | four hlead hlow hhigh hd he hb =>
    obtain ⟨hrange, hsecond, -, -, hF0, hF4⟩ := bounds_of_secondRange hlead
    rw [isContinuation_iff] at hd he
    omega

/-- The character of a number has that number. -/
theorem toNat_charOfNat {n : Nat} (h : n.isValidChar) : (Char.ofNat n).toNat = n := by
  rw [Char.ofNat, dif_pos h]
  rfl

theorem ofNat_eq {n : Nat} {b : UInt8} (h : n = b.toNat) : UInt8.ofNat n = b := by
  rw [h]
  exact UInt8.ofNat_toNat

/-- **A character has one sequence**, that of its bytes. -/
theorem Sequence.encodeChar_eq {bs : Bytes} {n : Nat} (h : Sequence bs n) :
    encodeChar (Char.ofNat n) = bs := by
  have hnumber := toNat_charOfNat h.isValidChar
  unfold encodeChar
  simp only [hnumber]
  clear hnumber
  -- The number lies in the range of its form, and its parts are those that the bytes hold.
  cases h with
  | one hb => rw [if_pos hb, ofNat_eq rfl]
  | @two b c low high hlead hlow hhigh hb =>
    obtain ⟨hrange, hsecond, -⟩ := bounds_of_secondRange hlead
    rw [if_neg (by omega), if_pos (by omega), ofNat_eq (b := b) (by omega),
      ofNat_eq (b := c) (by omega)]
  | @three b c d low high hlead hlow hhigh hd hb hb' =>
    obtain ⟨hrange, hsecond, hE0, -⟩ := bounds_of_secondRange hlead
    rw [isContinuation_iff] at hd
    rw [if_neg (by omega), if_neg (by omega), if_pos (by omega), ofNat_eq (b := b) (by omega),
      ofNat_eq (b := c) (by omega), ofNat_eq (b := d) (by omega)]
  | @four b c d e low high hlead hlow hhigh hd he hb =>
    obtain ⟨hrange, hsecond, -, -, hF0, -⟩ := bounds_of_secondRange hlead
    rw [isContinuation_iff] at hd he
    rw [if_neg (by omega), if_neg (by omega), if_neg (by omega), ofNat_eq (b := b) (by omega),
      ofNat_eq (b := c) (by omega), ofNat_eq (b := d) (by omega), ofNat_eq (b := e) (by omega)]

/-- A result that is changed on the way out comes from one that is not. -/
theorem map_eq_ok_iff {ε α β : Type} {f : α → β} {x : Except ε α} {b : β} :
    f <$> x = .ok b ↔ ∃ a, x = .ok a ∧ f a = b := by
  cases x with
  | error e => simp [Functor.map, Except.map]
  | ok a => simp [Functor.map, Except.map]

/-- **What the decoder accepts begins with a sequence**, unless it is empty, and the
decoder goes on behind it. -/
theorem exists_sequence_of_decodeFrom {start : Nat} {bs : Bytes} {cs : List Char}
    (h : decodeFrom start bs = .ok cs) :
    (bs = [] ∧ cs = []) ∨ ∃ front n rest later, bs = front ++ rest ∧ Sequence front n ∧
      cs = Char.ofNat n :: later ∧ decodeFrom (start + front.length) rest = .ok later := by
  cases bs with
  | nil =>
    left
    rw [decodeFrom] at h
    exact ⟨rfl, (Except.ok.inj h).symm⟩
  | cons b rest =>
    right
    rw [decodeFrom] at h
    split at h
    · next hb =>
      obtain ⟨later, hlater, rfl⟩ := map_eq_ok_iff.mp h
      exact ⟨[b], _, rest, later, rfl, .one hb, rfl, hlater⟩
    · split at h
      · simp at h
      · next low high hlead =>
        split at h
        · simp at h
        · next c rest =>
          split at h
          · simp at h
          · next hc =>
            simp only [Bool.not_eq_true', Bool.not_eq_false, Bool.and_eq_true, decide_eq_true_eq]
              at hc
            split at h
            · next hb =>
              obtain ⟨later, hlater, rfl⟩ := map_eq_ok_iff.mp h
              exact ⟨[b, c], _, rest, later, rfl, .two hlead hc.1 hc.2 hb, rfl, hlater⟩
            · next hb =>
              split at h
              · simp at h
              · next d rest =>
                split at h
                · simp at h
                · next hd =>
                  simp only [Bool.not_eq_true', Bool.not_eq_false] at hd
                  split at h
                  · next hb' =>
                    obtain ⟨later, hlater, rfl⟩ := map_eq_ok_iff.mp h
                    exact ⟨[b, c, d], _, rest, later, rfl,
                      .three hlead hc.1 hc.2 hd (Nat.le_of_not_lt hb) hb', rfl, hlater⟩
                  · next hb' =>
                    split at h
                    · simp at h
                    · next e rest =>
                      split at h
                      · simp at h
                      · next he =>
                        simp only [Bool.not_eq_true', Bool.not_eq_false] at he
                        obtain ⟨later, hlater, rfl⟩ := map_eq_ok_iff.mp h
                        exact ⟨[b, c, d, e], _, rest, later, rfl,
                          .four hlead hc.1 hc.2 hd he (Nat.le_of_not_lt hb'), rfl, hlater⟩

/-- The bytes that the decoder accepts are those of the characters it reads. -/
theorem encodeChars_of_decodeFrom {start : Nat} {bs : Bytes} {cs : List Char}
    (h : decodeFrom start bs = .ok cs) : encodeChars cs = bs := by
  -- By induction on the number of characters: the decoder goes on with one less.
  induction cs generalizing start bs with
  | nil =>
    rcases exists_sequence_of_decodeFrom h with ⟨rfl, -⟩ | ⟨front, n, rest, later, -, -, hcs, -⟩
    · rfl
    · simp at hcs
  | cons c cs ih =>
    rcases exists_sequence_of_decodeFrom h with
      ⟨-, hcs⟩ | ⟨front, n, rest, later, rfl, hfront, hcs, hrest⟩
    · simp at hcs
    · obtain ⟨rfl, rfl⟩ := List.cons.inj hcs
      have hlater := ih hrest
      rw [encodeChars] at hlater
      rw [encodeChars, List.flatMap_cons, hfront.encodeChar_eq, hlater]

/-- **A text has one form in bytes**, the one it is read from. -/
theorem encode_of_decode {bs : Bytes} {s : String} (h : decode bs = .ok s) : encode s = bs := by
  obtain ⟨cs, hcs, rfl⟩ := map_eq_ok_iff.mp h
  rw [encode, String.toList_ofList, encodeChars_of_decodeFrom hcs]

/-- ASCII bytes are those of the text that has a character for each. -/
theorem encode_ofList_map {bs : Bytes} (h : isAscii bs = true) :
    (∀ c ∈ (String.ofList (bs.map fun b => Char.ofNat b.toNat)).toList, c.toNat < 0x80) ∧
      encode (String.ofList (bs.map fun b => Char.ofNat b.toNat)) = bs := by
  have hbytes : ∀ b ∈ bs, b.toNat < 0x80 := by simpa [isAscii] using h
  have hchar : ∀ b ∈ bs, (Char.ofNat b.toNat).toNat = b.toNat := by
    intro b hb
    have hlt := hbytes b hb
    exact toNat_charOfNat (Or.inl (by omega))
  have hchars : ∀ c ∈ bs.map (fun b => Char.ofNat b.toNat), c.toNat < 0x80 := by
    intro c hc
    obtain ⟨b, hb, rfl⟩ := List.mem_map.mp hc
    rw [hchar b hb]
    exact hbytes b hb
  rw [String.toList_ofList]
  refine ⟨hchars, ?_⟩
  rw [encode, String.toList_ofList, encodeChars_of_ascii hchars, List.map_map]
  calc _ = bs.map id := List.map_congr_left fun b hb => ?_
    _ = bs := List.map_id _
  rw [Function.comp_apply, hchar b hb, id]
  exact UInt8.ofNat_toNat

end Utf8
end QueryRouting
