import Mathlib.Algebra.GroupWithZero.Nat
import QueryRouting.Key.MixHash

/-!
# The mixing hash byte by byte

The hash takes words where it can and a part of a word at the end, by six cases on the
number of bytes that are left.  It is the hash that adds every byte by itself: a byte
belongs to the lane of its position, eight positions to a lane, and stands eight bits above
the byte before it.  Only the third lane is special.  After the last block its low byte
holds the length, so its bytes begin above that.

## Main definitions

* `Lanes.addByte`, `Lanes.addBytes` — adding one byte at a position, and several.
* `Lanes.bytewise`, `bytewiseHash` — the hash that adds every byte by itself.

## Main results

* `wordAt_eq_partialWord` — a word is made up of its bytes like a part of a word.
* `Lanes.addBytes_eq` — bytes that are added one at a time make up three words.
* `mixHash_eq_bytewise` — the two hashes are one.
-/

namespace QueryRouting

/-! ### Words -/

theorem toUInt64_shiftLeft (b : UInt8) {shift : Nat} (h : shift < 64) :
    b.toUInt64 <<< UInt64.ofNat shift = UInt64.ofNat (2 ^ shift * b.toNat) := by
  apply UInt64.toNat_inj.mp
  have hshift : (UInt64.ofNat shift).toNat % 64 = shift := by
    rw [UInt64.toNat_ofNat']
    omega
  rw [UInt64.toNat_shiftLeft, hshift, Nat.shiftLeft_eq, UInt8.toNat_toUInt64,
    UInt64.toNat_ofNat', Nat.mul_comm]

/-- The part of a word that some bytes make up is the number they stand for, moved up. -/
theorem partialWord_eq_ofNat {bs : Bytes} {shift : Nat} (h : shift + 8 * bs.length ≤ 64) :
    partialWord bs shift = UInt64.ofNat (2 ^ shift * littleEndian bs) := by
  induction bs generalizing shift with
  | nil => rfl
  | cons b bs ih =>
    rw [List.length_cons] at h
    have hvalue : littleEndian (b :: bs) = b.toNat + 256 * littleEndian bs := rfl
    rw [partialWord, ih (by omega), toUInt64_shiftLeft b (by omega), ← UInt64.ofNat_add, hvalue,
      Nat.pow_add, Nat.mul_add, Nat.mul_assoc]

/-- **A word is made up of its bytes** like a part of a word. -/
theorem wordAt_eq_partialWord (bs : Bytes) (offset : Nat) :
    wordAt bs offset = partialWord ((bs.drop offset).take 8) 0 := by
  have hlength := List.length_take_le 8 (bs.drop offset)
  rw [wordAt, partialWord_eq_ofNat (by omega), Nat.pow_zero, Nat.one_mul]

namespace Lanes

/-! ### Bytes at their positions -/

/-- The lanes with a byte added at a position: the first eight positions are those of the
first lane, the next eight those of the second, and the others lie in the third, so many
bits above its lowest. -/
def addByte (above : Nat) (s : Lanes) (i : Nat) (byte : UInt8) : Lanes :=
  if i < 8 then { s with a := s.a + byte.toUInt64 <<< UInt64.ofNat (8 * i) }
  else if i < 16 then { s with b := s.b + byte.toUInt64 <<< UInt64.ofNat (8 * (i - 8)) }
  else { s with c := s.c + byte.toUInt64 <<< UInt64.ofNat (8 * (i - 16) + above) }

/-- The lanes with bytes added one at a time, the first of them at a position. -/
def addBytes (above : Nat) (s : Lanes) (i : Nat) : Bytes → Lanes
  | [] => s
  | byte :: later => addBytes above (s.addByte above i byte) (i + 1) later

variable {above i : Nat} {s : Lanes} {xs ys bs : Bytes}

theorem addBytes_append :
    s.addBytes above i (xs ++ ys) = (s.addBytes above i xs).addBytes above (i + xs.length) ys := by
  induction xs generalizing s i with
  | nil => rfl
  | cons x xs ih =>
    rw [List.cons_append, addBytes, addBytes, ih, List.length_cons, Nat.add_right_comm,
      Nat.add_assoc]

theorem addBytes_first (h : i + xs.length ≤ 8) :
    s.addBytes above i xs = { s with a := s.a + partialWord xs (8 * i) } := by
  induction xs generalizing s i with
  | nil => simp [addBytes, partialWord]
  | cons x xs ih =>
    rw [List.length_cons] at h
    have hbyte : s.addByte above i x
        = { s with a := s.a + x.toUInt64 <<< UInt64.ofNat (8 * i) } := by
      rw [addByte, if_pos (by omega)]
    rw [addBytes, hbyte, ih (by omega), partialWord, UInt64.add_assoc, Nat.mul_succ]

theorem addBytes_second (hi : xs ≠ [] → 8 ≤ i) (h : i + xs.length ≤ 16) :
    s.addBytes above i xs = { s with b := s.b + partialWord xs (8 * (i - 8)) } := by
  induction xs generalizing s i with
  | nil => simp [addBytes, partialWord]
  | cons x xs ih =>
    rw [List.length_cons] at h
    have hle := hi (List.cons_ne_nil _ _)
    have hbyte : s.addByte above i x
        = { s with b := s.b + x.toUInt64 <<< UInt64.ofNat (8 * (i - 8)) } := by
      rw [addByte, if_neg (by omega), if_pos (by omega)]
    have hnext : 8 * (i + 1 - 8) = 8 * (i - 8) + 8 := by omega
    rw [addBytes, hbyte, ih (by omega) (by omega), partialWord, UInt64.add_assoc, hnext]

theorem addBytes_third (hi : xs ≠ [] → 16 ≤ i) :
    s.addBytes above i xs = { s with c := s.c + partialWord xs (8 * (i - 16) + above) } := by
  induction xs generalizing s i with
  | nil => simp [addBytes, partialWord]
  | cons x xs ih =>
    have hle := hi (List.cons_ne_nil _ _)
    have hbyte : s.addByte above i x
        = { s with c := s.c + x.toUInt64 <<< UInt64.ofNat (8 * (i - 16) + above) } := by
      rw [addByte, if_neg (by omega), if_neg (by omega)]
    have hnext : 8 * (i + 1 - 16) + above = 8 * (i - 16) + above + 8 := by omega
    rw [addBytes, hbyte, ih (by omega), partialWord, UInt64.add_assoc, hnext]

/-- Bytes in three parts, the first two as long as a word. -/
theorem parts_append (bs : Bytes) : bs.take 8 ++ ((bs.drop 8).take 8 ++ bs.drop 16) = bs := by
  rw [show bs.drop 16 = (bs.drop 8).drop 8 by rw [List.drop_drop], List.take_append_drop,
    List.take_append_drop]

/-- **Bytes that are added one at a time make up three words**, of which the last may be
longer than the others. -/
theorem addBytes_eq (above : Nat) (s : Lanes) (bs : Bytes) :
    s.addBytes above 0 bs = ⟨s.a + partialWord (bs.take 8) 0,
      s.b + partialWord ((bs.drop 8).take 8) 0, s.c + partialWord (bs.drop 16) above⟩ := by
  have hfirst : (bs.take 8).length = min 8 bs.length := List.length_take
  have hsecond : ((bs.drop 8).take 8).length = min 8 (bs.length - 8) := by
    rw [List.length_take, List.length_drop]
  -- A part that is not empty begins where its lane begins.
  have hmiddle : (bs.drop 8).take 8 ≠ [] → 8 ≤ 0 + (bs.take 8).length := by
    intro hne
    have := List.length_pos_iff.mpr hne
    omega
  have hlast : bs.drop 16 ≠ [] → 16 ≤ 0 + (bs.take 8).length + ((bs.drop 8).take 8).length := by
    intro hne
    have := List.length_pos_iff.mpr hne
    rw [List.length_drop] at this
    omega
  have hshift : 8 * (0 + (bs.take 8).length - 8) = 0 := by omega
  have hshift' : 8 * (0 + (bs.take 8).length + ((bs.drop 8).take 8).length - 16) + above
      = above := by omega
  calc s.addBytes above 0 bs
      = s.addBytes above 0 (bs.take 8 ++ ((bs.drop 8).take 8 ++ bs.drop 16)) := by
        rw [parts_append]
    _ = _ := by
      rw [addBytes_append, addBytes_append, addBytes_third hlast,
        addBytes_second hmiddle (by omega), addBytes_first (by omega), hshift, hshift']

/-! ### The hash -/

/-- The lanes at the end of the input, when every byte is added by itself: blocks of
twenty-four bytes are mixed in as long as there is one, and then come the length of the
whole input and the bytes that are left, above the low byte of the third lane. -/
def bytewise (s : Lanes) (bs : Bytes) (length : Nat) : Lanes :=
  if bs.length < 24 then ({ s with c := s.c + UInt64.ofNat length }.addBytes 8 0 bs).mix
  else bytewise (s.addBytes 0 0 (bs.take 24)).mix (bs.drop 24) length
termination_by bs.length
decreasing_by
  rw [List.length_drop]
  omega

theorem bytewise_of_lt {length : Nat} (h : bs.length < 24) : s.bytewise bs length
    = ({ s with c := s.c + UInt64.ofNat length }.addBytes 8 0 bs).mix := by
  rw [bytewise, if_pos h]

theorem bytewise_of_not_lt {length : Nat} (h : ¬bs.length < 24) : s.bytewise bs length
    = (s.addBytes 0 0 (bs.take 24)).mix.bytewise (bs.drop 24) length := by
  rw [bytewise, if_neg h]

/-- A block that is added as three words is added byte by byte. -/
theorem absorb_eq (s : Lanes) (bs : Bytes) : s.absorb bs = s.addBytes 0 0 (bs.take 24) := by
  have hfirst : (bs.take 24).take 8 = bs.take 8 := List.take_take
  have hsecond : ((bs.take 24).drop 8).take 8 = (bs.drop 8).take 8 := by
    rw [List.drop_take, List.take_take]
    rfl
  have hthird : (bs.take 24).drop 16 = (bs.drop 16).take 8 := List.drop_take
  rw [addBytes_eq, hfirst, hsecond, hthird, absorb, wordAt_eq_partialWord, wordAt_eq_partialWord,
    wordAt_eq_partialWord, List.drop_zero]

/-- **The bytes that are left are added byte by byte**, in each of the six cases. -/
theorem absorbTail_eq (s : Lanes) (tail : Bytes) (length : Nat) :
    s.absorbTail tail length = { s with c := s.c + UInt64.ofNat length }.addBytes 8 0 tail := by
  have hword : wordAt tail 0 = partialWord (tail.take 8) 0 := wordAt_eq_partialWord tail 0
  have hword' : wordAt tail 8 = partialWord ((tail.drop 8).take 8) 0 :=
    wordAt_eq_partialWord tail 8
  have hnil : ∀ shift, partialWord [] shift = 0 := fun _ => rfl
  -- Which of the three parts is the whole of the bytes that are left, and which is empty.
  have hfirst : tail.length ≤ 8 → tail.take 8 = tail := List.take_of_length_le
  have hsecond : tail.length ≤ 16 → (tail.drop 8).take 8 = tail.drop 8 := by
    intro h
    exact List.take_of_length_le (by rw [List.length_drop]; omega)
  have hnone : tail.length ≤ 8 → tail.drop 8 = [] := List.drop_eq_nil_of_le
  have hnone' : tail.length ≤ 16 → tail.drop 16 = [] := List.drop_eq_nil_of_le
  rw [addBytes_eq, absorbTail, hword, hword']
  split
  · next hempty =>
    obtain rfl := List.length_eq_zero_iff.mp hempty
    simp [hnil]
  · split
    · simp [hfirst (by omega), hnone (by omega), hnone' (by omega), hnil]
    · split
      · simp [hnone (by omega), hnone' (by omega), hnil]
      · split
        · simp [hsecond (by omega), hnone' (by omega), hnil]
        · split
          · simp [hnone' (by omega), hnil]
          · rfl

/-- The blocks and the bytes after them, from any lanes on. -/
theorem mix_absorbTail_absorbBlocks (s : Lanes) (bs : Bytes) (length : Nat) :
    ((absorbBlocks (bs.length / 24) s bs).absorbTail (bs.drop (24 * (bs.length / 24))) length).mix
      = s.bytewise bs length := by
  fun_induction bytewise s bs length with
  | case1 s bs hshort =>
    rw [Nat.div_eq_of_lt hshort, absorbBlocks_zero, Nat.mul_zero, List.drop_zero, absorbTail_eq]
  | case2 s bs hlong ih =>
    have hblocks : bs.length / 24 = (bs.drop 24).length / 24 + 1 := by
      rw [List.length_drop]
      omega
    have hdrop : bs.drop (24 * (bs.length / 24))
        = (bs.drop 24).drop (24 * ((bs.drop 24).length / 24)) := by
      rw [hblocks, List.drop_drop, Nat.mul_succ, Nat.add_comm]
    rw [hdrop, hblocks, absorbBlocks_succ, absorb_eq, ih]

end Lanes

/-- The hash of a byte string, when every byte is added by itself. -/
def bytewiseHash (bs : Bytes) (seed : UInt64) : UInt64 :=
  ((Lanes.start seed).bytewise bs bs.length).c

/-- **The hash by words is the hash byte by byte**, for every input and every seed. -/
theorem mixHash_eq_bytewise (bs : Bytes) (seed : UInt64) :
    mixHash bs seed = bytewiseHash bs seed := by
  rw [mixHash, Lanes.finish, Lanes.mix_absorbTail_absorbBlocks, bytewiseHash]

end QueryRouting
