import Mathlib.Logic.Function.Defs
import QueryRouting.Proofs.Key.Bytewise

/-!
# What the mixing hash keeps

The hash is one of three lanes, and what it loses is lost when the other two are dropped.  Up to
there every step can be taken back: a turn by a turn the other way, and the addition of a word by
its subtraction.  So from the lanes at the end one can go back to the seed, when the input is known,
and to the bytes of any one part of the input, when the seed and the other parts are.  The last part
is shorter than a block, and its length is read off the low byte of the third lane, which is kept
free of bytes for it.

## Main definitions

* `Lanes.unturn`, `Lanes.unmix` — the steps of the mixing taken back.
* `segment bs i` — a block of the input, or what comes after the last one.

## Main results

* `Lanes.mix_bijective` — mixing is a bijection.
* `partialWord_injective` — a word tells the bytes that it is made up of.
* `Lanes.eq_of_addTail_eq` — the last lanes tell the bytes after the last block, and their number.
* `Lanes.finish_lossless` — the lanes at the end tell the seed, and any one segment.
-/

namespace QueryRouting

namespace Lanes

/-! ### Mixing -/

/-- A turn taken back: the last lane is freed of the shifted copy of the one before it, gets back
the other two, and goes to the front. -/
def unturn (s : Lanes) (shift : Shift) : Lanes :=
  ⟨(s.c ^^^ shift.apply s.b) + s.b + s.a, s.a, s.b⟩

@[simp] theorem unturn_turn (s : Lanes) (shift : Shift) : (s.turn shift).unturn shift = s := by
  simp only [turn, unturn, UInt64.xor_assoc, UInt64.xor_self, UInt64.xor_zero,
    UInt64.sub_add_cancel]

@[simp] theorem turn_unturn (s : Lanes) (shift : Shift) : (s.unturn shift).turn shift = s := by
  simp only [turn, unturn, UInt64.add_sub_cancel, UInt64.xor_assoc, UInt64.xor_self,
    UInt64.xor_zero]

/-- Turns taken back, the last one first. -/
def unturns (shifts : List Shift) (s : Lanes) : Lanes :=
  shifts.foldr (fun shift s => s.unturn shift) s

theorem unturns_foldl_turn (shifts : List Shift) (s : Lanes) :
    unturns shifts (shifts.foldl turn s) = s := by
  induction shifts generalizing s with
  | nil => rfl
  | cons shift shifts ih =>
    rw [unturns, List.foldl_cons, List.foldr_cons, ← unturns, ih, unturn_turn]

theorem foldl_turn_unturns (shifts : List Shift) (s : Lanes) :
    shifts.foldl turn (unturns shifts s) = s := by
  induction shifts with
  | nil => rfl
  | cons shift shifts ih =>
    rw [unturns, List.foldr_cons, List.foldl_cons, turn_unturn, ← unturns, ih]

/-- The twelve turns taken back. -/
def unmix (s : Lanes) : Lanes := unturns schedule s

theorem unmix_mix (s : Lanes) : s.mix.unmix = s := unturns_foldl_turn schedule s

theorem mix_unmix (s : Lanes) : s.unmix.mix = s := foldl_turn_unturns schedule s

theorem mix_injective : Function.Injective mix := Function.LeftInverse.injective unmix_mix

/-- **Mixing is a bijection.** -/
theorem mix_bijective : Function.Bijective mix := by
  refine ⟨mix_injective, ?_⟩
  intro s
  exact ⟨s.unmix, mix_unmix s⟩

end Lanes

/-! ### Words -/

/-- A number tells the bytes that it is read from, when their number is known. -/
theorem littleEndian_injective {xs ys : Bytes} (hlength : xs.length = ys.length)
    (h : littleEndian xs = littleEndian ys) : xs = ys := by
  induction xs generalizing ys with
  | nil => exact (List.length_eq_zero_iff.mp hlength.symm).symm
  | cons x xs ih =>
    cases ys with
    | nil => simp at hlength
    | cons y ys =>
      have hx := x.toNat_lt
      have hy := y.toNat_lt
      have hvalue : x.toNat + 256 * littleEndian xs = y.toNat + 256 * littleEndian ys := h
      have hbyte : x = y := UInt8.toNat_inj.mp (by omega)
      rw [hbyte, ih (Nat.succ.inj hlength) (by omega)]

theorem littleEndian_lt (bs : Bytes) : littleEndian bs < 2 ^ (8 * bs.length) := by
  induction bs with
  | nil => exact Nat.one_pos
  | cons b bs ih =>
    have hb := b.toNat_lt
    have hvalue : littleEndian (b :: bs) = b.toNat + 256 * littleEndian bs := rfl
    rw [hvalue, List.length_cons, Nat.mul_succ, Nat.pow_add]
    omega

theorem toNat_partialWord {bs : Bytes} {shift : Nat} (h : shift + 8 * bs.length ≤ 64) :
    (partialWord bs shift).toNat = 2 ^ shift * littleEndian bs := by
  have hlt : 2 ^ shift * littleEndian bs < 2 ^ 64 := by
    calc 2 ^ shift * littleEndian bs
        < 2 ^ shift * 2 ^ (8 * bs.length) :=
          Nat.mul_lt_mul_of_pos_left (littleEndian_lt bs) (Nat.two_pow_pos shift)
      _ = 2 ^ (shift + 8 * bs.length) := (Nat.pow_add ..).symm
      _ ≤ 2 ^ 64 := Nat.pow_le_pow_right Nat.two_pos h
  rw [partialWord_eq_ofNat h, UInt64.toNat_ofNat', Nat.mod_eq_of_lt hlt]

/-- **A word tells the bytes that it is made up of**, when their number is known. -/
theorem partialWord_injective {xs ys : Bytes} {shift : Nat} (hlength : xs.length = ys.length)
    (hshift : shift + 8 * xs.length ≤ 64) (h : partialWord xs shift = partialWord ys shift) :
    xs = ys := by
  have hvalue := congrArg UInt64.toNat h
  rw [toNat_partialWord hshift, toNat_partialWord (hlength ▸ hshift)] at hvalue
  exact littleEndian_injective hlength (Nat.eq_of_mul_eq_mul_left (Nat.two_pow_pos shift) hvalue)

namespace Lanes

variable {above : Nat} {s t : Lanes} {xs ys : Bytes}

/-! ### Bytes added to the lanes -/

theorem eq_iff : s = t ↔ s.a = t.a ∧ s.b = t.b ∧ s.c = t.c := by
  cases s
  cases t
  simp

/-- Lanes to which known bytes have been added tell the lanes before. -/
theorem addBytes_left_injective (above : Nat) (bs : Bytes) :
    Function.Injective fun s : Lanes => s.addBytes above 0 bs := by
  intro s t h
  simp only [addBytes_eq, mk.injEq, UInt64.add_left_inj] at h
  exact eq_iff.mpr h

/-- Known lanes to which bytes have been added tell the bytes, when their number is known and all
of them have room. -/
theorem eq_of_addBytes_eq (hlength : xs.length = ys.length)
    (hroom : above + 8 * (xs.length - 16) ≤ 64)
    (h : s.addBytes above 0 xs = s.addBytes above 0 ys) : xs = ys := by
  simp only [addBytes_eq, mk.injEq, UInt64.add_right_inj] at h
  obtain ⟨ha, hb, hc⟩ := h
  have hfirst : xs.take 8 = ys.take 8 := by
    refine partialWord_injective ?_ ?_ ha <;> simp only [List.length_take] <;> omega
  have hsecond : (xs.drop 8).take 8 = (ys.drop 8).take 8 := by
    refine partialWord_injective ?_ ?_ hb <;>
      simp only [List.length_take, List.length_drop] <;> omega
  have hthird : xs.drop 16 = ys.drop 16 := by
    refine partialWord_injective ?_ ?_ hc <;> simp only [List.length_drop] <;> omega
  rw [← parts_append xs, ← parts_append ys, hfirst, hsecond, hthird]

/-- Known lanes to which fewer bytes than a block have been added and the length of the input tell
the bytes, and how many there are: the low byte of the third lane holds nothing but the length. -/
theorem eq_of_addTail_eq {before : Nat} (hxs : xs.length < 24) (hys : ys.length < 24)
    (h : { s with c := s.c + UInt64.ofNat (before + xs.length) }.addBytes 8 0 xs
      = { s with c := s.c + UInt64.ofNat (before + ys.length) }.addBytes 8 0 ys) : xs = ys := by
  have hthird : UInt64.ofNat (before + xs.length) + partialWord (xs.drop 16) 8
      = UInt64.ofNat (before + ys.length) + partialWord (ys.drop 16) 8 := by
    have hc := congrArg Lanes.c h
    simpa only [addBytes_eq, UInt64.add_assoc, UInt64.add_right_inj] using hc
  have hlength : xs.length = ys.length := by
    have hvalue := congrArg UInt64.toNat hthird
    rw [UInt64.toNat_add, UInt64.toNat_add, UInt64.toNat_ofNat', UInt64.toNat_ofNat',
      toNat_partialWord (by rw [List.length_drop]; omega),
      toNat_partialWord (by rw [List.length_drop]; omega)] at hvalue
    -- The two lengths agree in their low bytes, and differ by less than a block.
    omega
  have hroom : 8 + 8 * (xs.length - 16) ≤ 64 := by omega
  rw [← hlength] at h
  exact eq_of_addBytes_eq hlength hroom h

/-- Lanes at the end of a known input tell the lanes before it. -/
theorem bytewise_injective (bs : Bytes) (length : Nat) :
    Function.Injective fun s : Lanes => s.bytewise bs length := by
  intro s t h
  change s.bytewise bs length = t.bytewise bs length at h
  fun_induction bytewise s bs length generalizing t with
  | case1 s bs hshort =>
    rw [bytewise_of_lt hshort] at h
    have hlanes := addBytes_left_injective 8 bs (mix_injective h)
    simp only [mk.injEq, UInt64.add_left_inj] at hlanes
    exact eq_iff.mpr hlanes
  | case2 s bs hlong ih =>
    rw [bytewise_of_not_lt hlong] at h
    exact addBytes_left_injective 0 (bs.take 24) (mix_injective (ih h))

end Lanes

/-! ### Segments -/

/-- A segment of an input: one of its blocks of twenty-four bytes, or the bytes that come after the
last block. -/
def segment (bs : Bytes) (i : Nat) : Bytes := (bs.drop (24 * i)).take 24

theorem segment_drop (bs : Bytes) (i : Nat) : segment (bs.drop 24) i = segment bs (i + 1) := by
  rw [segment, segment, List.drop_drop, Nat.mul_succ, Nat.add_comm]

/-- A byte lies in one segment. -/
theorem getElem?_segment (bs : Bytes) (j : Nat) : (segment bs (j / 24))[j % 24]? = bs[j]? := by
  rw [segment, List.getElem?_take, if_pos (Nat.mod_lt j (by decide)), List.getElem?_drop,
    Nat.div_add_mod]

/-- An input is known by its segments. -/
theorem eq_of_segment_eq {xs ys : Bytes} (h : ∀ i, segment xs i = segment ys i) : xs = ys := by
  apply List.ext_getElem?
  intro j
  rw [← getElem?_segment xs, ← getElem?_segment ys, h]

namespace Lanes

/-- **The lanes at the end tell any one segment**, when those at the beginning and all other
segments are known. -/
theorem eq_of_bytewise_eq {s : Lanes} {xs ys : Bytes} {before k : Nat}
    (hblocks : xs.length / 24 = ys.length / 24)
    (hsegments : ∀ i, i ≠ k → segment xs i = segment ys i)
    (h : s.bytewise xs (before + xs.length) = s.bytewise ys (before + ys.length)) : xs = ys := by
  induction hn : xs.length / 24 generalizing s xs ys before k with
  | zero =>
    have hxs : xs.length < 24 := by omega
    have hys : ys.length < 24 := by omega
    rw [bytewise_of_lt hxs, bytewise_of_lt hys] at h
    exact eq_of_addTail_eq hxs hys (mix_injective h)
  | succ n ih =>
    have hxs : ¬xs.length < 24 := by omega
    have hys : ¬ys.length < 24 := by omega
    rw [bytewise_of_not_lt hxs, bytewise_of_not_lt hys] at h
    have hlength : ∀ bs : Bytes, bs.length / 24 ≠ 0 →
        before + bs.length = before + 24 + (bs.drop 24).length := by
      intro bs hbs
      rw [List.length_drop]
      omega
    rw [hlength xs (by omega), hlength ys (by omega)] at h
    cases k with
    | zero =>
      -- The inputs differ in the first block at most: go back from the end to the end of it.
      have hrest : xs.drop 24 = ys.drop 24 := by
        apply eq_of_segment_eq
        intro i
        rw [segment_drop, segment_drop]
        exact hsegments (i + 1) (by omega)
      rw [hrest] at h
      have hfirst : xs.take 24 = ys.take 24 := by
        refine eq_of_addBytes_eq ?_ ?_ (mix_injective (bytewise_injective _ _ h)) <;>
          simp only [List.length_take] <;> omega
      rw [← List.take_append_drop 24 xs, ← List.take_append_drop 24 ys, hfirst, hrest]
    | succ k =>
      have hfirst : xs.take 24 = ys.take 24 := hsegments 0 (by omega)
      rw [hfirst] at h
      have hrest : xs.drop 24 = ys.drop 24 := by
        refine ih (k := k) ?_ ?_ h ?_
        · simp only [List.length_drop]
          omega
        · intro i hi
          rw [segment_drop, segment_drop]
          exact hsegments (i + 1) (by omega)
        · simp only [List.length_drop]
          omega
      rw [← List.take_append_drop 24 xs, ← List.take_append_drop 24 ys, hfirst, hrest]

theorem finish_eq_bytewise (bs : Bytes) (seed : UInt64) :
    finish bs seed = (start seed).bytewise bs bs.length := by
  rw [finish, mix_absorbTail_absorbBlocks]

/-- **The hash loses nothing before two of its lanes are dropped.**  Mixing is a bijection.  The
lanes at the end, of which the hash is the third, tell the seed when the input is known.  When the
seed is known, they tell apart any two inputs with as many blocks as each other that agree on all
segments but one: one block, or the bytes after the last block, whether they are as many or not. -/
theorem finish_lossless :
    Function.Bijective mix ∧
      (∀ bs seed, mixHash bs seed = (finish bs seed).c) ∧
      (∀ bs, Function.Injective (finish bs)) ∧
      ∀ seed xs ys, xs.length / 24 = ys.length / 24 →
        (∃ k, ∀ i, i ≠ k → segment xs i = segment ys i) →
        finish xs seed = finish ys seed → xs = ys := by
  refine ⟨mix_bijective, fun bs seed => rfl, ?_, ?_⟩
  · intro bs seed seed' h
    rw [finish_eq_bytewise, finish_eq_bytewise] at h
    exact congrArg Lanes.c (bytewise_injective bs bs.length h)
  · intro seed xs ys hblocks hsegments h
    obtain ⟨k, hk⟩ := hsegments
    rw [finish_eq_bytewise, finish_eq_bytewise, ← Nat.zero_add xs.length,
      ← Nat.zero_add ys.length] at h
    exact eq_of_bytewise_eq hblocks hk h

/-- Zero bytes that come after a block are told apart by their number. -/
theorem finish_lossless_of_zeros :
    let xs : Bytes := List.replicate 29 0
    let ys : Bytes := List.replicate 30 0
    xs.length / 24 = ys.length / 24 ∧ (∀ i, i ≠ 1 → segment xs i = segment ys i) ∧
      finish xs 97 ≠ finish ys 97 := by
  intro xs ys
  have hsegments : ∀ i, i ≠ 1 → segment xs i = segment ys i := by
    intro i hi
    match i with
    | 0 => rfl
    | 1 => exact absurd rfl hi
    | i + 2 => simp [segment, xs, ys, Nat.mul_add]
  have hblocks : xs.length / 24 = ys.length / 24 := by simp [xs, ys]
  refine ⟨hblocks, hsegments, ?_⟩
  intro h
  have heq := finish_lossless.2.2.2 97 xs ys hblocks ⟨1, hsegments⟩ h
  exact absurd (congrArg List.length heq) (by simp [xs, ys])

end Lanes

end QueryRouting
