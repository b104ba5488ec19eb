/-!
# Big-endian numerals

A byte string read as a number to base 256, most significant byte first, and a
number written back in a fixed number of bytes.  Writing keeps the low bytes of
a number that does not fit, and a negative number is written as its residue, so
`writeInt` is two's complement.

## Main definitions

* `Bytes` — a byte string.
* `BigEndian.modulus width` — how many numbers fit in a width.
* `BigEndian.write width x`, `BigEndian.read bs` — unsigned numerals.
* `BigEndian.writeInt width x`, `BigEndian.readInt bs` — two's complement numerals.

## Main results

* `BigEndian.read_write`, `BigEndian.write_read` — reading undoes writing up to the
  modulus, and writing undoes reading.
* `BigEndian.readInt_writeInt` — the signed form of the first.
-/

namespace QueryRouting

/-- A string of bytes. -/
abbrev Bytes := List UInt8

namespace BigEndian

/-- The number of byte strings of a width, which is the modulus of its numerals. -/
def modulus : Nat → Nat
  | 0 => 1
  | width + 1 => 256 * modulus width

/-- The low `width` bytes of `x`, most significant first. -/
def write : Nat → Nat → Bytes
  | 0, _ => []
  | width + 1, x => write width (x / 256) ++ [UInt8.ofNat x]

/-- The number a byte string stands for. -/
def read (bs : Bytes) : Nat := bs.foldl (fun acc b => acc * 256 + b.toNat) 0

/-- The two's complement form of `x` in `width` bytes. -/
def writeInt (width : Nat) (x : Int) : Bytes := write width (x % (modulus width : Int)).toNat

/-- The signed number a byte string stands for in two's complement. -/
def readInt (bs : Bytes) : Int := Int.bmod (read bs) (modulus bs.length)

@[simp] theorem modulus_zero : modulus 0 = 1 := rfl

theorem modulus_succ (width : Nat) : modulus (width + 1) = 256 * modulus width := rfl

theorem modulus_pos (width : Nat) : 0 < modulus width := by
  induction width with
  | zero => decide
  | succ width ih =>
    rw [modulus_succ]
    omega

@[simp] theorem write_zero (x : Nat) : write 0 x = [] := rfl

theorem write_succ (width x : Nat) :
    write (width + 1) x = write width (x / 256) ++ [UInt8.ofNat x] := rfl

@[simp] theorem read_nil : read [] = 0 := rfl

@[simp] theorem read_append_singleton (bs : Bytes) (b : UInt8) :
    read (bs ++ [b]) = read bs * 256 + b.toNat := by
  simp [read]

@[simp] theorem length_write (width x : Nat) : (write width x).length = width := by
  induction width generalizing x with
  | zero => rfl
  | succ width ih => simp [write_succ, ih]

@[simp] theorem length_writeInt (width : Nat) (x : Int) : (writeInt width x).length = width :=
  length_write ..

/-- A string of `n + 1` bytes ends in a byte. -/
theorem exists_concat_of_length_succ {bs : Bytes} {n : Nat} (h : bs.length = n + 1) :
    ∃ front last, bs = front ++ [last] ∧ front.length = n := by
  have hne : bs ≠ [] := by intro e; simp [e] at h
  exact ⟨bs.dropLast, bs.getLast hne, (List.dropLast_concat_getLast hne).symm, by simp [h]⟩

/-- Reading undoes writing, up to the modulus of the width. -/
theorem read_write (width x : Nat) : read (write width x) = x % modulus width := by
  induction width generalizing x with
  | zero => simp [Nat.mod_one]
  | succ width ih =>
    have hsplit : x % modulus (width + 1) = x % 256 + 256 * (x / 256 % modulus width) := by
      rw [modulus_succ, Nat.mod_mul]
    rw [write_succ, read_append_singleton, ih, UInt8.toNat_ofNat', hsplit]
    simp only [Nat.reducePow]
    omega

/-- A byte string is below the modulus of its length. -/
theorem read_lt (bs : Bytes) : read bs < modulus bs.length := by
  have key : ∀ n, ∀ bs : Bytes, bs.length = n → read bs < modulus n := by
    intro n
    induction n with
    | zero => intro bs h; rw [List.length_eq_zero_iff.mp h]; decide
    | succ n ih =>
      intro bs h
      obtain ⟨front, last, rfl, hfront⟩ := exists_concat_of_length_succ h
      have hread := ih front hfront
      have hlast := last.toNat_lt
      rw [read_append_singleton, modulus_succ]
      simp only [Nat.reducePow] at hlast
      omega
  exact key bs.length bs rfl

/-- Writing undoes reading. -/
theorem write_read (bs : Bytes) : write bs.length (read bs) = bs := by
  have key : ∀ n, ∀ bs : Bytes, bs.length = n → write n (read bs) = bs := by
    intro n
    induction n with
    | zero => intro bs h; rw [List.length_eq_zero_iff.mp h]; rfl
    | succ n ih =>
      intro bs h
      obtain ⟨front, last, rfl, hfront⟩ := exists_concat_of_length_succ h
      have hlast := last.toNat_lt
      simp only [Nat.reducePow] at hlast
      have hdiv : (read front * 256 + last.toNat) / 256 = read front := by omega
      have hbyte : UInt8.ofNat (read front * 256 + last.toNat) = last := by
        apply UInt8.toNat.inj
        rw [UInt8.toNat_ofNat']
        simp only [Nat.reducePow]
        omega
      rw [read_append_singleton, write_succ, hdiv, hbyte, ih front hfront]
  exact key bs.length bs rfl

/-- Reading undoes writing of signed numbers, up to the balanced residue. -/
theorem readInt_writeInt (width : Nat) (x : Int) :
    readInt (writeInt width x) = Int.bmod x (modulus width) := by
  have hpos : (0 : Int) < (modulus width : Int) := by
    have := modulus_pos width
    omega
  have hnonneg := Int.emod_nonneg x (Int.ne_of_gt hpos)
  have hlt := Int.emod_lt_of_pos x hpos
  rw [readInt, length_writeInt, writeInt, read_write, Nat.mod_eq_of_lt (by omega),
    Int.toNat_of_nonneg hnonneg, Int.emod_bmod]

end BigEndian

end QueryRouting
