import QueryRouting.Bytes.BigEndian

/-!
# The mixing hash

A 64-bit hash over three accumulators, the lanes.  Blocks of twenty-four bytes
are added to the lanes as three little-endian words and mixed in; the rest of the
input, shorter than a block, is added together with the total length and mixed
once more.  The rest is taken word by word as far as it goes, and its last bytes as
a part of a word.  The hash is the third lane.  All arithmetic is modulo `2 ^ 64`.

Mixing is twelve turns.  A turn subtracts the other two lanes from the first,
combines it with a shifted copy of the third, and moves it to the back; after
three turns every lane has been first once, and after twelve the lanes stand in
their old places.

## Main definitions

* `wordAt`, `partialWord` — whole words and parts of words, as numbers of 64 bits.
* `Lanes`, `Lanes.turn`, `Lanes.mix` — the state, one step and the mixing of a block.
* `Lanes.absorb`, `Lanes.absorbBlocks` — adding one block, and mixing in a number of blocks.
* `Lanes.absorbTail` — adding the bytes after the last block.
* `mixHash bs seed` — the hash.
-/

namespace QueryRouting

/-- The number that a byte string stands for, least significant byte first. -/
def littleEndian (bs : Bytes) : Nat := bs.foldr (fun b acc => b.toNat + 256 * acc) 0

/-- The word of the eight bytes from a position on, least significant byte first. -/
def wordAt (bs : Bytes) (offset : Nat) : UInt64 :=
  UInt64.ofNat (littleEndian ((bs.drop offset).take 8))

/-- The part of a word that some bytes make up, the first of them so many bits up and
each other one above the byte before it. -/
def partialWord : Bytes → Nat → UInt64
  | [], _ => 0
  | b :: bs, shift => (b.toUInt64 <<< UInt64.ofNat shift) + partialWord bs (shift + 8)

/-- The accumulators of the hash. -/
structure Lanes where
  a : UInt64
  b : UInt64
  c : UInt64
  deriving DecidableEq, Repr

namespace Lanes

/-- A shift of a 64-bit word. -/
inductive Shift where
  | left (count : UInt64)
  | right (count : UInt64)
  deriving DecidableEq, Repr

/-- The shifted word. -/
def Shift.apply : Shift → UInt64 → UInt64
  | .left count, x => x <<< count
  | .right count, x => x >>> count

/-- One turn: the first lane less the other two, combined with a shifted copy of
the third, goes to the back. -/
def turn (s : Lanes) (shift : Shift) : Lanes :=
  ⟨s.b, s.c, (s.a - s.b - s.c) ^^^ shift.apply s.c⟩

/-- The shifts of the twelve turns. -/
def schedule : List Shift :=
  [.right 43, .left 9, .right 8, .right 38, .left 23, .right 5,
    .right 35, .left 49, .right 11, .right 12, .left 18, .right 22]

/-- Twelve turns. -/
def mix (s : Lanes) : Lanes := schedule.foldl turn s

/-- The lanes before any input. -/
def start (seed : UInt64) : Lanes := ⟨0xe08c1d668b756f82, 0xe08c1d668b756f82, seed⟩

/-- The first twenty-four bytes of `bs`, added to the lanes as three words. -/
def absorb (s : Lanes) (bs : Bytes) : Lanes :=
  ⟨s.a + wordAt bs 0, s.b + wordAt bs 8, s.c + wordAt bs 16⟩

/-- The first `count` blocks of `bs`, each added and mixed in. -/
def absorbBlocks : Nat → Lanes → Bytes → Lanes
  | 0, s, _ => s
  | count + 1, s, bs => absorbBlocks count (s.absorb bs).mix (bs.drop 24)

/-- The bytes after the last block, fewer than twenty-four, and the length of the
whole input.  The length takes the low byte of the third lane, so the bytes from
position sixteen on are added above it. -/
def absorbTail (s : Lanes) (tail : Bytes) (length : Nat) : Lanes :=
  let c := s.c + UInt64.ofNat length
  if tail.length = 0 then ⟨s.a, s.b, c⟩
  else if tail.length < 8 then ⟨s.a + partialWord tail 0, s.b, c⟩
  else if tail.length = 8 then ⟨s.a + wordAt tail 0, s.b, c⟩
  else if tail.length < 16 then ⟨s.a + wordAt tail 0, s.b + partialWord (tail.drop 8) 0, c⟩
  else if tail.length = 16 then ⟨s.a + wordAt tail 0, s.b + wordAt tail 8, c⟩
  else ⟨s.a + wordAt tail 0, s.b + wordAt tail 8, c + partialWord (tail.drop 16) 8⟩

@[simp] theorem absorbBlocks_zero (s : Lanes) (bs : Bytes) : absorbBlocks 0 s bs = s := rfl

theorem absorbBlocks_succ (count : Nat) (s : Lanes) (bs : Bytes) :
    absorbBlocks (count + 1) s bs = absorbBlocks count (s.absorb bs).mix (bs.drop 24) := rfl

/-- The lanes at the end of the input. -/
def finish (bs : Bytes) (seed : UInt64) : Lanes :=
  let blocks := bs.length / 24
  ((absorbBlocks blocks (start seed) bs).absorbTail (bs.drop (24 * blocks)) bs.length).mix

end Lanes

/-- The hash of a byte string. -/
def mixHash (bs : Bytes) (seed : UInt64) : UInt64 := (Lanes.finish bs seed).c

example : mixHash [] 97 = 0xc505b21692909bd5 := by decide

end QueryRouting
