import QueryRouting.Key.MixHash

/-!
# The sixteen-bit key of a byte string

The hash of a routing key is folded to sixteen bits: its four limbs are scaled
by one, three, five and seven, from the highest down, and combined bit by bit.

## Main definitions

* `foldHash h` — the fold of a 64-bit hash.
* `keyOfBytes bs` — the key of a byte string.
-/

namespace QueryRouting

/-- The fold of a hash to its sixteen-bit key.  Multiplying the shifted words
without masking them first is harmless, since the low sixteen bits of a product
depend on the low sixteen bits of its factors. -/
def foldHash (h : UInt64) : UInt16 :=
  let first := h >>> 48
  let second := (h >>> 32) * (3 : UInt64)
  let third := (h >>> 16) * (5 : UInt64)
  let fourth := (h &&& 0xffff) * (7 : UInt64)
  (first ^^^ second ^^^ third ^^^ fourth).toUInt16

/-- The seed of the hash of routing keys. -/
def keySeed : UInt64 := 97

/-- The partition key of an encoded routing key. -/
def keyOfBytes (bs : Bytes) : UInt16 := foldHash (mixHash bs keySeed)

/-- The number of partition keys, and the exclusive end of the last range. -/
def keySpace : Int := 65536

example : keyOfBytes [] = 19780 := by decide

end QueryRouting
