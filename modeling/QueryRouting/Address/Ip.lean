import QueryRouting.Bytes.BigEndian

/-!
# Internet addresses

Addresses of the two families as numbers, and their bytes in network order.

## Main definitions

* `Ip` — an address of 32 or of 128 bits.
* `Ip.bytes`, `Ip.ofBytes?` — network order, four or sixteen bytes.
* `Ip.groups`, `Ip.octets` — the parts that the text of an address shows.
-/

namespace QueryRouting

/-- An internet address. -/
inductive Ip where
  /-- An address of 32 bits. -/
  | v4 (number : BitVec 32)
  /-- An address of 128 bits. -/
  | v6 (number : BitVec 128)
  deriving DecidableEq, Repr

namespace Ip

/-- The number of an address within its family. -/
def number : Ip → Nat
  | v4 n => n.toNat
  | v6 n => n.toNat

/-- The bytes of an address in network order. -/
def bytes : Ip → Bytes
  | v4 n => BigEndian.write 4 n.toNat
  | v6 n => BigEndian.write 16 n.toNat

/-- The address that four or sixteen bytes hold. -/
def ofBytes? (bs : Bytes) : Option Ip :=
  if bs.length = 4 then some (v4 (BitVec.ofNat 32 (BigEndian.read bs)))
  else if bs.length = 16 then some (v6 (BitVec.ofNat 128 (BigEndian.read bs)))
  else none

/-- The four octets of a number of 32 bits. -/
def octets (n : Nat) : List Nat := [n / 16777216 % 256, n / 65536 % 256, n / 256 % 256, n % 256]

/-- The last `count` groups of sixteen bits of a number, highest first. -/
def groups : Nat → Nat → List Nat
  | 0, _ => []
  | count + 1, n => groups count (n / 65536) ++ [n % 65536]

/-- The number that groups of sixteen bits make up. -/
def ofGroups (gs : List Nat) : Nat := gs.foldl (fun acc g => acc * 65536 + g) 0

@[simp] theorem length_groups (count n : Nat) : (groups count n).length = count := by
  induction count generalizing n with
  | zero => rfl
  | succ count ih => simp [groups, ih]

end Ip

end QueryRouting
