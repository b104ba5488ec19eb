import QueryRouting.Host.Basic
import QueryRouting.Key.Fold

/-!
# Partitions

A partition is a half-open range of keys with the hosts that hold copies of it.
The server reports the ends of a range as two bytes each, and leaves out the
beginning and the end of the key space.

## Main definitions

* `Partition` — a range and its hosts.
* `Partition.ofKeyBytes` — a range from the bytes of its ends.
* `Partition.isValid` — whether the ends make up a range.
* `Partition.contains` — membership of a key.
* `Partition.leader?` — the first host.
-/

namespace QueryRouting

/-- A range of keys and the hosts that hold copies of it. -/
structure Partition where
  /-- The first key of the range. -/
  startKey : Int
  /-- The key after the last one. -/
  endKey : Int
  /-- The hosts, the leader first when it is known. -/
  hosts : List Host
  deriving DecidableEq, Repr

namespace Partition

/-- The key that the bytes of an end stand for: `absent` when there are none, the
number of two bytes, and a key outside the space otherwise. -/
def keyOfBoundary (absent : Int) (bs : Bytes) : Int :=
  if bs.length = 0 then absent
  else if bs.length = 2 then BigEndian.read bs
  else -1

/-- The range between two ends as the server reports them. -/
def ofKeyBytes (startKey endKey : Bytes) (hosts : List Host) : Partition :=
  ⟨keyOfBoundary 0 startKey, keyOfBoundary keySpace endKey, hosts⟩

/-- Whether the ends make up a range, which may be empty. -/
def isValid (p : Partition) : Bool := 0 ≤ p.startKey && p.startKey ≤ p.endKey

/-- Whether a key lies in the range. -/
def contains (p : Partition) (key : Int) : Bool := p.startKey ≤ key && key < p.endKey

/-- The host that leads the partition, as far as is known. -/
def leader? (p : Partition) : Option Host := p.hosts.head?

/-- The text of a partition in diagnostics. -/
def describe (p : Partition) : String :=
  let hosts := ", ".intercalate (p.hosts.map fun h => Quoted.encode h.address.render)
  "PartitionMetadata \x7b start_key: " ++ toString p.startKey ++ ", end_key: " ++
    toString p.endKey ++ ", hosts: [" ++ hosts ++ "] \x7d"

end Partition

end QueryRouting
