import QueryRouting.Address.Endpoint
import QueryRouting.Text.Quoted

/-!
# Hosts

A host is a handle on one node of the cluster.  Two handles may name one address,
when a node leaves and comes back: each has a serial number of its own, and is up
or down on its own.  Everything else compares hosts by their address.

## Main definitions

* `HostSpec` — what a host is made from.
* `Host` — a handle.
* `Host.sameAddress`, `Host.compare` — comparison by address.
* `Liveness` — which handles are down.
* `Host.describe` — the text of a host in diagnostics.
-/

namespace QueryRouting

/-- What a host is made from. -/
structure HostSpec where
  address : Endpoint
  datacenter : String
  rack : String
  up : Bool := true
  deriving DecidableEq, Repr

/-- A handle on a node of the cluster. -/
structure Host where
  /-- The number that tells this handle from every other. -/
  serial : Nat
  address : Endpoint
  datacenter : String
  rack : String
  deriving DecidableEq, Repr

namespace Host

/-- The place of a host among hosts: that of its address. -/
def rank (h : Host) : Nat := h.address.rank

/-- Whether two hosts have one address. -/
def sameAddress (h k : Host) : Bool := h.address = k.address

/-- The order of two hosts, which is that of their addresses. -/
def compare (h k : Host) : Ordering := Ord.compare h.rank k.rank

instance : ToString Host := ⟨fun h => h.address.render⟩

/-- Hosts of one address have one rank, and only they. -/
theorem rank_eq_iff {h k : Host} : h.rank = k.rank ↔ h.address = k.address :=
  ⟨fun e => Endpoint.rank_injective e, fun e => by rw [rank, rank, e]⟩

end Host

/-- Which handles are down, by serial number; every other one is up. -/
structure Liveness where
  down : List Nat := []
  deriving DecidableEq, Repr, Inhabited

namespace Liveness

/-- Whether a host is up. -/
def isUp (l : Liveness) (h : Host) : Bool := !l.down.contains h.serial

/-- The host is up from now on. -/
def setUp (l : Liveness) (h : Host) : Liveness := ⟨l.down.filter (· ≠ h.serial)⟩

/-- The host is down from now on. -/
def setDown (l : Liveness) (h : Host) : Liveness :=
  if l.isUp h then ⟨h.serial :: l.down⟩ else l

/-- The host is up or down from now on. -/
def set (l : Liveness) (h : Host) (up : Bool) : Liveness := if up then l.setUp h else l.setDown h

@[simp] theorem isUp_setUp (l : Liveness) (h k : Host) :
    (l.setUp h).isUp k = (l.isUp k || h.serial = k.serial) := by
  by_cases e : h.serial = k.serial
  · simp [isUp, setUp, e]
  · simp [isUp, setUp, e, Ne.symm e]

@[simp] theorem isUp_setDown (l : Liveness) (h k : Host) :
    (l.setDown h).isUp k = (l.isUp k && h.serial ≠ k.serial) := by
  unfold setDown
  split
  · by_cases e : k.serial = h.serial
    · simp [isUp, e]
    · simp [isUp, e, Ne.symm e]
  · next hdown =>
    by_cases e : h.serial = k.serial
    · simp_all [isUp]
    · simp [e]

end Liveness

/-- The text of a host in diagnostics. -/
def Host.describe (h : Host) (live : Liveness) : String :=
  "Host \x7b address: " ++ h.address.render ++ ", datacenter: " ++ Quoted.encode h.datacenter ++
    ", rack: " ++ Quoted.encode h.rack ++ ", up: " ++ toString (live.isUp h) ++ " \x7d"

end QueryRouting
