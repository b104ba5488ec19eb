import QueryRouting.Event
import QueryRouting.Host.Registry

/-!
# The fleet

All handles on hosts that were ever made, which of them are down, and which are
registered.  A handle outlives its registration: whoever holds one sees it go up
and down, and a node that is registered again is a new handle.

## Main definitions

* `Fleet` — registry, liveness and the next serial number.
* `Fleet.create` — a new handle, not registered.
* `Fleet.register`, `Fleet.add`, `Fleet.remove` — handles enter and leave the registry.
* `Fleet.setUp`, `Fleet.setDown` — a handle goes up or down, without an event.
* `Fleet.markUp`, `Fleet.markDown` — the host of an address goes up or down.
-/

namespace QueryRouting

/-- The handles on hosts. -/
structure Fleet where
  registry : Registry := .empty
  liveness : Liveness := {}
  /-- The serial number of the next handle; every handle has a smaller one. -/
  nextSerial : Nat := 0
  deriving Inhabited

namespace Fleet

/-- Whether a host is up. -/
def isUp (f : Fleet) (h : Host) : Bool := f.liveness.isUp h

/-- A new handle, up or down as its maker says. -/
def create (f : Fleet) (spec : HostSpec) : Host × Fleet :=
  let h : Host := ⟨f.nextSerial, spec.address, spec.datacenter, spec.rack⟩
  (h, { f with liveness := f.liveness.set h spec.up, nextSerial := f.nextSerial + 1 })

/-- Registers a handle, and returns the handle that is registered for its address:
the one that was there before, if there was one. -/
def register (f : Fleet) (h : Host) : Host × Fleet × List Event :=
  match f.registry.find? h.address with
  | some known => (known, f, [.hostKnown h.address])
  | none =>
    (h, { f with registry := f.registry.insert h },
      [.hostRegistered h.address h.datacenter h.rack])

/-- Makes a handle and registers it. -/
def add (f : Fleet) (spec : HostSpec) : Host × Fleet × List Event :=
  let (h, f) := f.create spec
  f.register h

/-- Takes the host of an address out of the registry. -/
def remove (f : Fleet) (address : Endpoint) : Option Host × Fleet × List Event :=
  (f.registry.find? address, { f with registry := f.registry.erase address },
    [.hostUnregistered address])

/-- The handle is up from now on; returns whether it was before. -/
def setUp (f : Fleet) (h : Host) : Bool × Fleet :=
  (f.isUp h, { f with liveness := f.liveness.setUp h })

/-- The handle is down from now on; returns whether it was up before. -/
def setDown (f : Fleet) (h : Host) : Bool × Fleet :=
  (f.isUp h, { f with liveness := f.liveness.setDown h })

/-- The host of an address is up from now on.  An event tells of a change. -/
def markUp (f : Fleet) (address : Endpoint) : Fleet × List Event :=
  match f.registry.find? address with
  | none => (f, [.unknownHostUp address])
  | some h =>
    let (wasUp, f) := f.setUp h
    (f, if wasUp then [] else [.hostUp address])

/-- The host of an address is down from now on.  An event tells of a change. -/
def markDown (f : Fleet) (address : Endpoint) : Fleet × List Event :=
  match f.registry.find? address with
  | none => (f, [.unknownHostDown address])
  | some h =>
    let (wasUp, f) := f.setDown h
    (f, if wasUp then [.hostDown address] else [])

/-- The registered hosts that are up. -/
def upHosts (f : Fleet) : List Host := f.registry.upHosts f.liveness

/-- The number of registered hosts that are up. -/
def upCount (f : Fleet) : Nat := f.registry.upCount f.liveness

end Fleet

end QueryRouting
