import QueryRouting.Ascending
import QueryRouting.Host.Basic

/-!
# The registry of hosts

The hosts that are known, at most one of each address, in an order that means nothing.
Each answer is worked out from them by itself: a list of hosts by picking those that
are asked for and putting them in address order, the host of an IP address as the
lowest of those that have it, a number of hosts by counting.

## Main definitions

* `inAddressOrder` — hosts put in the order of their addresses.
* `Registry` — the hosts.
* `Registry.find?`, `Registry.findIp?` — the host of an address, and the lowest of an IP address.
* `Registry.insert`, `Registry.erase` — a host comes and goes.
* `Registry.hosts`, `Registry.upHosts`, `Registry.inDatacenter` — lists of hosts.
* `Registry.datacenters` — the names of the datacenters.
* `Registry.size`, `Registry.upCount` — numbers of hosts.
-/

namespace QueryRouting

/-- The hosts in the order of their addresses. -/
def inAddressOrder (hosts : List Host) : List Host := arrange Host.rank hosts

/-- The known hosts, at most one of each address. -/
structure Registry where
  /-- The hosts, in no particular order. -/
  entries : List Host
  distinct : entries.Pairwise fun h k => h.address ≠ k.address
  deriving DecidableEq

namespace Registry

/-- No host. -/
def empty : Registry := ⟨[], List.Pairwise.nil⟩

instance : Inhabited Registry := ⟨empty⟩

/-- The number of hosts. -/
def size (r : Registry) : Nat := r.entries.length

/-- The host of an address. -/
def find? (r : Registry) (address : Endpoint) : Option Host :=
  r.entries.find? (·.address = address)

/-- The host of an IP address, whatever its port; of several the one of lowest address. -/
def findIp? (r : Registry) (ip : Ip) : Option Host :=
  (r.entries.filter (·.address.ip = ip)).minOn? Host.rank

/-- The registry without the host of an address. -/
def erase (r : Registry) (address : Endpoint) : Registry :=
  ⟨r.entries.filter (·.address ≠ address), r.distinct.filter _⟩

/-- The registry with a host, instead of the one of the same address. -/
def insert (r : Registry) (h : Host) : Registry where
  entries := h :: (r.erase h.address).entries
  distinct := by
    refine List.pairwise_cons.mpr ⟨fun k hk => ?_, (r.erase h.address).distinct⟩
    have hother : k.address ≠ h.address := by simpa using (List.mem_filter.mp hk).2
    exact hother.symm

/-- All hosts in the order of their addresses. -/
def hosts (r : Registry) : List Host := inAddressOrder r.entries

/-- The hosts that are up, in the order of their addresses. -/
def upHosts (r : Registry) (live : Liveness) : List Host :=
  inAddressOrder (r.entries.filter live.isUp)

/-- The number of hosts that are up. -/
def upCount (r : Registry) (live : Liveness) : Nat := (r.entries.filter live.isUp).length

/-- The hosts of a datacenter in the order of their addresses. -/
def inDatacenter (r : Registry) (datacenter : String) : List Host :=
  inAddressOrder (r.entries.filter (·.datacenter = datacenter))

/-- The names of the datacenters in ascending order. -/
def datacenters (r : Registry) : List String := sortBy id (r.entries.map (·.datacenter))

/-! ### The hosts that are registered -/

theorem mem_inAddressOrder {hosts : List Host} {h : Host} :
    h ∈ inAddressOrder hosts ↔ h ∈ hosts :=
  (perm_arrange Host.rank hosts).mem_iff

/-- Hosts of different addresses are in ascending order when they are put in order. -/
theorem ascending_inAddressOrder {hosts : List Host}
    (hdistinct : hosts.Pairwise fun h k => h.address ≠ k.address) :
    Ascending Host.rank (inAddressOrder hosts) :=
  ascending_arrange (hdistinct.imp fun hne e => hne (Host.rank_eq_iff.mp e))

/-- The hosts are in the order of their addresses, which are all different. -/
theorem ascending (r : Registry) : Ascending Host.rank r.hosts :=
  ascending_inAddressOrder r.distinct

theorem mem_hosts {r : Registry} {h : Host} : h ∈ r.hosts ↔ h ∈ r.entries := mem_inAddressOrder

@[simp] theorem hosts_empty : empty.hosts = [] := rfl

/-- The registered hosts after an insertion. -/
theorem mem_insert {r : Registry} {h k : Host} :
    k ∈ (r.insert h).hosts ↔ k = h ∨ (k ∈ r.hosts ∧ k.address ≠ h.address) := by
  simp [mem_hosts, insert, erase]

/-- The registered hosts after a removal. -/
@[simp] theorem mem_erase {r : Registry} {address : Endpoint} {k : Host} :
    k ∈ (r.erase address).hosts ↔ k ∈ r.hosts ∧ k.address ≠ address := by
  simp [mem_hosts, erase]

/-- The host found at an address is the one that is registered there. -/
theorem find?_eq_some_iff {r : Registry} {address : Endpoint} {h : Host} :
    r.find? address = some h ↔ h ∈ r.hosts ∧ h.address = address := by
  rw [mem_hosts]
  exact find?_key_eq_some_iff r.distinct

end Registry

end QueryRouting
