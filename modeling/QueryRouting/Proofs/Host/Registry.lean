import QueryRouting.Host.Registry

/-!
# What a registry answers

A registry holds its hosts in no particular order, and works each answer out by itself.  The hosts
in address order are a list that all other answers can be read off: the hosts that are up and those
of a datacenter are parts of it, the host of an IP address is the first in it, and the numbers of
hosts are lengths.  The names of the datacenters are those that hosts have, so the hosts of the
datacenters are all hosts.  The order in which the hosts are held has no part in any of this.

## Main definitions

* `Endpoint.Before` — the order of addresses: by family, then by number, then by port.
* `Registry.Lowest r ip h` — `h` is the registered host of lowest address with an IP address.
* `Registry.Alike` — two registries answer alike.

## Main results

* `Endpoint.before_iff` — the rank of an address is its place in the order.
* `Registry.upHosts_eq`, `Registry.inDatacenter_eq` — parts of the hosts in address order.
* `Registry.size_eq`, `Registry.upCount_eq` — their numbers.
* `Registry.findIp?_eq_some_iff`, `Registry.findIp?_eq_none_iff` — the host of an IP address.
* `Registry.ascending_datacenters`, `Registry.mem_datacenters` — the names of the datacenters.
* `Registry.perm_flatMap_inDatacenter` — every host lies in one datacenter.
* `Registry.alike_of_perm` — registries that hold the same hosts answer alike.
-/

namespace QueryRouting

/-! ### The order of addresses -/

/-- The order of addresses: those of 32 bits come before those of 128 bits; within a family
the number decides, and of one number the port. -/
inductive Endpoint.Before : Endpoint → Endpoint → Prop
  | family (m : BitVec 32) (n : BitVec 128) (p q : UInt16) : Before ⟨.v4 m, p⟩ ⟨.v6 n, q⟩
  | number {m n : BitVec 32} (h : m < n) (p q : UInt16) : Before ⟨.v4 m, p⟩ ⟨.v4 n, q⟩
  | longNumber {m n : BitVec 128} (h : m < n) (p q : UInt16) : Before ⟨.v6 m, p⟩ ⟨.v6 n, q⟩
  | port (ip : Ip) {p q : UInt16} (h : p < q) : Before ⟨ip, p⟩ ⟨ip, q⟩

/-- **The rank of an address is its place in the order.** -/
theorem Endpoint.before_iff {d e : Endpoint} : d.Before e ↔ d.rank < e.rank := by
  obtain ⟨dip, p⟩ := d
  obtain ⟨eip, q⟩ := e
  have hp := p.toNat_lt
  have hq := q.toNat_lt
  constructor
  · intro h
    cases h with
    | family m n =>
      have hm := m.isLt
      simp only [rank]
      omega
    | number h =>
      have hlt := BitVec.lt_def.mp h
      simp only [rank]
      omega
    | longNumber h =>
      have hlt := BitVec.lt_def.mp h
      simp only [rank]
      omega
    | port ip h =>
      have hlt := UInt16.lt_iff_toNat_lt.mp h
      cases dip <;> simp only [rank] <;> omega
  · intro h
    cases dip with
    | v4 m =>
      cases eip with
      | v4 n =>
        simp only [rank] at h
        rcases Nat.lt_trichotomy m.toNat n.toNat with hlt | heq | hgt
        · exact .number (BitVec.lt_def.mpr hlt) p q
        · obtain rfl := BitVec.eq_of_toNat_eq heq
          exact .port _ (UInt16.lt_iff_toNat_lt.mpr (by omega))
        · omega
      | v6 n => exact .family m n p q
    | v6 m =>
      cases eip with
      | v4 n =>
        have hn := n.isLt
        simp only [rank] at h
        omega
      | v6 n =>
        simp only [rank] at h
        rcases Nat.lt_trichotomy m.toNat n.toNat with hlt | heq | hgt
        · exact .longNumber (BitVec.lt_def.mpr hlt) p q
        · obtain rfl := BitVec.eq_of_toNat_eq heq
          exact .port _ (UInt16.lt_iff_toNat_lt.mpr (by omega))
        · omega

namespace Registry

variable {r : Registry} {ip : Ip} {h k : Host}

/-! ### Addresses -/

/-- The hosts are in the order of their addresses. -/
theorem pairwise_before (r : Registry) :
    r.hosts.Pairwise fun h k => h.address.Before k.address :=
  r.ascending.imp fun hlt => Endpoint.before_iff.mpr hlt

/-- Picking hosts and putting them in order may be done in either order. -/
theorem inAddressOrder_filter (r : Registry) (p : Host → Bool) :
    inAddressOrder (r.entries.filter p) = r.hosts.filter p := by
  apply Ascending.eq_of_mem_iff (ascending_inAddressOrder (r.distinct.filter p))
  · exact r.ascending.filter p
  · intro h
    rw [mem_inAddressOrder, List.mem_filter, List.mem_filter, mem_hosts]

/-- **The hosts that are up** are those of all hosts. -/
theorem upHosts_eq (r : Registry) (live : Liveness) :
    r.upHosts live = r.hosts.filter live.isUp :=
  r.inAddressOrder_filter live.isUp

/-- **The hosts of a datacenter** are those of all hosts. -/
theorem inDatacenter_eq (r : Registry) (datacenter : String) :
    r.inDatacenter datacenter = r.hosts.filter (·.datacenter = datacenter) :=
  r.inAddressOrder_filter _

theorem inDatacenter_sublist (r : Registry) (datacenter : String) :
    (r.inDatacenter datacenter).Sublist r.hosts := by
  rw [inDatacenter_eq]
  exact List.filter_sublist

/-- **The number of hosts** is that of the list of all hosts. -/
theorem size_eq (r : Registry) : r.size = r.hosts.length :=
  (perm_arrange Host.rank r.entries).length_eq.symm

/-- **The number of hosts that are up** is that of the list of them. -/
theorem upCount_eq (r : Registry) (live : Liveness) : r.upCount live = (r.upHosts live).length :=
  (perm_arrange Host.rank (r.entries.filter live.isUp)).length_eq.symm

/-! ### IP addresses -/

/-- Of the registered hosts with an IP address, the one of lowest address. -/
structure Lowest (r : Registry) (ip : Ip) (h : Host) : Prop where
  mem : h ∈ r.hosts
  ip_eq : h.address.ip = ip
  least : ∀ k ∈ r.hosts, k.address.ip = ip → h.rank ≤ k.rank

/-- There is one such host at most. -/
theorem Lowest.unique (hh : r.Lowest ip h) (hk : r.Lowest ip k) : h = k := by
  apply r.ascending.eq_of_key_eq hh.mem hk.mem
  exact Nat.le_antisymm (hh.least k hk.mem hk.ip_eq) (hk.least h hh.mem hh.ip_eq)

/-- The host found by its IP address is the one of lowest address. -/
theorem lowest_of_findIp? (e : r.findIp? ip = some h) : r.Lowest ip h := by
  have hmem := List.mem_filter.mp (List.minOn?_mem e)
  refine ⟨mem_hosts.mpr hmem.1, by simpa using hmem.2, ?_⟩
  intro k hk hkip
  have hcandidate : k ∈ r.entries.filter (·.address.ip = ip) :=
    List.mem_filter.mpr ⟨mem_hosts.mp hk, by simpa using hkip⟩
  have hleast := List.apply_minOn_le_of_mem (f := Host.rank) hcandidate
  rwa [List.minOn_eq_of_minOn?_eq_some e] at hleast

theorem findIp?_eq_none_iff : r.findIp? ip = none ↔ ∀ k ∈ r.hosts, k.address.ip ≠ ip := by
  rw [findIp?, ← Option.not_isSome_iff_eq_none, List.isSome_minOn?_iff, Decidable.not_not,
    List.filter_eq_nil_iff]
  simp only [mem_hosts, decide_eq_true_eq, ne_eq]

/-- **The host of an IP address** is the one of lowest address that has it. -/
theorem findIp?_eq_some_iff : r.findIp? ip = some h ↔ r.Lowest ip h := by
  constructor
  · exact lowest_of_findIp?
  · intro hh
    cases e : r.findIp? ip with
    | none => exact absurd hh.ip_eq (findIp?_eq_none_iff.mp e h hh.mem)
    | some k => rw [(lowest_of_findIp? e).unique hh]

/-- The first host with an IP address in address order is the one of lowest address. -/
theorem lowest_of_find? (e : r.hosts.find? (·.address.ip = ip) = some h) : r.Lowest ip h := by
  obtain ⟨hip, before, after, hhosts, hbefore⟩ := List.find?_eq_some_iff_append.mp e
  have hascending : (before ++ h :: after).Pairwise fun a b => a.rank < b.rank := by
    rw [← hhosts]
    exact r.ascending
  refine ⟨List.mem_of_find?_eq_some e, by simpa using hip, ?_⟩
  intro k hk hkip
  rw [hhosts, List.mem_append, List.mem_cons] at hk
  rcases hk with hk | rfl | hk
  · -- The hosts before it have other IP addresses.
    have hother := hbefore k hk
    simp [hkip] at hother
  · exact Nat.le_refl _
  · have hlater := (List.pairwise_append.mp hascending).2.1
    exact Nat.le_of_lt ((List.pairwise_cons.mp hlater).1 k hk)

/-- **The host of an IP address** is the first of all hosts that has it. -/
theorem findIp?_eq (r : Registry) (ip : Ip) :
    r.findIp? ip = r.hosts.find? (·.address.ip = ip) := by
  cases hfound : r.hosts.find? (·.address.ip = ip) with
  | none =>
    apply findIp?_eq_none_iff.mpr
    intro k hk
    simpa using List.find?_eq_none.mp hfound k hk
  | some h => exact findIp?_eq_some_iff.mpr (lowest_of_find? hfound)

/-! ### Datacenters -/

theorem mem_inDatacenter {datacenter : String} :
    h ∈ r.inDatacenter datacenter ↔ h ∈ r.hosts ∧ h.datacenter = datacenter := by
  simp [inDatacenter_eq]

/-- The names of the datacenters are in ascending order. -/
theorem ascending_datacenters (r : Registry) : Ascending id r.datacenters :=
  ascending_sortBy id _

/-- They are the names that hosts have. -/
theorem mem_datacenters {name : String} :
    name ∈ r.datacenters ↔ ∃ h ∈ r.hosts, h.datacenter = name := by
  rw [datacenters, mem_sortBy_names, List.mem_map]
  simp only [mem_hosts]

/-- **Every host lies in one datacenter**, and no host in two. -/
theorem perm_flatMap_inDatacenter (r : Registry) :
    (r.datacenters.flatMap r.inDatacenter).Perm r.hosts := by
  have hnamed : ∀ h ∈ r.hosts, h.datacenter ∈ r.datacenters :=
    fun h hh => mem_datacenters.mpr ⟨h, hh, rfl⟩
  have hlists : r.inDatacenter = fun name => r.hosts.filter (·.datacenter = name) :=
    funext r.inDatacenter_eq
  rw [hlists]
  exact perm_flatMap_filter r.ascending_datacenters.nodup hnamed

/-! ### The order of the entries -/

/-- Two registries answer alike, whatever they are asked, and go on to do so when a host comes or
goes. -/
structure Alike (r r' : Registry) : Prop where
  find : ∀ address, r.find? address = r'.find? address
  findIp : ∀ ip, r.findIp? ip = r'.findIp? ip
  hosts : r.hosts = r'.hosts
  upHosts : ∀ live, r.upHosts live = r'.upHosts live
  inDatacenter : ∀ datacenter, r.inDatacenter datacenter = r'.inDatacenter datacenter
  datacenters : r.datacenters = r'.datacenters
  size : r.size = r'.size
  upCount : ∀ live, r.upCount live = r'.upCount live
  insert : ∀ h, (r.insert h).entries.Perm (r'.insert h).entries
  erase : ∀ address, (r.erase address).entries.Perm (r'.erase address).entries

/-- **The order in which the hosts are held has no part in the answers.** -/
theorem alike_of_perm {r' : Registry} (h : r.entries.Perm r'.entries) : r.Alike r' := by
  have hmem : ∀ k, k ∈ r.hosts ↔ k ∈ r'.hosts := by
    intro k
    rw [mem_hosts, mem_hosts, h.mem_iff]
  have hhosts : r.hosts = r'.hosts := r.ascending.eq_of_mem_iff r'.ascending hmem
  have herase : ∀ address, (r.erase address).entries.Perm (r'.erase address).entries :=
    fun address => h.filter _
  constructor
  case find =>
    intro address
    apply Option.ext
    intro k
    rw [find?_eq_some_iff, find?_eq_some_iff, hhosts]
  case findIp =>
    intro ip
    rw [findIp?_eq, findIp?_eq, hhosts]
  case hosts => exact hhosts
  case upHosts =>
    intro live
    rw [upHosts_eq, upHosts_eq, hhosts]
  case inDatacenter =>
    intro datacenter
    rw [inDatacenter_eq, inDatacenter_eq, hhosts]
  case datacenters =>
    apply r.ascending_datacenters.eq_of_mem_iff r'.ascending_datacenters
    intro name
    rw [mem_datacenters, mem_datacenters, hhosts]
  case size => exact h.length_eq
  case upCount =>
    intro live
    exact (h.filter live.isUp).length_eq
  case insert =>
    intro k
    exact (herase k.address).cons k
  case erase => exact herase

end Registry
end QueryRouting
