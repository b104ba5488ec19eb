import Mathlib.Data.List.Induction
import QueryRouting.Cluster.Refresh

/-!
# What a refresh reads

A refresh goes through the rows once, and through the replicas of each row.  What has come together
after any number of steps can be said without them: the hosts of a row are its registered replicas,
the first leader at the front; the partitions of a name are those of the rows with a range that
have it; the events are those of the rows in turn.  Each step keeps this up, so it holds at the
end, and the tables after a refresh are known name by name.

## Main definitions

* `leaderFirst`, `LeaderFirst known hosts` — the known replicas in the order in which they are to
  be tried.
* `PartitionRow.replicaHosts`, `PartitionRow.partition`, `PartitionRow.events` — what a row comes
  to by itself.
* `Resolution.Gathers` — the replicas that have been looked up so far.
* `Tables.ofRows` — the tables of rows, name by name.

## Main results

* `leaderFirst_spec`, `LeaderFirst.eq` — `leaderFirst` puts replicas in that order, and there
  is no other.
* `Resolution.gathers_resolve` — looking up replicas one by one keeps the first leader apart.
* `Reading.events_ofRows`, `Reading.find?_groups_ofRows` — the events and the groups of rows.
* `Tables.eq_of_find?` — tables are known by the splits of the names.
* `Cluster.refresh_eq` — the refresh as a whole.
-/

namespace QueryRouting

/-! ### The order of the replicas -/

/-- The hosts in order, save that the first leader goes to the front. -/
def leaderFirst (known : List (Host × ReplicaRole)) : List Host :=
  let isOther : Host × ReplicaRole → Bool := fun entry => entry.2 ≠ .leader
  match known.dropWhile isOther with
  | [] => known.map Prod.fst
  | leader :: after => leader.1 :: (known.takeWhile isOther ++ after).map Prod.fst

/-- The order in which known replicas are to be tried: the first leader goes to the
front, and all others, later leaders included, keep their order. -/
inductive LeaderFirst : List (Host × ReplicaRole) → List Host → Prop where
  /-- There is a leader, and `leader` is the first one. -/
  | led {before after : List (Host × ReplicaRole)} {leader : Host}
      (others : ∀ entry ∈ before, entry.2 ≠ .leader) :
      LeaderFirst (before ++ (leader, .leader) :: after)
        (leader :: (before ++ after).map Prod.fst)
  /-- There is no leader. -/
  | leaderless {known : List (Host × ReplicaRole)} (others : ∀ entry ∈ known, entry.2 ≠ .leader) :
      LeaderFirst known (known.map Prod.fst)

theorem leaderFirst_of_led {before after : List (Host × ReplicaRole)} {leader : Host}
    (others : ∀ entry ∈ before, entry.2 ≠ .leader) :
    leaderFirst (before ++ (leader, .leader) :: after)
      = leader :: (before ++ after).map Prod.fst := by
  have hothers : ∀ entry ∈ before, decide (entry.2 ≠ .leader) = true := by simpa using others
  simp only [leaderFirst, List.dropWhile_append_of_pos hothers,
    List.takeWhile_append_of_pos hothers]
  simp

theorem leaderFirst_of_leaderless {known : List (Host × ReplicaRole)}
    (others : ∀ entry ∈ known, entry.2 ≠ .leader) :
    leaderFirst known = known.map Prod.fst := by
  have hothers : ∀ entry ∈ known, decide (entry.2 ≠ .leader) = true := by simpa using others
  have hdrop : ∀ later : List (Host × ReplicaRole),
      (known ++ later).dropWhile (fun entry => decide (entry.2 ≠ .leader))
        = later.dropWhile (fun entry => decide (entry.2 ≠ .leader)) :=
    fun _ => List.dropWhile_append_of_pos hothers
  have hnone := hdrop []
  rw [List.append_nil, List.dropWhile_nil] at hnone
  simp only [leaderFirst, hnone]

/-- `leaderFirst` puts every list of known replicas in that order. -/
theorem leaderFirst_spec (known : List (Host × ReplicaRole)) :
    LeaderFirst known (leaderFirst known) := by
  cases h : known.find? (·.2 = .leader) with
  | some entry =>
    obtain ⟨leader, role⟩ := entry
    obtain ⟨hrole, before, after, rfl, hbefore⟩ := List.find?_eq_some_iff_append.mp h
    obtain rfl : role = .leader := by simpa using hrole
    have hothers : ∀ entry ∈ before, entry.2 ≠ .leader := by simpa using hbefore
    rw [leaderFirst_of_led hothers]
    exact .led hothers
  | none =>
    have hothers : ∀ entry ∈ known, entry.2 ≠ .leader := by
      simpa using List.find?_eq_none.mp h
    rw [leaderFirst_of_leaderless hothers]
    exact .leaderless hothers

/-- There is no other order of that kind. -/
theorem LeaderFirst.eq {known : List (Host × ReplicaRole)} {hosts : List Host}
    (h : LeaderFirst known hosts) : hosts = leaderFirst known := by
  cases h with
  | led others => exact (leaderFirst_of_led others).symm
  | leaderless others => exact (leaderFirst_of_leaderless others).symm

/-- The order is that of the replicas, up to where the leader stands. -/
theorem LeaderFirst.perm {known : List (Host × ReplicaRole)} {hosts : List Host}
    (h : LeaderFirst known hosts) : hosts.Perm (known.map Prod.fst) := by
  cases h with
  | led => simpa using List.perm_middle.symm
  | leaderless => exact List.Perm.refl _

/-! ### What a row comes to -/

namespace PartitionRow

/-- The replicas of a row that are registered, with their roles. -/
def knownReplicas (row : PartitionRow) (registry : Registry) : List (Host × ReplicaRole) :=
  row.replicas.filterMap fun (ip, role) => (registry.findIp? ip).map fun h => (h, role)

/-- The replicas of a row that no registered host is. -/
def unknownReplicas (row : PartitionRow) (registry : Registry) : List (Ip × ReplicaRole) :=
  row.replicas.filter fun (ip, _) => (registry.findIp? ip).isNone

/-- The registered hosts of a row, the leader first. -/
def replicaHosts (row : PartitionRow) (registry : Registry) : List Host :=
  leaderFirst (row.knownReplicas registry)

/-- The partition that a row describes. -/
def partition (row : PartitionRow) (registry : Registry) : Partition :=
  .ofKeyBytes row.startKey row.endKey (row.replicaHosts registry)

/-- Whether the ends of a row make up a range. -/
def isValid (row : PartitionRow) : Bool := (Partition.ofKeyBytes row.startKey row.endKey []).isValid

/-- The hosts of a partition have no part in the validity of its range. -/
theorem isValid_ofKeyBytes (row : PartitionRow) (hosts : List Host) :
    (Partition.ofKeyBytes row.startKey row.endKey hosts).isValid = row.isValid := rfl

@[simp] theorem isValid_partition (row : PartitionRow) (registry : Registry) :
    (row.partition registry).isValid = row.isValid := rfl

/-- What a row gives to report: its unknown replicas, then its ends when they make
up no range. -/
def events (row : PartitionRow) (registry : Registry) : List Event :=
  (row.unknownReplicas registry).map (fun (ip, role) => .unknownReplica row.tableName ip role) ++
    if row.isValid then [] else [.malformedRange row.tableName row.startKey row.endKey]

end PartitionRow

/-! ### Looking up the replicas -/

namespace Resolution

variable {registry : Registry} {table : String} {known : List (Host × ReplicaRole)}
  {s : Resolution} {ip : Ip} {role : ReplicaRole} {host : Host}

/-- The registered replicas that have been looked up are `known`: the first leader among them is
kept apart, if there is one. -/
inductive Gathers : Resolution → List (Host × ReplicaRole) → Prop where
  | led {before after : List (Host × ReplicaRole)} {leader : Host} {events : List Event}
      (others : ∀ entry ∈ before, entry.2 ≠ .leader) :
      Gathers ⟨some leader, (before ++ after).map Prod.fst, events⟩
        (before ++ (leader, .leader) :: after)
  | leaderless {known : List (Host × ReplicaRole)} {events : List Event}
      (others : ∀ entry ∈ known, entry.2 ≠ .leader) :
      Gathers ⟨none, known.map Prod.fst, events⟩ known

theorem Gathers.leaderFirst (h : s.Gathers known) : LeaderFirst known s.hosts := by
  cases h with
  | led others => exact .led others
  | leaderless others => exact .leaderless others

/-- A replica that no registered host is adds to the reports only. -/
theorem Gathers.add_unknown (h : s.Gathers known) (hnone : registry.findIp? ip = none) :
    (s.add registry table (ip, role)).Gathers known := by
  simp only [add, hnone]
  cases h with
  | led others => exact .led others
  | leaderless others => exact .leaderless others

/-- A registered replica joins the others, unless it is the first leader. -/
theorem Gathers.add_registered (h : s.Gathers known) (hfound : registry.findIp? ip = some host) :
    (s.add registry table (ip, role)).Gathers (known ++ [(host, role)]) := by
  simp only [add, hfound]
  cases h with
  | @led before after leader events others =>
    have hothers : (before ++ after).map Prod.fst ++ [host]
        = (before ++ (after ++ [(host, role)])).map Prod.fst := by simp
    rw [if_neg (by simp), hothers, List.append_assoc, List.cons_append]
    exact .led others
  | @leaderless known events others =>
    split
    · next hleader =>
      obtain rfl : role = .leader := hleader.1
      have hall : known.map Prod.fst = (known ++ []).map Prod.fst := by simp
      rw [hall]
      exact .led others
    · next hother =>
      have hrole : role ≠ .leader := by simpa using hother
      have hothers : known.map Prod.fst ++ [host] = (known ++ [(host, role)]).map Prod.fst := by
        simp
      rw [hothers]
      refine .leaderless fun entry hentry => ?_
      rcases List.mem_append.mp hentry with hentry | hentry
      · exact others entry hentry
      · rw [List.mem_singleton.mp hentry]
        exact hrole

theorem events_add (replica : Ip × ReplicaRole) :
    (s.add registry table replica).events = s.events ++
      if (registry.findIp? replica.1).isNone then [.unknownReplica table replica.1 replica.2]
      else [] := by
  rw [add]
  cases registry.findIp? replica.1 with
  | none => rfl
  | some h =>
    simp only [Option.isNone_some, Bool.false_eq_true, if_false, List.append_nil]
    split <;> rfl

/-- **The replicas of a row are looked up one by one**, and the first leader is kept apart. -/
theorem gathers_resolve (registry : Registry) (row : PartitionRow) :
    (registry.resolve row.tableName row.replicas).Gathers (row.knownReplicas registry) := by
  rw [Registry.resolve, PartitionRow.knownReplicas]
  induction row.replicas using List.reverseRec with
  | nil =>
    have hnone : ∀ entry ∈ ([] : List (Host × ReplicaRole)), entry.2 ≠ .leader := by simp
    exact .leaderless hnone
  | append_singleton earlier replica ih =>
    obtain ⟨ip, role⟩ := replica
    rw [List.foldl_append, List.foldl_cons, List.foldl_nil, List.filterMap_append]
    cases hfound : registry.findIp? ip with
    | none => simpa [hfound] using ih.add_unknown hfound
    | some host => simpa [hfound] using ih.add_registered hfound

theorem hosts_resolve (registry : Registry) (row : PartitionRow) :
    (registry.resolve row.tableName row.replicas).hosts = row.replicaHosts registry :=
  (gathers_resolve registry row).leaderFirst.eq

/-- The unknown replicas are reported in turn. -/
theorem events_resolve (registry : Registry) (row : PartitionRow) :
    (registry.resolve row.tableName row.replicas).events
      = (row.unknownReplicas registry).map fun (ip, role) =>
          .unknownReplica row.tableName ip role := by
  rw [Registry.resolve, PartitionRow.unknownReplicas]
  induction row.replicas using List.reverseRec with
  | nil => rfl
  | append_singleton earlier replica ih =>
    rw [List.foldl_append, List.foldl_cons, List.foldl_nil, events_add, ih, List.filter_append,
      List.map_append]
    cases hfound : registry.findIp? replica.1 <;> simp [hfound]

end Resolution

/-! ### Reading the rows -/

namespace Groups

variable {g : Groups} {name : String} {ps : List Partition} {p : Partition}

/-- The partitions of a name are those that stand beside it. -/
theorem mem_entries_iff : (name, ps) ∈ g.entries ↔ g.find? name = some ps := by
  rw [find?, Option.map_eq_some_iff]
  simp only [find?_key_eq_some_iff g.distinct]
  simp

/-- What the groups hold after a partition has joined its group. -/
theorem find?_push (other : String) :
    (g.push name p).find? other
      = if name = other then some ((g.find? name).getD [] ++ [p]) else g.find? other := by
  apply Option.ext
  intro ps
  rw [← mem_entries_iff, push, List.mem_cons, List.mem_filter]
  by_cases h : name = other
  · subst h
    simp [eq_comm]
  · simp [h, Ne.symm h, mem_entries_iff]

end Groups

namespace Tables

/-- The rows that make up the split of a full name. -/
def named (rows : List PartitionRow) (name : String) : List PartitionRow :=
  (rows.filter (·.isValid)).filter (·.tableName = name)

/-- A row with a range belongs to its name, and to no other. -/
theorem named_concat (rows : List PartitionRow) (row : PartitionRow) (name : String) :
    named (rows ++ [row]) name
      = named rows name ++ if row.isValid = true ∧ row.tableName = name then [row] else [] := by
  rw [named, named, List.filter_append, List.filter_append]
  by_cases hvalid : row.isValid = true
  · by_cases hname : row.tableName = name <;> simp [hvalid, hname]
  · simp [hvalid]

end Tables

namespace Reading

variable {registry : Registry} {s : Reading} {row : PartitionRow}

/-- A row with a range joins its group. -/
theorem add_of_valid (hvalid : row.isValid = true) :
    s.add registry row = ⟨s.groups.push row.tableName (row.partition registry),
      s.events ++ row.events registry⟩ := by
  simp only [add, Resolution.hosts_resolve, Resolution.events_resolve,
    PartitionRow.isValid_ofKeyBytes, hvalid, if_true, PartitionRow.events, List.append_nil]
  rfl

/-- A row without one leaves the groups as they are. -/
theorem add_of_malformed (hvalid : row.isValid = false) :
    s.add registry row = ⟨s.groups, s.events ++ row.events registry⟩ := by
  simp only [add, Resolution.hosts_resolve, Resolution.events_resolve,
    PartitionRow.isValid_ofKeyBytes, hvalid, Bool.false_eq_true, if_false, PartitionRow.events,
    List.append_assoc]

theorem ofRows_concat (registry : Registry) (rows : List PartitionRow) (row : PartitionRow) :
    ofRows registry (rows ++ [row]) = (ofRows registry rows).add registry row := by
  rw [ofRows, ofRows, List.foldl_append, List.foldl_cons, List.foldl_nil]

/-- **The rows are reported on in turn.** -/
theorem events_ofRows (registry : Registry) (rows : List PartitionRow) :
    (ofRows registry rows).events = rows.flatMap (·.events registry) := by
  induction rows using List.reverseRec with
  | nil => rfl
  | append_singleton earlier row ih =>
    have hstep : ((ofRows registry earlier).add registry row).events
        = (ofRows registry earlier).events ++ row.events registry := by
      cases hvalid : row.isValid with
      | true => rw [add_of_valid hvalid]
      | false => rw [add_of_malformed hvalid]
    rw [ofRows_concat, hstep, ih, List.flatMap_append, List.flatMap_singleton]

/-- **The group of a name** holds the partitions of its rows with a range; there is none
without such a row. -/
theorem find?_groups_ofRows (registry : Registry) (rows : List PartitionRow) (name : String) :
    (ofRows registry rows).groups.find? name
      = if Tables.named rows name = [] then none
        else some ((Tables.named rows name).map (·.partition registry)) := by
  -- Each row adds to the group of its name, if it has a range, and to no other group.
  induction rows using List.reverseRec with
  | nil => rfl
  | append_singleton earlier row ih =>
    rw [ofRows_concat, Tables.named_concat]
    cases hvalid : row.isValid with
    | false =>
      rw [add_of_malformed hvalid, ih]
      simp
    | true =>
      rw [add_of_valid hvalid, Groups.find?_push]
      by_cases hname : row.tableName = name
      · subst hname
        rw [ih]
        by_cases hnone : Tables.named earlier row.tableName = [] <;> simp [hnone]
      · simp [hname, ih]

end Reading

/-! ### The tables of rows -/

namespace Tables

variable {t t' : Tables} {name : String} {split : Split}

/-- The split of a name is the one that stands beside it. -/
theorem mem_entries_iff : (name, split) ∈ t.entries ↔ t.find? name = some split := by
  have hdistinct : t.entries.Pairwise fun entry entry' => entry.1 ≠ entry'.1 :=
    t.ascending.imp Std.ne_of_lt
  rw [find?, Option.map_eq_some_iff]
  simp only [find?_key_eq_some_iff hdistinct]
  simp

/-- The names are those that have a split. -/
theorem mem_names_iff : name ∈ t.names ↔ ∃ split, t.find? name = some split := by
  simp [names, ← mem_entries_iff]

/-- **Tables are known by the splits of the names.** -/
theorem eq_of_find? (h : ∀ name, t.find? name = t'.find? name) : t = t' := by
  have hentries : t.entries = t'.entries := by
    apply t.ascending.eq_of_mem_iff t'.ascending
    intro entry
    obtain ⟨name, split⟩ := entry
    rw [mem_entries_iff, mem_entries_iff, h name]
  cases t
  cases t'
  cases hentries
  rfl

/-- A name has the split of its group. -/
theorem find?_ofGroups (g : Groups) (name : String) :
    (ofGroups g).find? name = (g.find? name).map .ofList := by
  apply Option.ext
  intro split
  rw [← mem_entries_iff, ofGroups, List.mem_map, Option.map_eq_some_iff]
  simp only [(perm_arrange Prod.fst g.entries).mem_iff, Prod.exists, Prod.mk.injEq,
    Groups.mem_entries_iff]
  simp

variable {registry : Registry} {rows : List PartitionRow}

/-- One table for each of the names. -/
def ofNames (names : List String) (split : String → Split) : Tables where
  entries := (sortBy id names).map fun name => (name, split name)
  ascending := List.pairwise_map.mpr (ascending_sortBy id names)

/-- A table made from names has the split of its name. -/
theorem find?_ofNames {names : List String} {split : String → Split} {name : String} :
    (ofNames names split).find? name = if name ∈ names then some (split name) else none := by
  apply Option.ext
  intro found
  rw [← mem_entries_iff, ofNames, List.mem_map]
  simp only [mem_sortBy_names, Prod.mk.injEq]
  by_cases hname : name ∈ names
  · simp [hname]
  · simp [hname]

/-- The split of the rows of one table. -/
def splitOfRows (registry : Registry) (rows : List PartitionRow) (name : String) : Split :=
  .ofList ((rows.filter (·.tableName = name)).map (·.partition registry))

/-- The tables that rows describe. -/
def ofRows (registry : Registry) (rows : List PartitionRow) : Tables :=
  let valid := rows.filter (·.isValid)
  ofNames (valid.map (·.tableName)) (splitOfRows registry valid)

/-- The split of a table after a refresh, which it has when it has a valid row. -/
theorem find?_ofRows :
    (ofRows registry rows).find? name =
      if ∃ row ∈ rows, row.isValid = true ∧ row.tableName = name then
        some (splitOfRows registry (rows.filter (·.isValid)) name)
      else none := by
  have hmem : name ∈ (rows.filter (·.isValid)).map (·.tableName) ↔
      ∃ row ∈ rows, row.isValid = true ∧ row.tableName = name := by
    simp [and_assoc]
  simp only [ofRows, find?_ofNames, hmem]

/-- A name has a split when some row makes one up. -/
theorem find?_ofRows_named :
    (ofRows registry rows).find? name =
      if named rows name = [] then none
      else some (.ofList ((named rows name).map (·.partition registry))) := by
  have hnamed : named rows name ≠ [] ↔ ∃ row ∈ rows, row.isValid = true ∧ row.tableName = name := by
    rw [Ne, List.eq_nil_iff_forall_not_mem]
    simp [named, and_comm]
  by_cases hnone : named rows name = []
  · rw [find?_ofRows, if_pos hnone, if_neg (by rwa [← hnamed, not_not])]
  · rw [find?_ofRows, if_neg hnone, if_pos (hnamed.mp hnone)]
    rfl

/-- **The groups of rows make up the tables** that the rows describe. -/
theorem ofGroups_ofRows (registry : Registry) (rows : List PartitionRow) :
    ofGroups (Reading.ofRows registry rows).groups = ofRows registry rows := by
  apply eq_of_find?
  intro name
  rw [find?_ofGroups, Reading.find?_groups_ofRows, find?_ofRows_named]
  split <;> rfl

end Tables

namespace Cluster

variable (c : Cluster) (registry : Registry) (rows : List PartitionRow)

/-- **A refresh in one piece**: the tables that the rows describe, and the events of the rows, of
the tables and of the whole. -/
theorem refresh_eq :
    let tables := Tables.ofRows registry rows
    c.refresh registry rows =
      { cluster := { c with tables := tables }
        events := rows.flatMap (·.events registry) ++
          tables.entries.map (fun (name, split) => .splitBuilt name split.size) ++
          [.refreshed tables.size rows.length]
        published := tables.size } := by
  simp only [refresh, Tables.ofGroups_ofRows, Reading.events_ofRows]

@[simp] theorem tables_refresh :
    (c.refresh registry rows).cluster.tables = Tables.ofRows registry rows := by
  rw [refresh_eq]

@[simp] theorem split?_refresh (name : String) :
    (c.refresh registry rows).cluster.split? name = (Tables.ofRows registry rows).find? name := by
  rw [split?, tables_refresh]

end Cluster

end QueryRouting
