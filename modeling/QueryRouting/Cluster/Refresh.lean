import QueryRouting.Cluster.Basic
import QueryRouting.Host.Registry
import QueryRouting.TableName

/-!
# Refreshing the tables from rows

The server describes its partitions in rows: a table, the two ends of a range, and
the addresses of the replicas with their roles.  A refresh goes through the rows once:
the replicas of each are looked up, and its partition joins those of its table.  Then
every split is replaced by those that have come together.  Replicas that no registered
host is, and rows whose ends make up no range, are left out and reported on the way.

## Main definitions

* `PartitionRow` — a row.
* `Resolution`, `Registry.resolve` — the hosts of a row, the leader first.
* `Groups`, `Groups.push` — partitions by the full names of their tables.
* `Reading`, `Reading.ofRows` — what has come together from rows.
* `Cluster.refresh` — the new tables, what there is to report, and how many tables there are.
-/

namespace QueryRouting

/-- One partition as the server describes it. -/
structure PartitionRow where
  keyspace : String
  table : String
  /-- Two bytes; empty for the beginning of the key space. -/
  startKey : Bytes
  /-- Two bytes; empty for the end of the key space. -/
  endKey : Bytes
  replicas : List (Ip × ReplicaRole)
  deriving DecidableEq, Repr

/-- The full name of the table of a row. -/
def PartitionRow.tableName (row : PartitionRow) : String := qualifiedName row.keyspace row.table

/-! ### The hosts of a row -/

/-- What the replicas that have been looked up come to. -/
structure Resolution where
  /-- The first leader that is registered. -/
  leader : Option Host := none
  /-- All other registered replicas in order. -/
  others : List Host := []
  /-- The replicas that no registered host is. -/
  events : List Event := []

namespace Resolution

/-- One more replica is looked up.  Only the first leader is kept apart. -/
def add (registry : Registry) (table : String) (s : Resolution) (replica : Ip × ReplicaRole) :
    Resolution :=
  match registry.findIp? replica.1 with
  | none => { s with events := s.events ++ [.unknownReplica table replica.1 replica.2] }
  | some h =>
    if replica.2 = .leader ∧ s.leader = none then { s with leader := some h }
    else { s with others := s.others ++ [h] }

/-- The hosts that have been found, the leader first. -/
def hosts (s : Resolution) : List Host := s.leader.toList ++ s.others

end Resolution

/-- The replicas of a table are looked up one after the other. -/
def Registry.resolve (registry : Registry) (table : String) (replicas : List (Ip × ReplicaRole)) :
    Resolution :=
  replicas.foldl (Resolution.add registry table) {}

/-! ### The partitions of the tables -/

/-- Partitions by the full names of their tables. -/
structure Groups where
  /-- The names with their partitions, in no particular order. -/
  entries : List (String × List Partition)
  distinct : entries.Pairwise fun g g' => g.1 ≠ g'.1

namespace Groups

/-- No table. -/
def empty : Groups := ⟨[], List.Pairwise.nil⟩

/-- The partitions of a name. -/
def find? (g : Groups) (name : String) : Option (List Partition) :=
  (g.entries.find? (·.1 = name)).map Prod.snd

/-- One more partition of a name, behind those that it has. -/
def push (g : Groups) (name : String) (p : Partition) : Groups where
  entries := (name, (g.find? name).getD [] ++ [p]) :: g.entries.filter (·.1 ≠ name)
  distinct := by
    refine List.pairwise_cons.mpr ⟨fun other hother => ?_, g.distinct.filter _⟩
    have hne : other.1 ≠ name := by simpa using (List.mem_filter.mp hother).2
    exact hne.symm

end Groups

/-- What the rows that have been read come to. -/
structure Reading where
  groups : Groups := .empty
  events : List Event := []

namespace Reading

/-- One more row is read.  When its ends make up no range it is left out, but its replicas
have been looked up by then. -/
def add (registry : Registry) (s : Reading) (row : PartitionRow) : Reading :=
  let replicas := registry.resolve row.tableName row.replicas
  let partition := Partition.ofKeyBytes row.startKey row.endKey replicas.hosts
  if partition.isValid then
    ⟨s.groups.push row.tableName partition, s.events ++ replicas.events⟩
  else
    ⟨s.groups, s.events ++ replicas.events ++
      [.malformedRange row.tableName row.startKey row.endKey]⟩

/-- The rows are read one after the other. -/
def ofRows (registry : Registry) (rows : List PartitionRow) : Reading :=
  rows.foldl (add registry) {}

end Reading

/-- The splits of the partitions that have come together. -/
def Tables.ofGroups (g : Groups) : Tables where
  entries := (arrange Prod.fst g.entries).map fun group => (group.1, .ofList group.2)
  ascending := by
    apply List.pairwise_map.mpr
    exact ascending_arrange g.distinct

/-! ### The refresh -/

/-- What a refresh gives. -/
structure Refresh where
  cluster : Cluster
  events : List Event
  /-- The number of tables that have a split. -/
  published : Nat
  deriving DecidableEq

/-- The cluster with the tables that rows describe and no others.  Every row is
reported on in turn, then every table by its name, then the whole. -/
def Cluster.refresh (c : Cluster) (registry : Registry) (rows : List PartitionRow) : Refresh :=
  let reading := Reading.ofRows registry rows
  let tables := Tables.ofGroups reading.groups
  { cluster := { c with tables := tables }
    events := reading.events ++
      tables.entries.map (fun (name, split) => .splitBuilt name split.size) ++
      [.refreshed tables.size rows.length]
    published := tables.size }

end QueryRouting
