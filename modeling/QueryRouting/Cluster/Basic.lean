import QueryRouting.Ascending
import QueryRouting.Consistency
import QueryRouting.Event
import QueryRouting.Partition.Split

/-!
# The cluster as routing sees it

The splits of the tables that are known, by full table name, and the level of
statements that ask for none.

## Main definitions

* `Tables` — splits by name, in ascending order of the names.
* `Cluster` — tables and default level.
* `Cluster.publish`, `Cluster.withdraw` — one table comes or goes.
-/

namespace QueryRouting

/-- Splits by full table name. -/
structure Tables where
  entries : List (String × Split)
  ascending : Ascending Prod.fst entries
  deriving DecidableEq

namespace Tables

/-- No table. -/
def empty : Tables := ⟨[], List.Pairwise.nil⟩

/-- The names of the tables in ascending order. -/
def names (t : Tables) : List String := t.entries.map Prod.fst

/-- The number of tables. -/
def size (t : Tables) : Nat := t.entries.length

/-- The split of a table. -/
def find? (t : Tables) (name : String) : Option Split :=
  (t.entries.find? (·.1 = name)).map Prod.snd

/-- The tables with the given split for a name. -/
def insert (t : Tables) (name : String) (split : Split) : Tables :=
  ⟨insertBy Prod.fst (name, split) t.entries, t.ascending.insertBy⟩

/-- The tables without a name. -/
def erase (t : Tables) (name : String) : Tables :=
  ⟨t.entries.filter (·.1 ≠ name), t.ascending.filter _⟩

end Tables

/-- What routing knows of the tables of a cluster. -/
structure Cluster where
  tables : Tables := .empty
  /-- The level of statements that ask for none. -/
  defaultLevel : Consistency := .localOne
  deriving DecidableEq

namespace Cluster

instance : Inhabited Cluster := ⟨{}⟩

/-- The split of a table. -/
def split? (c : Cluster) (name : String) : Option Split := c.tables.find? name

/-- The cluster with a split for a table, instead of the one before. -/
def publish (c : Cluster) (name : String) (split : Split) : Cluster × List Event :=
  ({ c with tables := c.tables.insert name split }, [.splitPublished name split.size])

/-- The cluster without a table, and the split that the table had. -/
def withdraw (c : Cluster) (name : String) : Option Split × Cluster :=
  (c.split? name, { c with tables := c.tables.erase name })

end Cluster

end QueryRouting
