import QueryRouting.Column.Value
import QueryRouting.Consistency
import QueryRouting.Key.Routing
import QueryRouting.TableName

/-!
# Statements

What a client can send, as far as routing looks at it: the table and the bind
markers of a prepared statement, which markers make up the partition key, the
values bound to them, and the level asked for.

## Main definitions

* `Prepared`, `Bound`, `Statement` — statements.
* `Prepared.tableName?` — the full name of the table.
* `Bound.key`, `Bound.key?` — the partition key of a bound statement.
* `Statement.candidates` — the bound statements that routing may look at.
-/

namespace QueryRouting

/-- A prepared statement. -/
structure Prepared where
  query : String
  keyspace : Option String
  table : String
  /-- The declared types of the bind markers. -/
  columns : List ColumnType
  /-- The positions of the markers that make up the partition key, in key order. -/
  routingIndexes : List Nat

/-- The full name of the table; the fallback keyspace counts when the statement was
prepared without one. -/
def Prepared.tableName? (p : Prepared) (fallback : Option String) : Option String :=
  (p.keyspace.or fallback).map (qualifiedName · p.table)

/-- A prepared statement with its values. -/
structure Bound where
  prepared : Prepared
  values : List Value
  level : Option Consistency

namespace Bound

/-- The partition key of a bound statement, or the reason why it has none. -/
def key (b : Bound) : Except RoutingError UInt16 :=
  partitionKey b.prepared.routingIndexes b.prepared.columns b.values

/-- The partition key of a bound statement, when it has one. -/
def key? (b : Bound) : Option UInt16 := b.key.toOption

end Bound

/-- A statement that a client can send. -/
inductive Statement where
  | bound (b : Bound)
  /-- Statements sent together. -/
  | batch (statements : List Statement) (level : Option Consistency)
  /-- A query that was not prepared. -/
  | simple (query : String) (keyspace : Option String) (level : Option Consistency)

namespace Statement

/-- The level that a statement asks for itself. -/
def level : Statement → Option Consistency
  | bound b => b.level
  | batch _ level => level
  | simple _ _ level => level

/-- The bound statement, if it is one. -/
def bound? : Statement → Option Bound
  | bound b => some b
  | _ => none

/-- The bound statements that routing may look at, each with the level of the batch
that holds it: the statement itself, or those that a batch holds directly. -/
def candidates : Statement → List (Bound × Option Consistency)
  | bound b => [(b, none)]
  | batch statements level => (statements.filterMap bound?).map fun b => (b, level)
  | simple _ _ _ => []

end Statement

end QueryRouting
