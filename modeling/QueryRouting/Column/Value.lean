import QueryRouting.Address.Ip
import QueryRouting.Calendar.Date
import QueryRouting.Calendar.Instant
import QueryRouting.Column.Float
import QueryRouting.Column.Uuid

/-!
# Bound values

The values that a caller binds to the markers of a statement.  The kind of a value
has to fit the declared type of its column exactly for the value to take part in a
routing key.

## Main definitions

* `Value` — a value.
* `Value.kind` — the name of its kind.
* `Value.equals` — equality of kind and payload, with numbers compared as numbers and
  collections compared in order.
* `Value.ofPayload` — the value that a payload becomes when it is bound without a kind.
-/

namespace QueryRouting

/-- A bound value. -/
inductive Value where
  | null
  /-- A text, for the column types `text`, `varchar` and `ascii`. -/
  | text (s : String)
  | bigint (n : Int64)
  | int (n : Int32)
  | smallint (n : Int16)
  | tinyint (n : Int8)
  | boolean (b : Bool)
  | double (x : Binary64)
  | float (x : Binary32)
  | timestamp (t : Instant)
  | uuid (u : Uuid)
  | timeuuid (u : Uuid)
  | inet (ip : Ip)
  | date (d : Date)
  | time (t : TimeOfDay)
  | blob (bs : Bytes)
  | counter (n : Int64)
  /-- An unscaled number in two's complement, and its scale. -/
  | decimal (unscaled : Bytes) (scale : Int32)
  /-- A number in two's complement. -/
  | varint (bs : Bytes)
  | list (vs : List Value)
  | set (vs : List Value)
  | map (entries : List (Value × Value))
  | tuple (vs : List Value)
  deriving Inhabited

namespace Value

/-- The name of the kind of a value. -/
def kind : Value → String
  | null => "null"
  | text _ => "text"
  | bigint _ => "bigint"
  | int _ => "int"
  | smallint _ => "smallint"
  | tinyint _ => "tinyint"
  | boolean _ => "boolean"
  | double _ => "double"
  | float _ => "float"
  | timestamp _ => "timestamp"
  | uuid _ => "uuid"
  | timeuuid _ => "timeuuid"
  | inet _ => "inet"
  | date _ => "date"
  | time _ => "time"
  | blob _ => "blob"
  | counter _ => "counter"
  | decimal _ _ => "decimal"
  | varint _ => "varint"
  | list _ => "list"
  | set _ => "set"
  | map _ => "map"
  | tuple _ => "tuple"

/-- Whether a value is the absent one. -/
def isNull : Value → Bool
  | null => true
  | _ => false

mutual

/-- Whether two values are of one kind and equal in it. -/
def equals : Value → Value → Bool
  | null, null => true
  | text s, text t => s = t
  | bigint m, bigint n => m = n
  | int m, int n => m = n
  | smallint m, smallint n => m = n
  | tinyint m, tinyint n => m = n
  | boolean b, boolean c => b = c
  | double x, double y => x.equals y
  | float x, float y => x.equals y
  | timestamp s, timestamp t => s = t
  | uuid u, uuid v => u = v
  | timeuuid u, timeuuid v => u = v
  | inet i, inet j => i = j
  | date d, date e => d = e
  | time s, time t => s = t
  | blob bs, blob cs => bs = cs
  | counter m, counter n => m = n
  | decimal bs m, decimal cs n => bs = cs && m = n
  | varint bs, varint cs => bs = cs
  | list vs, list ws => equalLists vs ws
  | set vs, set ws => equalLists vs ws
  | map es, map fs => equalEntries es fs
  | tuple vs, tuple ws => equalLists vs ws
  | _, _ => false

/-- Whether two lists hold equal values in one order. -/
def equalLists : List Value → List Value → Bool
  | [], [] => true
  | v :: vs, w :: ws => equals v w && equalLists vs ws
  | _, _ => false

/-- Whether two lists hold equal pairs in one order. -/
def equalEntries : List (Value × Value) → List (Value × Value) → Bool
  | [], [] => true
  | (k, v) :: es, (l, w) :: fs => equals k l && equals v w && equalEntries es fs
  | _, _ => false

end

/-- The value that the payload of a value becomes when it is bound without a kind.
Both kinds of identifier become plain ones, and both kinds of byte string become
blobs; the kinds that no payload stands for alone stay as they are. -/
def ofPayload : Value → Value
  | timeuuid u => uuid u
  | varint bs => blob bs
  | v => v

end Value

end QueryRouting
