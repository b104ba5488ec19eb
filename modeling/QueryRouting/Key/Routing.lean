import QueryRouting.Key.Codec
import QueryRouting.Key.Fold

/-!
# Routing keys

The routing key of a row is the encodings of its routed columns, in key order and
with nothing between them.  The partition key is the sixteen-bit key of those bytes.

## Main definitions

* `routedComponent` — the type and the value of one routed column.
* `routingKey` — the bytes.
* `partitionKey`, `partitionKey?` — the key, with and without the reason for its absence.
-/

namespace QueryRouting

/-- The type and the value that a routing index names.  The index is held against
the types before the values. -/
def routedComponent (types : List ColumnType) (values : List Value) (index : Nat) :
    Except RoutingError (ColumnType × Value) :=
  match types[index]? with
  | none => .error (.routingIndexOutOfRange index types.length)
  | some type =>
    match values[index]? with
    | none => .error (.routingIndexOutOfRange index values.length)
    | some value => .ok (type, value)

/-- The bytes of the column that a routing index names. -/
def routedBytes (types : List ColumnType) (values : List Value) (index : Nat) :
    Except RoutingError Bytes := do
  let (type, value) ← routedComponent types values index
  encode type value

/-- The bytes of the routed columns one after another. -/
def routedColumns (types : List ColumnType) (values : List Value) :
    List Nat → Except RoutingError Bytes
  | [] => .ok []
  | index :: later => do
    let bs ← routedBytes types values index
    return bs ++ (← routedColumns types values later)

/-- The routing key of a row: the bytes of its routed columns in key order.  The
first column that has no encoding decides the error. -/
def routingKey (indexes : List Nat) (types : List ColumnType) (values : List Value) :
    Except RoutingError Bytes :=
  if indexes.isEmpty then .error .noRoutingColumns else routedColumns types values indexes

/-- The partition key of a row, or the reason why it has none. -/
def partitionKey (indexes : List Nat) (types : List ColumnType) (values : List Value) :
    Except RoutingError UInt16 :=
  keyOfBytes <$> routingKey indexes types values

/-- The partition key of a row, when it has one. -/
def partitionKey? (indexes : List Nat) (types : List ColumnType) (values : List Value) :
    Option UInt16 :=
  (partitionKey indexes types values).toOption

end QueryRouting
