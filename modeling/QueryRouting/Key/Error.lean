import QueryRouting.Calendar.TimeOfDay
import QueryRouting.Column.Type
import QueryRouting.Text.Utf8

/-!
# Why a statement has no partition key

None of these fails a query: a statement without a key is routed like one that
names no partition.

## Main definitions

* `EncodingFault` — why bytes are not an encoding of a type, or a value has none.
* `RoutingError` — why a statement has no partition key.
-/

namespace QueryRouting

/-- Why bytes are not the encoding of any value of a type, or why a value of the
type has no encoding. -/
inductive EncodingFault where
  /-- The type takes `expected` bytes. -/
  | width (expected actual : Nat)
  /-- An address takes four or sixteen bytes. -/
  | addressWidth (actual : Nat)
  | nonAsciiByte
  | utf8 (fault : Utf8.Fault)
  | timestampRange
  | dateRange
  /-- The number of nanoseconds does not fall within a day. -/
  | notTimeOfDay (nanos : Int)
  /-- The second and the nanoseconds name no time. -/
  | timeRange
  /-- A leap second is no number of nanoseconds since midnight. -/
  | leapSecond (time : TimeOfDay)
  deriving DecidableEq, Repr

/-- The description of a fault. -/
def EncodingFault.message : EncodingFault → String
  | .width expected actual => s!"expected {expected} bytes, got {actual}"
  | .addressWidth actual => s!"expected 4 or 16 bytes, got {actual}"
  | .nonAsciiByte => "non-ascii byte"
  | .utf8 fault => fault.message
  | .timestampRange => "timestamp out of range"
  | .dateRange => "date out of range"
  | .notTimeOfDay nanos => s!"{nanos} ns is not a time of day"
  | .timeRange => "time out of range"
  | .leapSecond time => s!"leap second {time.render} is not a time of day"

/-- Why a statement has no partition key. -/
inductive RoutingError where
  | unsupportedColumnType (type : ColumnType)
  /-- The column is of type `expected` and its value is `actual`. -/
  | typeMismatch (expected : ColumnType) (actual : String)
  | invalidEncoding (type : ColumnType) (fault : EncodingFault)
  | noRoutingColumns
  /-- A routing index is not below the number of columns or of values. -/
  | routingIndexOutOfRange (index length : Nat)
  deriving DecidableEq, Repr

/-- The description of an error. -/
def RoutingError.message : RoutingError → String
  | .unsupportedColumnType type => s!"Unsupported partition-key column type: {type}"
  | .typeMismatch expected actual => s!"Type mismatch: column is {expected}, value is {actual}"
  | .invalidEncoding type fault => s!"Invalid {type} encoding: {fault.message}"
  | .noRoutingColumns => "Statement has no routing columns"
  | .routingIndexOutOfRange index length =>
    s!"Routing index {index} out of range for {length} bound values"

end QueryRouting
