/-!
# Column types

The declared types of columns, with their option numbers, their names and the
division into those that may be part of a partition key and those that may not.

## Main definitions

* `ColumnType` — the types.
* `ColumnType.code`, `ColumnType.ofCode?` — option numbers.
* `ColumnType.name` — the name in texts.
* `ColumnType.identifier`, `ColumnType.ofIdentifier?` — the name in stored settings, whose words
  are set apart by low lines.
* `ColumnType.isKeyType` — whether a partition key may hold the type.
-/

namespace QueryRouting

/-- The declared type of a column. -/
inductive ColumnType where
  | custom
  | ascii
  | bigint
  | blob
  | boolean
  | counter
  | decimal
  | double
  | float
  | int
  | text
  | timestamp
  | uuid
  | varchar
  | varint
  | timeuuid
  | inet
  | date
  | time
  | smallint
  | tinyint
  | list
  | map
  | set
  | udt
  | tuple
  deriving DecidableEq, Repr, Inhabited

namespace ColumnType

/-- The types in the order of their option numbers. -/
def all : List ColumnType :=
  [custom, ascii, bigint, blob, boolean, counter, decimal, double, float, int, text, timestamp,
    uuid, varchar, varint, timeuuid, inet, date, time, smallint, tinyint, list, map, set, udt,
    tuple]

/-- The option number of a type. -/
def code : ColumnType → UInt16
  | custom => 0x00
  | ascii => 0x01
  | bigint => 0x02
  | blob => 0x03
  | boolean => 0x04
  | counter => 0x05
  | decimal => 0x06
  | double => 0x07
  | float => 0x08
  | int => 0x09
  | text => 0x0A
  | timestamp => 0x0B
  | uuid => 0x0C
  | varchar => 0x0D
  | varint => 0x0E
  | timeuuid => 0x0F
  | inet => 0x10
  | date => 0x11
  | time => 0x12
  | smallint => 0x13
  | tinyint => 0x14
  | list => 0x20
  | map => 0x21
  | set => 0x22
  | udt => 0x30
  | tuple => 0x31

/-- The type of an option number. -/
def ofCode? (n : UInt16) : Option ColumnType := all.find? (·.code = n)

/-- The name of a type. -/
def name : ColumnType → String
  | custom => "custom"
  | ascii => "ascii"
  | bigint => "bigint"
  | blob => "blob"
  | boolean => "boolean"
  | counter => "counter"
  | decimal => "decimal"
  | double => "double"
  | float => "float"
  | int => "int"
  | text => "text"
  | timestamp => "timestamp"
  | uuid => "uuid"
  | varchar => "varchar"
  | varint => "varint"
  | timeuuid => "timeuuid"
  | inet => "inet"
  | date => "date"
  | time => "time"
  | smallint => "smallint"
  | tinyint => "tinyint"
  | list => "list"
  | map => "map"
  | set => "set"
  | udt => "udt"
  | tuple => "tuple"

instance : ToString ColumnType := ⟨name⟩

/-- The type of a name. -/
def ofName? (s : String) : Option ColumnType := all.find? (·.name = s)

/-- The name of a type in stored settings. -/
def identifier : ColumnType → String
  | bigint => "big_int"
  | timeuuid => "time_uuid"
  | smallint => "small_int"
  | tinyint => "tiny_int"
  | type => type.name

/-- The type of a name in stored settings. -/
def ofIdentifier? (s : String) : Option ColumnType := all.find? (·.identifier = s)

/-- Whether values of the type hold several elements of one kind. -/
def isCollection : ColumnType → Bool
  | list | map | set => true
  | _ => false

/-- Whether values of the type can be part of a partition key. -/
def isKeyType : ColumnType → Bool
  | counter | custom | decimal | tuple | varint | list | map | set | udt => false
  | _ => true

/-- The option number names its type. -/
@[simp] theorem ofCode?_code (type : ColumnType) : ofCode? type.code = some type := by
  cases type <;> decide

end ColumnType

end QueryRouting
