import QueryRouting.Column.Value
import QueryRouting.Key.Error

/-!
# The encoding of one key component

The bytes that stand for a value of a column in a routing key.  They carry no
length and no type of their own.

| types | bytes |
|---|---|
| text, varchar, ascii | the text in UTF-8 |
| bigint, int, smallint, tinyint | two's complement of 8, 4, 2 and 1 bytes |
| boolean | one byte |
| double, float | the bits of the number |
| timestamp | microseconds since 1970, cut to whole milliseconds towards zero, in 8 bytes |
| uuid, timeuuid, inet | the bytes in network order |
| date | days since 1970 plus `2 ^ 31`, in 4 bytes |
| time | nanoseconds since midnight, in 8 bytes |
| blob | the bytes |

Numbers are big-endian.  The decoder is wider than the encoder in two places: any
byte but zero is the boolean true, and a number of microseconds that is no whole
number of milliseconds is rounded down.

## Main definitions

* `encode type value` — the bytes of a value.
* `decode type bytes` — the value that bytes stand for.
* `encodeInto type value` — putting the bytes of a value into a buffer that may hold others.
* `appendEncoding`, `appendEncodings` — the buffer after one encoding, and after each of several.
-/

namespace QueryRouting

/-- The number that the first day of 1970 has in an encoded date. -/
def dateBias : Int := 2147483648

/-- Whether a text holds ASCII characters only. -/
def isAsciiText (s : String) : Bool := s.toList.all (·.toNat < 0x80)

/-- The bytes of a value whose kind fits a type that can be part of a key. -/
def encodeFitting (type : ColumnType) (value : Value) : Except RoutingError Bytes :=
  match type, value with
  | .text, .text s => .ok (Utf8.encode s)
  | .varchar, .text s => .ok (Utf8.encode s)
  | .ascii, .text s =>
    if isAsciiText s then .ok (Utf8.encode s) else .error (.typeMismatch .ascii "non-ascii text")
  | .bigint, .bigint n => .ok (BigEndian.writeInt 8 n.toInt)
  | .int, .int n => .ok (BigEndian.writeInt 4 n.toInt)
  | .smallint, .smallint n => .ok (BigEndian.writeInt 2 n.toInt)
  | .tinyint, .tinyint n => .ok (BigEndian.writeInt 1 n.toInt)
  | .boolean, .boolean b => .ok [if b then 1 else 0]
  | .double, .double x => .ok (BigEndian.write 8 x.bits.toNat)
  | .float, .float x => .ok (BigEndian.write 4 x.bits.toNat)
  | .timestamp, .timestamp t => .ok (BigEndian.writeInt 8 (t.micros.tdiv 1000 * 1000))
  | .uuid, .uuid u => .ok u.bytes
  | .timeuuid, .timeuuid u => .ok u.bytes
  | .inet, .inet ip => .ok ip.bytes
  | .date, .date d => .ok (BigEndian.writeInt 4 (d.dayNumber + dateBias))
  | .time, .time t =>
    if t.isLeap then .error (.invalidEncoding .time (.leapSecond t))
    else .ok (BigEndian.write 8 t.nanos)
  | .blob, .blob bs => .ok bs
  | type, value => .error (.typeMismatch type value.kind)

/-- The bytes of a value of a column in a routing key. -/
def encode (type : ColumnType) (value : Value) : Except RoutingError Bytes :=
  if type.isKeyType then encodeFitting type value else .error (.unsupportedColumnType type)

/-- The bytes themselves when there are `width` of them. -/
def exactly (width : Nat) (bs : Bytes) : Except EncodingFault Bytes :=
  if bs.length = width then .ok bs else .error (.width width bs.length)

/-- A result, or a fault when there is none. -/
def orFault {α : Type} (fault : EncodingFault) : Option α → Except EncodingFault α
  | some a => .ok a
  | none => .error fault

/-- The value that bytes stand for in a type that can be part of a key; `none` for
the other types. -/
def decodeKey? (bs : Bytes) : ColumnType → Option (Except EncodingFault Value)
  | .text | .varchar => some <|
    match Utf8.decode bs with
    | .ok s => .ok (.text s)
    | .error fault => .error (.utf8 fault)
  | .ascii => some <|
    if Utf8.isAscii bs then .ok (.text (String.ofList (bs.map fun b => Char.ofNat b.toNat)))
    else .error .nonAsciiByte
  | .bigint => some do return .bigint (Int64.ofInt (BigEndian.readInt (← exactly 8 bs)))
  | .int => some do return .int (Int32.ofInt (BigEndian.readInt (← exactly 4 bs)))
  | .smallint => some do return .smallint (Int16.ofInt (BigEndian.readInt (← exactly 2 bs)))
  | .tinyint => some do return .tinyint (Int8.ofInt (BigEndian.readInt (← exactly 1 bs)))
  | .boolean => some do return .boolean (BigEndian.read (← exactly 1 bs) ≠ 0)
  | .double => some do return .double ⟨UInt64.ofNat (BigEndian.read (← exactly 8 bs))⟩
  | .float => some do return .float ⟨UInt32.ofNat (BigEndian.read (← exactly 4 bs))⟩
  | .timestamp => some do
    let micros := BigEndian.readInt (← exactly 8 bs)
    return .timestamp (← orFault .timestampRange (Instant.ofMillis? (micros / 1000)))
  | .uuid => some do return .uuid (Uuid.ofBytes (← exactly 16 bs))
  | .timeuuid => some do return .timeuuid (Uuid.ofBytes (← exactly 16 bs))
  | .inet => some do return .inet (← orFault (.addressWidth bs.length) (Ip.ofBytes? bs))
  | .date => some do
    let days := (BigEndian.read (← exactly 4 bs) : Int) - dateBias
    return .date (← orFault .dateRange (Date.ofDayNumber? days))
  | .time => some do
    let nanos := BigEndian.readInt (← exactly 8 bs)
    if 0 ≤ nanos ∧ nanos < nanosPerDay then
      return .time (← orFault .timeRange (TimeOfDay.ofNanos? nanos.toNat))
    else .error (.notTimeOfDay nanos)
  | .blob => some (.ok (.blob bs))
  | _ => none

/-- The value that the bytes of a key component stand for.  A type is refused before the
bytes are looked at, and once more when there is no way to read it. -/
def decode (type : ColumnType) (bs : Bytes) : Except RoutingError Value :=
  if type.isKeyType then
    match decodeKey? bs type with
    | none => .error (.unsupportedColumnType type)
    | some (.ok value) => .ok value
    | some (.error fault) => .error (.invalidEncoding type fault)
  else .error (.unsupportedColumnType type)

/-! ### Encoding into a buffer

Components may share a buffer.  Bytes go to its end at once, and an error takes nothing back that
is there already, so every check on a value has to come before the first byte of the value. -/

/-- Work on a buffer, which an error may end.  The buffer is then left with what was put there
before the error. -/
abbrev Filling := EStateM RoutingError Bytes Unit

/-- Puts bytes at the end of the buffer. -/
def putBytes (bs : Bytes) : Filling := modify (· ++ bs)

/-- Puts the bytes of a value into the buffer, for a type that can be part of a key. -/
def encodeFittingInto (type : ColumnType) (value : Value) : Filling :=
  match type, value with
  | .text, .text s => putBytes (Utf8.encode s)
  | .varchar, .text s => putBytes (Utf8.encode s)
  | .ascii, .text s => do
    unless isAsciiText s do throw (.typeMismatch .ascii "non-ascii text")
    putBytes (Utf8.encode s)
  | .bigint, .bigint n => putBytes (BigEndian.writeInt 8 n.toInt)
  | .int, .int n => putBytes (BigEndian.writeInt 4 n.toInt)
  | .smallint, .smallint n => putBytes (BigEndian.writeInt 2 n.toInt)
  | .tinyint, .tinyint n => putBytes (BigEndian.writeInt 1 n.toInt)
  | .boolean, .boolean b => putBytes [if b then 1 else 0]
  | .double, .double x => putBytes (BigEndian.write 8 x.bits.toNat)
  | .float, .float x => putBytes (BigEndian.write 4 x.bits.toNat)
  | .timestamp, .timestamp t => putBytes (BigEndian.writeInt 8 (t.micros.tdiv 1000 * 1000))
  | .uuid, .uuid u => putBytes u.bytes
  | .timeuuid, .timeuuid u => putBytes u.bytes
  | .inet, .inet ip => putBytes ip.bytes
  | .date, .date d => putBytes (BigEndian.writeInt 4 (d.dayNumber + dateBias))
  | .time, .time t => do
    if t.isLeap then throw (.invalidEncoding .time (.leapSecond t))
    putBytes (BigEndian.write 8 t.nanos)
  | .blob, .blob bs => putBytes bs
  | type, value => throw (.typeMismatch type value.kind)

/-- Puts the bytes of a value of a column into the buffer. -/
def encodeInto (type : ColumnType) (value : Value) : Filling := do
  unless type.isKeyType do throw (.unsupportedColumnType type)
  encodeFittingInto type value

/-- The buffer after an item is encoded into it, and the error if there was one. -/
def appendEncoding (buffer : Bytes) (item : ColumnType × Value) : Bytes × Option RoutingError :=
  match (encodeInto item.1 item.2).run buffer with
  | .ok () buffer => (buffer, none)
  | .error e buffer => (buffer, some e)

/-- The buffers after each of several encodings in turn, with the errors. -/
def appendEncodings (buffer : Bytes) :
    List (ColumnType × Value) → List (Bytes × Option RoutingError)
  | [] => []
  | item :: items =>
    let step := appendEncoding buffer item
    step :: appendEncodings step.1 items

end QueryRouting
