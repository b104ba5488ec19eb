import QueryRouting.Bytes.Hex

/-!
# Universally unique identifiers

Numbers of 128 bits, written as thirty-two hexadecimal digits in groups of eight,
four, four, four and twelve.  Reading also admits the digits without hyphens, and the
groups between braces or as a uniform resource name.

## Main definitions

* `Uuid` — an identifier.
* `Uuid.bytes`, `Uuid.ofBytes` — the sixteen bytes in network order.
* `Uuid.render`, `Uuid.parse?` — the text.
-/

namespace QueryRouting

/-- A universally unique identifier. -/
structure Uuid where
  number : BitVec 128
  deriving DecidableEq, Repr

namespace Uuid

/-- The sixteen bytes of an identifier in network order. -/
def bytes (u : Uuid) : Bytes := BigEndian.write 16 u.number.toNat

/-- The identifier that sixteen bytes hold. -/
def ofBytes (bs : Bytes) : Uuid := ⟨BitVec.ofNat 128 (BigEndian.read bs)⟩

/-- The digits of an identifier with hyphens after the groups. -/
def render (u : Uuid) : String :=
  let digits := Hex.fixed 32 u.number.toNat
  String.ofList <| digits.take 8 ++ '-' :: (digits.drop 8).take 4 ++ '-' :: (digits.drop 12).take 4
    ++ '-' :: (digits.drop 16).take 4 ++ '-' :: digits.drop 20

/-- The identifier of thirty-two digits. -/
def ofDigits? (cs : List Char) : Option Uuid :=
  if cs.length = 32 then (Hex.value? cs).map fun n => ⟨BitVec.ofNat 128 n⟩ else none

/-- The identifier of thirty-two digits with hyphens after the groups. -/
def ofGroups? (cs : List Char) : Option Uuid :=
  if cs.length = 36 ∧ [8, 13, 18, 23].all (cs[·]? = some '-') then
    ofDigits? (cs.take 8 ++ (cs.drop 9).take 4 ++ (cs.drop 14).take 4 ++ (cs.drop 19).take 4
      ++ cs.drop 24)
  else none

/-- The identifier of a text: the digits alone, or the groups with hyphens, which may
stand between braces or after the prefix of a resource name. -/
def parse? (s : String) : Option Uuid :=
  match s.toList with
  | '\x7b' :: cs => if cs.getLast? = some '\x7d' then ofGroups? cs.dropLast else none
  | 'u' :: 'r' :: 'n' :: ':' :: 'u' :: 'u' :: 'i' :: 'd' :: ':' :: cs => ofGroups? cs
  | cs => if cs.contains '-' then ofGroups? cs else ofDigits? cs

end Uuid

end QueryRouting
