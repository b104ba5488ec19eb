import QueryRouting.Bytes.BigEndian

/-!
# Hexadecimal text

Two digits per byte, lower case when written, either case when read.

## Main definitions

* `Hex.digit n`, `Hex.digitValue? c` — one digit.
* `Hex.encode bs`, `Hex.decode? s` — byte strings.
* `Hex.fixed width x`, `Hex.value? cs` — numbers of a given number of digits.
-/

namespace QueryRouting
namespace Hex

/-- The lower-case digit for `n % 16`. -/
def digit (n : Nat) : Char :=
  if n % 16 < 10 then Char.ofNat (n % 16 + 48) else Char.ofNat (n % 16 + 87)

/-- The value of a digit of either case. -/
def digitValue? (c : Char) : Option Nat :=
  if '0' ≤ c ∧ c ≤ '9' then some (c.toNat - 48)
  else if 'a' ≤ c ∧ c ≤ 'f' then some (c.toNat - 87)
  else if 'A' ≤ c ∧ c ≤ 'F' then some (c.toNat - 55)
  else none

/-- The two digits of a byte. -/
def ofByte (b : UInt8) : List Char := [digit (b.toNat / 16), digit b.toNat]

/-- The digits of a byte string. -/
def encode (bs : Bytes) : String := String.ofList (bs.flatMap ofByte)

/-- The bytes named by pairs of digits; `none` for an odd count or a foreign character. -/
def bytes? : List Char → Option Bytes
  | [] => some []
  | [_] => none
  | high :: low :: rest => do
    let h ← digitValue? high
    let l ← digitValue? low
    let bs ← bytes? rest
    return UInt8.ofNat (16 * h + l) :: bs

/-- The bytes a text of hexadecimal digits names. -/
def decode? (s : String) : Option Bytes := bytes? s.toList

/-- The last `width` digits of `x`. -/
def fixed : Nat → Nat → List Char
  | 0, _ => []
  | width + 1, x => fixed width (x / 16) ++ [digit x]

/-- The number that a run of digits stands for; the empty run is zero. -/
def value? (cs : List Char) : Option Nat :=
  cs.foldlM (fun acc c => (digitValue? c).map (acc * 16 + ·)) 0

/-- The shortest run of digits of `x`, which has at most `width` digits. -/
def short (width x : Nat) : List Char :=
  match (fixed width x).dropWhile (· == '0') with
  | [] => ['0']
  | cs => cs

end Hex
end QueryRouting
