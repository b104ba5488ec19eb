/-!
# Decimal numerals

Unsigned numbers written with the ten ASCII digits.  Reading admits leading
zeros and nothing else: no separator, no blank, no sign unless a function says so.

## Main definitions

* `Numeral.read? cs` — the number of a non-empty run of digits.
* `Numeral.readWord64? s` — an optional plus sign and a number that fits in 64 bits.
* `Numeral.padded width n` — a number with leading zeros.
-/

namespace QueryRouting
namespace Numeral

/-- Whether a character is one of the ten ASCII digits. -/
def isDigit (c : Char) : Bool := '0' ≤ c && c ≤ '9'

/-- The number that a run of digits stands for. -/
def value (cs : List Char) : Nat := cs.foldl (fun acc c => acc * 10 + (c.toNat - 48)) 0

/-- The number of a non-empty run of digits. -/
def read? (cs : List Char) : Option Nat :=
  if cs.isEmpty || !cs.all isDigit then none else some (value cs)

/-- The number of a run of digits when it is below `bound`. -/
def readBelow? (bound : Nat) (cs : List Char) : Option Nat := (read? cs).filter (· < bound)

/-- The number of words of 64 bits. -/
def wordCount : Nat := 18446744073709551616

/-- The number of a text that holds an optional plus sign and digits, when it fits
in 64 bits. -/
def readWord64? (s : String) : Option Nat :=
  match s.toList with
  | '+' :: cs => readBelow? wordCount cs
  | cs => readBelow? wordCount cs

/-- The last `width` decimal digits of `n`. -/
def padded : Nat → Nat → List Char
  | 0, _ => []
  | width + 1, n => padded width (n / 10) ++ [Char.ofNat (n % 10 + 48)]

end Numeral
end QueryRouting
