import QueryRouting.Address.Ip
import QueryRouting.Bytes.Hex
import QueryRouting.Text.Numeral

/-!
# The text of an internet address

An address of 32 bits is written as four decimal octets with points between.  An
address of 128 bits is written as eight hexadecimal groups with colons between;
the longest run of at least two zero groups, the first of several, is left out and
leaves two colons.  The addresses that embed a 32-bit address below the group
`ffff` end in its four octets.

Reading admits every usual spelling: capital digits, zeros before a group, a run
of zero groups of any length left out, and four octets in place of the last two
groups.

## Main definitions

* `Ip.render` — the text of an address.
* `Ip.parse?` — the address of a text.
-/

namespace QueryRouting
namespace Ip

/-- The pieces of a text between the occurrences of a separator. -/
def pieces (separator : Char) : List Char → List (List Char)
  | [] => [[]]
  | c :: rest =>
    if c = separator then [] :: pieces separator rest
    else match pieces separator rest with
      | [] => [[c]]
      | piece :: later => (c :: piece) :: later

/-- The pieces of a text with a separator between each two. -/
def joined (separator : Char) : List (List Char) → List Char
  | [] => []
  | [piece] => piece
  | piece :: later => piece ++ separator :: joined separator later

/-! ### Writing -/

/-- Four decimal octets with points between. -/
def renderOctets (n : Nat) : List Char := joined '.' ((octets n).map fun o => (toString o).toList)

/-- Hexadecimal groups with colons between. -/
def renderGroups (gs : List Nat) : List Char := joined ':' (gs.map (Hex.short 4))

/-- The length of the run of zero groups at the front. -/
def zeroRun (gs : List Nat) : Nat := (gs.takeWhile (· = 0)).length

/-- The position and the length of the first longest run of zero groups, counted
from `position`; the length is zero when no group is. -/
def longestZeroRun (position : Nat) : List Nat → Nat × Nat
  | [] => (position, 0)
  | g :: gs =>
    let here := zeroRun (g :: gs)
    let later := longestZeroRun (position + 1) gs
    if later.2 ≤ here then (position, here) else later

/-- The text of the eight groups of an address of 128 bits. -/
def renderV6 (gs : List Nat) : List Char :=
  let (position, length) := longestZeroRun 0 gs
  if length < 2 then renderGroups gs
  else renderGroups (gs.take position) ++ [':', ':'] ++ renderGroups (gs.drop (position + length))

/-- The text of an address. -/
def render : Ip → String
  | v4 n => String.ofList (renderOctets n.toNat)
  | v6 n =>
    -- The upper ninety-six bits are those of an embedded address.
    if n.toNat / 4294967296 = 0xffff then
      String.ofList ("::ffff:".toList ++ renderOctets (n.toNat % 4294967296))
    else String.ofList (renderV6 (groups 8 n.toNat))

/-! ### Reading -/

/-- An octet: at most 255, without a zero before other digits. -/
def parseOctet? (cs : List Char) : Option Nat :=
  if cs.head? = some '0' ∧ cs ≠ ['0'] then none else Numeral.readBelow? 256 cs

/-- Four octets with points between. -/
def parseV4? (cs : List Char) : Option Nat := do
  let os ← (pieces '.' cs).mapM parseOctet?
  if os.length = 4 then return os.foldl (fun acc o => acc * 256 + o) 0 else none

/-- A group of one to four hexadecimal digits. -/
def parseGroup? (cs : List Char) : Option Nat :=
  if 1 ≤ cs.length ∧ cs.length ≤ 4 then Hex.value? cs else none

/-- Groups, of which the last may be written as four octets. -/
def parseGroups? : List (List Char) → Option (List Nat)
  | [] => some []
  | [piece] =>
    match parseV4? piece with
    | some n => some [n / 65536, n % 65536]
    | none => (parseGroup? piece).map ([·])
  | piece :: later => do
    let g ← parseGroup? piece
    let gs ← parseGroups? later
    return g :: gs

/-- The text before and after the first two colons in a row. -/
def splitAtGap : List Char → Option (List Char × List Char)
  | [] => none
  | [_] => none
  | c :: d :: rest =>
    if c = ':' ∧ d = ':' then some ([], rest)
    else (splitAtGap (d :: rest)).map fun (front, back) => (c :: front, back)

/-- The groups of a part of an address beside a gap, which may be empty. -/
def parseSide? (side : List Char → Option (List Nat)) (cs : List Char) : Option (List Nat) :=
  if cs.isEmpty then some [] else side cs

/-- The number of an address of 128 bits. -/
def parseV6? (cs : List Char) : Option Nat :=
  match splitAtGap cs with
  | none => do
    let gs ← parseGroups? (pieces ':' cs)
    if gs.length = 8 then return ofGroups gs else none
  | some (front, back) => do
    let high ← parseSide? (fun cs => (pieces ':' cs).mapM parseGroup?) front
    let low ← parseSide? (fun cs => parseGroups? (pieces ':' cs)) back
    if high.length + low.length ≤ 7 then
      return ofGroups (high ++ List.replicate (8 - (high.length + low.length)) 0 ++ low)
    else none

/-- The address of a text. -/
def parse? (s : String) : Option Ip :=
  match parseV4? s.toList with
  | some n => some (v4 (BitVec.ofNat 32 n))
  | none => (parseV6? s.toList).map fun n => v6 (BitVec.ofNat 128 n)

example : (parse? "1:0:0:2:0:0:0:3").map render = some "1:0:0:2::3" := by decide +kernel
example : (parse? "::FFFF:10.0.0.1").map render = some "::ffff:10.0.0.1" := by decide +kernel

end Ip
end QueryRouting
