import QueryRouting.Bytes.Hex
import QueryRouting.Text.ExtendingMark
import QueryRouting.Text.Invisible

/-!
# Quoted text

Text between double quotes, as diagnostics show it.  Four characters and the null
character have short escapes.  A character that a reader would not see as one of its
own, because it is invisible or shown on the one before, is written by its code
point.  Every other character, the apostrophe included, stands for itself.

## Main definitions

* `Quoted.isShown c` — whether a character can stand for itself.
* `Quoted.escape c` — how one character is written.
* `Quoted.encode s` — the quoted form of a text.
-/

namespace QueryRouting
namespace Quoted

/-- Whether a reader sees a character as one of its own. -/
def isShown (c : Char) : Bool :=
  -- Among the ASCII characters these are the space and the printing ones.
  if c.toNat < 0x80 then 0x20 ≤ c.toNat && c.toNat < 0x7F
  else !(Invisible.isInvisible c || ExtendingMark.isExtending c)

/-- How one character is written between the quotes. -/
def escape (c : Char) : List Char :=
  if c = '"' ∨ c = '\\' then ['\\', c]
  else if c = '\n' then ['\\', 'n']
  else if c = '\t' then ['\\', 't']
  else if c = '\r' then ['\\', 'r']
  else if c = '\x00' then ['\\', '0']
  else if isShown c then [c]
  else ['\\', 'u', '\x7b'] ++ Hex.short 6 c.toNat ++ ['\x7d']

/-- The quoted form of a text. -/
def encode (s : String) : String := String.ofList ('"' :: s.toList.flatMap escape ++ ['"'])

example : escape 'é' = ['é'] := by decide +kernel
example : escape '\u0301' = "\\u\x7b301\x7d".toList := by decide +kernel
example : escape '\u3164' = "\\u\x7b3164\x7d".toList := by decide +kernel

end Quoted
end QueryRouting
