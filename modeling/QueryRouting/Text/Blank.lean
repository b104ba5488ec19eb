import QueryRouting.Text.CodeRanges

/-!
# Blank characters

The characters with the Unicode property `White_Space`, and text without them at
either end.

## Main definitions

* `Blank.ranges` — the property, as inclusive ranges of code points.
* `Blank.isBlank c` — membership.
* `Blank.trim s` — the text between the first and the last character that is not blank.
-/

namespace QueryRouting
namespace Blank

/-- The inclusive ranges of code points with the property `White_Space`. -/
def ranges : CodeRanges :=
  [(0x9, 0xD), (0x20, 0x20), (0x85, 0x85), (0xA0, 0xA0), (0x1680, 0x1680), (0x2000, 0x200A),
    (0x2028, 0x2029), (0x202F, 0x202F), (0x205F, 0x205F), (0x3000, 0x3000)]

/-- Whether a character has the property `White_Space`. -/
def isBlank (c : Char) : Bool := ranges.contains c

/-- The characters without the blank ones at either end. -/
def trimChars (cs : List Char) : List Char :=
  ((cs.dropWhile isBlank).reverse.dropWhile isBlank).reverse

/-- The text without the blank characters at either end. -/
def trim (s : String) : String := String.ofList (trimChars s.toList)

example : ranges.isAscending = true := by decide
example : ranges.count = 25 := by decide

end Blank
end QueryRouting
