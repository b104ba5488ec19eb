import QueryRouting.Bytes.Hex

/-!
# Writing JSON

JSON texts without blanks.  The quote, the reverse solidus and the control
characters below `20` are escaped; every other character stands for itself.

## Main definitions

* `Json.quote` — a string.
* `Json.writeObject` — an object, from the texts of its members' values.
-/

namespace QueryRouting
namespace Json

/-- How one character is written in a string. -/
def escape (c : Char) : List Char :=
  match c with
  | '"' => ['\\', '"']
  | '\\' => ['\\', '\\']
  | '\x08' => ['\\', 'b']
  | '\x0c' => ['\\', 'f']
  | '\n' => ['\\', 'n']
  | '\r' => ['\\', 'r']
  | '\t' => ['\\', 't']
  | c => if c.toNat < 0x20 then '\\' :: 'u' :: Hex.fixed 4 c.toNat else [c]

/-- A string. -/
def quote (s : String) : String := String.ofList ('"' :: s.toList.flatMap escape ++ ['"'])

/-- An object with the given members, each the text of a value. -/
def writeObject (members : List (String × String)) : String :=
  let body := ",".intercalate (members.map fun (key, value) => quote key ++ ":" ++ value)
  "\x7b" ++ body ++ "\x7d"

end Json
end QueryRouting
