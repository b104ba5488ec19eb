import QueryRouting.Json.Token

/-!
# JSON values

The value of a JSON text as a tree.  The members of an object are kept in their
order, repeated ones included, and numbers and strings as they were written; what
they mean is for their reader to say.

The tree is built by a machine with a stack that takes one token at a time.  The
stack holds the arrays and objects that are open, innermost first.

## Main definitions

* `Json.Tree` — values.
* `Json.Builder.step` — the machine.
* `Json.parse?` — the value of a text that holds exactly one.
* `Json.Tree.text?`, `Json.Tree.word?` — what two kinds of value say.
-/

namespace QueryRouting
namespace Json

/-- A JSON value. -/
inductive Tree where
  | null
  | bool (b : Bool)
  | number (literal : List Char)
  | string (pieces : List Piece)
  | array (items : List Tree)
  | object (members : List (List Piece × Tree))
  deriving Inhabited

namespace Builder

/-- An open array or object, with what it holds so far, the latest first. -/
inductive Frame where
  | array (items : List Tree)
  /-- An object whose next member is the value of `key`. -/
  | object (members : List (List Piece × Tree)) (key : List Piece)

/-- What the next token has to be. -/
inductive State where
  /-- A value. -/
  | value (stack : List Frame)
  /-- The first item of an array, or its end. -/
  | firstItem (stack : List Frame)
  /-- The first key of an object, or its end. -/
  | firstKey (stack : List Frame)
  /-- A key, after the members so far. -/
  | key (members : List (List Piece × Tree)) (stack : List Frame)
  /-- The colon after a key. -/
  | colon (members : List (List Piece × Tree)) (key : List Piece) (stack : List Frame)
  /-- What follows an item of an array. -/
  | afterItem (items : List Tree) (stack : List Frame)
  /-- What follows a member of an object. -/
  | afterMember (members : List (List Piece × Tree)) (stack : List Frame)
  /-- Nothing: the value is complete. -/
  | done (tree : Tree)

/-- The state after a complete value. -/
def complete (tree : Tree) : List Frame → State
  | [] => .done tree
  | .array items :: stack => .afterItem (tree :: items) stack
  | .object members key :: stack => .afterMember ((key, tree) :: members) stack

/-- The state after a token that begins a value. -/
def begin? (stack : List Frame) : Token → Option State
  | .null => some (complete .null stack)
  | .bool b => some (complete (.bool b) stack)
  | .number literal => some (complete (.number literal) stack)
  | .string pieces => some (complete (.string pieces) stack)
  | .openArray => some (.firstItem stack)
  | .openObject => some (.firstKey stack)
  | _ => none

/-- The state after a token. -/
def step : State → Token → Option State
  | .value stack, token => begin? stack token
  | .firstItem stack, .closeArray => some (complete (.array []) stack)
  | .firstItem stack, token => begin? (.array [] :: stack) token
  | .firstKey stack, .closeObject => some (complete (.object []) stack)
  | .firstKey stack, .string key => some (.colon [] key stack)
  | .key members stack, .string key => some (.colon members key stack)
  | .colon members key stack, .colon => some (.value (.object members key :: stack))
  | .afterItem items stack, .comma => some (.value (.array items :: stack))
  | .afterItem items stack, .closeArray => some (complete (.array items.reverse) stack)
  | .afterMember members stack, .comma => some (.key members stack)
  | .afterMember members stack, .closeObject => some (complete (.object members.reverse) stack)
  | _, _ => none

/-- The value at the end of the tokens. -/
def State.tree? : State → Option Tree
  | .done tree => some tree
  | _ => none

end Builder

/-- The value of a text that holds one value and blanks. -/
def parse? (s : String) : Option Tree := do
  let state ← (← tokens? s).foldlM Builder.step (.value [])
  state.tree?

namespace Tree

/-- The text of a string. -/
def text? : Tree → Option String
  | string pieces => textOf? pieces
  | _ => none

/-- The word that names a case without contents: a string, or an object whose one
member has the word as its key and null as its value. -/
def word? : Tree → Option String
  | string pieces => textOf? pieces
  | object [(key, null)] => textOf? key
  | _ => none

end Tree

end Json
end QueryRouting
