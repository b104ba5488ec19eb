import QueryRouting.Bytes.Hex
import QueryRouting.Text.Numeral

/-!
# The tokens of a JSON text

A text is read character by character in one of three states: between tokens,
inside a string, or inside a bare token, which is a number or one of the three
literal names.  A string is kept as the pieces it was written with, so that a half
of a surrogate pair can stand in a string that nobody asks for.

## Main definitions

* `Json.Piece`, `Json.textOf?` — the pieces of a string, and its text when it has one.
* `Json.Token` — the tokens.
* `Json.tokens?` — the tokens of a text.
-/

namespace QueryRouting
namespace Json

/-- A piece of a written string. -/
inductive Piece where
  /-- A character, or an escape that stands for one. -/
  | char (c : Char)
  /-- An escape that gives a UTF-16 code unit. -/
  | unit (n : Nat)
  deriving DecidableEq, Repr

/-- A token of a JSON text. -/
inductive Token where
  | openObject
  | closeObject
  | openArray
  | closeArray
  | colon
  | comma
  | null
  | bool (b : Bool)
  | number (literal : List Char)
  | string (pieces : List Piece)
  deriving DecidableEq, Repr

/-! ### Strings -/

/-- Whether a code unit is the first half of a pair. -/
def isHighSurrogate (n : Nat) : Bool := 0xD800 ≤ n && n ≤ 0xDBFF

/-- Whether a code unit is the second half of a pair. -/
def isLowSurrogate (n : Nat) : Bool := 0xDC00 ≤ n && n ≤ 0xDFFF

/-- The characters of pieces that follow the first half of a pair, if there is one. -/
def charsAfter? : Option Nat → List Piece → Option (List Char)
  | none, [] => some []
  | none, .char c :: rest => (c :: ·) <$> charsAfter? none rest
  | none, .unit n :: rest =>
    if isHighSurrogate n then charsAfter? (some n) rest
    else if isLowSurrogate n then none
    else (Char.ofNat n :: ·) <$> charsAfter? none rest
  | some high, .unit low :: rest =>
    if isLowSurrogate low then
      (Char.ofNat (0x10000 + (high - 0xD800) * 0x400 + (low - 0xDC00)) :: ·) <$>
        charsAfter? none rest
    else none
  | some _, _ => none

/-- The text of a string; `none` when a half of a surrogate pair stands alone. -/
def textOf? (pieces : List Piece) : Option String := String.ofList <$> charsAfter? none pieces

/-- The character that a reverse solidus and `c` stand for. -/
def escaped? (c : Char) : Option Char :=
  match c with
  | '"' => some '"'
  | '\\' => some '\\'
  | '/' => some '/'
  | 'b' => some '\x08'
  | 'f' => some '\x0c'
  | 'n' => some '\n'
  | 'r' => some '\r'
  | 't' => some '\t'
  | _ => none

/-! ### Bare tokens -/

/-- Whether a character can be part of a bare token. -/
def isBare (c : Char) : Bool := c.isAlphanum || c = '-' || c = '+' || c = '.'

/-- A sign, or none, and digits. -/
def isExponent : List Char → Bool
  | '+' :: cs | '-' :: cs | cs => !cs.isEmpty && cs.all Numeral.isDigit

/-- What may follow the digits of a fraction, or of a number without one. -/
def isScale : List Char → Bool
  | [] => true
  | 'e' :: cs | 'E' :: cs => isExponent cs
  | _ => false

/-- What may follow the whole part of a number. -/
def isFraction : List Char → Bool
  | '.' :: cs => !(cs.takeWhile Numeral.isDigit).isEmpty && isScale (cs.dropWhile Numeral.isDigit)
  | cs => isScale cs

/-- A whole part without zeros before it, and what may follow. -/
def isUnsigned (cs : List Char) : Bool :=
  let whole := cs.takeWhile Numeral.isDigit
  !whole.isEmpty && (whole.head? ≠ some '0' || whole = ['0'])
    && isFraction (cs.dropWhile Numeral.isDigit)

/-- Whether a bare token is a number. -/
def isNumber : List Char → Bool
  | '-' :: cs | cs => isUnsigned cs

/-- The token of the characters of a bare token. -/
def bareToken? (cs : List Char) : Option Token :=
  if cs = "null".toList then some .null
  else if cs = "true".toList then some (.bool true)
  else if cs = "false".toList then some (.bool false)
  else if isNumber cs then some (.number cs)
  else none

/-! ### The scanner -/

/-- Where the scanner stands, with what it has read of the current token, the
latest first. -/
inductive Place where
  | between
  | inBare (read : List Char)
  | inString (read : List Piece)

/-- What a character between tokens begins: tokens complete in themselves, and the
place after it. -/
def begin? (c : Char) : Option (List Token × Place) :=
  match c with
  | ' ' | '\n' | '\t' | '\r' => some ([], .between)
  | '\x7b' => some ([.openObject], .between)
  | '\x7d' => some ([.closeObject], .between)
  | '[' => some ([.openArray], .between)
  | ']' => some ([.closeArray], .between)
  | ':' => some ([.colon], .between)
  | ',' => some ([.comma], .between)
  | '"' => some ([], .inString [])
  | c => if isBare c then some ([], .inBare [c]) else none

/-- The tokens of the rest of a text. -/
def scan : Place → List Char → Option (List Token)
  | .between, [] => some []
  | .inBare read, [] => (fun token => [token]) <$> bareToken? read.reverse
  | .inString _, [] => none
  | .between, c :: rest => do
    let (done, place) ← begin? c
    return done ++ (← scan place rest)
  | .inBare read, c :: rest =>
    if isBare c then scan (.inBare (c :: read)) rest
    else do
      let token ← bareToken? read.reverse
      let (done, place) ← begin? c
      return token :: done ++ (← scan place rest)
  | .inString read, '"' :: rest => (.string read.reverse :: ·) <$> scan .between rest
  | .inString read, '\\' :: 'u' :: a :: b :: c :: d :: rest => do
    let n ← Hex.value? [a, b, c, d]
    scan (.inString (.unit n :: read)) rest
  -- An escape of one character; `u` without four digits is none.
  | .inString read, '\\' :: c :: rest => do
    let c ← escaped? c
    scan (.inString (.char c :: read)) rest
  | .inString read, c :: rest =>
    if c = '\\' ∨ c.toNat < 0x20 then none else scan (.inString (.char c :: read)) rest

/-- The tokens of a text. -/
def tokens? (s : String) : Option (List Token) := scan .between s.toList

end Json
end QueryRouting
