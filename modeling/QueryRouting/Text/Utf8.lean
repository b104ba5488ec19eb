import QueryRouting.Bytes.BigEndian

/-!
# Text as UTF-8

The encoding form of Unicode in bytes, with the position and the kind of the
first fault of a byte string that is not well formed.  A lead byte fixes how many
bytes follow it and which values the second byte may take; that rules out
overlong forms, surrogates and numbers above `10FFFF`.

## Main definitions

* `Utf8.encode s` — the bytes of a text.
* `Utf8.decode bs` — the text, or the first fault.
* `Utf8.Fault` — a sequence that no continuation mends, or one that the input cuts off.
* `Utf8.isAscii bs` — whether every byte is below `80`.
-/

namespace QueryRouting
namespace Utf8

/-- Why a byte string is not well-formed UTF-8.  `start` is the length of the
longest well-formed front part. -/
inductive Fault where
  /-- The `length` bytes from `start` begin no well-formed sequence. -/
  | invalid (length start : Nat)
  /-- The input ends inside the sequence that begins at `start`. -/
  | incomplete (start : Nat)
  deriving DecidableEq, Repr

/-- The description of a fault. -/
def Fault.message : Fault → String
  | .invalid length start => s!"invalid utf-8 sequence of {length} bytes from index {start}"
  | .incomplete start => s!"incomplete utf-8 byte sequence from index {start}"

/-- The bytes of one character. -/
def encodeChar (c : Char) : Bytes :=
  let n := c.toNat
  if n < 0x80 then [UInt8.ofNat n]
  else if n < 0x800 then [UInt8.ofNat (0xC0 + n / 64), UInt8.ofNat (0x80 + n % 64)]
  else if n < 0x10000 then
    [UInt8.ofNat (0xE0 + n / 4096), UInt8.ofNat (0x80 + n / 64 % 64), UInt8.ofNat (0x80 + n % 64)]
  else
    [UInt8.ofNat (0xF0 + n / 262144), UInt8.ofNat (0x80 + n / 4096 % 64),
      UInt8.ofNat (0x80 + n / 64 % 64), UInt8.ofNat (0x80 + n % 64)]

/-- The bytes of a run of characters. -/
def encodeChars (cs : List Char) : Bytes := cs.flatMap encodeChar

/-- The bytes of a text. -/
def encode (s : String) : Bytes := encodeChars s.toList

/-- The values that the byte after a lead byte may take, as inclusive bounds;
`none` for a byte that leads no sequence of several bytes. -/
def secondRange (lead : Nat) : Option (Nat × Nat) :=
  if lead < 0xC2 then none
  else if lead < 0xE0 then some (0x80, 0xBF)
  else if lead = 0xE0 then some (0xA0, 0xBF)
  else if lead = 0xED then some (0x80, 0x9F)
  else if lead < 0xF0 then some (0x80, 0xBF)
  else if lead = 0xF0 then some (0x90, 0xBF)
  else if lead < 0xF4 then some (0x80, 0xBF)
  else if lead = 0xF4 then some (0x80, 0x8F)
  else none

/-- Whether a byte continues a sequence. -/
def isContinuation (b : UInt8) : Bool := 0x80 ≤ b.toNat && b.toNat ≤ 0xBF

/-- The characters of the bytes from position `start` on. -/
def decodeFrom (start : Nat) : Bytes → Except Fault (List Char)
  | [] => .ok []
  | b :: rest =>
    if b.toNat < 0x80 then
      (Char.ofNat b.toNat :: ·) <$> decodeFrom (start + 1) rest
    else match secondRange b.toNat with
      | none => .error (.invalid 1 start)
      | some (low, high) =>
        match rest with
        | [] => .error (.incomplete start)
        | c :: rest =>
          if !(low ≤ c.toNat && c.toNat ≤ high) then .error (.invalid 1 start)
          -- A lead byte below `E0` has one byte after it, one below `F0` two, any other three.
          else if b.toNat < 0xE0 then
            (Char.ofNat ((b.toNat - 0xC0) * 64 + (c.toNat - 0x80)) :: ·) <$>
              decodeFrom (start + 2) rest
          else match rest with
            | [] => .error (.incomplete start)
            | d :: rest =>
              if !isContinuation d then .error (.invalid 2 start)
              else if b.toNat < 0xF0 then
                (Char.ofNat ((b.toNat - 0xE0) * 4096 + (c.toNat - 0x80) * 64
                  + (d.toNat - 0x80)) :: ·) <$> decodeFrom (start + 3) rest
              else match rest with
                | [] => .error (.incomplete start)
                | e :: rest =>
                  if !isContinuation e then .error (.invalid 3 start)
                  else
                    (Char.ofNat ((b.toNat - 0xF0) * 262144 + (c.toNat - 0x80) * 4096
                      + (d.toNat - 0x80) * 64 + (e.toNat - 0x80)) :: ·) <$>
                      decodeFrom (start + 4) rest

/-- The text of a byte string, or its first fault. -/
def decode (bs : Bytes) : Except Fault String := String.ofList <$> decodeFrom 0 bs

/-- Whether every byte stands for an ASCII character. -/
def isAscii (bs : Bytes) : Bool := bs.all (·.toNat < 0x80)

end Utf8
end QueryRouting
