/-!
# UTF-8

The byte form of text and its reading. A text is a list of scalar values, so
each has a byte form. A character takes one to four bytes; a sequence is read only
when it is the shortest for its code point and the code point is a scalar value,
so that a list of bytes is the form of at most one text. Positions in a text are
counted in bytes of this form.
-/

namespace Typeset

/-- A list of bytes: the content of a file. -/
abbrev Bytes := List UInt8

namespace Text.Utf8

def byte (value : Nat) : UInt8 :=
  UInt8.ofNat value

/-- The byte that carries six low bits of a code point after the first byte. -/
def continuation (code : Nat) : UInt8 :=
  byte (0x80 + code % 64)

def encodeChar (char : Char) : Bytes :=
  let code := char.toNat
  if code < 0x80 then [byte code]
  else if code < 0x800 then [byte (0xC0 + code / 64), continuation code]
  else if code < 0x10000 then
    [byte (0xE0 + code / 4096), continuation (code / 64), continuation code]
  else
    [byte (0xF0 + code / 262144), continuation (code / 4096), continuation (code / 64),
     continuation code]

def encode (chars : List Char) : Bytes :=
  chars.flatMap encodeChar

/-- The six bits of a byte that continues a sequence. -/
def payload? (byte : UInt8) : Option Nat :=
  if 0x80 ≤ byte.toNat ∧ byte.toNat < 0xC0 then some (byte.toNat - 0x80) else none

/-- The character of a code point that needs the length at which it was written. -/
def scalar? (least code : Nat) : Option Char :=
  if least ≤ code ∧ code.isValidChar then some (Char.ofNat code) else none

/-- The first character of some bytes, and the bytes after it. -/
def decodeChar? : Bytes → Option (Char × Bytes)
  | [] => none
  | first :: rest =>
      let lead := first.toNat
      if lead < 0x80 then some (Char.ofNat lead, rest)
      else if lead < 0xC0 then none
      else if lead < 0xE0 then
        match rest with
        | second :: rest => do
            let char ← scalar? 0x80 ((lead - 0xC0) * 64 + (← payload? second))
            return (char, rest)
        | _ => none
      else if lead < 0xF0 then
        match rest with
        | second :: third :: rest => do
            let char ← scalar? 0x800
              (((lead - 0xE0) * 64 + (← payload? second)) * 64 + (← payload? third))
            return (char, rest)
        | _ => none
      else
        match rest with
        | second :: third :: fourth :: rest => do
            let char ← scalar? 0x10000
              ((((lead - 0xF0) * 64 + (← payload? second)) * 64 + (← payload? third)) * 64
                + (← payload? fourth))
            return (char, rest)
        | _ => none

/-- The text of some bytes, one character in each of so many steps at most. -/
def decodeWithin : Nat → Bytes → Option (List Char)
  | _, [] => some []
  | 0, _ :: _ => none
  | steps + 1, bytes => do
      let (char, rest) ← decodeChar? bytes
      let chars ← decodeWithin steps rest
      return char :: chars

/-- The text of which some bytes are the form; every character takes at least one byte. -/
def decode? (bytes : Bytes) : Option (List Char) :=
  decodeWithin bytes.length bytes

/-- The number of bytes that a text takes. -/
def length (chars : List Char) : Nat :=
  (encode chars).length

/-- The byte-order mark that some editors write first. -/
def byteOrderMark : Bytes :=
  [0xEF, 0xBB, 0xBF]

/-- The text of a source file: one leading byte-order mark is no part of it. -/
def decodeSource? (bytes : Bytes) : Option (List Char) :=
  match bytes with
  | 0xEF :: 0xBB :: 0xBF :: rest => decode? rest
  | bytes => decode? bytes

end Text.Utf8

end Typeset
