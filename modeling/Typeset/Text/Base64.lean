import Typeset.Text.Utf8

/-!
# Base 64

Four characters stand for three bytes, with six bits each. Characters that are no
digits do not count. Equals signs fill up the last group where a byte or two are
missing, and nothing counts behind them.
-/

namespace Typeset.Text.Base64

/-- The six bits that a character stands for. -/
def sextet? (char : Char) : Option Nat :=
  if char.isUpper then some (char.toNat - 'A'.toNat)
  else if char.isLower then some (char.toNat - 'a'.toNat + 26)
  else if char.isDigit then some (char.toNat - '0'.toNat + 52)
  else if char = '+' then some 62
  else if char = '/' then some 63
  else none

/-- The byte that a further digit of a group completes, by the digits before it in the group. -/
def completed : List Nat → Nat → Bytes
  | [first], digit => [UInt8.ofNat (first * 4 + digit / 16)]
  | [_, second], digit => [UInt8.ofNat (second % 16 * 16 + digit / 4)]
  | [_, _, third], digit => [UInt8.ofNat (third % 4 * 64 + digit)]
  | _, _ => []

/-- The bytes of a text behind the digits of a group and the signs that fill it up. -/
def decodeFrom? (group : List Nat) (fills : Nat) : List Char → Option Bytes
  | [] => if group = [] then some [] else none
  | char :: rest =>
      if char = '=' then
        let fills := if 2 ≤ group.length then fills + 1 else fills
        if 2 ≤ group.length ∧ 4 ≤ group.length + fills then some []
        else decodeFrom? group fills rest
      else
        match sextet? char with
        | none => decodeFrom? group fills rest
        | some digit =>
            let next := if group.length = 3 then [] else group ++ [digit]
            (decodeFrom? next 0 rest).map (completed group digit ++ ·)

/-- The bytes that a text stands for, if its last group is filled up. -/
def decode? (chars : List Char) : Option Bytes :=
  decodeFrom? [] 0 chars

end Typeset.Text.Base64
