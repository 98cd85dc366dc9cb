import Typeset.Number.Digits
import Typeset.Text.Blank
import Typeset.Text.Digit

/-!
# Reading integers

An integer is written with digits of its base, a single underscore between two of
them at most, one sign before them and blanks around the whole. Decimal digits of
any script count, and the letters from `a` on are the digits from ten on. Bases
two, eight and sixteen may be named by a mark behind the sign. The information
separators do not count as blanks here.
-/

namespace Typeset.Number

/-- Whether a character may stand around a number. -/
def isNumberBlank (char : Char) : Bool :=
  Text.isBlank char && !(0x1C ≤ char.toNat && char.toNat ≤ 0x1F)

/-- A character as numbers see it: decimal digits of all scripts are alike. -/
def plainDigit (char : Char) : Char :=
  match Text.decimalValue? char with
  | some digit => Char.ofNat ('0'.toNat + digit)
  | none => char

/-- A text as numbers see it, without the blanks around it. -/
def trimNumber (chars : List Char) : List Char :=
  (Text.dropEndWhile isNumberBlank (chars.dropWhile isNumberBlank)).map plainDigit

def digitValue? (base : Nat) (char : Char) : Option Nat :=
  let lower := char.toLower
  let value? :=
    if char.isDigit then some (char.toNat - '0'.toNat)
    else if 'a' ≤ lower ∧ lower ≤ 'z' then some (lower.toNat - 'a'.toNat + 10)
    else none
  value?.filter (· < base)

/-- The values of digits; a single underscore may stand between two. -/
def digitValues? (base : Nat) : List Char → Option (List Nat)
  | [] => none
  | [char] => (digitValue? base char).map ([·])
  | char :: '_' :: rest => do
      let value ← digitValue? base char
      return value :: (← digitValues? base rest)
  | char :: rest => do
      let value ← digitValue? base char
      return value :: (← digitValues? base rest)

/-- The number that digits of a base spell, when they are not too many. -/
def natural? (base : Nat) (chars : List Char) : Option Nat := do
  let values ← digitValues? base chars
  if base = 10 ∧ maxIntegerDigits < values.length then none
  else some (values.foldl (fun number value => number * base + value) 0)

def baseMark? : Nat → Option Char
  | 2 => some 'b'
  | 8 => some 'o'
  | 16 => some 'x'
  | _ => none

/-- Digits without the mark of their base. -/
def dropBaseMark (base : Nat) (chars : List Char) : List Char :=
  match chars with
  | '0' :: mark :: rest =>
      if baseMark? base = some mark.toLower then
        if rest.head? = some '_' then rest.drop 1 else rest
      else chars
  | _ => chars

def integerIn? (base : Nat) (text : List Char) : Option Int :=
  match trimNumber text with
  | '-' :: digits => (natural? base (dropBaseMark base digits)).map fun value => -(value : Int)
  | '+' :: digits => (natural? base (dropBaseMark base digits)).map Int.ofNat
  | digits => (natural? base (dropBaseMark base digits)).map Int.ofNat

def integer? (text : String) : Option Int :=
  integerIn? 10 text.toList

end Typeset.Number
