import Typeset.Number.Real
import Typeset.Text.Case
import Typeset.Text.Split
import Typeset.Yaml.Token

/-!
# Numerals of YAML

Integers are written in base two, eight, ten or sixteen, or in base sixty with
colons between the digits. Numbers with a fraction are decimal, or in base sixty.
Underscores do not matter. The sign of a numeral stands before its base is told, and
the digits behind it are read like a number of their own, which may have a sign and
blanks again.
-/

namespace Typeset.Yaml.Numeral

/-- A sign that is taken off a numeral, and the numeral behind it, without underscores. -/
def takeSign (chars : List Char) : Except Fault (Bool × List Char) :=
  match chars.filter (· ≠ '_') with
  | [] => .error .noDigits
  | '-' :: rest => .ok (true, rest)
  | '+' :: rest => .ok (false, rest)
  | rest => .ok (false, rest)

/-- The integer that a text spells in a base. -/
def inBase (base : Nat) (chars : List Char) : Except Fault Int :=
  match Number.integerIn? base chars with
  | some value => .ok value
  | none => .error .number

/-- The integer that digits in base sixty stand for. -/
def sixtyBased (digits : List Int) : Int :=
  digits.foldl (fun number digit => number * 60 + digit) 0

/-- The integer that a numeral without sign spells. -/
def unsignedInteger : List Char → Except Fault Int
  | [] => .error .noDigits
  | '0' :: 'b' :: digits => inBase 2 digits
  | '0' :: 'x' :: digits => inBase 16 digits
  | ['0'] => .ok 0
  | '0' :: digits => inBase 8 ('0' :: digits)
  | digits =>
      if ':' ∈ digits then sixtyBased <$> (Text.splitAll (· == ':') digits).mapM (inBase 10)
      else inBase 10 digits

def integer (text : String) : Except Fault Int := do
  let (negative, chars) ← takeSign text.toList
  let value ← unsignedInteger chars
  return if negative then -value else value

/-- The double that a text spells. -/
def real (chars : List Char) : Except Fault Number.Binary64 :=
  match Number.real? chars with
  | some value => .ok value
  | none => .error .number

/-- The double that digits in base sixty stand for, from the last one on; every step is rounded. -/
def sixtyBasedReal (base : Nat) (sum : Number.Binary64) : List Number.Binary64 → Number.Binary64
  | [] => sum
  | digit :: digits => sixtyBasedReal (base * 60) (sum.add (digit.scale base)) digits

/-- The double that a numeral without sign spells. -/
def unsignedReal (chars : List Char) : Except Fault Number.Binary64 :=
  match String.ofList chars with
  | ".inf" => .ok (.infinite false)
  | ".nan" => .ok .notANumber
  | _ =>
      if ':' ∈ chars then do
        let digits ← (Text.splitAll (· == ':') chars).mapM real
        return sixtyBasedReal 1 (.ofInt 0) digits.reverse
      else real chars

def double (text : String) : Except Fault Number.Binary64 := do
  let (negative, chars) ← takeSign (Text.lower text).toList
  let value ← unsignedReal chars
  return if negative then value.negate else value

end Typeset.Yaml.Numeral
