import Typeset.Number.Binary64
import Typeset.Number.Decimal
import Typeset.Number.Integer

/-!
# Reading doubles

A double is written like a decimal number, with decimal digits of any script, an
exponent if there is one, and blanks around the whole; or it is a word for infinity
or for what is no number. A single underscore may stand between two digits. It is read
as the double nearest to it. A number far beyond the range of doubles is settled by its
exponent alone.
-/

namespace Typeset.Number

namespace Binary64

/-- An exponent of ten above which every positive number is out of range. -/
def vastExponent : Int := 400

/-- The double nearest to a decimal number `mantissa · 10 ^ exponent`. -/
def ofDecimal (negative : Bool) (mantissa : Nat) (exponent : Int) : Binary64 :=
  if mantissa = 0 then .finite negative 0 leastExponent
  else if vastExponent < exponent then .infinite negative
  else if exponent < -vastExponent - mantissa.log2 then .finite negative 0 leastExponent
  else round negative (mantissa * tenTo exponent.toNat) (tenTo (-exponent).toNat)

end Binary64

/-- A text without its underscores, `none` if one of them does not stand between two digits. -/
def joinDigits? (before : Option Char) : List Char → Option (List Char)
  | [] => some []
  | '_' :: rest =>
      let between :=
        (before.map Char.isDigit).getD false && (rest.head?.map Char.isDigit).getD false
      if between then joinDigits? (some '_') rest else none
  | char :: rest => (joinDigits? (some char) rest).map (char :: ·)

/-- The double that a text without sign spells. -/
def unsignedReal? (negative : Bool) (chars : List Char) : Option Binary64 :=
  match String.ofList chars with
  | "inf" | "infinity" => some (.infinite negative)
  | "nan" => some .notANumber
  | _ =>
      match Decimal.number? negative chars with
      | some (.finite negative coefficient exponent) =>
          some (.ofDecimal negative coefficient exponent)
      | _ => none

def real? (text : List Char) : Option Binary64 := do
  let joined ← joinDigits? none ((trimNumber text).map Char.toLower)
  let (negative, chars) := Decimal.takeSign joined
  unsignedReal? negative chars

end Typeset.Number
