import Typeset.Number.Binary64

/-!
# Numbers with fixed places

A double written with a fixed number of places is its exact value rounded once,
a half to the even neighbour. A negative number that rounds to zero keeps its
sign.
-/

namespace Typeset.Number

/-- A number of units in the last place, with the point before so many digits. -/
def placePoint (places units : Nat) : List Char :=
  let all := padDigits (places + 1) (digits units)
  let whole := all.take (all.length - places)
  if places = 0 then whole else whole ++ '.' :: all.drop (all.length - places)

def Binary64.renderFixed (places : Nat) : Binary64 → String
  | .notANumber => "nan"
  | .infinite negative => if negative then "-inf" else "inf"
  | .finite negative mantissa exponent =>
      let (numerator, denominator) := fraction mantissa exponent
      let unsigned := placePoint places (roundDiv (numerator * tenTo places) denominator)
      String.ofList (if negative then '-' :: unsigned else unsigned)

end Typeset.Number
