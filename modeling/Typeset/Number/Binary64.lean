import Typeset.Number.Digits

/-!
# Double-precision numbers

A finite double is a sign and a value `mantissa · 2 ^ exponent`; the mantissa has
53 bits unless the exponent is the least one. All arithmetic on doubles is done
exactly on these numbers and rounded once.
-/

namespace Typeset.Number

/-- A double-precision number. -/
inductive Binary64 where
  | notANumber
  | infinite (negative : Bool)
  | finite (negative : Bool) (mantissa : Nat) (exponent : Int)
  deriving DecidableEq

namespace Binary64

/-- The least exponent of a finite double. -/
def leastExponent : Int := -1074

/-- The double that sixty-four bits stand for. -/
def ofBits (bits : Nat) : Binary64 :=
  let negative := decide (twoTo 63 ≤ bits)
  let exponentBits : Nat := bits / twoTo 52 % twoTo 11
  let fraction : Nat := bits % twoTo 52
  if exponentBits = 0 then .finite negative fraction leastExponent
  else if exponentBits = 2047 then
    if fraction = 0 then .infinite negative else .notANumber
  else .finite negative (twoTo 52 + fraction) ((exponentBits : Int) - 1075)

/-- The numerator and denominator of `mantissa · 2 ^ exponent`. -/
def fraction (mantissa : Nat) (exponent : Int) : Nat × Nat :=
  (mantissa * twoTo exponent.toNat, twoTo (-exponent).toNat)

/-- A positive or negative fraction rounded to a double, a half to the even mantissa. -/
def round (negative : Bool) (numerator denominator : Nat) : Binary64 :=
  if numerator = 0 then .finite negative 0 leastExponent
  else
    let estimate : Int := (numerator.log2 : Int) - denominator.log2 - 53
    let low := max estimate leastExponent
    let scaled (exponent : Int) : Nat × Nat :=
      (numerator * twoTo (-exponent).toNat, denominator * twoTo exponent.toNat)
    let exponent := if (scaled low).1 / (scaled low).2 < twoTo 53 then low else low + 1
    let mantissa := roundDiv (scaled exponent).1 (scaled exponent).2
    let (mantissa, exponent) :=
      if mantissa = twoTo 53 then (twoTo 52, exponent + 1) else (mantissa, exponent)
    if exponent > 971 then .infinite negative else .finite negative mantissa exponent

/-- An integer rounded to a double. -/
def ofInt (value : Int) : Binary64 :=
  round (decide (value < 0)) value.natAbs 1

/-- A double times a whole number, rounded to a double. -/
def scale (value : Binary64) (factor : Nat) : Binary64 :=
  match value with
  | .finite negative mantissa exponent =>
      let (numerator, denominator) := fraction mantissa exponent
      round negative (numerator * factor) denominator
  | other => other

def negate : Binary64 → Binary64
  | .notANumber => .notANumber
  | .infinite negative => .infinite (!negative)
  | .finite negative mantissa exponent => .finite (!negative) mantissa exponent

/-- A mantissa with its sign, as a whole number of units of a lesser exponent. -/
def inUnits (negative : Bool) (mantissa : Nat) (exponent unit : Int) : Int :=
  let size : Int := mantissa * twoTo (exponent - unit).toNat
  if negative then -size else size

/-- The sum of two doubles, rounded to a double; a sum of zeros is negative if both are. -/
def add : Binary64 → Binary64 → Binary64
  | .notANumber, _ | _, .notANumber => .notANumber
  | .infinite negative, .infinite negative' =>
      if negative = negative' then .infinite negative else .notANumber
  | .infinite negative, _ | _, .infinite negative => .infinite negative
  | .finite negative mantissa exponent, .finite negative' mantissa' exponent' =>
      let unit := min exponent exponent'
      let sum :=
        inUnits negative mantissa exponent unit + inUnits negative' mantissa' exponent' unit
      if sum = 0 then .finite (negative && negative') 0 leastExponent
      else
        let (numerator, denominator) := fraction sum.natAbs unit
        round (decide (sum < 0)) numerator denominator

/-- Whether a double is below a whole number; no number is below or above what is none. -/
def isBelow (value : Binary64) (bound : Nat) : Bool :=
  match value with
  | .notANumber => false
  | .infinite negative => negative
  | .finite negative mantissa exponent =>
      let (numerator, denominator) := fraction mantissa exponent
      if negative then numerator > 0 || bound > 0 else numerator < bound * denominator

end Binary64

end Typeset.Number
