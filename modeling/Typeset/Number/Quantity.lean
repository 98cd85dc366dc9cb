import Typeset.Number.Binary64
import Typeset.Number.Decimal

/-!
# Quantities

Whole numbers, doubles and decimals are compared by the quantity that they stand
for, exactly: a finite quantity is a signed fraction times a power of ten. What
is no number is neither below, nor above, nor equal to anything.
-/

namespace Typeset.Number

inductive Quantity where
  | infinite (negative : Bool)
  | finite (negative : Bool) (numerator denominator : Nat) (tens : Int)
  | undefined

namespace Quantity

def ofInt (value : Int) : Quantity :=
  .finite (decide (value < 0)) value.natAbs 1 0

def ofBinary64 : Binary64 → Quantity
  | .notANumber => .undefined
  | .infinite negative => .infinite negative
  | .finite negative mantissa exponent =>
      let (numerator, denominator) := Binary64.fraction mantissa exponent
      .finite negative numerator denominator 0

def ofDecimal : Decimal → Quantity
  | .finite negative coefficient exponent => .finite negative coefficient 1 exponent
  | .infinite negative => .infinite negative
  | .notANumber .. => .undefined

/--
Compare two positive fractions with their powers of ten. Their places are
compared first, so that no power is written out that decides nothing.
-/
def compareSizes (numerator denominator : Nat) (tens : Int) (numerator' denominator' : Nat)
    (tens' : Int) : Ordering :=
  let place := magnitude numerator denominator + tens
  let place' := magnitude numerator' denominator' + tens'
  if place + 1 < place' then .lt
  else if place' + 1 < place then .gt
  else
    compare (numerator * denominator' * tenTo (tens - tens').toNat)
      (numerator' * denominator * tenTo (tens' - tens).toNat)

/-- Compare two quantities, unless one is undefined. -/
def compare? : Quantity → Quantity → Option Ordering
  | .undefined, _ | _, .undefined => none
  | .infinite negative, .infinite negative' => some (compare negative' negative)
  | .infinite negative, .finite .. => some (if negative then .lt else .gt)
  | .finite .., .infinite negative => some (if negative then .gt else .lt)
  | .finite negative numerator denominator tens, .finite negative' numerator' denominator' tens' =>
      some <|
        match decide (numerator = 0), decide (numerator' = 0) with
        | true, true => .eq
        | true, false => if negative' then .gt else .lt
        | false, true => if negative then .lt else .gt
        | false, false =>
            match negative, negative' with
            | true, false => .lt
            | false, true => .gt
            | false, false =>
                compareSizes numerator denominator tens numerator' denominator' tens'
            | true, true =>
                compareSizes numerator' denominator' tens' numerator denominator tens

/-- Whether two quantities are equal. -/
def same (left right : Quantity) : Bool :=
  left.compare? right == some .eq

def isBelow (left right : Quantity) : Bool :=
  left.compare? right == some .lt

end Quantity

end Typeset.Number
