import Typeset.Number.Binary64

/-!
# The shortest text of a double

A double is written with the fewest digits that read back as it. The numbers
that read back as a double form an interval around it, whose ends belong to it
when the mantissa is even. On every decimal grid, from one digit on, the two
neighbours of the double are tried; the first grid with a neighbour in the
interval wins, and on it the nearer neighbour, the even one at equal distance.

Positional notation is used from `10 ^ -4` up to below `10 ^ 16`, and a whole
number keeps one zero after its point. Outside, the point follows the first
digit, and the exponent has a sign and at least two digits.
-/

namespace Typeset.Number

/-- Digits of a positive number and the place of its point before or after them. -/
structure Significand where
  digits : List Char
  /-- The number of digits before the point; none is written when it is not positive. -/
  point : Int
  deriving DecidableEq

namespace Shortest

/-- The interval of numbers that read back as a double, over one denominator, and its middle. -/
structure Interval where
  low : Nat
  middle : Nat
  high : Nat
  denominator : Nat
  /-- Whether the ends belong to the interval. -/
  closed : Bool

/-- The interval of a double with a positive mantissa. -/
def interval (mantissa : Nat) (exponent : Int) : Interval :=
  let atPower := mantissa = twoTo 52 ∧ exponent ≠ Binary64.leastExponent
  let unit := twoTo exponent.toNat
  { low := (4 * mantissa - if atPower then 1 else 2) * unit
    middle := 4 * mantissa * unit
    high := (4 * mantissa + 2) * unit
    denominator := 4 * twoTo (-exponent).toNat
    closed := mantissa % 2 = 0 }

/-- Whether the interval holds the fraction of a numerator over a grid's denominator. -/
def Interval.holds (range : Interval) (numerator denominator : Nat) : Bool :=
  let value := numerator * range.denominator
  let low := range.low * denominator
  let high := range.high * denominator
  if range.closed then low ≤ value && value ≤ high else low < value && value < high

/-- The point of a decimal grid that a double is written as, if one reads back as it. -/
def onGrid? (range : Interval) (gridExponent : Int) : Option Nat :=
  let unit := tenTo gridExponent.toNat
  let parts := tenTo (-gridExponent).toNat
  let holds (count : Nat) : Bool := range.holds (count * unit) parts
  let numerator := range.middle * parts
  let denominator := range.denominator * unit
  let below := numerator / denominator
  match holds below, holds (below + 1) with
  | true, true => some (roundDiv numerator denominator)
  | true, false => some below
  | false, true => some (below + 1)
  | false, false => none

/-- Try the grids of `count` digits and more, at most `remaining` of them. -/
def search (range : Interval) (place : Int) : Nat → Nat → Nat × Int
  | _, 0 => (range.middle / range.denominator, 0)
  | count, remaining + 1 =>
      let gridExponent := place - count
      match onGrid? range gridExponent with
      | some value => (value, gridExponent)
      | none => search range place (count + 1) remaining

/-- The digits of a double with a positive mantissa. -/
def significand (mantissa : Nat) (exponent : Int) : Significand :=
  let range := interval mantissa exponent
  let (value, gridExponent) := search range (magnitude range.middle range.denominator) 1 20
  let all := Number.digits value
  let kept := (all.reverse.dropWhile (· == '0')).reverse
  ⟨kept, gridExponent + all.length⟩

end Shortest

/-- Digits with a point after the first, and a signed exponent of at least two digits. -/
def exponentText (number : Significand) : List Char :=
  let exponent := number.point - 1
  let mantissa := match number.digits with
    | first :: second :: rest => first :: '.' :: second :: rest
    | short => short
  let sign := if exponent < 0 then '-' else '+'
  mantissa ++ 'e' :: sign :: padDigits 2 (digits exponent.natAbs)

/-- Digits with their point in place; there is a digit on either side of it. -/
def positionalText (number : Significand) : List Char :=
  let count := number.digits.length
  if number.point ≤ 0 then
    '0' :: '.' :: List.replicate (-number.point).toNat '0' ++ number.digits
  else if count ≤ number.point.toNat then
    number.digits ++ List.replicate (number.point.toNat - count) '0' ++ ['.', '0']
  else number.digits.take number.point.toNat ++ '.' :: number.digits.drop number.point.toNat

/-- The shortest text of a double. -/
def Binary64.render : Binary64 → String
  | .notANumber => "nan"
  | .infinite negative => if negative then "-inf" else "inf"
  | .finite negative mantissa exponent =>
      let unsigned :=
        if mantissa = 0 then ['0', '.', '0']
        else
          let number := Shortest.significand mantissa exponent
          if -4 < number.point ∧ number.point ≤ 16 then positionalText number
          else exponentText number
      String.ofList (if negative then '-' :: unsigned else unsigned)

end Typeset.Number
