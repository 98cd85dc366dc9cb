/-!
# Decimal digits of numbers

Natural numbers as digits of base ten, padded and grouped as reports need them,
and division to the nearest whole number with halves to the even neighbour.
-/

namespace Typeset.Number

/-- Two to a power. -/
def twoTo (exponent : Nat) : Nat :=
  Nat.pow 2 exponent

/-- Ten to a power. -/
def tenTo (exponent : Nat) : Nat :=
  Nat.pow 10 exponent

/-- The digits of a number in base ten. -/
def digits (value : Nat) : List Char :=
  Nat.toDigits 10 value

/-- The number of digits of a number in base ten; zero has one. -/
def digitCount (value : Nat) : Nat :=
  (digits value).length

/-- The most digits of an integer that is read or written in base ten. -/
def maxIntegerDigits : Nat := 4300

/-- Whether an integer is short enough to be written. -/
def isWritten (value : Int) : Bool :=
  digitCount value.natAbs ≤ maxIntegerDigits

/-- What is said of an integer that is too long to be written. -/
def unwrittenMessage : String :=
  s!"Exceeds the limit ({maxIntegerDigits} digits) for integer string conversion; " ++
    "use sys.set_int_max_str_digits() to increase the limit"

/-- Digits with zeros in front, up to a width. -/
def padDigits (width : Nat) (chars : List Char) : List Char :=
  List.replicate (width - chars.length) '0' ++ chars

/-- A number with at least so many digits. -/
def padded (width value : Nat) : String :=
  String.ofList (padDigits width (digits value))

/-- Digits given from the last on, with a comma after every third that another follows. -/
def groupReversed : List Char → List Char
  | first :: second :: third :: next :: rest =>
      first :: second :: third :: ',' :: groupReversed (next :: rest)
  | chars => chars

/-- A number with its digits in groups of three. -/
def grouped (value : Nat) : String :=
  String.ofList (groupReversed (digits value).reverse).reverse

/-- The whole number nearest to a fraction; a half goes to the even neighbour. -/
def roundDiv (numerator denominator : Nat) : Nat :=
  let below := numerator / denominator
  let excess := 2 * (numerator % denominator)
  if excess < denominator ∨ (excess = denominator ∧ below % 2 = 0) then below else below + 1

/--
The place of the first digit of a positive fraction: the power of ten above the
fraction, which is at least a tenth of that power.
-/
def magnitude (numerator denominator : Nat) : Int :=
  if denominator ≤ numerator then digitCount (numerator / denominator)
  else 1 - (digitCount (denominator / numerator) : Int)

end Typeset.Number
