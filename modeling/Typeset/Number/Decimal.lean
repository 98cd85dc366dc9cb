import Typeset.Number.Digits
import Typeset.Text.Blank
import Typeset.Text.Digit

/-!
# Decimal numbers

A decimal is a sign, a coefficient and an exponent of ten, so that `1.50` and
`1.5` are two decimals of one value; there are also infinities and two kinds of
what is no number, with an optional payload. It is written positionally while
the exponent is not positive and the first digit stands at most six places
behind the point, and else with an exponent.
-/

namespace Typeset.Number

inductive Decimal where
  | finite (negative : Bool) (coefficient : Nat) (exponent : Int)
  | infinite (negative : Bool)
  | notANumber (negative signals : Bool) (payload : Nat)
  deriving DecidableEq

namespace Decimal

/-- A sign in front of a text, and the text behind it. -/
def takeSign : List Char → Bool × List Char
  | '-' :: rest => (true, rest)
  | '+' :: rest => (false, rest)
  | chars => (false, chars)

/-- The digits at the start of a text, and the text behind them. -/
def takeDigits (chars : List Char) : List Char × List Char :=
  (chars.takeWhile Char.isDigit, chars.dropWhile Char.isDigit)

/-- The number that digits spell. -/
def value (chars : List Char) : Nat :=
  chars.foldl (fun value digit => value * 10 + (digit.toNat - '0'.toNat)) 0

def exponent? : List Char → Option Int
  | [] => some 0
  | mark :: rest =>
      let (negative, chars) := takeSign rest
      if mark = 'e' ∧ chars ≠ [] ∧ chars.all Char.isDigit then
        some (if negative then -(value chars : Int) else value chars)
      else none

/-- The finite decimal that a text without sign spells. -/
def number? (negative : Bool) (chars : List Char) : Option Decimal := do
  let (whole, rest) := takeDigits chars
  let (places, rest) := match rest with
    | '.' :: rest => takeDigits rest
    | rest => ([], rest)
  if whole = [] ∧ places = [] then none
  else
    let exponent ← exponent? rest
    return .finite negative (value (whole ++ places)) (exponent - places.length)

/-- The special decimal that a text without sign spells. -/
def special? (negative : Bool) (chars : List Char) : Option Decimal :=
  let payload (signals : Bool) (rest : List Char) : Option Decimal :=
    if rest.all Char.isDigit then some (.notANumber negative signals (value rest)) else none
  match chars with
  | ['i', 'n', 'f'] | ['i', 'n', 'f', 'i', 'n', 'i', 't', 'y'] => some (.infinite negative)
  | 'n' :: 'a' :: 'n' :: rest => payload false rest
  | 's' :: 'n' :: 'a' :: 'n' :: rest => payload true rest
  | _ => none

/-- A character as the grammar of decimals sees it: digits of all scripts are alike, case is not. -/
def plainChar (char : Char) : Char :=
  match Text.decimalValue? char with
  | some digit => Char.ofNat ('0'.toNat + digit)
  | none => char.toLower

/-- The greatest exponent of ten that the first digit of a decimal may stand for. -/
def maxExponent : Int := 999999999999999999

/-- The least exponent of ten that the last digit of a decimal may stand for. -/
def minExponent : Int := -1999999999999999997

/-- Whether the digits of a decimal stand within the limits. -/
def isWithinLimits : Decimal → Bool
  | .finite _ coefficient exponent =>
      minExponent ≤ exponent && exponent + (digits coefficient).length - 1 ≤ maxExponent
  | _ => true

/-- The decimal that a text spells; underscores and blanks at its ends do not matter. -/
def parse? (text : String) : Option Decimal :=
  let chars := ((Text.trimBlank text.toList).filter (· ≠ '_')).map plainChar
  let (negative, chars) := takeSign chars
  (number? negative chars <|> special? negative chars).filter isWithinLimits

/-- The text of a finite decimal without its sign. -/
def unsignedText (coefficient : Nat) (exponent : Int) : List Char :=
  let all := digits coefficient
  let before := exponent + all.length
  let point := if exponent ≤ 0 ∧ -6 < before then before else 1
  let mantissa :=
    if point ≤ 0 then '0' :: '.' :: List.replicate (-point).toNat '0' ++ all
    else if all.length ≤ point.toNat then all ++ List.replicate (point.toNat - all.length) '0'
    else all.take point.toNat ++ '.' :: all.drop point.toNat
  let scale := before - point
  if scale = 0 then mantissa
  else withScale mantissa scale
where
  /-- A mantissa with a signed exponent. -/
  withScale (mantissa : List Char) (scale : Int) : List Char :=
    mantissa ++ 'E' :: (if scale < 0 then '-' else '+') :: digits scale.natAbs

def render : Decimal → String
  | .finite negative coefficient exponent => signed negative (unsignedText coefficient exponent)
  | .infinite negative => signed negative "Infinity".toList
  | .notANumber negative signals payload =>
      let word := if signals then "sNaN".toList else "NaN".toList
      signed negative (word ++ if payload = 0 then [] else digits payload)
where
  /-- A text with a sign in front when it is negative. -/
  signed (negative : Bool) (chars : List Char) : String :=
    String.ofList (if negative then '-' :: chars else chars)

end Decimal

end Typeset.Number
