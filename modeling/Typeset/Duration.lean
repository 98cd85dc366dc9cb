import Typeset.Number.Fixed

/-!
# Durations

A duration as a report shows it: milliseconds below one second, seconds with two
places below one minute, and whole minutes and seconds from there on. Whole
numbers of seconds are exact; only their milliseconds pass through a double.
-/

namespace Typeset

inductive Duration where
  | whole (seconds : Int)
  | real (seconds : Number.Binary64)

namespace Duration

/-- Why a duration has no text. -/
inductive Error where
  | notANumber
  | infinite
  | tooLarge
  deriving DecidableEq

/-- What is said of a duration without text. -/
def Error.message : Error → String
  | notANumber => "cannot convert float NaN to integer"
  | infinite => "cannot convert float infinity to integer"
  | tooLarge => "int too large to convert to float"

def milliseconds (value : Number.Binary64) : String :=
  value.renderFixed 0 ++ "ms"

def minutes (seconds : Nat) : String :=
  s!"{seconds / 60}m {seconds % 60}s"

def render : Duration → Except Error String
  | .whole seconds =>
      if seconds < 1 then
        match Number.Binary64.ofInt (seconds * 1000) with
        | .infinite _ => .error .tooLarge
        | value => .ok (milliseconds value)
      else if seconds < 60 then
        .ok ((Number.Binary64.ofInt seconds).renderFixed 2 ++ "s")
      else .ok (minutes seconds.toNat)
  | .real seconds =>
      if seconds.isBelow 1 then .ok (milliseconds (seconds.scale 1000))
      else if seconds.isBelow 60 then .ok (seconds.renderFixed 2 ++ "s")
      else
        match seconds with
        | .notANumber => .error .notANumber
        | .infinite _ => .error .infinite
        | .finite _ mantissa exponent =>
            let (numerator, denominator) := Number.Binary64.fraction mantissa exponent
            .ok (minutes (numerator / denominator))

end Duration

end Typeset
