import Typeset.Calendar
import Typeset.Yaml.Token

/-!
# Dates of YAML

A date is written as year, month and day, and a moment with a time of day behind
it, a fraction of a second and the distance from universal time if need be. A text
that does not look like that is no date, and neither is one with a number that is
out of range, but the two faults differ.
-/

namespace Typeset.Yaml.Timestamp

/-- A number with so many digits at least and at most, and what is left of a text. -/
def readDigits? (least most : Nat) (chars : List Char) : Option (Int × List Char) :=
  let digits := (chars.take most).takeWhile Char.isDigit
  if digits.length < least then none
  else
    some (digits.foldl (fun number digit => number * 10 + (digit.toNat - '0'.toNat : Nat)) 0,
      chars.drop digits.length)

/-- What is left of a text behind a mark. -/
def readMark? (mark : Char) (chars : List Char) : Option (List Char) :=
  if chars.head? = some mark then some (chars.drop 1) else none

/-- The date at the start of a text. -/
def readDate? (chars : List Char) : Option (Date × List Char) := do
  let (year, rest) ← readDigits? 4 4 chars
  let (month, rest) ← readDigits? 1 2 (← readMark? '-' rest)
  let (day, rest) ← readDigits? 1 2 (← readMark? '-' rest)
  return (⟨year, month, day⟩, rest)

/-- What is left behind the gap between date and time. -/
def readGap? (chars : List Char) : Option (List Char) :=
  match chars with
  | 'T' :: rest | 't' :: rest => some rest
  | _ => if (chars.head?.map isGap).getD false then some (chars.dropWhile isGap) else none

/-- The microseconds of a fraction of a second, of which digits behind the sixth do not count. -/
def readFraction (chars : List Char) : Int × List Char :=
  match chars with
  | '.' :: rest =>
      let digits := rest.takeWhile Char.isDigit
      (((readDigits? 6 6 (digits ++ List.replicate 6 '0')).map (·.1)).getD 0,
        rest.drop digits.length)
  | _ => (0, chars)

/-- The time of day at the start of a text. -/
def readTime? (chars : List Char) : Option (TimeOfDay × List Char) := do
  let (hour, rest) ← readDigits? 1 2 chars
  let (minute, rest) ← readDigits? 2 2 (← readMark? ':' rest)
  let (second, rest) ← readDigits? 2 2 (← readMark? ':' rest)
  let (microsecond, rest) := readFraction rest
  return (⟨hour, minute, second, microsecond⟩, rest)

/-- The minutes from universal time at the start of a text. -/
def readOffset? (chars : List Char) : Option (Int × List Char) := do
  match chars with
  | 'Z' :: rest => return (0, rest)
  | '+' :: rest | '-' :: rest =>
      let (hours, rest) ← readDigits? 1 2 rest
      match rest with
      | ':' :: minutes =>
          let (minutes, rest) ← readDigits? 2 2 minutes
          return (hours * 60 + minutes, rest)
      | _ => return (hours * 60, rest)
  | _ => none

/-- Whether a text ends, with a line break at most. -/
def isEnd (chars : List Char) : Bool :=
  chars = [] || chars = ['\n']

/--
What a text that looks like a date says: the date, and the
time of day with the minutes from universal time.
-/
def read? (chars : List Char) : Option (Date × Option (TimeOfDay × Int)) := do
  let (date, rest) ← readDate? chars
  if isEnd rest then return (date, none)
  let (time, rest) ← readTime? (← readGap? rest)
  if isEnd rest then return (date, some (time, 0))
  let (offset, rest) ← readOffset? (rest.dropWhile isGap)
  if isEnd rest then return (date, some (time, offset)) else none

def isDate (date : Date) : Bool :=
  1 ≤ date.month && date.month ≤ 12 && 1 ≤ date.day && date.isRepresentable &&
    Date.ofDayNumber date.dayNumber == date

/-- The minutes of a day, which no clock is away from universal time. -/
def minutesPerDay : Int := 1440

/-- Whether there is such a time of day, and a clock that shows it. -/
def isTime (time : TimeOfDay) (offset : Int) : Bool :=
  time.hour < 24 && time.minute < 60 && time.second < 60 && offset < minutesPerDay

def check (text : String) : Except Fault Unit :=
  match read? text.toList with
  | none => .error .date
  | some (date, time?) =>
      if isDate date && time?.all fun (time, offset) => isTime time offset then .ok ()
      else .error .number

end Typeset.Yaml.Timestamp
