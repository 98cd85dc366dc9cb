import Typeset.Literal.Basic
import Typeset.Proofs.Number.Characters
import Typeset.Proofs.Text.Escaped
import Typeset.Text.Lines

/-!
# Reading literals

A reader takes a literal from the start of a text, from left to right, and gives it with
the text behind it. What stands between parentheses is told apart by what follows the
first item: a comma and a closing parenthesis behind the only item of an array, a colon
behind the key of a dictionary, a comma before the second item. An item with none of
these is an expression in parentheses, which is no literal.
-/

namespace Typeset.Literal

/-- What takes something from the start of a text, and leaves the text behind it. -/
abbrev Reader (α : Type) :=
  List Char → Option (α × List Char)

namespace Reader

variable {α β : Type}

/-- What stands behind a fixed text. -/
def behind (start : List Char) (read : Reader α) : Reader α := fun chars =>
  (Text.after? start chars).bind read

/-- What stands before a closing parenthesis. -/
def closed (read : Reader α) : Reader α := fun chars => do
  let (item, rest) ← read chars
  let rest ← Text.after? [')'] rest
  return (item, rest)

/-- What is made of something that is read. -/
def made (make : α → Option β) (read : Reader α) : Reader β := fun chars => do
  let (item, rest) ← read chars
  let made ← make item
  return (made, rest)

/-- A word that stands for something. -/
def word (spelling : String) (meaning : α) : Reader α :=
  behind spelling.toList fun rest => some (meaning, rest)

/-- The argument of a function. -/
def call (name : String) (argument : Reader α) : Reader α :=
  behind (name.toList ++ ['(']) argument

/-- A text between double quotes. -/
def quoted : Reader String :=
  behind ['"'] (made (some ∘ String.ofList) Text.Escaped.decode?)

/-- The characters of a kind at the start of a text. -/
def run (holds : Char → Bool) : Reader (List Char) := fun chars =>
  some (chars.takeWhile holds, chars.dropWhile holds)

def natural : Reader Nat :=
  made (fun digits => if digits = [] then none else some (Nat.ofDigitChars 10 digits 0))
    (run Char.isDigit)

/-- A whole number, which a minus sign may stand before. -/
def integer : Reader Int := fun chars =>
  match Text.after? ['-'] chars with
  | some unsigned => made (fun size : Nat => some (-(size : Int))) natural unsigned
  | none => made (fun size : Nat => some (size : Int)) natural chars

def byte : Reader UInt8 :=
  made (fun size => if size < 256 then some (UInt8.ofNat size) else none) natural

/-- The text of a number. -/
def numeral : Reader String :=
  made (some ∘ String.ofList) (run Number.isOfNumber)

/-- Something under a name. -/
def named (name : Reader α) (item : Reader β) : Reader (α × β) := fun chars => do
  let (label, rest) ← name chars
  let rest ← Text.after? [':', ' '] rest
  let (value, rest) ← item rest
  return ((label, value), rest)

/-- A part of a date or time. -/
def part : Reader (String × Int) :=
  named (made (some ∘ String.ofList) (run Char.isAlpha)) integer

/-- At most so many items, each with a comma before it, up to the closing parenthesis. -/
def others (item : Reader α) : Nat → Reader (List α)
  | 0, _ => none
  | most + 1, chars =>
      match Text.after? [')'] chars with
      | some rest => some ([], rest)
      | none => do
          let rest ← Text.after? [',', ' '] chars
          let (first, rest) ← item rest
          let (items, rest) ← others item most rest
          return (first :: items, rest)

/-- The items behind a first one, up to the closing parenthesis. -/
def listedFrom (item : Reader α) (first : α) : Reader (List α) := fun chars => do
  let (items, rest) ← others item chars.length chars
  return (first :: items, rest)

/-- Items between commas, up to the closing parenthesis. -/
def listed (item : Reader α) : Reader (List α) := fun chars => do
  let (first, rest) ← item chars
  listedFrom item first rest

/--
The items of an array behind the first one, which has a comma behind it if it is the only one.
-/
def arrayFrom (item : Reader α) (first : α) : Reader (List α) := fun chars =>
  match Text.after? [',', ')'] chars with
  | some rest => some ([first], rest)
  | none =>
      if (Text.after? [')'] chars).isSome then none else listedFrom item first chars

/-- An array behind its opening parenthesis. -/
def array (item : Reader α) : Reader (List α) := fun chars =>
  match Text.after? [')'] chars with
  | some rest => some ([], rest)
  | none => do
      let (first, rest) ← item chars
      arrayFrom item first rest

/-- What the first of some readers that can read a text takes from it. -/
def firstOf (readers : List (Reader α)) : Reader α := fun chars =>
  readers.findSome? (· chars)

/-- The date, the time or the moment of some parts. -/
def ofParts? : List (String × Int) → Option Literal
  | [("year", year), ("month", month), ("day", day)] => some (.date year month day)
  | [("hour", hour), ("minute", minute), ("second", second)] => some (.time hour minute second)
  | [("year", year), ("month", month), ("day", day),
      ("hour", hour), ("minute", minute), ("second", second)] =>
      some (.moment year month day hour minute second)
  | _ => none

/-- The decimal of a text, which has only characters of numbers. -/
def ofNumeral? (text : String) : Option Literal :=
  if Number.Plain text.toList then some (.decimal text) else none

/-- The literals that hold no other ones. -/
def scalar : Reader Literal :=
  firstOf
    [word "none" .nothing, word "true" (.bool true), word "false" (.bool false),
      word "float.nan" .floatNaN, word "float.inf" (.floatInfinity false),
      word "-float.inf" (.floatInfinity true),
      made (some ∘ .int) (call "int" (closed integer)),
      made (some ∘ .float) (call "float" (closed numeral)),
      made ofNumeral? (call "decimal" (closed quoted)),
      made (some ∘ .bytes) (call "bytes" (closed (behind ['('] (array byte)))),
      made ofParts? (call "datetime" (listed part)),
      made (some ∘ .text) quoted]

/-- What stands between parentheses, behind the opening one. -/
def group (item : Reader Literal) : Reader Literal := fun chars =>
  match Text.after? [')'] chars, Text.after? [':', ')'] chars with
  | some rest, _ => some (.array [], rest)
  | none, some rest => some (.dictionary [], rest)
  | none, none => do
      let (first, rest) ← item chars
      match first, Text.after? [':', ' '] rest with
      | .text key, some rest => do
          let (value, rest) ← item rest
          made (some ∘ .dictionary) (listedFrom (named quoted item) (key, value)) rest
      | _, _ => made (some ∘ .array) (arrayFrom item first) rest

/-- A literal that holds others at most so deep. -/
def literal : Nat → Reader Literal
  | 0, _ => none
  | depth + 1, chars =>
      match Text.after? ['('] chars with
      | some rest => group (literal depth) rest
      | none => scalar chars

end Reader

/-- The literal at the start of a text, and the text behind it. -/
def read? : Reader Literal := fun chars =>
  Reader.literal (chars.length + 1) chars

example : Literal.read? "(\"a\": (int(1),), \"\\\"\": (:)), none".toList =
    some (.dictionary [("a", .array [.int 1]), ("\"", .dictionary [])], ", none".toList) := by
  rfl

example : Literal.read? "(int(1))".toList = none := by
  rfl

end Typeset.Literal
