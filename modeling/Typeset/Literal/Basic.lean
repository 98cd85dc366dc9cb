import Typeset.Number.Digits
import Typeset.Text.Escaped
import Typeset.Text.Utf8

/-!
# Literals

The literals of a document's code. An array of one element has a comma after it,
and the empty dictionary has a colon, so that neither is taken for an expression
in parentheses or for the empty array.
-/

namespace Typeset

/-- A literal of a document's code. -/
inductive Literal where
  | nothing
  | bool (value : Bool)
  | int (value : Int)
  | floatNaN
  | floatInfinity (negative : Bool)
  | float (text : String)
  | decimal (text : String)
  | bytes (content : Bytes)
  | text (value : String)
  | array (items : List Literal)
  | dictionary (entries : List (String × Literal))
  | date (year month day : Int)
  | time (hour minute second : Int)
  | moment (year month day hour minute second : Int)

namespace Literal

/-- Written items between commas. -/
def commaSeparated : List (List Char) → List Char
  | [] => []
  | [item] => item
  | item :: items => item ++ ',' :: ' ' :: commaSeparated items

def arrayText : List (List Char) → List Char
  | [] => ['(', ')']
  | [item] => '(' :: item ++ [',', ')']
  | items => '(' :: commaSeparated items ++ [')']

def dictionaryText : List (List Char) → List Char
  | [] => ['(', ':', ')']
  | entries => '(' :: commaSeparated entries ++ [')']

def call (name : String) (argument : List Char) : List Char :=
  name.toList ++ '(' :: argument ++ [')']

/-- A whole number as an argument. -/
def intText (value : Int) : List Char :=
  (toString value).toList

/-- A part of a date or time as a named argument. -/
def part (name : String) (value : Int) : List Char :=
  name.toList ++ ':' :: ' ' :: intText value

def dateParts (year month day : Int) : List (List Char) :=
  [part "year" year, part "month" month, part "day" day]

def timeParts (hour minute second : Int) : List (List Char) :=
  [part "hour" hour, part "minute" minute, part "second" second]

mutual
/-- A literal as a document's code writes it. -/
def chars : Literal → List Char
  | .nothing => "none".toList
  | .bool value => (if value then "true" else "false").toList
  | .int value => call "int" (intText value)
  | .floatNaN => "float.nan".toList
  | .floatInfinity negative => (if negative then "-float.inf" else "float.inf").toList
  | .float shown => call "float" shown.toList
  | .decimal shown => call "decimal" ('"' :: shown.toList ++ ['"'])
  | .bytes content => call "bytes" (arrayText (content.map fun byte => Number.digits byte.toNat))
  | .text value => Text.Escaped.inQuotes value
  | .array items => arrayText (allChars items)
  | .dictionary entries => dictionaryText (entryChars entries)
  | .date year month day => call "datetime" (commaSeparated (dateParts year month day))
  | .time hour minute second => call "datetime" (commaSeparated (timeParts hour minute second))
  | .moment year month day hour minute second =>
      call "datetime"
        (commaSeparated (dateParts year month day ++ timeParts hour minute second))

/-- Literals as a document's code writes them. -/
def allChars : List Literal → List (List Char)
  | [] => []
  | item :: items => chars item :: allChars items

/-- Entries of a dictionary as a document's code writes them. -/
def entryChars : List (String × Literal) → List (List Char)
  | [] => []
  | (key, item) :: entries =>
      (Text.Escaped.inQuotes key ++ ':' :: ' ' :: chars item) :: entryChars entries
end

def render (literal : Literal) : String :=
  String.ofList literal.chars

end Literal

end Typeset
