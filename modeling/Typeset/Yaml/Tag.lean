import Typeset.Text.Split

/-!
# Tags

A tag says what a node is. A plain scalar that has none is told by its look: a
truth value, a number, nothing, or else a text.
-/

namespace Typeset.Yaml.Tag

/-- How the tags of the common types start. -/
def start : String := "tag:yaml.org,2002:"

def text : String := start ++ "str"

def null : String := start ++ "null"

/-- The tag of truth values. -/
def bool : String := start ++ "bool"

def int : String := start ++ "int"

/-- The tag of numbers that may have a fraction. -/
def float : String := start ++ "float"

/-- The tag of keys under which the entries of other mappings are taken over. -/
def merge : String := start ++ "merge"

/-- The tag of the sign for a value without a key. -/
def value : String := start ++ "value"

def sequence : String := start ++ "seq"

def mapping : String := start ++ "map"

def set : String := start ++ "set"

/-- The tag of mappings that are written as sequences. -/
def omap : String := start ++ "omap"

def pairs : String := start ++ "pairs"

def binary : String := start ++ "binary"

/-- The tag of dates and moments. -/
def timestamp : String := start ++ "timestamp"

def nullWords : List String :=
  ["", "~", "null", "Null", "NULL"]

def trueWords : List String :=
  ["yes", "Yes", "YES", "true", "True", "TRUE", "on", "On", "ON"]

def falseWords : List String :=
  ["no", "No", "NO", "false", "False", "FALSE", "off", "Off", "OFF"]

/-! ## The look of numbers -/

/-- A text without its sign. -/
def unsigned : List Char → List Char
  | '+' :: rest | '-' :: rest => rest
  | chars => chars

/-- Whether a text has digits and underscores only. -/
def isSpaced (chars : List Char) : Bool :=
  chars.all fun char => char.isDigit || char == '_'

/-- Whether a text has digits and underscores only and starts with a digit. -/
def startsDigit (chars : List Char) : Bool :=
  ((chars.head?.map Char.isDigit).getD false) && isSpaced chars

/-- Whether every underscore of a text stands between two digits. -/
def isGrouped (chars : List Char) : Bool :=
  (Text.splitAll (· == '_') chars).all fun group => group ≠ [] && group.all Char.isDigit

/-- Whether a text is a number below sixty with two digits at most. -/
def isSixtieth : List Char → Bool
  | [last] => last.isDigit
  | [first, last] => '0' ≤ first && first ≤ '5' && last.isDigit
  | _ => false

/-- Whether a text has colons between parts, of which all but the first are below sixty. -/
def isSixtyBased (isFirst : List Char → Bool) (chars : List Char) : Bool :=
  match Text.splitAll (· == ':') chars with
  | first :: part :: parts => isFirst first && (part :: parts).all isSixtieth
  | _ => false

/-- Whether a text is a decimal integer without a leading zero. -/
def isPlainInteger (chars : List Char) : Bool :=
  startsDigit chars && chars.head? ≠ some '0'

/-- Whether a text looks like an integer. -/
def isInteger (chars : List Char) : Bool :=
  match unsigned chars with
  | ['0'] => true
  | '0' :: 'b' :: digits => digits ≠ [] && digits.all ("01_".toList.contains ·)
  | '0' :: 'x' :: digits =>
      digits ≠ [] && digits.all ("0123456789abcdefABCDEF_".toList.contains ·)
  | '0' :: digits => digits.all ("01234567_".toList.contains ·)
  | digits => isPlainInteger digits || isSixtyBased isPlainInteger digits

def exponentSign? (chars : List Char) : Option Bool :=
  let digits := unsigned chars
  if digits ≠ [] ∧ digits.all Char.isDigit then some (digits.length ≠ chars.length) else none

/-- Whether a number looks right, by what stands before its point, behind it and in its exponent. -/
def isDecimal (signed : Bool) (whole : List Char) (fraction : Option (List Char))
    (exponent : Option (List Char)) : Bool :=
  let hasExponent := exponent.isSome
  let sign? := exponent.bind exponentSign?
  match fraction with
  | none => isGrouped whole && sign?.isSome
  | some fraction =>
      if hasExponent && sign? = none then false
      else if whole = [] then !signed && startsDigit fraction && sign? ≠ some false
      else if !isSpaced fraction then false
      else if sign? = some false then isGrouped whole
      else startsDigit whole || (!hasExponent && isSixtyBased startsDigit whole)

/-- Whether a text looks like a number that may have a fraction. -/
def isReal (chars : List Char) : Bool :=
  let number := unsigned chars
  let signed := number.length ≠ chars.length
  if [".inf", ".Inf", ".INF"].contains (String.ofList number) then true
  else if [".nan", ".NaN", ".NAN"].contains (String.ofList chars) then true
  else
    let mantissa := number.takeWhile fun char => char ≠ 'e' && char ≠ 'E'
    let exponent := match number.drop mantissa.length with
      | [] => none
      | _ :: digits => some digits
    match Text.splitFirst? '.' mantissa with
    | some (whole, fraction) => isDecimal signed whole (some fraction) exponent
    | none => isDecimal signed mantissa none exponent

/-- A text as its look is judged: without a line break at its end, unless it is nothing else. -/
def looked (content : String) : String :=
  match content.toList.reverse with
  | '\n' :: char :: rest => String.ofList (char :: rest).reverse
  | _ => content

def ofPlain (content : String) : String :=
  let content := looked content
  let chars := content.toList
  if content ∈ nullWords then null
  else if content ∈ trueWords ∨ content ∈ falseWords then bool
  else if isInteger chars then int
  else if isReal chars then float
  else if content = "<<" then merge
  else if content = "=" then value
  else text

end Typeset.Yaml.Tag
