import Typeset.Text.Blank
import Typeset.Text.Split

/-!
# Page selectors

A selector such as `1-3,5` lists pages and page ranges of a document, counted
from one. Tokens stand between commas and may have blanks around them, and so
may the two numbers of a range. The ranges keep the order of the tokens; none is
merged, sorted or dropped, and the first bad token is the one reported.
-/

namespace Typeset

/-- The pages from the first to the last, both included. -/
structure PageRange where
  first : Nat
  last : Nat
  deriving DecidableEq

/-- Why a token selects no pages. -/
inductive PageSelector.Error where
  | invalidNumber (token : String)
  | invalidRange (token : String)
  | numberOutOfBounds (page : Nat) (token : String)
  | rangeOutOfBounds (token : String)
  deriving DecidableEq

namespace PageSelector

/-- A number of more digits is not read. -/
def maxDigits : Nat := 4300

def Error.token : Error → String
  | invalidNumber token | invalidRange token | numberOutOfBounds _ token
  | rangeOutOfBounds token => token

/-- What is said of a bad token. -/
def Error.message : Error → String
  | invalidNumber token => s!"Invalid page number: {token}"
  | invalidRange token => s!"Invalid page number in range: {token}"
  | numberOutOfBounds page _ => s!"Page number out of bounds: {page}"
  | rangeOutOfBounds token => s!"Page range out of bounds: {token}"

/-- The number that ASCII digits spell. -/
def ofDigits (digits : List Char) : Nat :=
  digits.foldl (fun value digit => value * 10 + (digit.toNat - '0'.toNat)) 0

/-- The number that a text of ASCII digits spells, blanks at its ends aside. -/
def number? (chars : List Char) : Option Nat :=
  let digits := Text.trimBlank chars
  if digits ≠ [] ∧ digits.all Char.isDigit ∧ digits.length ≤ maxDigits then some (ofDigits digits)
  else none

/-- The range that a trimmed token selects in a document of so many pages. -/
def readToken (total : Nat) (token : List Char) : Except Error PageRange :=
  match Text.splitFirst? '-' token with
  | some (before, after) =>
      match number? before, number? after with
      | some first, some last =>
          if 1 ≤ first ∧ first ≤ last ∧ last ≤ total then .ok ⟨first, last⟩
          else .error (.rangeOutOfBounds (String.ofList token))
      | _, _ => .error (.invalidRange (String.ofList token))
  | none =>
      match number? token with
      | some page =>
          if 1 ≤ page ∧ page ≤ total then .ok ⟨page, page⟩
          else .error (.numberOutOfBounds page (String.ofList token))
      | none => .error (.invalidNumber (String.ofList token))

/-- The ranges of all tokens, or the error of the first bad one. -/
def readTokens (total : Nat) : List (List Char) → Except Error (List PageRange)
  | [] => .ok []
  | token :: tokens => do
      let range ← readToken total (Text.trimBlank token)
      let ranges ← readTokens total tokens
      return range :: ranges

/-- The page ranges that a selector names in a document of so many pages. -/
def parse (selector : String) (total : Nat) : Except Error (List PageRange) :=
  readTokens total (Text.splitAll (· == ',') selector.toList)

/-- The page numbers of some ranges, in order and with repetitions. -/
def pages (ranges : List PageRange) : List Nat :=
  ranges.flatMap fun range => (List.range (range.last + 1 - range.first)).map (range.first + ·)

end PageSelector

end Typeset
