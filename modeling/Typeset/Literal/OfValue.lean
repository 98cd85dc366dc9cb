import Typeset.Literal.Basic
import Typeset.Outcome
import Typeset.Value

/-!
# Values as literals

The literal that a document gets for a value of the host. Members of an
enumeration become the values they stand for, records become dictionaries of
their fields or of selected ones, and a key of any type becomes its text.

An instant on a known clock is moved to the clock of the context, and an instant
that leaves its clock open keeps its fields. A value of a foreign type has no
literal, and the first such value is the one reported.
-/

namespace Typeset

/-- A clock that instants are moved to. -/
inductive Zone where
  | ahead (microseconds : Int)
  | named (name : String)
  deriving DecidableEq

/-- How values are turned into literals. -/
structure EncodingContext where
  zone : Zone
  /-- The fields that are kept of the records of a type. -/
  selectedFields : List (String × List String)

namespace EncodingContext

/-- Universal time, and all fields of records. -/
def standard : EncodingContext :=
  ⟨.ahead 0, []⟩

/-- The microseconds by which the clock of a zone is ahead; one name is known. -/
def clock : Zone → Except Fault Int
  | .ahead microseconds => .ok microseconds
  | .named name => if name = "UTC" then .ok 0 else .error (.unknownZone name)

/-- The fields to keep of the records of a type, when they are limited. -/
def fieldsOf? (context : EncodingContext) (type : String) : Option (List String) :=
  (context.selectedFields.reverse.find? (·.1 == type)).map (·.2)

end EncodingContext

namespace Value

/-- The literal of a moment, which does not show a fraction of a second. -/
def momentLiteral (moment : Moment) : Literal :=
  .moment moment.date.year moment.date.month moment.date.day
    moment.time.hour moment.time.minute moment.time.second

def instantLiteral (context : EncodingContext) (instant : Instant) : Except Fault Literal :=
  match instant.offset with
  | none => .ok (momentLiteral instant.moment)
  | some _ => do
      let offset ← EncodingContext.clock context.zone
      match instant.onClock? offset with
      | some moment => .ok (momentLiteral moment)
      | none => .error (.outOfRange Instant.outOfRangeMessage)

/-- What is said of a value of a foreign type. -/
def foreignMessage (type : String) : String :=
  s!"Cannot encode value of type {type} as markup code"

/-- What breaks off the writing of an integer that is too long. -/
def unwritten : Fault :=
  .invalidValue Number.unwrittenMessage

def floatLiteral : Number.Binary64 → Literal
  | .notANumber => .floatNaN
  | .infinite negative => .floatInfinity negative
  | value => .float value.render

/-- The selected ones of some fields, in the order of selection, each once. -/
def select (fields : List (String × Except Fault Literal)) (names : List String) :
    List (String × Except Fault Literal) :=
  names.eraseDups.filterMap fun name => fields.find? (·.1 == name)

/-- The entries of a dictionary, or the first fault among their values. -/
def collectEntries : List (String × Except Fault Literal) → Except Fault (List (String × Literal))
  | [] => .ok []
  | (key, literal) :: entries => do
      let literal ← literal
      return (key, literal) :: (← collectEntries entries)

/-- The items of an array, or the first fault among them. -/
def collectItems : List (Except Fault Literal) → Except Fault (List Literal)
  | [] => .ok []
  | literal :: literals => do
      let literal ← literal
      return literal :: (← collectItems literals)

mutual
def literal (context : EncodingContext) : Value → Except Fault Literal
  | .nothing => .ok .nothing
  | .bool value => .ok (.bool value)
  | .int value => if Number.isWritten value then .ok (.int value) else .error unwritten
  | .float value => .ok (floatLiteral value)
  | .decimal value => .ok (.decimal value.render)
  | .text value => .ok (.text value)
  | .bytes content => .ok (.bytes content)
  | .array _ items => return .array (← collectItems (literals context items))
  | .set _ items =>
      match inListedOrder? items (literals context items) with
      | some listed => return .array (← collectItems listed)
      | none => throw .undefinedOrder
  | .mapping entries => return .dictionary (← collectEntries (entryLiterals context entries))
  | .member _ _ value => literal context value
  | .standard choice => .ok (.text choice.value)
  | .date day => .ok (.date day.year day.month day.day)
  | .time clock => .ok (.time clock.hour clock.minute clock.second)
  | .instant moment => instantLiteral context moment
  | .record type fields =>
      let all := fieldLiterals context fields
      let kept := match context.fieldsOf? type with
        | some names => select all names
        | none => all
      return .dictionary (← collectEntries kept)
  | .foreign type => .error (.invalidKind (foreignMessage type))

def literals (context : EncodingContext) : List Value → List (Except Fault Literal)
  | [] => []
  | item :: items => literal context item :: literals context items

/-- The literals of entries under the texts of their keys. -/
def entryLiterals (context : EncodingContext) :
    List (Value × Value) → List (String × Except Fault Literal)
  | [] => []
  | (key, item) :: entries =>
      let result := if key.hasText then literal context item else .error unwritten
      (key.plainText, result) :: entryLiterals context entries

/-- The literals of fields under their names. -/
def fieldLiterals (context : EncodingContext) :
    List (String × Value) → List (String × Except Fault Literal)
  | [] => []
  | (name, item) :: fields => (name, literal context item) :: fieldLiterals context fields
end

/-- A value as a document's code writes it. -/
def encode (context : EncodingContext) (value : Value) : Except Fault String :=
  return (← value.literal context).render

/-- A value as one line of an array that is written line by line. -/
def encodeLine (context : EncodingContext) (value : Value) : Except Fault String :=
  return s!"  {← value.encode context},\n"

/-- The lines of values up to the first that has no literal, and the fault that it has. -/
def encodeLines (context : EncodingContext) : List Value → List String × Option Fault
  | [] => ([], none)
  | value :: values =>
      match value.encodeLine context with
      | .error fault => ([], some fault)
      | .ok line =>
          let (lines, fault) := encodeLines context values
          (line :: lines, fault)

end Value

end Typeset
