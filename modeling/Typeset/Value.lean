import Typeset.Calendar
import Typeset.Number.Quantity
import Typeset.Number.Shortest
import Typeset.PdfStandard
import Typeset.Sorting
import Typeset.Text.Quoted
import Typeset.Text.Utf8

/-!
# Values

The data that a host hands to a document: scalars, texts, arrays, sets,
mappings, members of an enumeration, dates and times, records, and values of
foreign types, which no document can hold.

Sets and the keys of mappings hold equal values once. Numbers of all types are
equal by quantity, so `1`, `1.0` and `true` are one key; arrays are equal by their
elements, sets by what they contain and records by their type and fields. What can
change, or holds something that can, is neither an element nor a key. Some values
are also ordered: a set is listed as sorting leaves its elements, or as it holds
them if two that sorting asks about are of kinds without an order.
-/

namespace Typeset

inductive Value where
  | nothing
  | bool (value : Bool)
  | int (value : Int)
  | float (value : Number.Binary64)
  | decimal (value : Number.Decimal)
  | text (value : String)
  | bytes (content : Bytes)
  /-- An array, which can change unless it is frozen. -/
  | array (frozen : Bool) (items : List Value)
  /-- A set, which can change unless it is frozen. -/
  | set (frozen : Bool) (items : List Value)
  | mapping (entries : List (Value × Value))
  /-- A member of an enumeration, which stands for another value. -/
  | member (type name : String) (value : Value)
  | standard (standard : PdfStandard)
  | date (date : Date)
  | time (time : TimeOfDay)
  | instant (instant : Instant)
  | record (type : String) (fields : List (String × Value))
  /-- A value of a type that has no form in a document. -/
  | foreign (type : String)
  deriving Inhabited

namespace Value

def quantity? : Value → Option Number.Quantity
  | .bool value => some (.ofInt (if value then 1 else 0))
  | .int value => some (.ofInt value)
  | .float value => some (.ofBinary64 value)
  | .decimal value => some (.ofDecimal value)
  | _ => none

def text? : Value → Option String
  | .text value => some value
  | .standard choice => some choice.value
  | _ => none

/-- Whether two instants are the same: on known clocks by the moment in universal time. -/
def sameInstant (left right : Instant) : Bool :=
  match left.offset, right.offset with
  | none, none => left.moment == right.moment
  | some offset, some offset' =>
      left.moment.microseconds - offset == right.moment.microseconds - offset'
  | _, _ => false

/-- Whether two values without parts are equal. -/
def sameScalar (left right : Value) : Bool :=
  match left.quantity?, right.quantity?, left.text?, right.text? with
  | some quantity, some quantity', _, _ => quantity.same quantity'
  | _, _, some string, some string' => string == string'
  | _, _, _, _ =>
      match left, right with
      | .nothing, .nothing => true
      | .bytes content, .bytes content' => content == content'
      | .member type name _, .member type' name' _ => type == type' && name == name'
      | .date day, .date day' => day == day'
      | .time clock, .time clock' => clock == clock'
      | .instant moment, .instant moment' => sameInstant moment moment'
      | _, _ => false

mutual
/-- Whether two values are one element of a set or one key of a mapping. -/
def same : Value → Value → Bool
  | .array frozen items, right =>
      match right with
      | .array frozen' items' => frozen == frozen' && sameAll items items'
      | _ => false
  | .set _ items, right =>
      match right with
      | .set _ items' => items.length == items'.length && allIn items items'
      | _ => false
  | .record type fields, right =>
      match right with
      | .record type' fields' => type == type' && sameFields fields fields'
      | _ => false
  | left, right => sameScalar left right

/-- Whether two lists are equal element by element. -/
def sameAll : List Value → List Value → Bool
  | [], right => right.isEmpty
  | item :: items, right =>
      match right with
      | [] => false
      | item' :: items' => same item item' && sameAll items items'

/-- Whether every element of a list is equal to one of another. -/
def allIn : List Value → List Value → Bool
  | [], _ => true
  | item :: items, others => (others.any fun other => same item other) && allIn items others

/-- Whether two records have equal fields under equal names. -/
def sameFields : List (String × Value) → List (String × Value) → Bool
  | [], right => right.isEmpty
  | (name, item) :: fields, right =>
      match right with
      | [] => false
      | (name', item') :: fields' => name == name' && same item item' && sameFields fields fields'
end

/-! ## Elements and keys -/

/-- Why a value is neither an element of a set nor a key of a mapping. -/
inductive Unkeyed where
  /-- It can change. -/
  | changeable (type : String)
  /-- It is a decimal that is no number and says so at every use. -/
  | signal
  deriving DecidableEq

/-- What is said of a value that is neither an element nor a key. -/
def Unkeyed.message : Unkeyed → String
  | changeable type => s!"unhashable type: {Text.quoted type}"
  | signal => "Cannot hash a signaling NaN value."

/-- The foreign types whose values can change. -/
def changeableTypes : List String :=
  ["bytearray"]

mutual
/-- Why a value is neither an element of a set nor a key of a mapping, if it is not. -/
def unkeyed? : Value → Option Unkeyed
  | .array false _ => some (.changeable "list")
  | .array true items => firstUnkeyed? items
  | .set false _ => some (.changeable "set")
  | .mapping _ => some (.changeable "dict")
  | .record _ fields => firstUnkeyedField? fields
  | .decimal (.notANumber _ true _) => some .signal
  | .foreign type => if type ∈ changeableTypes then some (.changeable type) else none
  | _ => none

/-- The first reason among the elements of an array. -/
def firstUnkeyed? : List Value → Option Unkeyed
  | [] => none
  | item :: items => (unkeyed? item).or (firstUnkeyed? items)

/-- The first reason among the fields of a record. -/
def firstUnkeyedField? : List (String × Value) → Option Unkeyed
  | [] => none
  | (_, item) :: fields => (unkeyed? item).or (firstUnkeyedField? fields)
end

/-! ## Order -/

/-- Why it cannot be told whether a value is before another. -/
inductive Unordered where
  /-- Values of these kinds have no order. -/
  | kinds
  /-- One of the two is a decimal that is no number. -/
  | undefined
  deriving DecidableEq

/-- Whether a list is before another: at the first difference, or by ending first. -/
def isBeforeBytes : Bytes → Bytes → Bool
  | _, [] => false
  | [], _ :: _ => true
  | byte :: rest, byte' :: rest' =>
      if byte = byte' then isBeforeBytes rest rest' else byte < byte'

def isBeforeDate (left right : Date) : Bool :=
  left.dayNumber < right.dayNumber

/-- Whether an instant is before another; only two known or two open clocks can be compared. -/
def isBeforeInstant (left right : Instant) : Except Unordered Bool :=
  match left.offset, right.offset with
  | none, none => .ok (decide (left.moment.microseconds < right.moment.microseconds))
  | some offset, some offset' =>
      .ok (decide (left.moment.microseconds - offset < right.moment.microseconds - offset'))
  | _, _ => .error .kinds

def isUndefined : Value → Bool
  | .decimal (.notANumber ..) => true
  | _ => false

/-- Whether a value without parts is before another. -/
def isBeforeScalar (left right : Value) : Except Unordered Bool :=
  match left.quantity?, right.quantity?, left.text?, right.text? with
  | some quantity, some quantity', _, _ =>
      if left.isUndefined || right.isUndefined then .error .undefined
      else .ok (quantity.isBelow quantity')
  | _, _, some string, some string' => .ok (decide (string < string'))
  | _, _, _, _ =>
      match left, right with
      | .bytes content, .bytes content' => .ok (isBeforeBytes content content')
      | .date day, .date day' => .ok (isBeforeDate day day')
      | .time clock, .time clock' => .ok (decide (clock.microseconds < clock'.microseconds))
      | .instant moment, .instant moment' => isBeforeInstant moment moment'
      | _, _ => .error .kinds

mutual
/--
Whether a value is before another. Arrays are compared at their first difference,
and a set is before the sets that hold more than it.
-/
def isBefore : Value → Value → Except Unordered Bool
  | .array frozen items, right =>
      match right with
      | .array frozen' items' =>
          if frozen = frozen' then isBeforeAll items items' else .error .kinds
      | _ => .error .kinds
  | .set _ items, right =>
      match right with
      | .set _ items' => .ok (decide (items.length < items'.length) && allIn items items')
      | _ => .error .kinds
  | left, right => isBeforeScalar left right

/-- Whether a list is before another, told by the first difference of the two. -/
def isBeforeAll : List Value → List Value → Except Unordered Bool
  | [], right => .ok (!right.isEmpty)
  | item :: items, right =>
      match right with
      | [] => .ok false
      | item' :: items' => if same item item' then isBeforeAll items items' else isBefore item item'
end

/-- Values in the order of their first mention, each once. -/
def distinct (items : List Value) : List Value :=
  items.foldl (fun kept item => if kept.any (same item) then kept else kept ++ [item]) []

def ofElements (frozen : Bool) (items : List Value) : Value :=
  .set frozen (distinct items)

/-- Give a key a value: an equal key stays where it is, and a new one comes last. -/
def putEntry (key value : Value) : List (Value × Value) → List (Value × Value)
  | [] => [(key, value)]
  | entry :: entries =>
      if same entry.1 key then (entry.1, value) :: entries else entry :: putEntry key value entries

/-- The mapping of some entries, of which later ones win over earlier ones with an equal key. -/
def ofEntries (entries : List (Value × Value)) : Value :=
  .mapping (entries.foldl (fun kept (key, value) => putEntry key value kept) [])

/-- Whether the element at a place is before the one at another; behind the last one is none. -/
def isBeforeAt (items : List Value) (place place' : Nat) : Except Unordered Bool :=
  match items[place]?, items[place']? with
  | some item, some item' => isBefore item item'
  | _, _ => .error .kinds

/-- The places of elements in ascending order, or why sorting asked for an order in vain. -/
def listedPlaces (items : List Value) : Except Unordered (List Nat) :=
  Sorting.sort (isBeforeAt items) (List.range items.length)

/--
What goes with the elements of a set, in the ascending order of the elements, or as
they were put in when sorting met two of kinds that have none. There is no answer if
sorting asked for an order where a number is undefined.
-/
def inListedOrder? {α : Type} (items : List Value) (attached : List α) : Option (List α) :=
  match listedPlaces items with
  | .ok places => some (places.filterMap (attached[·]?))
  | .error .kinds => some attached
  | .error .undefined => none

/-! ## Values as text -/

/-- A byte between quotes of the given kind. -/
def quotedByte (quote : Char) (byte : UInt8) : List Char :=
  let code := byte.toNat
  if 0x20 ≤ code ∧ code < 0x7F ∨ code = 9 ∨ code = 10 ∨ code = 13 then
    Text.quotedChar quote (Char.ofNat code)
  else Text.codeEscape code

def quotedBytes (content : Bytes) : String :=
  let quote := if 0x27 ∈ content ∧ 0x22 ∉ content then '"' else '\''
  String.ofList ('b' :: quote :: content.flatMap (quotedByte quote) ++ [quote])

/-- How far a clock is ahead of universal time, as an expression. -/
def offsetExpression (offset : Int) : String :=
  if offset = 0 then "datetime.timezone.utc"
  else
    let inDay := offset % Moment.microsecondsPerDay
    let named (name : String) (count : Int) : List String :=
      if count = 0 then [] else [s!"{name}={count}"]
    let parts := named "days" (offset / Moment.microsecondsPerDay) ++
      named "seconds" (inDay / 1000000) ++ named "microseconds" (inDay % 1000000)
    "datetime.timezone(datetime.timedelta(" ++ ", ".intercalate parts ++ "))"

/-- A time of day as arguments of an expression; what is zero below the minute is left out. -/
def timeArguments (time : TimeOfDay) : String :=
  let short := s!"{time.hour}, {time.minute}"
  if time.microsecond ≠ 0 then s!"{short}, {time.second}, {time.microsecond}"
  else if time.second ≠ 0 then s!"{short}, {time.second}"
  else short

/-- A value without parts as an expression. -/
def scalarExpression : Value → String
  | .nothing => "None"
  | .bool value => if value then "True" else "False"
  | .int value => toString value
  | .float value => value.render
  | .decimal value => s!"Decimal('{value.render}')"
  | .text value => Text.quoted value
  | .bytes content => quotedBytes content
  | .standard choice => s!"<PdfStandard.{choice.name}: {Text.quoted choice.value}>"
  | .date day => s!"datetime.date({day.year}, {day.month}, {day.day})"
  | .time clock => s!"datetime.time({timeArguments clock})"
  | .instant ⟨⟨day, clock⟩, offset⟩ =>
      let zone := match offset with
        | some offset => s!", tzinfo={offsetExpression offset}"
        | none => ""
      s!"datetime.datetime({day.year}, {day.month}, {day.day}, {timeArguments clock}{zone})"
  | .foreign type => s!"<{type}>"
  | _ => ""

mutual
/-- A value as an expression, which shows its type. -/
def expression : Value → String
  | .array true items =>
      match expressions items with
      | [item] => s!"({item},)"
      | shown => "(" ++ ", ".intercalate shown ++ ")"
  | .array false items => "[" ++ ", ".intercalate (expressions items) ++ "]"
  | .set frozen items =>
      let name := if frozen then "frozenset" else "set"
      match expressions items with
      | [] => name ++ "()"
      | shown =>
          let braced := "\x7b" ++ ", ".intercalate shown ++ "\x7d"
          if frozen then s!"{name}({braced})" else braced
  | .mapping entries => "\x7b" ++ ", ".intercalate (entryExpressions entries) ++ "\x7d"
  | .member type name value => s!"<{type}.{name}: {expression value}>"
  | .record type fields => type ++ "(" ++ ", ".intercalate (fieldExpressions fields) ++ ")"
  | value => scalarExpression value

def expressions : List Value → List String
  | [] => []
  | item :: items => expression item :: expressions items

/-- The entries of a mapping as expressions. -/
def entryExpressions : List (Value × Value) → List String
  | [] => []
  | (key, item) :: entries => s!"{expression key}: {expression item}" :: entryExpressions entries

/-- The fields of a record as expressions. -/
def fieldExpressions : List (String × Value) → List String
  | [] => []
  | (name, item) :: fields => s!"{name}={expression item}" :: fieldExpressions fields
end

mutual
/-- Whether an expression of a value can be written: no integer in it is too long. -/
def isWritten : Value → Bool
  | .int value => Number.isWritten value
  | .array _ items => allWritten items
  | .set _ items => allWritten items
  | .mapping entries => entriesWritten entries
  | .member _ _ value => isWritten value
  | .record _ fields => fieldsWritten fields
  | _ => true

def allWritten : List Value → Bool
  | [] => true
  | item :: items => isWritten item && allWritten items

/-- Whether the keys and values of a mapping can be written. -/
def entriesWritten : List (Value × Value) → Bool
  | [] => true
  | (key, item) :: entries => isWritten key && isWritten item && entriesWritten entries

/-- Whether the fields of a record can be written. -/
def fieldsWritten : List (String × Value) → Bool
  | [] => true
  | (_, item) :: fields => isWritten item && fieldsWritten fields
end

/-- The text of a value, as a key of a mapping is written. -/
def plainText : Value → String
  | .text value => value
  | .decimal value => value.render
  | .standard choice => s!"PdfStandard.{choice.name}"
  | .member type name _ => s!"{type}.{name}"
  | .date day => day.render
  | .time clock => clock.render
  | .instant moment => moment.render " "
  | value => expression value

/-- Whether a value has a text; of a member of an enumeration the text shows the name alone. -/
def hasText : Value → Bool
  | .member .. => true
  | value => value.isWritten

end Value

end Typeset
