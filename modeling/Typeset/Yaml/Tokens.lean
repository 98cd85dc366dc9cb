import Typeset.Text.Utf8
import Typeset.Yaml.Scalar

/-!
# Cutting a text into tokens

A word that may turn out to be a key is remembered until a colon follows it on its
line; the mark of the key, and that of the mapping that it opens, are then put in
front of it. So a token is settled only when no key is pending from it on, and a
text that goes wrong has no more tokens than those that were settled before.
-/

namespace Typeset.Yaml

/-- A token that may turn out to be a key. -/
structure PendingKey where
  flowLevel : Nat
  /-- The number of tokens before it. -/
  number : Nat
  /-- Whether nothing but a key can stand here. -/
  required : Bool
  index : Nat
  line : Nat
  column : Nat

/-- A text of which some tokens were cut off. -/
structure Cutting where
  cursor : Cursor
  tokens : List Token
  flowLevel : Nat
  /-- Whether a key without a mark may start here. -/
  allowsKey : Bool
  indent : Int
  outerIndents : List Int
  pending : List PendingKey
  finished : Bool

/-- A step of cutting; what was cut before a fault remains. -/
abbrev Cut (α : Type) := ExceptT Fault (StateM Cutting) α

namespace Cutting

/-- A text of which nothing was cut off. -/
def start (text : List Char) : Cutting where
  cursor := .start text
  tokens := []
  flowLevel := 0
  allowsKey := true
  indent := -1
  outerIndents := []
  pending := []
  finished := false

/-! ## Keys and indentation -/

def rest : Cut (List Char) := do
  return (← get).cursor.rest

/-- Go to where a given end of the text starts. -/
def moveTo (rest : List Char) : Cut Unit :=
  modify fun cutting => { cutting with cursor := cutting.cursor.moveTo rest }

def add (token : Token) : Cut Unit :=
  modify fun cutting => { cutting with tokens := cutting.tokens ++ [token] }

/-- Say whether a key without a mark may start here. -/
def allowKey (allowed : Bool) : Cut Unit :=
  modify fun cutting => { cutting with allowsKey := allowed }

/-- The number of characters that a key without a mark may have. -/
def maxKeyLength : Nat := 1024

/-- Whether a pending key can still become one. -/
def isOpen (cursor : Cursor) (key : PendingKey) : Bool :=
  key.line == cursor.line && cursor.index - key.index ≤ maxKeyLength

/-- Give up the pending keys that can no longer become one. -/
def dropStaleKeys : Cut Unit := do
  let cutting ← get
  let (open_, stale) := cutting.pending.partition (isOpen cutting.cursor)
  if stale.any (·.required) then throw .token
  set { cutting with pending := open_ }

/-- Give up the pending key of the current level. -/
def dropKey : Cut Unit := do
  let cutting ← get
  let (here, others) := cutting.pending.partition (·.flowLevel == cutting.flowLevel)
  if here.any (·.required) then throw .token
  set { cutting with pending := others }

/-- Remember that the next token may turn out to be a key. -/
def noteKey : Cut Unit := do
  let cutting ← get
  if cutting.allowsKey then
    dropKey
    let cursor := cutting.cursor
    let required := cutting.flowLevel == 0 && cutting.indent == (cursor.column : Int)
    let key : PendingKey :=
      ⟨cutting.flowLevel, cutting.tokens.length, required, cursor.index, cursor.line, cursor.column⟩
    modify fun cutting => { cutting with pending := key :: cutting.pending }

/-- The ends of the blocks that a smaller indentation closes, and the indentation left. -/
def closed (column indent : Int) : List Int → Nat × Int × List Int
  | [] => (0, indent, [])
  | outer :: outers =>
      if column < indent then
        let (count, indent, rest) := closed column outer outers
        (count + 1, indent, rest)
      else (0, indent, outer :: outers)

/-- Close the blocks that are indented more than a column. -/
def unwind (column : Int) : Cut Unit := do
  let cutting ← get
  if cutting.flowLevel = 0 then
    let (count, indent, outers) := closed column cutting.indent cutting.outerIndents
    set { cutting with
      indent := indent, outerIndents := outers
      tokens := cutting.tokens ++ List.replicate count Token.blockEnd }

/-- Open a block at a column, unless one is open there; the answer tells whether it was opened. -/
def openBlock (column : Nat) : Cut Bool := do
  let cutting ← get
  if cutting.indent < column then
    set { cutting with
      indent := column, outerIndents := cutting.indent :: cutting.outerIndents }
    return true
  else return false

/-! ## Marks -/

/-- Add a token for so many characters. -/
def addMark (token : Token) (length : Nat) : Cut Unit := do
  add token
  moveTo ((← rest).drop length)

def readEnd : Cut Unit := do
  unwind (-1)
  dropKey
  add .textEnd
  modify fun cutting => { cutting with pending := [], finished := true }

def readDocumentMark (token : Token) : Cut Unit := do
  unwind (-1)
  dropKey
  allowKey false
  addMark token 3

/-- The start of a collection in brackets. -/
def readFlowStart (token : Token) : Cut Unit := do
  noteKey
  modify fun cutting => { cutting with flowLevel := cutting.flowLevel + 1 }
  allowKey true
  addMark token 1

/-- The end of a collection in brackets. -/
def readFlowEnd (token : Token) : Cut Unit := do
  dropKey
  modify fun cutting => { cutting with flowLevel := cutting.flowLevel - 1 }
  allowKey false
  addMark token 1

/-- The comma between entries in brackets. -/
def readFlowEntry : Cut Unit := do
  allowKey true
  dropKey
  addMark .flowEntry 1

/-- The mark of a block's entry, a key or a value, where it is allowed; it may open a block. -/
def openAtMark (opening : Token) : Cut Unit := do
  let cutting ← get
  if cutting.flowLevel = 0 then
    if !cutting.allowsKey then throw .token
    if ← openBlock cutting.cursor.column then add opening

def readBlockEntry : Cut Unit := do
  openAtMark .blockSequenceStart
  allowKey true
  dropKey
  addMark .blockEntry 1

def readKey : Cut Unit := do
  openAtMark .blockMappingStart
  allowKey ((← get).flowLevel == 0)
  dropKey
  addMark .key 1

/-- Put a token in front of another one, given by its number. -/
def insertAt (number : Nat) (token : Token) : Cut Unit :=
  modify fun cutting =>
    { cutting with tokens := cutting.tokens.take number ++ token :: cutting.tokens.drop number }

/-- The colon before a value, which turns a pending token into a key. -/
def readValue : Cut Unit := do
  let cutting ← get
  match cutting.pending.find? (·.flowLevel == cutting.flowLevel) with
  | some key =>
      set { cutting with
        pending := cutting.pending.filter (·.flowLevel ≠ cutting.flowLevel) }
      insertAt key.number .key
      if cutting.flowLevel = 0 then
        if ← openBlock key.column then insertAt key.number .blockMappingStart
      allowKey false
  | none =>
      openAtMark .blockMappingStart
      allowKey (cutting.flowLevel == 0)
      dropKey
  addMark .value 1

/-! ## Names and scalars -/

/-- The name of an anchor or an alias, which starts with its mark. -/
def readName (make : String → Token) : Cut Unit := do
  noteKey
  allowKey false
  let behind := (← rest).drop 1
  let name := behind.takeWhile isNameChar
  let after := behind.drop name.length
  let ends := endsWord after || "?:,]\x7d%@\x60".toList.contains (after.headD ' ')
  if name = [] ∨ !ends then throw .token
  add (make (String.ofList name))
  moveTo after

/-- The number of bytes of a character by its first byte. -/
def escapedLength? (byte : Nat) : Option Nat :=
  if byte < 0x80 then some 1
  else if 0xC0 ≤ byte ∧ byte < 0xE0 then some 2
  else if 0xE0 ≤ byte ∧ byte < 0xF0 then some 3
  else if 0xF0 ≤ byte ∧ byte < 0xF8 then some 4
  else none

/-- An escaped byte at the start of a text. -/
def readUriByte : List Char → Except Fault (Nat × List Char)
  | '%' :: high :: low :: rest =>
      match Scalar.hexNumber? 2 [high, low] with
      | some value => .ok (value, rest)
      | none => .error .token
  | _ => .error .token

/-- So many escaped bytes that go on with a character. -/
def readUriTail : Nat → List Char → Except Fault (Bytes × List Char)
  | 0, chars => .ok ([], chars)
  | count + 1, chars => do
      let (value, rest) ← readUriByte chars
      if value < 0x80 ∨ 0xC0 ≤ value then throw .token
      let (bytes, rest) ← readUriTail count rest
      return (UInt8.ofNat value :: bytes, rest)

/-- An escaped character in the rest of a tag. -/
def readUriEscape (chars : List Char) : Except Fault (List Char × List Char) := do
  let (first, rest) ← readUriByte chars
  match escapedLength? first with
  | none => throw .token
  | some length =>
      let (bytes, rest) ← readUriTail (length - 1) rest
      match Text.Utf8.decode? (UInt8.ofNat first :: bytes) with
      | some chars => return (chars, rest)
      | none => throw .undecodable

/--
Whether a character may stand in the rest of a tag; marks of flow only stand between brackets.
-/
def isUriChar (bracketed : Bool) (char : Char) : Bool :=
  isNameChar char || ";/?:@&=+$.!~*'()".toList.contains char ||
    (bracketed && ",[]".toList.contains char)

def readUri (bracketed : Bool) : Nat → List Char → Except Fault (List Char × List Char)
  | 0, chars => .ok ([], chars)
  | _ + 1, [] => .ok ([], [])
  | fuel + 1, char :: rest =>
      if isUriChar bracketed char then do
        let (text, rest) ← readUri bracketed fuel rest
        return (char :: text, rest)
      else if char = '%' then do
        let (escaped, rest) ← readUriEscape (char :: rest)
        let (text, rest) ← readUri bracketed fuel rest
        return (escaped ++ text, rest)
      else .ok ([], char :: rest)

def readTagRest (bracketed : Bool) (chars : List Char) : Except Fault (String × List Char) := do
  let (text, rest) ← readUri bracketed chars.length chars
  if rest.length = chars.length then throw .token
  return (String.ofList text, rest)

/-- The handle that a text starts with: an exclamation mark, or two with a name between. -/
def takeHandle (chars : List Char) : List Char :=
  let name := (chars.drop 1).takeWhile isNameChar
  if (chars.drop (1 + name.length)).head? = some '!' then '!' :: name ++ ['!']
  else '!' :: name

/-- Whether a handle has two exclamation marks. -/
def isNamedHandle (handle : List Char) : Bool :=
  handle.length > 1 && handle.getLast? = some '!'

def readHandle (chars : List Char) : Except Fault (String × List Char) :=
  let handle := takeHandle chars
  if chars.head? = some '!' ∧ (isNamedHandle handle ∨ handle = ['!']) then
    .ok (String.ofList handle, chars.drop handle.length)
  else .error .token

/-- A tag, which starts with its mark. -/
def readTagToken (chars : List Char) : Except Fault (Token × List Char) := do
  let behind := chars.drop 1
  if behind.head? = some '<' then
    match ← readTagRest true (behind.drop 1) with
    | (text, '>' :: rest) => return (.tag none text, rest)
    | _ => throw .token
  let handle := takeHandle chars
  if isNamedHandle handle then
    let (text, rest) ← readTagRest false (chars.drop handle.length)
    return (.tag (some (String.ofList handle)) text, rest)
  let (text, rest) ← readUri false behind.length behind
  if text = [] then return (.tag none "!", rest)
  return (.tag (some "!") (String.ofList text), rest)

/-- A tag with the mark behind it: a gap, the end of a line, or a comma in brackets. -/
def tagOf (inFlow : Bool) (chars : List Char) : Except Fault (Token × List Char) := do
  let (token, rest) ← readTagToken chars
  if endsWord rest ∨ (inFlow ∧ rest.head? = some ',') then return (token, rest) else throw .token

/-- A result of reading as a step of cutting. -/
def settle {α : Type} (result : Except Fault α) : Cut α :=
  match result with
  | .ok value => return value
  | .error fault => throw fault

def readTag : Cut Unit := do
  noteKey
  allowKey false
  let (token, behind) ← settle (tagOf ((← get).flowLevel != 0) (← rest))
  add token
  moveTo behind

def readQuoted : Cut Unit := do
  noteKey
  allowKey false
  let (text, behind) ← settle (Scalar.readQuoted (← rest))
  add (.scalar (String.ofList text) false)
  moveTo behind

def readBlock : Cut Unit := do
  allowKey true
  dropKey
  let cutting ← get
  let (text, behind) ← settle (Scalar.readBlock cutting.indent cutting.cursor.rest)
  add (.scalar (String.ofList text) false)
  moveTo behind

def readPlain : Cut Unit := do
  noteKey
  let cutting ← get
  let (text, behind, crossed) ← settle
    (Scalar.readPlain (cutting.flowLevel != 0) (cutting.indent + 1) cutting.cursor.rest)
  allowKey crossed
  add (.scalar (String.ofList text) true)
  moveTo behind

/-! ## Directives -/

/-- The most digits of a number in a version. -/
def maxVersionDigits : Nat := 9

/-- A number at the start of a text. -/
def readNumber (chars : List Char) : Except Fault (Nat × List Char) :=
  let digits := chars.takeWhile Char.isDigit
  if digits = [] ∨ maxVersionDigits < digits.length then .error .token
  else
    .ok (digits.foldl (fun number digit => number * 10 + (digit.toNat - '0'.toNat)) 0,
      chars.drop digits.length)

def readVersion (chars : List Char) : Except Fault (Token × List Char) := do
  let (major, behind) ← readNumber chars
  if behind.head? ≠ some '.' then throw .token
  let (minor, behind) ← readNumber (behind.drop 1)
  return (.version major minor, behind)

/-- A handle and the start of the tags that it stands for. -/
def readTagHandle (chars : List Char) : Except Fault (Token × List Char) := do
  let (handle, behind) ← readHandle chars
  if !(behind.head?.map isGap).getD false then throw .token
  let (start, behind) ← readTagRest true (behind.dropWhile isGap)
  if !endsWord behind then throw .token
  return (.tagHandle handle start, behind)

def directiveOf (chars : List Char) : Except Fault (Token × List Char) := do
  let name := chars.takeWhile isNameChar
  let behind := chars.drop name.length
  if name = [] ∨ !endsWord behind then throw .token
  let values := behind.dropWhile isGap
  let (token, behind) ←
    if name = "YAML".toList then readVersion values
    else if name = "TAG".toList then readTagHandle values
    else throw .token
  return (token, ← Scalar.dropLineEnd behind)

def readDirective : Cut Unit := do
  unwind (-1)
  dropKey
  allowKey false
  let (token, behind) ← settle (directiveOf ((← rest).drop 1))
  add token
  moveTo behind

/-! ## All tokens -/

/--
The rest of a text from its next token on, and whether a key may start there. Tabs
stand between tokens where no key can start.
-/
def skipToToken (inFlow allowsKey : Bool) : Nat → List Char → List Char × Bool
  | 0, chars => (chars, allowsKey)
  | fuel + 1, chars =>
      let chars := chars.dropWhile fun char =>
        char == ' ' || ((inFlow || !allowsKey) && char == '\t')
      let chars := if chars.head? = some '#' then chars.dropWhile (!isBreak ·) else chars
      match chars with
      | char :: rest =>
          if isBreak char then skipToToken inFlow (allowsKey || !inFlow) fuel rest
          else (chars, allowsKey)
      | [] => ([], allowsKey)

def findToken : Cut Unit := do
  let cutting ← get
  if cutting.cursor.index = 0 ∧ cutting.cursor.rest.head? = some Cursor.orderMark then
    moveTo (cutting.cursor.rest.drop 1)
  let chars ← rest
  let (behind, allowed) :=
    skipToToken (cutting.flowLevel != 0) cutting.allowsKey (chars.length + 1) chars
  moveTo behind
  allowKey allowed

/-- Whether a plain scalar can start with a text. -/
def startsPlain (inFlow : Bool) : List Char → Bool
  | [] => false
  | char :: rest =>
      (!isGap char && !isBreak char && !"-?:,[]\x7b\x7d#&*!|>'\"%@\x60".toList.contains char) ||
        (!endsWord rest && (char == '-' || (!inFlow && (char == '?' || char == ':'))))

/-- Cut off the next token, with the marks of structure before it. -/
def readToken : Cut Unit := do
  findToken
  dropStaleKeys
  unwind (← get).cursor.column
  let cutting ← get
  let inFlow := cutting.flowLevel != 0
  let chars := cutting.cursor.rest
  let behind := chars.drop 1
  let atStart := cutting.cursor.column == 0
  match chars.head? with
  | none => readEnd
  | some char =>
      if char = '%' ∧ atStart then readDirective
      else if char = '-' ∧ atStart ∧ startsWithMark chars then readDocumentMark .documentStart
      else if char = '.' ∧ atStart ∧ startsWithMark chars then readDocumentMark .documentEnd
      else if char = '[' then readFlowStart .flowSequenceStart
      else if char = '{' then readFlowStart .flowMappingStart
      else if char = ']' then readFlowEnd .flowSequenceEnd
      else if char = '}' then readFlowEnd .flowMappingEnd
      else if char = ',' then readFlowEntry
      else if char = '-' ∧ endsWord behind then readBlockEntry
      else if char = '?' ∧ (inFlow ∨ endsWord behind) then readKey
      else if char = ':' ∧ (inFlow ∨ endsWord behind) then readValue
      else if char = '*' then readName .alias
      else if char = '&' then readName .anchor
      else if char = '!' then readTag
      else if (char = '|' ∨ char = '>') ∧ !inFlow then readBlock
      else if char = '\'' ∨ char = '"' then readQuoted
      else if startsPlain inFlow chars then readPlain
      else throw .token

/-- Cut off all tokens; every token takes a character at least. -/
def readAll : Nat → Cut Unit
  | 0 => throw .token
  | fuel + 1 => do
      readToken
      if (← get).finished then return () else readAll fuel

/-- The number of tokens that are settled. -/
def settledCount (cutting : Cutting) : Nat :=
  (cutting.pending.map (·.number)).foldl min cutting.tokens.length

end Cutting

/-- The settled tokens of a text, and the fault that ends them too early. -/
def Token.ofText (text : List Char) : List Token × Option Fault :=
  match (Cutting.readAll (text.length + 1)).run.run (.start text) with
  | (.ok (), cutting) => (cutting.tokens, none)
  | (.error fault, cutting) => (cutting.tokens.take cutting.settledCount, some fault)

end Typeset.Yaml
