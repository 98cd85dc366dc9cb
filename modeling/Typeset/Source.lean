import Typeset.FileId
import Typeset.Text.Utf8

/-!
# Sources

A source is the text of a file together with its bytes and the byte offsets at
which its lines start. A line ends with a carriage return, a line feed or one
of each in this order. Editing keeps the starts of the lines before the edited
range and looks for breaks only from the last of them on; the revision counts
the edits.
-/

namespace Typeset

namespace LineIndex

/-- The offsets after the line breaks of some bytes that start at an offset. -/
def scan (offset : Nat) : Bytes → List Nat
  | [] => []
  | 13 :: 10 :: rest => (offset + 2) :: scan (offset + 2) rest
  | byte :: rest =>
      if byte = 13 ∨ byte = 10 then (offset + 1) :: scan (offset + 1) rest
      else scan (offset + 1) rest

/-- The starts of all lines of some bytes; the first line starts at zero. -/
def build (bytes : Bytes) : List Nat :=
  0 :: scan 0 bytes

/-- The starts of lines before an edit at an offset; the first line always stays. -/
def before (starts : List Nat) (offset : Nat) : List Nat :=
  if offset = 0 then starts.take 1 else starts.takeWhile (· < offset)

/-- The starts of lines after an edit at an offset that left the given bytes. -/
def update (starts : List Nat) (offset : Nat) (bytes : Bytes) : List Nat :=
  let kept := before starts offset
  let resume := kept.getLast?.getD 0
  kept ++ scan resume (bytes.drop resume)

end LineIndex

/-- The text of one file, with its byte form and line starts. -/
structure Source where
  id : FileId
  revision : Nat
  text : String
  bytes : Bytes
  lineStarts : List Nat
  deriving DecidableEq

namespace Source

/-- A source that no edit has changed. -/
def ofText (id : FileId) (text : String) : Source where
  id := id
  revision := 0
  text := text
  bytes := Text.Utf8.encode text.toList
  lineStarts := LineIndex.build (Text.Utf8.encode text.toList)

def byteCount (source : Source) : Nat :=
  source.bytes.length

inductive EditError where
  | outOfBounds (start stop : Int) (byteCount : Nat)
  | splitsCharacter (start stop : Int)
  deriving DecidableEq

/-- What is said of a refused edit. -/
def EditError.message : EditError → String
  | outOfBounds start stop byteCount =>
      s!"Edit range {start}..{stop} out of bounds ({byteCount} bytes)"
  | splitsCharacter start stop => s!"Edit range {start}..{stop} is not on a character boundary"

/-- A source whose text was changed from an offset on. -/
def revise (source : Source) (offset : Nat) (text : List Char) : Source :=
  let bytes := Text.Utf8.encode text
  { source with
    revision := source.revision + 1
    text := String.ofList text
    bytes := bytes
    lineStarts := LineIndex.update source.lineStarts offset bytes }

/-- Put a text in place of the bytes from `start` up to `stop`. -/
def edit (source : Source) (start stop : Int) (replacement : String) :
    Except EditError Source :=
  if 0 ≤ start ∧ start ≤ stop ∧ stop ≤ source.byteCount then
    match Text.Utf8.decode? (source.bytes.take start.toNat),
        Text.Utf8.decode? (source.bytes.drop stop.toNat) with
    | some head, some tail =>
        .ok (source.revise start.toNat (head ++ replacement.toList ++ tail))
    | _, _ => .error (.splitsCharacter start stop)
  else .error (.outOfBounds start stop source.byteCount)

/-- The number of elements that two lists share at their start. -/
def commonPrefixLength : List Char → List Char → Nat
  | left :: lefts, right :: rights =>
      if left = right then commonPrefixLength lefts rights + 1 else 0
  | _, _ => 0

/-- The lengths of the shared start of two texts and of the shared end beside it. -/
def sharedEnds (old new : List Char) : Nat × Nat :=
  let head := commonPrefixLength old new
  (head, min (commonPrefixLength old.reverse new.reverse) (min old.length new.length - head))

/--
Give a source another text, editing the one range in which the two differ. The
answer is that range in bytes of the old text, or nothing for the same text.
-/
def replace (source : Source) (text : String) : Source × Option (Nat × Nat) :=
  let old := source.text.toList
  let new := text.toList
  if old = new then (source, none)
  else
    let (head, tail) := sharedEnds old new
    let start := Text.Utf8.length (old.take head)
    let stop := source.byteCount - Text.Utf8.length (old.drop (old.length - tail))
    (source.revise start new, some (start, stop))

/-- The line that holds a byte offset, counted from zero. -/
def lineOf? (source : Source) (offset : Int) : Option Nat :=
  if 0 ≤ offset ∧ offset ≤ source.byteCount then
    some ((source.lineStarts.takeWhile (· ≤ offset.toNat)).length - 1)
  else none

/-- The characters between the start of its line and a byte offset, which must not split one. -/
def columnOf? (source : Source) (offset : Int) : Option Nat := do
  let line ← source.lineOf? offset
  let start := source.lineStarts.getD line 0
  let chars ← Text.Utf8.decode? ((source.bytes.take offset.toNat).drop start)
  return chars.length

/-- The offset at which a line starts, the lines counted from zero. -/
def startOf? (source : Source) (line : Int) : Option Nat :=
  if 0 ≤ line then source.lineStarts[line.toNat]? else none

/-- A source as a message names it. -/
def describe (source : Source) : String :=
  s!"Source({source.id.render}, {source.byteCount} bytes, revision {source.revision})"

end Source

end Typeset
