import Typeset.Text.Lines

/-!
# Tokens of YAML

A YAML text is cut into tokens: the marks of its structure, names of anchors and
tags, and scalars with their quoting and folding undone. The marks of block
structure, which indentation alone shows, are tokens like all others.
-/

namespace Typeset.Yaml

/-- Why a YAML text has no value. -/
inductive Fault where
  /-- A character that no YAML text may hold. -/
  | character
  /-- No token can start or go on with what stands here. -/
  | token
  /-- A token stands where none of its kind may stand. -/
  | arrangement
  /-- An alias without its anchor, an anchor twice, or a second document. -/
  | composition
  /-- A node that cannot be what its tag says. -/
  | content
  /-- The text of a number or date that is none. -/
  | number
  /-- The text of a number that has no digits to look at. -/
  | noDigits
  /-- The text of a truth value that is none. -/
  | truth
  /-- A text that does not look like a date. -/
  | date
  /-- A part of a path that is no text. -/
  | pathPart
  /-- A path of another system. -/
  | foreignPath
  /-- The bytes of an escaped tag are no text. -/
  | undecodable
  deriving DecidableEq

inductive Token where
  | version (major minor : Nat)
  | tagHandle (handle start : String)
  | documentStart
  | documentEnd
  | blockSequenceStart
  | blockMappingStart
  | blockEnd
  | flowSequenceStart
  | flowSequenceEnd
  | flowMappingStart
  | flowMappingEnd
  | blockEntry
  | flowEntry
  | key
  | value
  | alias (name : String)
  | anchor (name : String)
  | tag (handle : Option String) (rest : String)
  | scalar (text : String) (plain : Bool)
  | textEnd
  deriving DecidableEq

/-! ## Characters -/

/-- Whether a character ends a line. -/
def isBreak (char : Char) : Bool :=
  char == '\n' || char == '\x85' || char == '\u2028' || char == '\u2029'

/-- Whether a character is a space or a tab. -/
def isGap (char : Char) : Bool :=
  char == ' ' || char == '\t'

/-- What a line break stands for in a scalar. -/
def breakText (char : Char) : List Char :=
  if char == '\x85' then ['\n'] else [char]

/-- Whether a word ends before a text: at its end, at a gap or at a line break. -/
def endsWord : List Char → Bool
  | [] => true
  | char :: _ => isGap char || isBreak char

/-- Whether a line ends before a text. -/
def endsLine : List Char → Bool
  | [] => true
  | char :: _ => isBreak char

/-- Whether a text starts with one of the two marks between documents. -/
def startsWithMark (chars : List Char) : Bool :=
  (chars.take 3 = "---".toList || chars.take 3 = "...".toList) && endsWord (chars.drop 3)

/-- Whether a character may stand in the names of anchors and handles. -/
def isNameChar (char : Char) : Bool :=
  char.isAlphanum || char == '-' || char == '_'

/-- Whether a YAML text may hold a character. -/
def isAllowed (char : Char) : Bool :=
  let code := char.toNat
  code == 0x9 || code == 0xA || code == 0xD || (0x20 ≤ code && code ≤ 0x7E) || code == 0x85 ||
    (0xA0 ≤ code && code ≤ 0xFFFD) || 0x10000 ≤ code

/-! ## Places -/

/-- What is left of a text, and the place where it starts. -/
structure Cursor where
  rest : List Char
  index : Nat
  line : Nat
  column : Nat

namespace Cursor

def orderMark : Char := '\uFEFF'

/-- The start of a text; a byte-order mark before it does not count. -/
def start (text : List Char) : Cursor :=
  ⟨if text.head? = some orderMark then text.drop 1 else text, 0, 0, 0⟩

/-- Go behind one character. -/
def step (cursor : Cursor) : Cursor :=
  match cursor.rest with
  | [] => cursor
  | char :: rest =>
      if isBreak char then ⟨rest, cursor.index + 1, cursor.line + 1, 0⟩
      else ⟨rest, cursor.index + 1, cursor.line, cursor.column + 1⟩

/-- Go behind some characters. -/
def skip (cursor : Cursor) : Nat → Cursor
  | 0 => cursor
  | count + 1 => cursor.step.skip count

/-- Go to where a given end of the text starts. -/
def moveTo (cursor : Cursor) (rest : List Char) : Cursor :=
  cursor.skip (cursor.rest.length - rest.length)

end Cursor

end Typeset.Yaml
