import Typeset.Text.Blank
import Typeset.Text.Lines
import Typeset.Text.Word

/-!
# Lines of the markup

In the line markup a line is a page break, an inclusion, a definition, or text. An
inclusion and a definition are known by how the line starts. A line of text may hold
calls with one quoted argument, and references to names.
-/

namespace Typeset.LineMarkup

/-- A name at the start of a text, and the rest; a name has at least one character. -/
def takeName? (chars : List Char) : Option (List Char × List Char) :=
  match chars.takeWhile Text.isWord with
  | [] => none
  | name => some (name, chars.dropWhile Text.isWord)

/-- A line that binds a name from a file. -/
structure Inclusion where
  path : List Char
  name : List Char
  deriving DecidableEq

def inclusionStart : List Char :=
  "#import \"".toList

def inclusion? (line : List Char) : Option Inclusion := do
  let rest ← Text.after? inclusionStart line
  let path := rest.takeWhile (· ≠ '"')
  let afterPath ← Text.after? "\": ".toList (rest.drop path.length)
  let (name, _) ← takeName? afterPath
  return ⟨path, name⟩

/-- A definition: the name, and what stands behind the equals sign. -/
structure Definition where
  name : List Char
  rest : List Char
  deriving DecidableEq

def definition? (line : List Char) : Option Definition := do
  let afterStart ← Text.after? "#let ".toList line
  let (name, afterName) ← takeName? afterStart
  let rest ← Text.after? " =".toList afterName
  return ⟨name, rest⟩

/-- A definition of a file: its name, the byte offset behind its equals sign, and its value. -/
structure FileDefinition where
  name : String
  offset : Nat
  value : List Char
  deriving DecidableEq

/-- The place of the first closing bracket that no opening one precedes. -/
def strayBracket? : List Char → Option Nat
  | [] => none
  | char :: rest =>
      if char = ']' then some 0
      else if char = '[' then none
      else (strayBracket? rest).map (· + 1)

/-- What can be called in a line. -/
inductive CallKind where
  | warn
  | image
  | input
  deriving DecidableEq

/-- How a call starts, up to its argument. -/
def CallKind.start : CallKind → List Char
  | warn => "#warn(\"".toList
  | image => "#image(\"".toList
  | input => "#input(\"".toList

/-- A call in a line, with the number of characters that it takes. -/
structure Call where
  kind : CallKind
  argument : List Char
  deriving DecidableEq

/-- The number of characters that a call takes. -/
def Call.length (call : Call) : Nat :=
  call.kind.start.length + call.argument.length + 2

/-- The call of a kind that a text starts with. -/
def callOf? (kind : CallKind) (chars : List Char) : Option Call := do
  let rest ← Text.after? kind.start chars
  let argument := rest.takeWhile (· ≠ '"')
  let _ ← Text.after? "\")".toList (rest.drop argument.length)
  return ⟨kind, argument⟩

/-- The call that a text starts with. -/
def call? (chars : List Char) : Option Call :=
  [CallKind.warn, .image, .input].findSome? (callOf? · chars)

/-- A piece of a line: a character of text, or a call at a place in the line. -/
inductive Piece where
  | char (char : Char)
  | call (start : Nat) (call : Call)
  deriving DecidableEq

/-- The pieces of a line from a place on; the first `skip` characters belong to a call before. -/
def piecesFrom (place skip : Nat) : List Char → List Piece
  | [] => []
  | char :: rest =>
      if skip ≠ 0 then piecesFrom (place + 1) (skip - 1) rest
      else
        match call? (char :: rest) with
        | some call => .call place call :: piecesFrom (place + 1) (call.length - 1) rest
        | none => .char char :: piecesFrom (place + 1) 0 rest

def pieces (line : List Char) : List Piece :=
  piecesFrom 0 0 line

/--
A line with its references replaced by the values of known names. The first
`skip` characters belong to a reference before and are left out.
-/
def substituteFrom (value? : String → Option String) (skip : Nat) : List Char → List Char
  | [] => []
  | char :: rest =>
      if skip ≠ 0 then substituteFrom value? (skip - 1) rest
      else if char = '#' then
        match takeName? rest with
        | some (name, _) =>
            match value? (String.ofList name) with
            | some value => value.toList ++ substituteFrom value? name.length rest
            | none => char :: substituteFrom value? 0 rest
        | none => char :: substituteFrom value? 0 rest
      else char :: substituteFrom value? 0 rest

/-- A line with its references replaced by the values of known names. -/
def substitute (value? : String → Option String) (line : List Char) : List Char :=
  substituteFrom value? 0 line

end Typeset.LineMarkup
