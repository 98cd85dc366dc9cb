import Typeset.Yaml.Token

/-!
# Scalars of YAML

A scalar is written plainly, in single or double quotes, or as a block of lines.
Line breaks within plain and quoted scalars are folded: one break is a space, and
of several the first is dropped. A block keeps its breaks or folds them, and a
mark in its head tells what becomes of those at its end.

Every reader gives the text of the scalar and what is left of the text behind it.
-/

namespace Typeset.Yaml.Scalar

/-- The text of a fold at a line break, with the breaks that follow it. -/
def fold (char : Char) (breaks : List Char) : List Char :=
  match breakText char with
  | ['\n'] => if breaks = [] then [' '] else breaks
  | other => other ++ breaks

/-! ## Quoted scalars -/

/-- The breaks after a line break in quotes; no mark between documents may follow one. -/
def readBreaks : Nat → List Char → Except Fault (List Char × List Char)
  | 0, _ => .error .token
  | fuel + 1, chars =>
      if startsWithMark chars then .error .token
      else
        match chars.dropWhile isGap with
        | [] => .ok ([], [])
        | char :: rest =>
            if isBreak char then do
              let (breaks, rest) ← readBreaks fuel rest
              return (breakText char ++ breaks, rest)
            else .ok ([], char :: rest)

/-- The character that an escape of one letter stands for. -/
def escaped? : Char → Option Char
  | '0' => some '\x00'
  | 'a' => some '\x07'
  | 'b' => some '\x08'
  | 't' | '\t' => some '\t'
  | 'n' => some '\n'
  | 'v' => some '\x0b'
  | 'f' => some '\x0c'
  | 'r' => some '\r'
  | 'e' => some '\x1b'
  | ' ' => some ' '
  | '"' => some '"'
  | '\\' => some '\\'
  | '/' => some '/'
  | 'N' => some '\x85'
  | '_' => some '\xa0'
  | 'L' => some '\u2028'
  | 'P' => some '\u2029'
  | _ => none

/-- The number of digits of an escape by code. -/
def codeLength? : Char → Option Nat
  | 'x' => some 2
  | 'u' => some 4
  | 'U' => some 8
  | _ => none

def hexValue? (char : Char) : Option Nat :=
  if char.isDigit then some (char.toNat - '0'.toNat)
  else if 'a' ≤ char ∧ char ≤ 'f' then some (char.toNat - 'a'.toNat + 10)
  else if 'A' ≤ char ∧ char ≤ 'F' then some (char.toNat - 'A'.toNat + 10)
  else none

/-- The number that some hexadecimal digits at the start of a text spell. -/
def hexNumber? (count : Nat) (chars : List Char) : Option Nat :=
  match (chars.take count).mapM hexValue? with
  | some values =>
      if values.length = count then
        some (values.foldl (fun number value => number * 16 + value) 0)
      else none
  | none => none

def charOf? (code : Nat) : Option Char :=
  if code.isValidChar then some (Char.ofNat code) else none

/-- What an escape stands for, behind its backslash. -/
def readEscape (fuel : Nat) : List Char → Except Fault (List Char × List Char)
  | [] => .error .token
  | char :: rest =>
      match escaped? char, codeLength? char with
      | some value, _ => .ok ([value], rest)
      | none, some count =>
          match (hexNumber? count rest).bind charOf? with
          | some value => .ok ([value], rest.drop count)
          | none => .error .token
      | none, none => if isBreak char then readBreaks fuel rest else .error .token

/-- What stands between a gap or line break and the next word in quotes. -/
def readGap (fuel : Nat) (chars : List Char) : Except Fault (List Char × List Char) :=
  match chars.dropWhile isGap with
  | [] => .error .token
  | char :: rest =>
      if isBreak char then do
        let (breaks, rest) ← readBreaks fuel rest
        return (fold char breaks, rest)
      else .ok (chars.takeWhile isGap, char :: rest)

/-- A scalar in double quotes, behind the first of them. -/
def readDouble : Nat → List Char → Except Fault (List Char × List Char)
  | 0, _ | _ + 1, [] => .error .token
  | _ + 1, '"' :: rest => .ok ([], rest)
  | fuel + 1, char :: rest => do
      let (part, rest) ←
        if char = '\\' then readEscape fuel rest
        else if isGap char || isBreak char then readGap fuel (char :: rest)
        else pure ([char], rest)
      let (text, rest) ← readDouble fuel rest
      return (part ++ text, rest)

/-- A scalar in single quotes, behind the first of them; two of them stand for one. -/
def readSingle : Nat → List Char → Except Fault (List Char × List Char)
  | 0, _ | _ + 1, [] => .error .token
  | fuel + 1, '\'' :: '\'' :: rest => do
      let (text, rest) ← readSingle fuel rest
      return ('\'' :: text, rest)
  | _ + 1, '\'' :: rest => .ok ([], rest)
  | fuel + 1, char :: rest => do
      let (part, rest) ←
        if isGap char || isBreak char then readGap fuel (char :: rest) else pure ([char], rest)
      let (text, rest) ← readSingle fuel rest
      return (part ++ text, rest)

def readQuoted : List Char → Except Fault (List Char × List Char)
  | '"' :: rest => readDouble (rest.length + 1) rest
  | _ :: rest => readSingle (rest.length + 1) rest
  | [] => .error .token

/-! ## Plain scalars -/

def flowMarks : List Char :=
  [',', '[', ']', '\x7b', '\x7d']

/--
Whether a word of a plain scalar ends before a text: at a gap,
at a colon that ends a key, or at a mark of flow.
-/
def endsChunk (inFlow : Bool) : List Char → Bool
  | [] => true
  | char :: rest =>
      isGap char || isBreak char || (char == ':' && endsWord rest) ||
        (inFlow && flowMarks.contains char)

/--
Whether a colon stands right before a mark of flow, where no plain scalar in brackets can end.
-/
def isTornColon (inFlow : Bool) : List Char → Bool
  | ':' :: char :: _ => inFlow && (char == '?' || flowMarks.contains char)
  | _ => false

/-- The characters of a word of a plain scalar, and the rest. -/
def takeChunk (inFlow : Bool) : List Char → Except Fault (List Char × List Char)
  | [] => .ok ([], [])
  | char :: rest =>
      if isTornColon inFlow (char :: rest) then .error .token
      else if endsChunk inFlow (char :: rest) then .ok ([], char :: rest)
      else do
        let (chunk, rest) ← takeChunk inFlow rest
        return (char :: chunk, rest)

/-- What stands between two words of a plain scalar. -/
structure Space where
  text : List Char
  rest : List Char
  /-- Whether a line ended. -/
  crossed : Bool
  /-- The column behind a line break. -/
  column : Nat

/-- The breaks and gaps behind a line break; no tab may stand in the indentation. -/
def readSpaceBreaks (indent : Int) (column : Nat) :
    List Char → Except Fault (List Char × List Char × Nat)
  | [] => .ok ([], [], column)
  | char :: rest =>
      if char = '\t' ∧ (column : Int) < indent then .error .token
      else if isGap char then readSpaceBreaks indent (column + 1) rest
      else if isBreak char then do
        let (breaks, rest, column) ← readSpaceBreaks indent 0 rest
        return (breakText char ++ breaks, rest, column)
      else .ok ([], char :: rest, column)

/-- The space at the start of a text. -/
def readSpace (indent : Int) (chars : List Char) : Except Fault Space :=
  match chars.dropWhile isGap with
  | [] => .ok ⟨chars, [], false, 0⟩
  | char :: rest =>
      if isBreak char then do
        let (breaks, rest, column) ← readSpaceBreaks indent 0 rest
        return ⟨fold char breaks, rest, true, column⟩
      else .ok ⟨chars.takeWhile isGap, char :: rest, false, 0⟩

/--
Whether a plain scalar ends behind a space: with its text,
at a comment, or where less is indented.
-/
def endsBehind (inFlow : Bool) (indent : Int) (space : Space) : Bool :=
  space.text = [] || space.rest.head? = some '#' ||
    (space.crossed && !inFlow && (space.column : Int) < indent) ||
    (space.crossed && space.column = 0 && startsWithMark space.rest)

/-- A plain scalar: its text, the rest, and whether its last space ended a line. -/
def readPlainFrom (inFlow : Bool) (indent : Int) :
    Nat → List Char → Except Fault (List Char × List Char × Bool)
  | 0, chars => .ok ([], chars, false)
  | fuel + 1, chars => do
      let (chunk, behind) ← takeChunk inFlow chars
      let space ← readSpace indent behind
      if endsBehind inFlow indent space || endsChunk inFlow space.rest then
        return (chunk, space.rest, space.crossed)
      let (text, rest, crossed) ← readPlainFrom inFlow indent fuel space.rest
      return (chunk ++ space.text ++ text, rest, crossed)

/-- A plain scalar that is indented by so many columns at least. -/
def readPlain (inFlow : Bool) (indent : Int) (chars : List Char) :
    Except Fault (List Char × List Char × Bool) :=
  readPlainFrom inFlow indent (chars.length + 1) chars

/-! ## Blocks -/

/-- What becomes of the line breaks at the end of a block. -/
inductive Ending where
  | drop
  | single
  | keep
  deriving DecidableEq

/-- The ending that a mark asks for. -/
def ending? : Char → Option Ending
  | '+' => some .keep
  | '-' => some .drop
  | _ => none

/-- The indentation that a digit asks for, which is not zero. -/
def readIndentDigit : List Char → Except Fault (Option Nat × List Char)
  | [] => .ok (none, [])
  | char :: rest =>
      if char = '0' then .error .token
      else if char.isDigit then .ok (some (char.toNat - '0'.toNat), rest)
      else .ok (none, char :: rest)

/-- The marks in the head of a block: its ending and its indentation, in any order. -/
def readHead (chars : List Char) : Except Fault (Ending × Option Nat × List Char) :=
  match chars with
  | [] => .ok (.single, none, [])
  | char :: rest =>
      match ending? char with
      | some ending => do
          let (indent, rest) ← readIndentDigit rest
          return (ending, indent, rest)
      | none => do
          match ← readIndentDigit chars with
          | (none, rest) => return (.single, none, rest)
          | (indent, []) => return (.single, indent, [])
          | (indent, char :: rest) =>
              match ending? char with
              | some ending => return (ending, indent, rest)
              | none => return (.single, indent, char :: rest)

/-- What is left behind a line that ends with gaps and a comment at most. -/
def dropLineEnd (chars : List Char) : Except Fault (List Char) :=
  let behind := chars.dropWhile isGap
  let behind := if behind.head? = some '#' then behind.dropWhile (!isBreak ·) else behind
  if endsLine behind then .ok (behind.drop 1) else .error .token

/-- The breaks before the first line of a block, the widest indentation, and the column reached. -/
def readLeading (column widest : Nat) : List Char → Except Fault (List Char × Nat × Nat × List Char)
  | [] => .ok ([], widest, column, [])
  | char :: rest =>
      if char = ' ' then readLeading (column + 1) (max widest (column + 1)) rest
      else if char = '\t' then .error .token
      else if isBreak char then do
        let (breaks, widest, column, rest) ← readLeading 0 widest rest
        return (breakText char ++ breaks, widest, column, rest)
      else .ok ([], widest, column, char :: rest)

/--
The breaks before a further line of a block, and the column
reached; no tab may stand in the indentation.
-/
def readBlank (indent column : Nat) : List Char → Except Fault (List Char × Nat × List Char)
  | [] => .ok ([], column, [])
  | char :: rest =>
      if char = ' ' ∧ column < indent then readBlank indent (column + 1) rest
      else if char = '\t' ∧ column < indent then .error .token
      else if isBreak char then do
        let (breaks, column, rest) ← readBlank indent 0 rest
        return (breakText char ++ breaks, column, rest)
      else .ok ([], column, char :: rest)

/-- The lines of a block: their text, the last line break, the breaks behind it, and the rest. -/
structure BlockLines where
  text : List Char
  lastBreak : List Char
  trailing : List Char
  rest : List Char

/-- What stands between two lines of a block. -/
def separator (folded : Bool) (line lineBreak breaks next : List Char) : List Char :=
  let startsWithGap (chars : List Char) : Bool := (chars.head?.map isGap).getD false
  if folded ∧ lineBreak = ['\n'] ∧ !startsWithGap line ∧ !startsWithGap next then
    if breaks = [] then [' '] else []
  else lineBreak

/-- The lines of a block from one of its columns on, with the breaks before the first of them. -/
def readLines (folded : Bool) (indent : Nat) :
    Nat → List Char → Nat → List Char → Except Fault BlockLines
  | 0, breaks, _, chars => .ok ⟨[], [], breaks, chars⟩
  | fuel + 1, breaks, column, chars => do
      if column ≠ indent ∨ chars = [] then return ⟨[], [], breaks, chars⟩
      let line := chars.takeWhile (!isBreak ·)
      let behind := chars.drop line.length
      let lineBreak := (behind.head?.map breakText).getD []
      let (following, column, rest) ← readBlank indent 0 (behind.drop 1)
      if column = indent ∧ rest ≠ [] ∧ lineBreak ≠ [] then
        let further ← readLines folded indent fuel following column rest
        let between := separator folded line lineBreak following rest
        return { further with text := breaks ++ line ++ between ++ further.text }
      else return ⟨breaks ++ line, lineBreak, following, rest⟩

/--
The indentation of a block, the breaks before its first line, the column reached, and the rest.
-/
def readIndent (parentIndent : Int) (indentMark : Option Nat) (chars : List Char) :
    Except Fault (Nat × List Char × Nat × List Char) := do
  let least := (max 1 (parentIndent + 1)).toNat
  match indentMark with
  | none =>
      let (breaks, widest, column, rest) ← readLeading 0 0 chars
      return (max least widest, breaks, column, rest)
  | some more =>
      let indent := least + more - 1
      let (breaks, column, rest) ← readBlank indent 0 chars
      return (indent, breaks, column, rest)

/-- A block scalar, with its mark, in a structure of the given indentation. -/
def readBlock (parentIndent : Int) : List Char → Except Fault (List Char × List Char)
  | [] => .error .token
  | mark :: rest => do
      let (ending, indentMark, rest) ← readHead rest
      let (indent, breaks, column, rest) ← readIndent parentIndent indentMark (← dropLineEnd rest)
      let lines ← readLines (mark == '>') indent (rest.length + 1) breaks column rest
      let tail := match ending with
        | .drop => []
        | .single => lines.lastBreak
        | .keep => lines.lastBreak ++ lines.trailing
      return (lines.text ++ tail, lines.rest)

end Typeset.Yaml.Scalar
