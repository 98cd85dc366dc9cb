import Typeset.Reference.Term

/-!
# Outlines of references

Most references are simple: a path of plain parts, or the name of a function and
some plain arguments. A text with simple references only is taken as it is; what its
references say is told when they are answered. Any other text has to have a term
from the start.
-/

namespace Typeset.Reference

namespace Outline

/-- Whether a character is a blank of ASCII. -/
def isSpace (char : Char) : Bool :=
  char == ' ' || (9 ≤ char.toNat && char.toNat ≤ 13)

/-- A text without the blanks at its ends. -/
def trim (chars : List Char) : List Char :=
  Text.dropEndWhile isSpace (chars.dropWhile isSpace)

/-- Whether a character may stand in a plain part of a path. -/
def isPartChar (char : Char) : Bool :=
  char.isAlphanum || char == '_' || char == '$'

/-- Whether a character may stand in a plain argument. -/
def isArgumentChar (char : Char) : Bool :=
  char.isAlphanum || "_/-+.$%*@?|".toList.contains char

/-- What stands behind the plain part of a path at the start of a text. -/
def afterPart? (chars : List Char) : Option (List Char) :=
  if (chars.head?.map isPartChar).getD false then some (chars.dropWhile isPartChar) else none

/-- What stands behind a plain part in brackets at the start of a text. -/
def afterBrackets? : List Char → Option (List Char)
  | '[' :: rest =>
      match afterPart? rest with
      | some (']' :: rest) => some rest
      | _ => none
  | _ => none

/--
Whether a text consists of parts behind dots and in brackets; there are fewer than its characters.
-/
def continuesPath : Nat → List Char → Bool
  | _, [] => true
  | 0, _ => false
  | fuel + 1, chars =>
      let behind? := match chars with
        | '.' :: rest => afterPart? rest
        | _ => afterBrackets? chars
      match behind? with
      | some rest => continuesPath fuel rest
      | none => false

/-- Whether a text is a path of plain parts. -/
def isPath (chars : List Char) : Bool :=
  let path := chars.dropWhile (· == '.')
  match afterPart? path <|> afterBrackets? path with
  | some rest => continuesPath rest.length rest
  | none => false

/-- Whether a text is the name of a function, or empty. -/
def isFunctionName (chars : List Char) : Bool :=
  chars == [] || (Text.splitAll (· == '.') chars).all isName

/-- Whether a text is a list of plain arguments. -/
def areArguments (chars : List Char) : Bool :=
  (Text.splitAll (· == ',') chars).all fun argument =>
    let argument := trim argument
    argument ≠ [] && argument.all isArgumentChar

def isSimple (inside : List Char) : Bool :=
  let chars := trim inside
  let name := chars.takeWhile (· ≠ ':')
  isPath chars ||
    match chars.drop name.length with
    | _ :: rest => isFunctionName (trim name) && areArguments rest
    | [] => false

/-- Whether all references of a text are simple; the first argument bounds their number. -/
def matchesText : Nat → List Char → Bool
  | 0, _ => false
  | _ + 1, [] => true
  | fuel + 1, char :: rest =>
      if startsReference (char :: rest) then
        let inside := (rest.drop 1).takeWhile (· ≠ '\x7d')
        match rest.drop (1 + inside.length) with
        | _ :: behind => isSimple inside && matchesText fuel behind
        | [] => false
      else matchesText fuel rest

end Outline

/-- Whether a text can stand as a value: what starts references in it is simple, or has a term. -/
def isWellFormed (text : String) : Bool :=
  let chars := text.toList
  !refers chars || Outline.matchesText (chars.length + 1) chars || (Term.ofText? text).isSome

end Typeset.Reference
