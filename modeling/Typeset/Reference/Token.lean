import Typeset.Text.Split

/-!
# Tokens of texts with references

A reference stands in a text as `${…}`. What its characters mean depends on where
they stand: in the text around it, in the path or the name of a function within it,
among the arguments of the function, or in quotes there. So a text is cut into
tokens with a pile of the kinds of place that are open; of all tokens that can start
at a character the longest one counts.
-/

namespace Typeset.Reference

inductive Token where
  /-- Characters that stand for themselves. -/
  | plain (text : String)
  /-- Characters each behind a backslash. -/
  | escape (text : String)
  /-- The start of a reference behind a backslash, with pairs of backslashes before it. -/
  | escapedOpening (text : String)
  /-- Pairs of backslashes, which count once before a reference, or at the end of quotes. -/
  | backslashes (text : String) (quoted : Bool)
  | opening
  | closing
  | dot
  | bracketOpen
  | bracketClose
  | braceOpen
  | braceClose
  | comma
  | colon (text : String)
  | nothing (text : String)
  | bool (text : String)
  | int (text : String)
  | float (text : String)
  /-- A character that may stand in a word although it is no letter. -/
  | mark (text : String)
  | name (text : String)
  /-- A part of a path that is no name. -/
  | key (text : String)
  | gap (text : String)
  | quoteOpen
  | quoteClose
  deriving DecidableEq

/-- A kind of place in a text. -/
inductive Place where
  | text
  | path
  | arguments
  | quotes (quote : Char)
  deriving DecidableEq

/-- What a token does to the pile of open places. -/
inductive Turn where
  | stay
  | enter (place : Place)
  | change (place : Place)
  | leave
  deriving DecidableEq

/-- A token at the start of a text, what it does, and the rest. -/
structure Cut where
  token : Token
  turn : Turn
  rest : List Char

/-! ## Classes of characters -/

/-- Whether a character is a space or a tab. -/
def isGap (char : Char) : Bool :=
  char == ' ' || char == '\t'

def start : List Char :=
  ['$', '\x7b']

def startsReference (chars : List Char) : Bool :=
  start.isPrefixOf chars

def refers : List Char → Bool
  | [] => false
  | char :: rest => startsReference (char :: rest) || refers rest

/-- Whether a name can start with a character. -/
def startsName (char : Char) : Bool :=
  char.isAlpha || char == '_'

/-- Whether a character may stand in a name. -/
def isNameChar (char : Char) : Bool :=
  char.isAlphanum || char == '_' || char == '-'

def isName (chars : List Char) : Bool :=
  (chars.head?.map startsName).getD false && chars.all isNameChar

/-- Whether a character may stand in a part of a path that is no name. -/
def isKeyChar (char : Char) : Bool :=
  !"\\\x7b\x7d()[]:. \t'\"".toList.contains char

/-- The characters that may stand in a word although they are no letters. -/
def marks : List Char :=
  "/-\\+.$%*@?|".toList

/-- The characters that a backslash may stand before. -/
def escapable : List Char :=
  "\\()[]\x7b\x7d:=, \t".toList

/-! ## Text and quotes -/

/-- A cut behind a start of a text, which the token holds. -/
def cutAt (make : String → Token) (length : Nat) (chars : List Char) : Cut :=
  ⟨make (String.ofList (chars.take length)), .stay, chars.drop length⟩

/-- The start of a reference; the gap behind it does not count. -/
def opening (chars : List Char) : Cut :=
  ⟨.opening, .enter .path, (chars.drop start.length).dropWhile isGap⟩

def cutText (quote? : Option Char) (chars : List Char) : Cut :=
  let ends (char : Char) : Bool := char == '$' || some char == quote?
  let run := chars.takeWhile (!ends ·)
  let word := (run.reverse.dropWhile (· == '\\')).reverse
  let slashes := (chars.takeWhile (· == '\\')).length
  let behind := chars.drop slashes
  let odd : Bool := slashes % 2 == 1
  if startsReference chars then opening chars
  else if chars.head? = quote? then ⟨.quoteClose, .leave, chars.drop 1⟩
  else if word ≠ [] then cutAt .plain word.length chars
  else if slashes = 0 then cutAt .plain 1 chars
  else if odd && startsReference behind then cutAt .escapedOpening (slashes + start.length) chars
  else if odd && quote?.isSome && behind.head? = quote? then cutAt .escape (slashes + 1) chars
  else if odd then cutAt .plain slashes chars
  else cutAt (.backslashes · quote?.isSome) slashes chars

/-! ## Paths -/

/-- A token in a path; `none` where none can start. -/
def cutPath (chars : List Char) : Option Cut :=
  let behind := chars.dropWhile isGap
  let word := chars.takeWhile isKeyChar
  match chars.head?, behind.head? with
  | _, some ':' =>
      let rest := (behind.drop 1).dropWhile isGap
      let length := chars.length - rest.length
      some ⟨.colon (String.ofList (chars.take length)), .change .arguments, rest⟩
  | _, some '\x7d' => some ⟨.closing, .leave, behind.drop 1⟩
  | some '.', _ => some ⟨.dot, .stay, chars.drop 1⟩
  | some '[', _ => some ⟨.bracketOpen, .stay, chars.drop 1⟩
  | some ']', _ => some ⟨.bracketClose, .stay, chars.drop 1⟩
  | _, _ =>
      if startsReference chars then some (opening chars)
      else if word = [] then none
      else some (cutAt (if isName word then .name else .key) word.length chars)

/-! ## Arguments -/

/--
The number of characters of digits at the start of a text, with single underscores between them.
-/
def digitsLength : List Char → Nat
  | [] => 0
  | [char] => if char.isDigit then 1 else 0
  | char :: '_' :: rest =>
      if char.isDigit then
        let more := digitsLength rest
        if more = 0 then 1 else more + 2
      else 0
  | char :: rest => if char.isDigit then digitsLength rest + 1 else 0

/-- The number of characters of a whole number without sign; zero only stands alone. -/
def wholeLength (chars : List Char) : Nat :=
  if chars.head? = some '0' then 1 else digitsLength chars

/-- The number of characters of a sign. -/
def signLength (chars : List Char) : Nat :=
  if chars.head? = some '+' ∨ chars.head? = some '-' then 1 else 0

/-- The number of characters of a number with a point and without sign. -/
def pointLength (chars : List Char) : Nat :=
  let whole := wholeLength chars
  if (chars.drop whole).head? = some '.' then
    let places := digitsLength (chars.drop (whole + 1))
    if whole = 0 ∧ places = 0 then 0 else whole + 1 + places
  else 0

/--
The number of characters with an exponent behind so many of a mantissa; none without an exponent.
-/
def exponentLength (mantissa : Nat) (chars : List Char) : Nat :=
  match mantissa, chars.drop mantissa with
  | 0, _ => 0
  | _, mark :: rest =>
      let sign := signLength rest
      let digits := digitsLength (rest.drop sign)
      if (mark = 'e' ∨ mark = 'E') ∧ digits ≠ 0 then mantissa + 1 + sign + digits else 0
  | _, [] => 0

/-- The number of characters of a word, whatever its case. -/
def wordLength (word : String) (chars : List Char) : Nat :=
  if (chars.take word.length).map Char.toLower = word.toList then word.length else 0

/-- The number of characters of a number that may have a fraction, without sign. -/
def unsignedFloatLength (chars : List Char) : Nat :=
  [pointLength chars, exponentLength (wholeLength chars) chars,
    exponentLength (pointLength chars) chars, wordLength "inf" chars, wordLength "nan" chars].foldl
    max 0

/-- The number of characters behind a sign and with it; none without any behind it. -/
def signedLength (length : List Char → Nat) (chars : List Char) : Nat :=
  let sign := signLength chars
  match length (chars.drop sign) with
  | 0 => 0
  | count => sign + count

/-- The number of characters of a name. -/
def nameLength (chars : List Char) : Nat :=
  if (chars.head?.map startsName).getD false then (chars.takeWhile isNameChar).length else 0

/-- The number of characters that stand behind backslashes, with these. -/
def escapeLength : List Char → Nat
  | '\\' :: char :: rest => if escapable.contains char then escapeLength rest + 2 else 0
  | _ => 0

/-- The kinds of words with the lengths that they have at the start of a text. -/
def wordLengths (chars : List Char) : List (Nat × (String → Token)) :=
  [(signedLength unsignedFloatLength chars, .float), (signedLength wholeLength chars, .int),
    (max (wordLength "true" chars) (wordLength "false" chars), .bool),
    (wordLength "null" chars, .nothing),
    (if (chars.head?.map marks.contains).getD false then 1 else 0, .mark),
    (nameLength chars, .name), (escapeLength chars, .escape),
    ((chars.takeWhile isGap).length, .gap)]

/-- The longest word at the start of a text, the first kind of several that are equally long. -/
def cutWord (chars : List Char) : Option Cut :=
  let (length, make) := (wordLengths chars).foldl
    (fun best next => if best.1 < next.1 then next else best) (0, .plain)
  if length = 0 then none else some (cutAt make length chars)

/-- A token among arguments; `none` where none can start. -/
def cutArgument (chars : List Char) : Option Cut :=
  let behind := chars.dropWhile isGap
  let rest := behind.drop 1
  let without := rest.dropWhile isGap
  match chars.head?, behind.head? with
  | _, some '\x7d' => some ⟨.braceClose, .leave, rest⟩
  | _, some ',' => some ⟨.comma, .stay, without⟩
  | _, some ']' => some ⟨.bracketClose, .stay, rest⟩
  | _, some ':' =>
      some ⟨.colon (String.ofList (chars.take (chars.length - without.length))), .stay, without⟩
  | some '\'', _ => some ⟨.quoteOpen, .enter (.quotes '\''), chars.drop 1⟩
  | some '"', _ => some ⟨.quoteOpen, .enter (.quotes '"'), chars.drop 1⟩
  | some '\x7b', _ => some ⟨.braceOpen, .enter .arguments, without⟩
  | some '[', _ => some ⟨.bracketOpen, .stay, without⟩
  | _, _ => if startsReference chars then some (opening chars) else cutWord chars

/-! ## All tokens -/

/-- A token at a kind of place; `none` where none can start. -/
def Place.cut? (place : Place) (chars : List Char) : Option Cut :=
  match place with
  | text => some (cutText none chars)
  | path => cutPath chars
  | arguments => cutArgument chars
  | quotes quote => some (cutText (some quote) chars)

/-- The pile of open places behind a token; the first place is the innermost one. -/
def Turn.apply (turn : Turn) (place : Place) (outer : List Place) : List Place :=
  match turn with
  | stay => place :: outer
  | enter inner => inner :: place :: outer
  | change other => other :: outer
  | leave => outer

/-- The tokens of a text; every token takes a character at least. -/
def Token.cutAll? : Nat → List Place → List Char → Option (List Token)
  | _, _ :: _, [] => some []
  | _, [], _ => none
  | 0, _, _ => none
  | fuel + 1, place :: outer, chars => do
      let cut ← place.cut? chars
      let tokens ← cutAll? fuel (cut.turn.apply place outer) cut.rest
      return cut.token :: tokens

/-- The tokens of a text from a kind of place on, `none` for one that cannot be cut. -/
def Token.ofText? (place : Place) (text : String) : Option (List Token) :=
  let chars := text.toList
  Token.cutAll? chars.length [place] chars

end Typeset.Reference
