import Typeset.Number.Integer
import Typeset.Number.Real
import Typeset.Reference.Token
import Typeset.Value

/-!
# Terms of texts with references

The tokens of a text form a term: references to a path, calls of functions with
arguments, and texts that are joined from these and from what stands for itself.
Arguments are texts and numbers, lists and mappings of such, and references again.
-/

namespace Typeset.Reference

/-- What a text with references says. -/
inductive Term where
  | constant (value : Value)
  /-- A number that is too long to be read. -/
  | unreadable
  /-- The value at a path, whose text is joined from parts. -/
  | path (parts : List Term)
  /-- The value of a function, whose name is joined from parts. -/
  | call (name : List Term) (arguments : List Term)
  /-- A text that is joined from the texts of its parts. -/
  | joined (parts : List Term)
  | list (items : List Term)
  | mapping (entries : List (Value × Term))

namespace Term

def ofWord (text : String) : Term :=
  .constant (.text text)

/-- Every second character of a text, from the second one on. -/
def everySecond : List Char → List Char
  | _ :: char :: rest => char :: everySecond rest
  | _ => []

/-- What stands behind the backslashes of a text in which they alternate with other characters. -/
def dropSlashes (text : String) : String :=
  String.ofList (everySecond text.toList)

/--
The start of a reference without the backslash that makes it none; pairs before it count once.
-/
def plainOpening (text : String) : String :=
  String.ofList (text.toList.drop ((text.length - 1) / 2))

/-! ## Paths and names of functions -/

/-- A piece of a path or of the name of a function. -/
inductive Piece where
  | dot
  | bracketOpen
  | bracketClose
  /-- A reference, or a word of which a name can consist. -/
  | name (term : Term)
  /-- A word of which only a path can consist. -/
  | key (term : Term)

/-- A piece as a part of the text of a path. -/
def Piece.term : Piece → Term
  | dot => ofWord "."
  | bracketOpen => ofWord "["
  | bracketClose => ofWord "]"
  | name term | key term => term

def continuesPath : List Piece → Bool
  | [] => true
  | .dot :: .name _ :: rest | .dot :: .key _ :: rest => continuesPath rest
  | .bracketOpen :: .name _ :: .bracketClose :: rest => continuesPath rest
  | .bracketOpen :: .key _ :: .bracketClose :: rest => continuesPath rest
  | _ => false

/--
Whether pieces are a path: dots first, then a part, and more parts behind dots or in brackets.
-/
def isPath : List Piece → Bool
  | .dot :: rest => isPath rest
  | .name _ :: rest | .key _ :: rest => continuesPath rest
  | pieces@(.bracketOpen :: _) => continuesPath pieces
  | _ => false

/-- Whether pieces are the name of a function: parts with dots between them. -/
def isFunctionName : List Piece → Bool
  | [.name _] => true
  | .name _ :: .dot :: rest => isFunctionName rest
  | _ => false

/-! ## Words -/

/-- A part of a word among arguments. -/
inductive Part where
  | token (token : Token)
  | reference (term : Term)

/-- A word of one token, which may be more than a text. -/
def ofToken : Token → Option Term
  | .nothing _ => some (.constant .nothing)
  | .bool text => some (.constant (.bool (text.length = "true".length)))
  | .int text =>
      some ((Number.integer? text).elim .unreadable fun value => .constant (.int value))
  | .float text =>
      some ((Number.real? text.toList).elim .unreadable fun value => .constant (.float value))
  | .name text | .mark text | .colon text => some (ofWord text)
  | .escape text => some (ofWord (dropSlashes text))
  | _ => none

/-- A part of a word of several parts. -/
def Part.term : Part → Option Term
  | token (.nothing text) | token (.bool text) | token (.int text) | token (.float text)
  | token (.name text) | token (.mark text) | token (.colon text) | token (.gap text) =>
      some (ofWord text)
  | token (.escape text) => some (ofWord (dropSlashes text))
  | token _ => none
  | reference term => some term

def ofParts : List Part → Option Term
  | [] => none
  | [.token token] => ofToken token
  | [.reference term] => some term
  | parts => (parts.mapM Part.term).map .joined

/-- Whether a token may stand in a word. -/
def isWordToken (inKey : Bool) : Token → Bool
  | .nothing _ | .bool _ | .int _ | .float _ | .name _ | .mark _ | .escape _ | .gap _ => true
  | .colon _ => !inKey
  | _ => false

/-- The tokens of a key of a mapping, and those behind it. -/
def keyOf? (tokens : List Token) : Option (Value × List Token) := do
  let word := tokens.takeWhile (isWordToken true)
  let key ← match ← ofParts (word.map .token) with
    | .constant value => some value
    | .joined parts =>
        let texts ← parts.mapM fun
          | .constant (.text text) => some text
          | _ => none
        some (Value.text (String.join texts))
    | _ => none
  return (key, tokens.drop word.length)

/-! ## Terms -/

mutual
/-- The parts of a text up to its end or the end of its quotes, and the tokens from there on. -/
def parts? : Nat → List Token → Option (List Term × List Token)
  | 0, _ => none
  | fuel + 1, tokens =>
      let onward (term : Term) (rest : List Token) : Option (List Term × List Token) := do
        let (terms, rest) ← parts? fuel rest
        return (term :: terms, rest)
      match tokens with
      | [] => some ([], [])
      | .opening :: rest => do
          let (term, rest) ← reference? fuel rest
          onward term rest
      | .plain text :: rest => onward (ofWord text) rest
      | .escape text :: rest => onward (ofWord (dropSlashes text)) rest
      | .escapedOpening text :: rest => onward (ofWord (plainOpening text)) rest
      | .backslashes text quoted :: rest =>
          let ends : Bool := quoted && (rest.head? == some .quoteClose)
          let counts : Bool := rest.head? == some .opening || ends
          onward (ofWord (if counts then dropSlashes text else text)) rest
      | .quoteClose :: _ => some ([], tokens)
      | _ => none

def reference? : Nat → List Token → Option (Term × List Token)
  | 0, _ => none
  | fuel + 1, tokens => do
      match ← pieces? fuel tokens with
      | (pieces, .closing :: rest) =>
          if isPath pieces then some (.path (pieces.map Piece.term), rest) else none
      | (pieces, .colon _ :: rest) =>
          if isFunctionName pieces then do
            let (arguments, rest) ← sequence? fuel .braceClose rest
            return (.call (pieces.map Piece.term) arguments, rest)
          else none
      | _ => none

/-- The pieces at the start of a reference. -/
def pieces? : Nat → List Token → Option (List Piece × List Token)
  | 0, _ => none
  | fuel + 1, tokens =>
      let onward (piece : Piece) (rest : List Token) : Option (List Piece × List Token) := do
        let (pieces, rest) ← pieces? fuel rest
        return (piece :: pieces, rest)
      match tokens with
      | .opening :: rest => do
          let (term, rest) ← reference? fuel rest
          onward (.name term) rest
      | .dot :: rest => onward .dot rest
      | .bracketOpen :: rest => onward .bracketOpen rest
      | .bracketClose :: rest => onward .bracketClose rest
      | .name text :: rest => onward (.name (ofWord text)) rest
      | .key text :: rest => onward (.key (ofWord text)) rest
      | _ => some ([], tokens)

/-- Elements with commas between them up to an end; between two commas there is an empty text. -/
def sequence? : Nat → Token → List Token → Option (List Term × List Token)
  | 0, _, _ => none
  | fuel + 1, ends, tokens =>
      if tokens.head? = some ends then some ([], tokens.drop 1) else elements? fuel ends tokens

/-- At least one element, and the others behind it. -/
def elements? : Nat → Token → List Token → Option (List Term × List Token)
  | 0, _, _ => none
  | fuel + 1, ends, tokens => do
      let empty : Bool := tokens.head? == some .comma || tokens.head? == some ends
      let (term, rest) ← if empty then some (ofWord "", tokens) else element? fuel tokens
      match rest with
      | .comma :: rest => do
          let (terms, rest) ← elements? fuel ends rest
          return (term :: terms, rest)
      | token :: rest => if token = ends then some ([term], rest) else none
      | [] => none

/-- An element: a text in quotes, a list, a mapping or a word. -/
def element? : Nat → List Token → Option (Term × List Token)
  | 0, _ => none
  | fuel + 1, .quoteOpen :: rest => do
      match ← parts? fuel rest with
      | (parts, .quoteClose :: rest) => some (.joined parts, rest)
      | _ => none
  | fuel + 1, .bracketOpen :: rest => do
      let (items, rest) ← sequence? fuel .bracketClose rest
      return (.list items, rest)
  | fuel + 1, .braceOpen :: rest => do
      if rest.head? = some .braceClose then some (.mapping [], rest.drop 1)
      else
        let (entries, rest) ← entries? fuel rest
        return (.mapping entries, rest)
  | fuel + 1, tokens => do
      let (parts, rest) ← word? fuel tokens
      return (← ofParts parts, rest)

def word? : Nat → List Token → Option (List Part × List Token)
  | 0, _ => none
  | _ + 1, [] => some ([], [])
  | fuel + 1, .opening :: rest => do
      let (term, rest) ← reference? fuel rest
      let (parts, rest) ← word? fuel rest
      return (.reference term :: parts, rest)
  | fuel + 1, token :: rest =>
      if isWordToken false token then do
        let (parts, rest) ← word? fuel rest
        return (.token token :: parts, rest)
      else some ([], token :: rest)

/-- The entries of a mapping up to its end. -/
def entries? : Nat → List Token → Option (List (Value × Term) × List Token)
  | 0, _ => none
  | fuel + 1, tokens => do
      match ← keyOf? tokens with
      | (key, .colon _ :: rest) =>
          let (term, rest) ← element? fuel rest
          match rest with
          | .comma :: rest => do
              let (entries, rest) ← entries? fuel rest
              return ((key, term) :: entries, rest)
          | .braceClose :: rest => some ([(key, term)], rest)
          | _ => none
      | _ => none
end

/-- Steps that suffice for a number of tokens, each of which is seen by a few kinds of terms. -/
def fuelFor (tokens : List Token) : Nat :=
  4 * tokens.length + 4

/-- The term of a text; a reference alone keeps its value, and anything else is a text. -/
def ofText? (text : String) : Option Term := do
  let tokens ← Token.ofText? .text text
  match ← parts? (fuelFor tokens) tokens with
  | ([term@(.path _)], []) | ([term@(.call ..)], []) => some term
  | (parts@(_ :: _), []) => some (.joined parts)
  | _ => none

def ofElement? (text : String) : Option Term := do
  let tokens ← Token.ofText? .arguments text
  match ← element? (fuelFor tokens) tokens with
  | (term, []) => some term
  | _ => none

end Term

end Typeset.Reference
