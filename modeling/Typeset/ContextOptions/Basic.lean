import Typeset.Reference.Answer
import Typeset.Yaml.Content

/-!
# Options of a context

A session is created with a root, further font directories, and a flag that leaves
the fonts of the system out. A file may name any of them.
-/

namespace Typeset

/-- The options that a session is created with. -/
structure ContextOptions where
  root : String
  /-- The font directories: texts, and collections where a file names such. -/
  fontPaths : List Value
  ignoreSystemFonts : Bool

namespace ContextOptions

/-- The options of a session for which nothing is named. -/
def standard : ContextOptions :=
  ⟨".", [], false⟩

/-- Why a file gives no options. -/
inductive Error where
  /-- The file is no YAML. -/
  | unreadable (fault : Yaml.Fault)
  /-- The file holds neither a collection nor a text. -/
  | noCollection
  /-- A text in the place of the whole file holds no collection either. -/
  | noCollectionWithin
  /-- A list stands where a mapping is asked for, or the other way round. -/
  | mismatched
  /-- A name is unknown, or a value is not of the kind that is asked for. -/
  | invalid
  /-- A number in the place of a text has too many digits to be written. -/
  | tooLong
  /-- A value was left open. -/
  | leftOpen
  /-- A reference has no answer. -/
  | reference (fault : Reference.Fault)
  deriving DecidableEq

/-! ## Values that are left open -/

/-- The mark of a value that is left open. -/
def openMark : String := "???"

def isOpen : Value → Bool
  | .text text => text == openMark
  | _ => false

/-- A text as it is read: of backslashes before the mark of what is left open, one is dropped. -/
def unescaped (text : String) : String :=
  let chars := text.toList
  if chars.head? = some '\\' ∧ chars.dropWhile (· == '\\') = openMark.toList then
    String.ofList (chars.drop 1)
  else text

/-! ## Kinds of values -/

def textOf? : Value → Option String
  | .text text => some text
  | .bool value => some (Value.bool value).plainText
  | .int value => some (Value.int value).plainText
  | .float value => some (Value.float value).plainText
  | value => Yaml.pathText? value

def onWords : List String :=
  ["yes", "y", "on", "true"]

def offWords : List String :=
  ["no", "n", "off", "false"]

/-- The flag that a text stands for: a number or a word. -/
def flagOfText? (text : String) : Option Bool :=
  match Number.integer? text with
  | some number => some (number ≠ 0)
  | none =>
      let word := Text.lower text
      if word ∈ onWords then some true else if word ∈ offWords then some false else none

def flagOf? : Value → Option Bool
  | .bool value => some value
  | .int value => some (value ≠ 0)
  | .text text => flagOfText? text
  | _ => none

def isCollection : Value → Bool
  | .array .. | .mapping _ => true
  | _ => false

/-- Whether a value can name an entry of a mapping. -/
def isName : Value → Bool
  | .text _ | .int _ | .float _ | .bool _ | .bytes _ => true
  | _ => false

mutual
/-- Whether a value is of kinds that options can hold, with well-formed references only. -/
def isAcceptable : Value → Bool
  | .array _ items => areAcceptable items
  | .mapping entries => areAcceptableEntries entries
  | .text text => Reference.isWellFormed text
  | .nothing | .bool _ | .int _ | .float _ | .bytes _ => true
  | value => (Yaml.pathText? value).isSome

/-- Whether all values of a list are of kinds that options can hold. -/
def areAcceptable : List Value → Bool
  | [] => true
  | item :: items => isAcceptable item && areAcceptable items

/-- Whether all entries are of kinds that options can hold. -/
def areAcceptableEntries : List (Value × Value) → Bool
  | [] => true
  | (key, value) :: entries => isName key && isAcceptable value && areAcceptableEntries entries
end

end ContextOptions

end Typeset
