import Typeset.ContextOptions.Merge
import Typeset.ContextOptions.Place

/-!
# Answers among options

A reference stands for what its path leads to, or for what its function gives. The
answer is taken as what is asked for at the place of the reference.

References may refer to references, up to a depth at which they are held to lead back
to themselves.
-/

namespace Typeset.ContextOptions

open Reference (Reader Term)

/-! ## Kinds of answers -/

def answerText (spot answer : Spot) : Except Reference.Fault Spot :=
  match answer.value with
  | .text _ => .ok answer
  | value =>
      match textOf? value with
      | some text => .ok (spot.holding .text (.text text))
      | none => .error .mismatched

/-- An answer in the place of a list of texts. -/
def answerTexts (spot answer : Spot) : Except Reference.Fault Spot :=
  match answer.value with
  | .array _ items =>
      match items.mapM textOf? with
      | some texts => .ok (spot.holding .texts (.array false (texts.map .text)))
      | none => .error .mismatched
  | _ => .error .mismatched

def answerFlag (spot answer : Spot) : Except Reference.Fault Spot :=
  match flagOf? answer.value with
  | some flag => .ok (spot.holding .flag (.bool flag))
  | none => .error .mismatched

def Spot.take (spot answer : Spot) : Except Reference.Fault Spot :=
  match spot.node.kind with
  | .text => answerText spot answer
  | .texts => answerTexts spot answer
  | .flag => answerFlag spot answer
  | .options | .any => .ok answer

/-- What stands at a spot once the references of a text there are answered. -/
def settleWith (readerAt : Spot → Reader Spot) (spot : Spot) : Except Reference.Fault Spot :=
  match spot.value with
  | .text text =>
      if Reference.refers text.toList then
        match Term.ofText? text with
        | some term => do
            let answer ← (term.answer (readerAt spot)).mapError fun fault =>
              if fault = .malformed then .unanswered else fault
            spot.take answer
        | none => .error .malformed
      else .ok spot
  | _ => .ok spot

/-! ## Functions -/

def functions : List String :=
  ["oc.create", "oc.decode", "oc.deprecated", "oc.dict.keys", "oc.dict.values", "oc.env",
    "oc.select"]

/-- The setting of a name, or else the text of a value; nothing stays nothing. -/
def settingOr (default : Value) : Option String → Value
  | some text => .text text
  | none =>
      match default with
      | .nothing => .nothing
      | value => .text value.plainText

/-- The value at a path, or else another one. -/
def select (settle : Spot → Except Reference.Fault Spot) (spot : Spot) (path : String)
    (default : Value) : Except Reference.Fault Spot := do
  match ← spot.follow settle false path with
  | .ok found => return if isOpen found.value then spot.holding .any default else found
  | .error .aboveAll => throw .unanswered
  | .error _ => return spot.holding .any default

/-- The value of a text that is an element of its own. -/
def decode (reader : Reader Spot) (text : String) : Except Reference.Fault Spot :=
  match Term.ofElement? text with
  | some term => term.answer reader
  | none => .error .unanswered

/-- A container that can be part of the options, read from a text or given as a value. -/
def create (value : Value) : Except Reference.Fault Value := do
  let content ← match value with
    | .text text =>
        match Yaml.valueOfText text with
        | .ok .nothing => .ok (Value.mapping [])
        | .ok (.text text) => .ok (.mapping [(.text text, .nothing)])
        | .ok value => if isCollection value then .ok value else .error .unanswered
        | .error _ => .error .unanswered
    | .nothing => .ok .nothing
    | value => if isCollection value then .ok value else .error .unanswered
  if isAcceptable content then return content else throw .unanswered

/-- What a path leads to whatever it is. -/
def insist (settle : Spot → Except Reference.Fault Spot) (strict : Bool) (spot : Spot)
    (path : String) : Except Reference.Fault Spot := do
  match ← spot.follow settle strict path with
  | .ok found => return found
  | .error _ => throw .unanswered

def entriesAt (settle : Spot → Except Reference.Fault Spot) (spot : Spot) (path : String) :
    Except Reference.Fault (List (Value × Value)) := do
  match (← insist settle true spot path).value with
  | .mapping entries => return entries
  | _ => throw .unanswered

/-- A reference to an entry of the mapping at a path, from within a list beside the path. -/
def entryReference (path : String) (key : Value) : Except Reference.Fault Value :=
  let outer := if path.toList.head? = some '.' then "." else ""
  let text := String.ofList Reference.start ++ outer ++ path ++ "." ++ key.plainText ++ "\x7d"
  if Reference.isWellFormed text then .ok (.text text) else .error .unanswered

/-- What a function gives; with other arguments than it takes it gives nothing. -/
def call (setting? : String → Option String) (readerAt : Spot → Reader Spot) (spot : Spot)
    (name : String) (arguments : List Value) : Except Reference.Fault Spot :=
  let settle := settleWith readerAt
  let holding := spot.holding .any
  match name, arguments with
  | "oc.create", [value] => (create value).map holding
  | "oc.decode", [.nothing] => .ok (holding .nothing)
  | "oc.decode", [.text text] => decode (readerAt spot) text
  | "oc.deprecated", [.text path] | "oc.deprecated", [.text path, .text _] =>
      insist settle false spot path
  | "oc.dict.keys", [.text path] => do
      let entries ← entriesAt settle spot path
      return holding (.array false (entries.map (·.1)))
  | "oc.dict.values", [.text path] => do
      let entries ← entriesAt settle spot path
      return holding (.array false (← entries.mapM fun entry => entryReference path entry.1))
  | "oc.env", [.text key] =>
      match setting? key with
      | some text => .ok (holding (.text text))
      | none => .error .unanswered
  | "oc.env", [.text key, default] => .ok (holding (settingOr default (setting? key)))
  | "oc.select", [.text path] => select settle spot path .nothing
  | "oc.select", [.text path, default] => select settle spot path default
  | name, _ => .error (if name ∈ functions then .unanswered else .unknownFunction)

/-! ## Readers -/

/-- What a path leads to; neither to what is left open nor to a container around the reference. -/
def lookUp (settle : Spot → Except Reference.Fault Spot) (spot : Spot) (path : String) :
    Except Reference.Fault Spot := do
  match ← spot.follow settle true path with
  | .ok found => if spot.isWithin found then throw .unanswered else return found
  | .error .aboveAll | .error .absent => throw .unknownPath
  | .error .noParts => throw .unanswered
  | .error .leftOpen => throw .leftOpen

/-- The reader of references at a spot, by readers of the references to which they lead. -/
def readerWith (setting? : String → Option String) (readerAt : Spot → Reader Spot) (spot : Spot) :
    Reader Spot where
  lookUp := lookUp (settleWith readerAt) spot
  call := call setting? readerAt spot
  ofValue := spot.holding .any
  value := Spot.value
  text found := found.value.plainText

/-- The reader of references that are too deep to be answered. -/
def blindReader (spot : Spot) : Reader Spot where
  lookUp _ := .error .unanswered
  call _ _ := .error .unanswered
  ofValue := spot.holding .any
  value := Spot.value
  text found := found.value.plainText

/-- The reader of references at a spot, for references up to some depth. -/
def readerUpTo (setting? : String → Option String) : Nat → Spot → Reader Spot
  | 0 => blindReader
  | depth + 1 => readerWith setting? (readerUpTo setting? depth)

/-- The depth up to which references are answered. -/
def maxDepth : Nat := 64

/-- What stands at a spot once its references are answered. -/
def settle (setting? : String → Option String) : Spot → Except Reference.Fault Spot :=
  settleWith (readerUpTo setting? maxDepth)

end Typeset.ContextOptions
