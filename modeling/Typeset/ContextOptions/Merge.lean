import Typeset.ContextOptions.Basic

/-!
# Merging of options

A file replaces the options that it names; what it leaves open stays as it is.
Scalars are taken as texts where a text is asked for, and words as flags. A text with
references stays as it is until these are answered.
-/

namespace Typeset.ContextOptions

/-- The options while a file is merged into them: values that may refer to each other. -/
structure Draft where
  root : Value
  fontPaths : Value
  ignoreSystemFonts : Value

def toDraft (options : ContextOptions) : Draft where
  root := .text options.root
  fontPaths := .array false options.fontPaths
  ignoreSystemFonts := .bool options.ignoreSystemFonts

def Draft.value (draft : Draft) : Value :=
  .mapping [(.text "root", draft.root), (.text "font_paths", draft.fontPaths),
    (.text "ignore_system_fonts", draft.ignoreSystemFonts)]

/-! ## Taking values -/

def refers : Value → Bool
  | .text text => Reference.refers text.toList
  | _ => false

/-- Whether a value is a number that has too many digits to be written. -/
def isTooLong : Value → Bool
  | .int value => !Number.isWritten value
  | _ => false

def takeText (value : Value) : Except Error Value :=
  if isTooLong value then .error .tooLong
  else
    match textOf? value with
    | some text => .ok (.text text)
    | none => .error .invalid

def takeFlag (value : Value) : Except Error Value :=
  if refers value then .ok value
  else
    match flagOf? value with
    | some flag => .ok (.bool flag)
    | none => .error .invalid

/-- A value in a list of texts, where collections are taken as they are. -/
def takeItem (value : Value) : Except Error Value :=
  if isCollection value then .ok value else takeText value

/-- A value in the place of a list of texts. -/
def takeTexts (value : Value) : Except Error Value :=
  match value with
  | .array _ items => (items.mapM takeItem).map (.array false)
  | .mapping _ => .error .mismatched
  | value => if refers value then .ok value else .error .invalid

/-! ## Merging entries -/

def mergeOption (draft : Draft) (name : String) (value : Value) : Except Error Draft :=
  match name with
  | "root" =>
      if isOpen value then .ok draft
      else (takeText value).map fun root => { draft with root := root }
  | "font_paths" =>
      if isOpen value then .ok draft
      else (takeTexts value).map fun paths => { draft with fontPaths := paths }
  | "ignore_system_fonts" =>
      if isOpen value then .ok draft
      else (takeFlag value).map fun flag => { draft with ignoreSystemFonts := flag }
  | _ => .error .invalid

def mergeEntries (draft : Draft) : List (Value × Value) → Except Error Draft
  | [] => .ok draft
  | (.text name, value) :: entries => do mergeEntries (← mergeOption draft name value) entries
  | _ :: _ => .error .invalid

/-! ## Entries of a file -/

/-- The entries that a file names; a text in the place of a collection is read once more. -/
def entriesOf (within : Bool) (value : Value) : Except Error (Option (List (Value × Value))) :=
  match value with
  | .nothing => .ok (some [])
  | .mapping entries => if isAcceptable value then .ok (some entries) else .error .invalid
  | .array .. => if isAcceptable value then .error .mismatched else .error .invalid
  | .text text => if within then .ok (some [(.text text, .nothing)]) else .ok none
  | _ => .error (if within then .noCollectionWithin else .noCollection)

def readYaml (text : String) : Except Error Value :=
  (Yaml.valueOfText text).mapError .unreadable

/-- The entries that the text of a file names. -/
def readEntries (text : String) : Except Error (List (Value × Value)) := do
  let value ← readYaml text
  match ← entriesOf false value with
  | some entries => return entries
  | none =>
      match ← entriesOf true (← readYaml (value.text?.getD "")) with
      | some entries => return entries
      | none => return []

end Typeset.ContextOptions
