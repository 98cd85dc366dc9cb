import Typeset.ContextOptions.Answer

/-!
# Reading options

The options of a file are merged into the standard ones, then their references are
answered, and nothing may be left open then.
-/

namespace Typeset.ContextOptions

/-- The spot of an option once its references are answered. -/
def settled (setting? : String → Option String) (spot : Spot) : Except Error Spot :=
  (settle setting? spot).mapError .reference

/-- The value at a spot with all references in it answered; the first argument bounds its depth. -/
def finished (setting? : String → Option String) : Nat → Spot → Except Error Value
  | 0, _ => .error (.reference .unanswered)
  | depth + 1, spot => do
      if isOpen spot.value then throw .leftOpen
      let spot ← settled setting? spot
      match spot.value with
      | .array .. =>
          return .array false (← spot.parts.mapM fun part => finished setting? depth part.2)
      | .mapping _ =>
          return .mapping (← spot.parts.mapM fun part => do
            return (part.1, ← finished setting? depth part.2))
      | .text text => return .text (unescaped text)
      | value => return ((Yaml.pathText? value).map .text).getD value

/-- The depth up to which values are finished. -/
def maxNesting : Nat := 1000

/-- The value of an option, by its position among all. -/
def optionAt (setting? : String → Option String) (whole : Spot) (position : Nat) :
    Except Error Spot :=
  match whole.parts[position]? with
  | some part => do
      let spot ← settled setting? part.2
      if isOpen spot.value then throw .leftOpen else return spot
  | none => .error .invalid

def ofDraft (setting? : String → Option String) (draft : Draft) :
    Except Error ContextOptions := do
  let whole := Spot.whole draft.value
  let root ← optionAt setting? whole 0
  let paths ← optionAt setting? whole 1
  let items ← paths.parts.mapM fun part => finished setting? maxNesting part.2
  let flag ← optionAt setting? whole 2
  return ⟨unescaped (root.value.text?.getD ""), items, flagOf? flag.value = some true⟩

/--
The options that a file names, over the standard ones; without a file these are all.
References may ask for settings by name.
-/
def read (setting? : String → Option String) (file : Option String) :
    Except Error ContextOptions :=
  match file with
  | none => .ok standard
  | some text => do ofDraft setting? (← mergeEntries standard.toDraft (← readEntries text))

end Typeset.ContextOptions
