import Typeset.Text.Split

/-!
# Arguments

Arguments are options and everything else. A long option starts with two hyphens
and may have its value behind an equals sign; a short one is a hyphen and a
letter, and several of them can share one hyphen. An option that needs a value
takes what is left of its own argument, or else the next argument, whatever that
is. Two hyphens alone end the options.
-/

namespace Typeset.CommandLine

/--
An option: the names it goes by, of which the first one stands for it, and whether it has a value.
-/
structure OptionRule where
  key : String
  otherNames : List String
  takesValue : Bool

/-- Why arguments cannot be used. -/
inductive Misuse where
  | unknownOption (name : String)
  | missingValue (option : String)
  | unexpectedValue (option : String)
  | invalidValue (option value : String)
  | unknownCommand (name : String)
  | missingDocument
  | unusableDocument (path : String)
  | extraArgument (argument : String)
  deriving DecidableEq

/-- What is said of arguments that cannot be used. -/
def Misuse.message : Misuse → String
  | unknownOption name => s!"No such option: {name}"
  | missingValue option => s!"Option '{option}' requires an argument."
  | unexpectedValue option => s!"Option '{option}' does not take a value."
  | invalidValue option value => s!"Invalid value for '{option}': '{value}'"
  | unknownCommand name => s!"No such command '{name}'."
  | missingDocument => "Missing argument 'DOCUMENT'."
  | unusableDocument path => s!"Invalid value for 'DOCUMENT': File '{path}' cannot be used."
  | extraArgument argument => s!"Got unexpected extra argument ({argument})"

/-- Arguments that were told apart: options with their values in order, and the others. -/
structure Arguments where
  options : List (String × String)
  others : List String

namespace Arguments

/-- Put options in front of the others. -/
def addOptions (found : List (String × String)) (arguments : Arguments) : Arguments :=
  { arguments with options := found ++ arguments.options }

/-- Put an argument that is no option in front of the others. -/
def addOther (argument : String) (arguments : Arguments) : Arguments :=
  { arguments with others := argument :: arguments.others }

def has (arguments : Arguments) (key : String) : Bool :=
  arguments.options.any (·.1 == key)

/-- All values of an option, in order. -/
def values (arguments : Arguments) (key : String) : List String :=
  (arguments.options.filter (·.1 == key)).map (·.2)

/-- The value of an option; of several the last one counts. -/
def value? (arguments : Arguments) (key : String) : Option String :=
  (arguments.values key).getLast?

def ruleOf? (rules : List OptionRule) (name : String) : Option OptionRule :=
  rules.find? fun rule => rule.key == name || rule.otherNames.contains name

/-- The options of one argument, and the one that still needs a value. -/
abbrev Found := List (String × String) × Option String

/-- The short options that letters stand for. -/
def readLetters (rules : List OptionRule) : List Char → Except Misuse Found
  | [] => .ok ([], none)
  | letter :: rest =>
      let name := String.ofList ['-', letter]
      match ruleOf? rules name with
      | none => .error (.unknownOption name)
      | some rule =>
          if !rule.takesValue then do
            let (found, open?) ← readLetters rules rest
            return ((rule.key, "") :: found, open?)
          else if rest = [] then .ok ([], some rule.key)
          else .ok ([(rule.key, String.ofList rest)], none)

/-- An option that was given by its long name, maybe with a value. -/
def readLong (rule : OptionRule) (value : Option String) : Except Misuse Found :=
  match rule.takesValue, value with
  | true, some value => .ok ([(rule.key, value)], none)
  | true, none => .ok ([], some rule.key)
  | false, none => .ok ([(rule.key, "")], none)
  | false, some _ => .error (.unexpectedValue rule.key)

/-- The name of an option and the value behind an equals sign. -/
def splitValue (argument : List Char) : String × Option String :=
  match Text.splitFirst? '=' argument with
  | some (name, value) => (String.ofList name, some (String.ofList value))
  | none => (String.ofList argument, none)

/-- Whether a name starts with two hyphens. -/
def isLong (name : String) : Bool :=
  "--".toList.isPrefixOf name.toList

/-- The options of an argument that starts with a hyphen. -/
def readOption (rules : List OptionRule) (argument : String) : Except Misuse Found :=
  let (name, value) := splitValue argument.toList
  if isLong name then
    match ruleOf? rules name with
    | some rule => readLong rule value
    | none => .error (.unknownOption name)
  else readLetters rules (argument.toList.drop 1)

/-- Whether an argument is read as options: a hyphen with something behind it. -/
def isOption (argument : String) : Bool :=
  match argument.toList with
  | '-' :: _ :: _ => true
  | _ => false

/--
Tell options from other arguments. Unless options may stand among the others, the
first other argument ends them.
-/
def read (rules : List OptionRule) (mixed : Bool) : List String → Except Misuse Arguments
  | [] => .ok ⟨[], []⟩
  | argument :: rest =>
      if argument = "--" then .ok ⟨[], rest⟩
      else if isOption argument then
        match readOption rules argument, rest with
        | .error misuse, _ => .error misuse
        | .ok (found, none), rest => (read rules mixed rest).map (addOptions found)
        | .ok (_, some key), [] => .error (.missingValue key)
        | .ok (found, some key), value :: rest =>
            (read rules mixed rest).map (addOptions (found ++ [(key, value)]))
      else if mixed then (read rules mixed rest).map (addOther argument)
      else .ok ⟨[], argument :: rest⟩

end Arguments

end Typeset.CommandLine
