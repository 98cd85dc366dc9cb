import Typeset.Text.Blank
import Typeset.Text.Digit
import Typeset.Text.Quoted

/-!
# Package specifications

A package is named `@namespace/name:major.minor.patch`. The namespace and the
name are made of ASCII letters, digits, underscores and hyphens, and a version
number of decimal digits of any script. No character of one part can be the
separator after it, so a specification is read in one way only.
-/

namespace Typeset

/-- A package of a registry, in one version. -/
structure PackageSpec where
  nameSpace : String
  name : String
  version : String
  deriving DecidableEq

namespace PackageSpec

def isNameChar (char : Char) : Bool :=
  char.isAlphanum || char == '_' || char == '-'

/-- A run of characters of a class at the start of a text, and the rest; the run is not empty. -/
def run? (holds : Char → Bool) (chars : List Char) : Option (List Char × List Char) :=
  match chars.takeWhile holds with
  | [] => none
  | taken => some (taken, chars.dropWhile holds)

/-- The rest of a text after the character it starts with. -/
def expect? (char : Char) : List Char → Option (List Char)
  | [] => none
  | head :: rest => if head = char then some rest else none

/-- The parts of a specification that the whole of a text spells. -/
def ofChars? (chars : List Char) : Option PackageSpec := do
  let afterAt ← expect? '@' chars
  let (nameSpace, afterNameSpace) ← run? isNameChar afterAt
  let (name, afterName) ← run? isNameChar (← expect? '/' afterNameSpace)
  let version ← expect? ':' afterName
  let (_, afterMajor) ← run? Text.isDecimal version
  let (_, afterMinor) ← run? Text.isDecimal (← expect? '.' afterMajor)
  let (_, afterPatch) ← run? Text.isDecimal (← expect? '.' afterMinor)
  if afterPatch = [] then
    some ⟨String.ofList nameSpace, String.ofList name, String.ofList version⟩
  else none

/-- The specification that a text spells, blanks at its ends aside. -/
def parse? (text : String) : Option PackageSpec :=
  ofChars? (Text.trimBlank text.toList)

/-- What is said of a text that is no specification. -/
def malformedMessage (text : String) : String :=
  s!"Invalid package specification: {Text.quoted text}"

def render (spec : PackageSpec) : String :=
  s!"@{spec.nameSpace}/{spec.name}:{spec.version}"

/-- The components of the directory that holds a package. -/
def directory (spec : PackageSpec) : List String :=
  [spec.nameSpace, spec.name, spec.version]

/-- The address of a package's archive in a registry. -/
def archiveUrl (spec : PackageSpec) (registry : String) : String :=
  s!"{registry}/{spec.nameSpace}/{spec.name}-{spec.version}.tar.gz"

end PackageSpec

end Typeset
