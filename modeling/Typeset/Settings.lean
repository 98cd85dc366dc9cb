import Typeset.Text.Blank
import Typeset.Text.Case
import Typeset.Text.Split

/-!
# Settings

Settings come from the environment as texts. A flag is on when its text is one of
a few words, in any case and with any blanks around it; a blank text counts as no
setting. A list of paths is cut at colons, and blank pieces are dropped.
-/

namespace Typeset.Settings

def onWords : List String :=
  ["1", "true", "yes", "on"]

/-- Whether a flag is on; without a setting it has its standard value. -/
def flag (setting : Option String) (standard : Bool) : Bool :=
  match setting.map Text.strip with
  | none | some "" => standard
  | some word => Text.lower word ∈ onWords

/-- The character between the paths of a list. -/
def pathSeparator : Char := ':'

def paths (setting : Option String) : List String :=
  (Text.pieces (· == pathSeparator) (setting.getD "")).filter fun path => Text.strip path ≠ ""

end Typeset.Settings
