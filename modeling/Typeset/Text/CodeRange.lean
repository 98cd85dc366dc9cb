/-!
# Ranges of code points

A class of characters is given by inclusive ranges of code points in ascending
order. The tables of the library are such lists, and these are the two
questions asked of them.
-/

namespace Typeset.Text

/-- The range that holds a code point. -/
def findRange? (ranges : List (Nat × Nat)) (code : Nat) : Option (Nat × Nat) :=
  ranges.find? fun range => range.1 ≤ code && code ≤ range.2

/-- Whether some range holds a code point. -/
def inRanges (ranges : List (Nat × Nat)) (code : Nat) : Bool :=
  ranges.any fun range => range.1 ≤ code && code ≤ range.2

end Typeset.Text
