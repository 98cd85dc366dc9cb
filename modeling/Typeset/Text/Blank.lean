import Typeset.Text.CodeRange

/-!
# Blank characters

The characters that are trimmed from the ends of a token, a path or a value:
the Unicode white space together with the four information separators. A
zero-width space and a byte-order mark are no blanks.
-/

namespace Typeset.Text

/-- The code points of blank characters. -/
def blankRanges : List (Nat × Nat) :=
  [(0x9, 0xD), (0x1C, 0x20), (0x85, 0x85), (0xA0, 0xA0), (0x1680, 0x1680), (0x2000, 0x200A),
   (0x2028, 0x2029), (0x202F, 0x202F), (0x205F, 0x205F), (0x3000, 0x3000)]

def isBlank (char : Char) : Bool :=
  inRanges blankRanges char.toNat

/-- A list without the elements of a class at its end. -/
def dropEndWhile {α : Type} (holds : α → Bool) (items : List α) : List α :=
  (items.reverse.dropWhile holds).reverse

/-- The characters between the first and the last that is not blank. -/
def trimBlank (chars : List Char) : List Char :=
  dropEndWhile isBlank (chars.dropWhile isBlank)

/-- A text without the blanks at its ends. -/
def strip (text : String) : String :=
  String.ofList (trimBlank text.toList)

end Typeset.Text
