import Typeset.Text.Case
import Typeset.Text.Utf8

/-!
# The font book

The faces that a document can use, each by its place in the book. Families are
told apart without regard to case; a family goes by the spelling of its first
face.
-/

namespace Typeset

structure FontInfo where
  family : String
  style : String
  deriving DecidableEq

/-- A loaded face: the whole font file and the place of the face in it. -/
structure Font where
  data : Bytes
  index : Nat
  info : FontInfo
  deriving DecidableEq

/-- The faces that are known, in order. -/
structure FontBook where
  faces : List FontInfo

namespace FontBook

/-- The face at a place of the book. -/
def info? (book : FontBook) (index : Int) : Option FontInfo :=
  if 0 ≤ index then book.faces[index.toNat]? else none

/-- Families by their lower-case names, each with the spelling that was met first. -/
def spellings (found : List (String × String)) : List FontInfo → List (String × String)
  | [] => found
  | face :: faces =>
      let key := Text.lower face.family
      spellings (if found.any (·.1 == key) then found else found ++ [(key, face.family)]) faces

/-- The families of the book, in the order of their lower-case names. -/
def families (book : FontBook) : List String :=
  ((spellings [] book.faces).mergeSort fun left right => decide (left.1 ≤ right.1)).map (·.2)

/-- The places of the faces of a family, from a place on. -/
def selectFrom (wanted : String) (index : Nat) : List FontInfo → List Nat
  | [] => []
  | face :: faces =>
      let rest := selectFrom wanted (index + 1) faces
      if Text.lower face.family = wanted then index :: rest else rest

/-- The places of the faces of a family. -/
def selectFamily (book : FontBook) (family : String) : List Nat :=
  selectFrom (Text.lower family) 0 book.faces

end FontBook

end Typeset
