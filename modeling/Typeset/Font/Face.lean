import Typeset.Font.Book
import Typeset.Text.Split

/-!
# Reading faces

A face reader opens the faces of a font file by their places and gives their
names, which may be missing. A single font is asked for its first face, and a
collection for one face after another until one does not open. Faces without a
family are passed over.

The plain reader knows fonts that are listed in a text: a first line that names
the format and then a line for every face, with family and style on the sides of
a bar.
-/

namespace Typeset

/-- The names that a font file gives to a face. -/
structure FaceNames where
  family : Option String
  style : Option String

/-- A way to open the faces of font files, of which each has a limited number. -/
structure FaceReader where
  limit : Bytes → Nat
  open? : Bytes → Nat → Option FaceNames
  open?_eq_none : ∀ data index, limit data ≤ index → open? data index = none

namespace FaceReader

/-- The face that some names stand for, unless it has no family. -/
def named? (names : FaceNames) : Option FontInfo :=
  match names.family with
  | none | some "" => none
  | some family =>
      match names.style with
      | none | some "" => some ⟨family, "Regular"⟩
      | some style => some ⟨family, style⟩

/-- The named faces from a place on, up to the first that does not open, `count` at most. -/
def facesFrom (reader : FaceReader) (data : Bytes) (index : Nat) : Nat → List (Nat × FontInfo)
  | 0 => []
  | count + 1 =>
      match reader.open? data index with
      | none => []
      | some names =>
          ((named? names).map (index, ·)).toList ++ reader.facesFrom data (index + 1) count

/-- The named faces of a font file. -/
def faces (reader : FaceReader) (data : Bytes) (isCollection : Bool) : List (Nat × FontInfo) :=
  reader.facesFrom data 0 (if isCollection then reader.limit data + 1 else 1)

def collectionMark : Bytes :=
  Text.Utf8.encode "ttcf".toList

/-- Whether a font file starts like a collection. -/
def isMarkedCollection (data : Bytes) : Bool :=
  collectionMark.isPrefixOf data

end FaceReader

namespace PlainFont

/-- The lines after the first of a plain font, when it is one. -/
def faceLines? (data : Bytes) : Option (List (List Char)) :=
  match (Text.Utf8.decode? data).map (Text.splitAll (· == '\n')) with
  | some (first :: lines) =>
      if first = "FONT".toList ∨ first = "ttcf".toList then some lines else none
  | _ => none

def name? (chars : List Char) : Option String :=
  if chars = [] then none else some (String.ofList chars)

/-- The names on a line; a line that starts with a known fault does not open. -/
def namesOfLine? (line : List Char) : Option FaceNames :=
  if line = "!OSError".toList ∨ line = "!ValueError".toList then none
  else
    match Text.splitFirst? '|' line with
    | some (family, style) => some ⟨name? family, name? style⟩
    | none => some ⟨name? line, none⟩

/-- The number of faces that a plain font lists. -/
def limit (data : Bytes) : Nat :=
  ((faceLines? data).getD []).length

/-- The names of a face of a plain font. -/
def open? (data : Bytes) (index : Nat) : Option FaceNames :=
  ((faceLines? data).getD [])[index]?.bind namesOfLine?

def reader : FaceReader where
  limit := limit
  open? := open?
  open?_eq_none data index h := by simp [open?, limit] at h ⊢; simp [List.getElem?_eq_none h]

end PlainFont

end Typeset
