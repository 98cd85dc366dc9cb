/-!
# Splitting text

A text is cut at every separator of a class, so that the pieces are one more
than the separators, and a text is cut once at the first or the last separator.
-/

namespace Typeset.Text

/-- The pieces between the separators of a class, empty pieces included. -/
def splitAll (isSeparator : Char → Bool) : List Char → List (List Char)
  | [] => [[]]
  | char :: rest =>
      if isSeparator char then [] :: splitAll isSeparator rest
      else
        match splitAll isSeparator rest with
        | [] => [[char]]
        | piece :: pieces => (char :: piece) :: pieces

/-- The text before the first separator and the text after it, when there is one. -/
def splitFirst? (separator : Char) : List Char → Option (List Char × List Char)
  | [] => none
  | char :: rest =>
      if char = separator then some ([], rest)
      else (splitFirst? separator rest).map fun (before, after) => (char :: before, after)

/-- The text before the last separator and the text after it, when there is one. -/
def splitLast? (separator : Char) (chars : List Char) : Option (List Char × List Char) :=
  (splitFirst? separator chars.reverse).map fun (after, before) => (before.reverse, after.reverse)

/-- A text without the slashes at its end. -/
def dropSlashes (chars : List Char) : List Char :=
  (chars.reverse.dropWhile (· == '/')).reverse

/-- The pieces of a text between the separators of a class. -/
def pieces (isSeparator : Char → Bool) (text : String) : List String :=
  (splitAll isSeparator text.toList).map String.ofList

end Typeset.Text
