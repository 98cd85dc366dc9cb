import Typeset.Proofs.Text.Lines
import Typeset.Text.Escaped

/-!
# Escaped text read back

Between its quotes a text is read from left to right up to the first double quote that
no backslash stands before. What was written comes back, and no line break stands
between the quotes.
-/

namespace Typeset.Text.Escaped

/-- What a character stands for behind a backslash. -/
def plain? (char : Char) : Option Char :=
  if char = '\\' then some '\\'
  else if char = '"' then some '"'
  else if char = 'n' then some '\n'
  else if char = 'r' then some '\r'
  else if char = 't' then some '\t'
  else none

/-- The text up to the closing quote, and what stands behind the quote. -/
def decode? : List Char → Option (List Char × List Char)
  | [] => none
  | '"' :: behind => some ([], behind)
  | '\\' :: [] => none
  | '\\' :: char :: rest => do
      let first ← plain? char
      let (chars, behind) ← decode? rest
      return (first :: chars, behind)
  | char :: rest => do
      let (chars, behind) ← decode? rest
      return (char :: chars, behind)

theorem encode_cons (char : Char) (chars : List Char) :
    encode (char :: chars) = encodeChar char ++ encode chars :=
  List.flatMap_cons

theorem decode?_encode (chars behind : List Char) :
    decode? (encode chars ++ '"' :: behind) = some (chars, behind) := by
  induction chars with
  | nil => rfl
  | cons char chars ih =>
      rw [encode_cons, List.append_assoc]
      by_cases backslash : char = '\\'
      · subst char; simp [encodeChar, decode?, plain?, ih]
      by_cases quote : char = '"'
      · subst char; simp [encodeChar, decode?, plain?, ih]
      by_cases feed : char = '\n'
      · subst char; simp [encodeChar, decode?, plain?, ih]
      by_cases carriage : char = '\r'
      · subst char; simp [encodeChar, decode?, plain?, ih]
      by_cases tab : char = '\t'
      · subst char; simp [encodeChar, decode?, plain?, ih]
      simp [encodeChar, backslash, quote, feed, carriage, tab, decode?, ih]

theorem unbroken_encodeChar (char : Char) : Unbroken (encodeChar char) := by
  grind [Unbroken, encodeChar]

theorem unbroken_encode (chars : List Char) : Unbroken (encode chars) := by
  intro mark member
  rcases List.mem_flatMap.mp member with ⟨char, _, inChar⟩
  exact unbroken_encodeChar char mark inChar

theorem unbroken_inQuotes (text : String) : Unbroken (inQuotes text) :=
  unbroken_append.mpr ⟨unbroken_cons.mpr ⟨by decide, unbroken_encode text.toList⟩, by decide⟩

end Typeset.Text.Escaped
