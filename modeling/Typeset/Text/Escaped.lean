/-!
# Escaped text

A text in double quotes, as a document's code writes it. Inside, a backslash
stands before a double quote and before another backslash, and before the
letter for a line feed, a carriage return or a tab; all else stands for itself.
-/

namespace Typeset.Text.Escaped

/-- A character as it stands between double quotes. -/
def encodeChar (char : Char) : List Char :=
  if char = '\\' then ['\\', '\\']
  else if char = '"' then ['\\', '"']
  else if char = '\n' then ['\\', 'n']
  else if char = '\r' then ['\\', 'r']
  else if char = '\t' then ['\\', 't']
  else [char]

/-- The characters between the quotes. -/
def encode (chars : List Char) : List Char :=
  chars.flatMap encodeChar

def inQuotes (text : String) : List Char :=
  '"' :: encode text.toList ++ ['"']

end Typeset.Text.Escaped
