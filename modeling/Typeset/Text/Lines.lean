/-!
# Lines of text

A text is cut into lines after every line break; each line keeps its break. A
carriage return and a line feed in this order are one break. Besides these two,
the vertical tab, the form feed, three of the information separators, the next
line, and the line and paragraph separators end a line.
-/

namespace Typeset.Text

/-- Whether a character ends a line by itself. -/
def isLineBreak (char : Char) : Bool :=
  let code := char.toNat
  (0xA ≤ code && code ≤ 0xD) || (0x1C ≤ code && code ≤ 0x1E) || code == 0x85 ||
    code == 0x2028 || code == 0x2029

/-- Put a character in front of the first of some lines. -/
def consLine (char : Char) : List (List Char) → List (List Char)
  | [] => [[char]]
  | line :: lines => (char :: line) :: lines

/-- The lines of a text, each with its line break. -/
def splitLines : List Char → List (List Char)
  | [] => []
  | '\r' :: '\n' :: rest => ['\r', '\n'] :: splitLines rest
  | char :: rest =>
      if isLineBreak char then [char] :: splitLines rest else consLine char (splitLines rest)

/-- The pieces of a text up to each line feed, which they keep. -/
def splitFeeds : List Char → List (List Char)
  | [] => []
  | char :: rest =>
      if char = '\n' then [char] :: splitFeeds rest else consLine char (splitFeeds rest)

/-- A line without the carriage returns and line feeds at its end. -/
def trimBreak (line : List Char) : List Char :=
  (line.reverse.dropWhile fun char => char == '\r' || char == '\n').reverse

/-- A text in which every carriage return, alone or before a line feed, became a line feed. -/
def unifyBreaks : List Char → List Char
  | [] => []
  | '\r' :: '\n' :: rest => '\n' :: unifyBreaks rest
  | char :: rest => (if char = '\r' then '\n' else char) :: unifyBreaks rest

/-- The rest of a text after another that it starts with. -/
def after? : List Char → List Char → Option (List Char)
  | [], chars => some chars
  | _ :: _, [] => none
  | head :: start, char :: chars => if head = char then after? start chars else none

/-- Whether a text has another somewhere in it. -/
def occursIn (pattern : List Char) : List Char → Bool
  | [] => pattern.isEmpty
  | char :: rest => pattern.isPrefixOf (char :: rest) || occursIn pattern rest

/-- Put a text in the place of every occurrence of another, from left to right. -/
def replaceAll (pattern replacement : List Char) : List Char → List Char
  | [] => []
  | char :: rest =>
      match pattern with
      | [] => char :: rest
      | head :: tail =>
          if (head :: tail).isPrefixOf (char :: rest) then
            replacement ++ replaceAll (head :: tail) replacement (rest.drop tail.length)
          else char :: replaceAll (head :: tail) replacement rest
  termination_by chars => chars.length
  decreasing_by all_goals simp_all; try omega

end Typeset.Text
