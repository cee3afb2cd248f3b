/-!
# Blanks, words and lines

Texts are taken apart as lists of characters.

* `isBlank` — the characters with the property White_Space: 25 code points.
* `words` — the maximal runs of other characters.
* `lines` — the lines of a text.  A line ends at a line feed, and a carriage return right before
  the line feed belongs to the ending.  What follows the last line feed is a line unless it is
  empty, and keeps a carriage return at its end.
-/

namespace ThreeBucket.Text

/-- Whether a character is white space. -/
def isBlank (c : Char) : Bool :=
  let n := c.toNat
  (0x09 ≤ n && n ≤ 0x0d) || n == 0x20 || n == 0x85 || n == 0xa0 || n == 0x1680 ||
    (0x2000 ≤ n && n ≤ 0x200a) || n == 0x2028 || n == 0x2029 || n == 0x202f || n == 0x205f ||
    n == 0x3000

/-- The words of a text, given the letters of the word begun, last letter first. -/
def wordsFrom : List Char → List Char → List (List Char)
  | [], [] => []
  | begun, [] => [begun.reverse]
  | begun, c :: rest =>
    if isBlank c then
      if begun.isEmpty then wordsFrom [] rest else begun.reverse :: wordsFrom [] rest
    else wordsFrom (c :: begun) rest

/-- The maximal runs of characters that are not blank. -/
def words (text : List Char) : List (List Char) :=
  wordsFrom [] text

/-- A line that a line feed ends, given its characters, last first. -/
def endLine : List Char → List Char
  | '\r' :: begun => begun.reverse
  | begun => begun.reverse

/-- The lines of a text, given the characters of the line begun, last first. -/
def linesFrom : List Char → List Char → List (List Char)
  | [], [] => []
  | begun, [] => [begun.reverse]
  | begun, c :: rest =>
    if c = '\n' then endLine begun :: linesFrom [] rest else linesFrom (c :: begun) rest

/-- The lines of a text. -/
def lines (text : List Char) : List (List Char) :=
  linesFrom [] text

/-- The first line of a text, empty if there is none. -/
def firstLine (text : String) : String :=
  String.ofList ((lines text.toList).headD [])

end ThreeBucket.Text
