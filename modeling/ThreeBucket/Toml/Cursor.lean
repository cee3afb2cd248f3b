/-!
# Reading position and lexical elements

The reader of a document looks at the characters that are left and keeps count of those it has
passed.

* `Cursor` — a position and the characters from there on.
* `Cursor.lineEnd?` — blanks, an optional comment, and the end of the line or of the text.
* `trivia?` — any number of blanks, comments and line ends.

A line ends at a line feed, or at a carriage return followed by one.  **A comment may hold a tab
and everything from U+0020 on except U+007F.**
-/

namespace ThreeBucket.Toml

/-- A reading position in a text. -/
structure Cursor where
  /-- How many characters were passed. -/
  pos : Nat
  /-- The characters from here on. -/
  rest : List Char
  deriving Repr, DecidableEq

/-- Whether a character separates the elements of a line. -/
def isSpace (c : Char) : Bool :=
  c == ' ' || c == '\t'

/-- Whether a character may stand in comments, and in strings unless it has a meaning there. -/
def isVisible (c : Char) : Bool :=
  c == '\t' || (0x20 ≤ c.toNat && c.toNat != 0x7f)

/-- Whether a character may stand in a key without quotes. -/
def isBare (c : Char) : Bool :=
  c.isAlphanum || c == '-' || c == '_'

/-- Skips blanks, comments and line ends.  Within a comment, a character that must not stand there
is a fault. -/
def trivia? (inComment : Bool) (pos : Nat) : List Char → Option Cursor
  | [] => some ⟨pos, []⟩
  | '\n' :: rest => trivia? false (pos + 1) rest
  | '\r' :: '\n' :: rest => trivia? false (pos + 2) rest
  | c :: rest =>
    if inComment then
      if isVisible c then trivia? true (pos + 1) rest else none
    else if isSpace c then trivia? false (pos + 1) rest
    else if c == '#' then trivia? true (pos + 1) rest
    else some ⟨pos, c :: rest⟩

namespace Cursor

/-- The characters from here on that are of a class, and the position after them. -/
def takeWhile (p : Char → Bool) (c : Cursor) : List Char × Cursor :=
  (c.rest.takeWhile p, ⟨c.pos + (c.rest.takeWhile p).length, c.rest.dropWhile p⟩)

/-- The position after the characters of a class. -/
def dropWhile (p : Char → Bool) (c : Cursor) : Cursor :=
  (c.takeWhile p).2

/-- The position after the given character, if it comes next. -/
def char? (wanted : Char) (c : Cursor) : Option Cursor :=
  match c.rest with
  | next :: rest => if next = wanted then some ⟨c.pos + 1, rest⟩ else none
  | [] => none

/-- The position after blanks, comments and line ends. -/
def skipTrivia? (c : Cursor) : Option Cursor :=
  trivia? false c.pos c.rest

/-- The position after a line end, which the end of the text is too. -/
def newline? (c : Cursor) : Option Cursor :=
  match c.rest with
  | [] => some c
  | '\n' :: rest => some ⟨c.pos + 1, rest⟩
  | '\r' :: '\n' :: rest => some ⟨c.pos + 2, rest⟩
  | _ => none

/-- The position after what may follow a statement on its line. -/
def lineEnd? (c : Cursor) : Option Cursor :=
  let c := c.dropWhile isSpace
  match c.char? '#' with
  | some comment => (comment.dropWhile isVisible).newline?
  | none => c.newline?

end Cursor

end ThreeBucket.Toml
