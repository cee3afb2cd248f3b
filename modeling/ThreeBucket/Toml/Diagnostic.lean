import ThreeBucket.Toml.Node

/-!
# Diagnostics with the place in the text

A complaint about a document shows the line, with carets under the place it is about:

    TOML parse error at line 2, column 10
      |
    2 | verify = 'yes'
      |          ^^^^^
    invalid type: string "yes", expected a boolean

* `Excerpt` — the line of a span, where on it the span starts and how many carets it gets.
* `Diagnostic` — a message with an excerpt, if its place is known.
* `Diagnostic.render` — the text shown, which ends with a line end.

Columns count characters, but **the number of carets counts bytes**: those of the span, at most as
many as the line has beyond the characters before the span, and at least one.
-/

namespace ThreeBucket.Toml

/-- A line of the text with the place of a span on it. -/
structure Excerpt where
  /-- The number of the line, from 1. -/
  line : Nat
  /-- How many characters of the line stand before the span. -/
  indent : Nat
  /-- The line without its line feed. -/
  text : List Char
  /-- How many carets mark the span. -/
  width : Nat
  deriving Repr

/-- The number of bytes that characters take up. -/
def byteCount (text : List Char) : Nat :=
  text.foldr (fun c bytes => c.utf8Size + bytes) 0

namespace Excerpt

/-- The excerpt for a span of a text. -/
def ofSpan (text : List Char) (span : Span) : Excerpt :=
  let before := text.take span.start
  let after := text.drop span.start
  let indent := (before.reverse.takeWhile (· != '\n')).reverse
  let line := indent ++ after.takeWhile (· != '\n')
  let bytes := byteCount (after.take (span.stop - span.start))
  { line := before.count '\n' + 1
    indent := indent.length
    text := line
    width := max 1 (min bytes (byteCount line - indent.length)) }

/-- The excerpt as text. -/
def render (e : Excerpt) : String :=
  let number := toString e.line
  let margin := String.ofList (List.replicate (number.length + 1) ' ') ++ "|"
  s!"TOML parse error at line {number}, column {e.indent + 1}\n" ++
    margin ++ "\n" ++
    number ++ " | " ++ String.ofList e.text ++ "\n" ++
    margin ++ String.ofList (List.replicate (e.indent + 1) ' ' ++ List.replicate e.width '^') ++
    "\n"

end Excerpt

/-- A complaint about a document. -/
structure Diagnostic where
  message : String
  excerpt : Option Excerpt := none
  deriving Repr

namespace Diagnostic

/-- The text shown to a user. -/
def render (d : Diagnostic) : String :=
  (match d.excerpt with
  | some e => e.render
  | none => "") ++ d.message ++ "\n"

end Diagnostic

end ThreeBucket.Toml
