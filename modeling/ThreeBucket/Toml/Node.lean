import ThreeBucket.Binary64

/-!
# Contents of a TOML document

A document is a tree of tables, arrays and scalars.  Nodes and keys remember where they were
written, so that a complaint about one can show the place.

* `Span` — a stretch of the text, in characters.
* `Node` — a value with its place.  Tables know the `Form` in which they were written, because
  the forms differ in what may be added to a table later.
* `Entries` — the content of a table **in the order of arrival**; no two keys have one name.
-/

namespace ThreeBucket.Toml

/-- The characters from `start` up to, but not including, `stop`. -/
structure Span where
  start : Nat
  stop : Nat
  deriving Repr, DecidableEq

namespace Span

/-- The least span from the start of one to the end of another. -/
def through (a b : Span) : Span :=
  ⟨a.start, b.stop⟩

end Span

/-- One part of a dotted key. -/
structure Key where
  name : String
  span : Span
  deriving Repr, DecidableEq

/-- A value without parts. -/
inductive Scalar where
  | string (text : String)
  | integer (value : Int)
  | float (value : Binary64)
  | boolean (value : Bool)
  /-- A date, a time or both, as written. -/
  | moment (text : String)
  deriving Repr, DecidableEq

/-- How a table came to be. -/
inductive Form where
  /-- By a header of its own, or as the top of the document. -/
  | header
  /-- As a parent in some header. -/
  | implied
  /-- As a part of a dotted key. -/
  | dotted
  /-- Between braces. -/
  | inline
  deriving Repr, DecidableEq

namespace Form

/-- Whether the table was never written out itself. -/
def isImplicit : Form → Bool
  | .implied | .dotted => true
  | .header | .inline => false

end Form

/-- A value of a document with its place.  A table that was never written out has none. -/
inductive Node where
  | scalar (value : Scalar) (span : Span)
  | array (items : List Node) (span : Span)
  | table (form : Form) (span : Option Span) (entries : List (Key × Node))
  /-- The tables under one repeated header. -/
  | tables (members : List (List (Key × Node))) (span : Span)

/-- The content of a table. -/
abbrev Entries : Type :=
  List (Key × Node)

namespace Node

/-- Where the node was written, if it was. -/
def span? : Node → Option Span
  | .scalar _ span | .array _ span | .tables _ span => some span
  | .table _ span _ => span

end Node

namespace Entries

/-- The node under a name. -/
def find? (entries : Entries) (name : String) : Option Node :=
  (List.find? (fun e => e.1.name == name) entries).map Prod.snd

/-- Puts another node under a name that is in use. -/
def replace (entries : Entries) (name : String) (node : Node) : Entries :=
  entries.map fun e => if e.1.name == name then (e.1, node) else e

/-- The other entries. -/
def erase (entries : Entries) (name : String) : Entries :=
  entries.filter fun e => e.1.name != name

/-- Adds an entry at the end, if its name is free. -/
def add? (entries : Entries) (key : Key) (node : Node) : Option Entries :=
  if (entries.find? key.name).isSome then none else some (entries ++ [(key, node)])

/-- Applies a change to the last of the given tables. -/
def modifyLast? (f : Entries → Option Entries) : List Entries → Option (List Entries)
  | [] => none
  | [last] => do return [← f last]
  | first :: rest => do return first :: (← modifyLast? f rest)

end Entries

end ThreeBucket.Toml
