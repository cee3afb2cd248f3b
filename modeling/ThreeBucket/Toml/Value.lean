import ThreeBucket.Toml.Word

/-!
# Keys, values and pairs

* `dottedKey?` — a key of one or more parts with dots between them.
* `Entries.insert?` — adds a pair to a table.  The leading parts of its key lead through tables
  that dotted keys may extend, and make those that are missing.
* `value?` — a string, a word, an array or an inline table.
* `pair?` — a key, an equals sign and a value.

Keys have **fewer than 80 parts**, and arrays and inline tables nest **less than 80 deep**; the
readers recurse on what is left of these limits.  The loops over the items of an array and of an
inline table end because each turn leaves fewer characters.
-/

namespace ThreeBucket.Toml

/-- A key and its value.  The path holds the leading parts of a dotted key. -/
structure Pair where
  path : List Key
  key : Key
  value : Node

/-- The most parts that a key may have, and the deepest that values may nest. -/
def nestingLimit : Nat := 79

/-! ## Keys -/

/-- One part of a key. -/
def keyPart? (c : Cursor) : Option (Key × Cursor) :=
  let (bare, after) := c.takeWhile isBare
  if bare.isEmpty then
    (lineString? c).map fun (name, after) => (⟨name, ⟨c.pos, after.pos⟩⟩, after)
  else some (⟨String.ofList bare, ⟨c.pos, after.pos⟩⟩, after)

/-- The leading parts and the last part of a key, of which at most the given number may follow.
Blanks may stand around every part. -/
def keyParts? : Nat → Cursor → Option ((List Key × Key) × Cursor)
  | 0, _ => none
  | n + 1, c => do
    let (part, after) ← keyPart? (c.dropWhile isSpace)
    let after := after.dropWhile isSpace
    match after.char? '.' with
    | none => return (([], part), after)
    | some next =>
      let ((path, key), after) ← keyParts? n next
      return ((part :: path, key), after)

/-- A key of one or more parts. -/
def dottedKey? (c : Cursor) : Option ((List Key × Key) × Cursor) :=
  keyParts? nestingLimit c

/-! ## Adding a pair to a table -/

/-- Adds a pair to a table, unless its name is taken or its path leads through something that
dotted keys may not extend.  Tables written out by a header or between braces are closed to them,
and the table that receives the value must itself stem from a dotted key. -/
def Entries.insert? (key : Key) (value : Node) : List Key → Entries → Option Entries
  | [], entries => entries.add? key value
  | part :: path, entries =>
    match entries.find? part.name with
    | none => do
      let inner ← insert? key value path []
      entries.add? part (.table .dotted none inner)
    | some (.table form span inner) =>
      if form.isImplicit && (!path.isEmpty || form == .dotted) then do
        let inner ← insert? key value path inner
        return entries.replace part.name (.table form span inner)
      else none
    | some (.tables members span) =>
      if path.isEmpty then none
      else do
        let members ← Entries.modifyLast? (insert? key value path) members
        return entries.replace part.name (.tables members span)
    | some _ => none

/-! ## Values -/

/-- A value that holds no others. -/
def plainValue? (c : Cursor) : Option (Node × Cursor) :=
  match c.rest with
  | '"' :: _ | '\'' :: _ =>
    (string? c).map fun (text, after) => (.scalar (.string text) ⟨c.pos, after.pos⟩, after)
  | _ => (word? c).map fun (scalar, after) => (.scalar scalar ⟨c.pos, after.pos⟩, after)

/-- The items of an array up to its closing bracket, at least one.  A comma may follow the
last. -/
def items? (value : Cursor → Option (Node × Cursor)) (c : Cursor) :
    Option (List Node × Cursor) := do
  let (node, after) ← value c
  let after ← after.skipTrivia?
  match after.char? ']' with
  | some after => return ([node], after)
  | none =>
    let next ← (← after.char? ',').skipTrivia?
    match next.char? ']' with
    | some after => return ([node], after)
    | none =>
      if next.rest.length < c.rest.length then
        let (nodes, after) ← items? value next
        return (node :: nodes, after)
      else none
termination_by c.rest.length

/-- An array. -/
def array? (value : Cursor → Option (Node × Cursor)) (c : Cursor) : Option (Node × Cursor) := do
  let inside ← (← c.char? '[').skipTrivia?
  match inside.char? ']' with
  | some after => return (.array [] ⟨c.pos, after.pos⟩, after)
  | none =>
    let (items, after) ← items? value inside
    return (.array items ⟨c.pos, after.pos⟩, after)

/-- A key, an equals sign and a value. -/
def pairWith? (value : Cursor → Option (Node × Cursor)) (c : Cursor) :
    Option (Pair × Cursor) := do
  let ((path, key), after) ← dottedKey? c
  let (node, after) ← value ((← after.char? '=').dropWhile isSpace)
  return (⟨path, key, node⟩, after)

/-- The pairs of an inline table up to its closing brace, at least one, added to those read. -/
def inlinePairs? (value : Cursor → Option (Node × Cursor)) (entries : Entries) (c : Cursor) :
    Option (Entries × Cursor) := do
  let (pair, after) ← pairWith? value c
  let entries ← entries.insert? pair.key pair.value pair.path
  let after := after.dropWhile isSpace
  match after.char? '\x7d' with
  | some after => return (entries, after)
  | none =>
    let next ← after.char? ','
    if next.rest.length < c.rest.length then inlinePairs? value entries next else none
termination_by c.rest.length

/-- An inline table, which stays on one line and has no comma after its last pair. -/
def inlineTable? (value : Cursor → Option (Node × Cursor)) (c : Cursor) :
    Option (Node × Cursor) := do
  let inside := (← c.char? '\x7b').dropWhile isSpace
  match inside.char? '\x7d' with
  | some after => return (.table .inline (some ⟨c.pos, after.pos⟩) [], after)
  | none =>
    let (entries, after) ← inlinePairs? value [] inside
    return (.table .inline (some ⟨c.pos, after.pos⟩) entries, after)

/-- A value in which arrays and inline tables nest at most as deep as given. -/
def valueWithin? : Nat → Cursor → Option (Node × Cursor)
  | 0, c => plainValue? c
  | depth + 1, c =>
    match c.rest with
    | '[' :: _ => array? (valueWithin? depth) c
    | '\x7b' :: _ => inlineTable? (valueWithin? depth) c
    | _ => plainValue? c

/-- A value. -/
def value? (c : Cursor) : Option (Node × Cursor) :=
  valueWithin? nestingLimit c

/-- A key, an equals sign and a value. -/
def pair? (c : Cursor) : Option (Pair × Cursor) :=
  pairWith? value? c

end ThreeBucket.Toml
