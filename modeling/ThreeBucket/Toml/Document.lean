import ThreeBucket.Toml.Value

/-!
# Documents

A document is a sequence of statements, one on a line: pairs, and headers that open a table for
the pairs that follow.

* `Statement` — a pair or a header.
* `statements?` — the statements of a text.
* `Section` — a header with the pairs that follow it.
* `Entries.enter?` — adds the table of a section to the document.
* `document?` — the content of a text, or `none` if it is not TOML.

**Order.**  A table enters its parent when its section ends, after everything the parent already
holds; parents that only a header mentions enter when that header is met.  A table that was only
mentioned before and now gets its own header leaves its old place and moves to the end.

**Places.**  The span of a table reaches from its header to the last value in its section, and the
span of an array of tables from the first header to the end of the last section.
-/

namespace ThreeBucket.Toml

/-! ## Statements -/

/-- The opening of a table, or of another table in an array of tables. -/
structure Header where
  path : List Key
  key : Key
  /-- Whether the brackets are doubled. -/
  repeats : Bool
  span : Span

/-- A line of a document. -/
inductive Statement where
  | pair (pair : Pair)
  | header (header : Header)

/-- A header in single brackets. -/
def tableHeader? (c : Cursor) : Option (Header × Cursor) := do
  let ((path, key), after) ← dottedKey? (← c.char? '[')
  let after ← after.char? ']'
  return ({ path, key, repeats := false, span := ⟨c.pos, after.pos⟩ }, after)

/-- A header in double brackets. -/
def repeatedHeader? (c : Cursor) : Option (Header × Cursor) := do
  let ((path, key), after) ← dottedKey? (← (← c.char? '[').char? '[')
  let after ← (← after.char? ']').char? ']'
  return ({ path, key, repeats := true, span := ⟨c.pos, after.pos⟩ }, after)

/-- A pair or a header. -/
def statement? (c : Cursor) : Option (Statement × Cursor) :=
  match c.rest with
  | '[' :: '[' :: _ => (repeatedHeader? c).map fun (h, after) => (.header h, after)
  | '[' :: _ => (tableHeader? c).map fun (h, after) => (.header h, after)
  | _ => (pair? c).map fun (p, after) => (.pair p, after)

/-- The statements from a position that blanks and comments do not precede. -/
def statementsFrom? (c : Cursor) : Option (List Statement) :=
  if c.rest.isEmpty then some []
  else do
    let (statement, after) ← statement? c
    let next ← (← after.lineEnd?).skipTrivia?
    if next.rest.length < c.rest.length then
      return statement :: (← statementsFrom? next)
    else none
termination_by c.rest.length

/-- The statements of a text, at the start of which a byte order mark is skipped. -/
def statements? (text : List Char) : Option (List Statement) := do
  let start : Cursor := match text with
    | '\ufeff' :: rest => ⟨1, rest⟩
    | rest => ⟨0, rest⟩
  statementsFrom? (← start.skipTrivia?)

/-! ## Sections -/

/-- A header with the pairs that follow it. -/
structure Section where
  header : Header
  pairs : List Pair

/-- The pairs before the first header, and the sections. -/
def sections : List Statement → List Pair × List Section
  | [] => ([], [])
  | .pair pair :: rest =>
    let (pairs, sections) := sections rest
    (pair :: pairs, sections)
  | .header header :: rest =>
    let (pairs, sections) := sections rest
    ([], ⟨header, pairs⟩ :: sections)

namespace Section

/-- The place of a section's table. -/
def span (s : Section) : Span :=
  s.pairs.foldl (fun span pair => (pair.value.span?.map span.through).getD span) s.header.span

end Section

namespace Entries

/-- Adds pairs one after the other. -/
def insertAll? (pairs : List Pair) (entries : Entries) : Option Entries :=
  pairs.foldlM (fun entries pair => entries.insert? pair.key pair.value pair.path) entries

/-- Changes the table at a path of header parts.  Missing tables are made, and an array of tables
stands for its last member. -/
def modifyAt? (f : Entries → Option Entries) : List Key → Entries → Option Entries
  | [], entries => f entries
  | part :: path, entries =>
    match entries.find? part.name with
    | none => do
      let inner ← modifyAt? f path []
      entries.add? part (.table .implied none inner)
    | some (.table form span inner) =>
      if form == .inline then none
      else do
        let inner ← modifyAt? f path inner
        return entries.replace part.name (.table form span inner)
    | some (.tables members span) => do
      let members ← modifyLast? (modifyAt? f path) members
      return entries.replace part.name (.tables members span)
    | some _ => none

/-- Adds the table of a section to its parent.  A table may be opened once, and an array of tables
grows only by headers of its own kind. -/
def addSection? (s : Section) (parent : Entries) : Option Entries :=
  let key := s.header.key
  match s.header.repeats, parent.find? key.name with
  | false, none => do
    let inner ← insertAll? s.pairs []
    parent.add? key (.table .header (some s.span) inner)
  | false, some (.table .implied _ inner) => do
    let inner ← insertAll? s.pairs inner
    (parent.erase key.name).add? key (.table .header (some s.span) inner)
  | true, none => do
    let member ← insertAll? s.pairs []
    parent.add? key (.tables [member] s.span)
  | true, some (.tables members span) => do
    let member ← insertAll? s.pairs []
    return parent.replace key.name (.tables (members ++ [member]) (span.through s.span))
  | _, some _ => none

/-- Adds the table of a section to a document. -/
def enter? (document : Entries) (s : Section) : Option Entries :=
  modifyAt? (addSection? s) s.header.path document

/-- The document that statements describe. -/
def ofStatements? (statements : List Statement) : Option Entries := do
  let (pairs, sections) := sections statements
  sections.foldlM enter? (← insertAll? pairs [])

end Entries

/-- The content of a text, or `none` if it is not TOML. -/
def document? (text : String) : Option Entries := do
  Entries.ofStatements? (← statements? text.toList)

end ThreeBucket.Toml
