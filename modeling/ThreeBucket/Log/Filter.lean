import ThreeBucket.Log
import ThreeBucket.Text.Alphanumeric
import ThreeBucket.Text.Blank
import ThreeBucket.Text.Numeral

/-!
# Which events are logged

A filter is the least severe level that is let through.  It is chosen on the command line, or by
directives such as `warn,qsort_bench=debug`: each gives a level for all parts of the program, or
for those whose name starts with a target.

* `Filter` — the levels let through.
* `Directive` — one part of a directive text.
* `Filter.ofDirectives?` — the filter that a text stands for; `none` if some part of it is not
  understood.  **The longest target that fits decides**, and of equally long ones the last; if none
  fits, nothing is logged.
* `Filter.choose` — the filter of a run.
-/

namespace ThreeBucket.Log

/-- The least severe level that is let through, or `none` if no event is. -/
structure Filter where
  limit : Option Level
  deriving Repr, DecidableEq

/-- A level for the parts of the program whose name starts with the target, which is empty for
all parts. -/
structure Directive where
  target : String
  filter : Filter
  /-- Whether only events within a named scope are meant, of which this program opens none. -/
  inScope : Bool := false
  deriving Repr, DecidableEq

namespace Filter

/-- Whether events of a level are let through. -/
def lets (f : Filter) (level : Level) : Bool :=
  match f.limit with
  | none => false
  | some limit => level.rank ≤ limit.rank

/-- The filter of a level given by name in any case, by its number, or as `off`. -/
def ofName? (text : String) : Option Filter :=
  let name := String.ofList (text.toList.map Char.toLower)
  if name = "off" then some ⟨none⟩
  else
    match Level.all.find? (·.name == name) with
    | some level => some ⟨some level⟩
    | none =>
      match Text.readUnsigned 5 text.toList with
      | .ok 0 => some ⟨none⟩
      | .ok n => some ⟨Level.all.find? (·.rank == n)⟩
      | .error _ => none

end Filter

namespace Directive

/-- A text without the blanks around it. -/
def trim (text : List Char) : List Char :=
  ((text.dropWhile Text.isBlank).reverse.dropWhile Text.isBlank).reverse

/-- Whether a target may begin with a character. -/
def beginsTarget (c : Char) : Bool :=
  Text.isAlphanumeric c || c == '-' || c == ':' || c == '_'

/-- Whether a character may stand in a target. -/
def isTargetChar (c : Char) : Bool :=
  c != '=' && c != '['

/-- The directive of a text without a level sign: a level for all parts, or else a target for
which everything is let through. -/
def ofBareText (text : List Char) : Directive :=
  match Filter.ofName? (String.ofList text) with
  | some filter => { target := "", filter }
  | none => { target := String.ofList text, filter := ⟨some .trace⟩ }

/-- The filter behind a level sign.  No level lets everything through. -/
def levelFilter? (level : List Char) : Option Filter :=
  if level.isEmpty then some ⟨some .trace⟩ else Filter.ofName? (String.ofList level)

/-- What follows a scope, of which the opening bracket was read: a name, perhaps with fields in
braces, and the closing bracket. -/
def afterScope? (text : List Char) : Option (List Char) :=
  match text.dropWhile fun c => c != ']' && c != '\x7b' with
  | [] => none
  | ']' :: rest => some rest
  | _ :: fields =>
    match fields.takeWhile (· != '\x7d'), fields.dropWhile (· != '\x7d') with
    | _ :: _, _ :: ']' :: rest => some rest
    | _, _ => none

/-- The directive of a text that has a target and is not blank.  Without a level, blanks around
the text belong to the target; a level must have none around it. -/
def ofCore? (text core : List Char) : Option Directive :=
  let target := String.ofList (core.takeWhile isTargetChar)
  let leveled (level : List Char) := if text = core then levelFilter? level else none
  match core.dropWhile isTargetChar with
  | [] => some (ofBareText text)
  | '=' :: level => (leveled level).map fun filter => { target, filter }
  | _ :: scope =>
    match afterScope? scope with
    | some [] => some { target, filter := ⟨some .trace⟩, inScope := true }
    | some ('=' :: level) => (leveled level).map fun filter => { target, filter, inScope := true }
    | _ => none

/-- The directive of a text without commas. -/
def ofText? (text : List Char) : Option Directive :=
  match trim text with
  | [] => none
  | c :: rest => if beginsTarget c || c == '[' then ofCore? text (c :: rest) else none

end Directive

namespace Filter

/-- The directive that decides, of one so far and another: the one with the longer target, and
the later one if both are equally long. -/
def prefer (best : Option Directive) (d : Directive) : Option Directive :=
  match best with
  | none => some d
  | some b => if d.target.length < b.target.length then best else some d

/-- The filter that directives give to a part of the program. -/
def ofDirectives (directives : List Directive) (part : String) : Filter :=
  let fitting := directives.filter fun d => !d.inScope && d.target.toList.isPrefixOf part.toList
  ((fitting.foldl prefer none).map Directive.filter).getD ⟨none⟩

/-- The filter that a directive text gives to this program's events.  A text without directives
lets only errors through. -/
def ofDirectives? (text : String) : Option Filter := do
  let pieces := (text.splitOn ",").filter (· != "")
  let directives ← pieces.mapM fun piece => Directive.ofText? piece.toList
  if directives.isEmpty then return ⟨some .error⟩
  return ofDirectives directives target

/-- The filter of a run.  A verbose run logs its phases whatever the directives say; without
directives that are understood, warnings are logged. -/
def choose (verbose : Bool) (directives : Option String) : Filter :=
  if verbose then ⟨some .debug⟩
  else (directives.bind ofDirectives?).getD ⟨some .warn⟩

end Filter

end ThreeBucket.Log
