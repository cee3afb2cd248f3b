import ThreeBucket.Binary64.Text
import ThreeBucket.Settings
import ThreeBucket.Text.Quoted
import ThreeBucket.Toml.Diagnostic
import ThreeBucket.Toml.Document

/-!
# Settings from a file

A settings file is a TOML document whose top-level keys are the names of settings.

* `Setting` — the settings by name.
* `Misfit` — why an entry of a document is no setting, and its wording.
* `Overrides.ofEntries` — the settings of a document.  Entries are taken in document order, and
  **the first misfit is the one reported**.
* `Overrides.ofText` — the settings of a text, with a diagnostic that shows the place.

A setting with named values takes a string.  It also takes a table with one entry, whose key is
the name and whose value is an empty table or array.
-/

namespace ThreeBucket

/-- The settings, by the keys that a file may hold. -/
inductive Setting where
  | iterations
  | size
  | shape
  | seed
  | strategy
  | warmup
  | verify
  | format
  deriving Repr, DecidableEq

namespace Setting

/-- The key of a setting. -/
def name : Setting → String
  | .iterations => "iterations"
  | .size => "size"
  | .shape => "shape"
  | .seed => "seed"
  | .strategy => "strategy"
  | .warmup => "warmup"
  | .verify => "verify"
  | .format => "format"

/-- All settings, in the order in which they are offered. -/
def all : List Setting :=
  [.iterations, .size, .shape, .seed, .strategy, .warmup, .verify, .format]

/-- The setting of a key. -/
def ofName? (key : String) : Option Setting :=
  all.find? fun setting => setting.name == key

end Setting

/-! ## What can be wrong with an entry -/

/-- The kind of value that was found where another was expected. -/
inductive Found where
  | integer (value : Int)
  | float (value : Binary64)
  | boolean (value : Bool)
  | string (text : String)
  | sequence
  | map
  deriving Repr, DecidableEq

/-- Why an entry of a document is no setting. -/
inductive Misfit where
  | unknownSetting (key : String)
  | wrongType (found : Found) (expected : String)
  | outOfRange (value : Int) (expected : String)
  | unknownName (text : String) (names : List String)
  | notNameOrTable
  | noEntry
  | manyEntries
  | notEmptyTable
  | notEmptyArray
  | notTable (found : String)
  deriving Repr, DecidableEq

namespace Found

/-- In messages a number has no exponent, and a whole one ends in `.0`. -/
def floatStyle : NumberStyle where
  positional _ := true
  pointZero := true
  exponentPlus := false
  tie := .up
  infinity := Binary64.infText
  nan := "NaN"

/-- The words for a kind of value. -/
def describe : Found → String
  | .integer value => s!"integer `{value}`"
  | .float value => "floating point `" ++ value.write floatStyle ++ "`"
  | .boolean value => s!"boolean `{value}`"
  | .string text => "string " ++ Text.quoted text
  | .sequence => "sequence"
  | .map => "map"

end Found

namespace Misfit

/-- Names between backticks, with commas between them. -/
def listed (names : List String) : String :=
  ", ".intercalate (names.map fun name => s!"`{name}`")

/-- The words for a misfit. -/
def message : Misfit → String
  | .unknownSetting key =>
    s!"unknown field `{key}`, expected one of " ++ listed (Setting.all.map Setting.name)
  | .wrongType found expected => "invalid type: " ++ found.describe ++ ", expected " ++ expected
  | .outOfRange value expected => s!"invalid value: integer `{value}`, expected {expected}"
  | .unknownName text names => s!"unknown variant `{text}`, expected one of " ++ listed names
  | .notNameOrTable => "wanted string or table"
  | .noEntry => "wanted exactly 1 element, found 0 elements"
  | .manyEntries => "wanted exactly 1 element, more than 1 element"
  | .notEmptyTable => "expected empty table"
  | .notEmptyArray => "expected empty array"
  | .notTable found => s!"expected table, found {found}"

end Misfit

/-- A misfit with the place it is about, if one is known. -/
structure LocatedMisfit where
  misfit : Misfit
  span : Option Toml.Span
  deriving Repr, DecidableEq

namespace LocatedMisfit

/-- Takes the given place unless one is known. -/
def orAt (m : LocatedMisfit) (span : Option Toml.Span) : LocatedMisfit :=
  { m with span := m.span <|> span }

end LocatedMisfit

/-! ## Values of settings -/

open Toml in
/-- The kind of a value. -/
def Found.ofNode : Node → Found
  | .scalar (.integer value) _ => .integer value
  | .scalar (.float value) _ => .float value
  | .scalar (.boolean value) _ => .boolean value
  | .scalar (.string text) _ => .string text
  | .scalar (.moment _) _ => .map
  | .array _ _ => .sequence
  | .tables _ _ => .sequence
  | .table _ _ _ => .map

namespace Setting

open Toml

/-- A number from 0 to one below `bound`, called `expected` in messages. -/
def natural (bound : Nat) (expected : String) (node : Node) : Except LocatedMisfit Nat :=
  match node with
  | .scalar (.integer value) span =>
    if 0 ≤ value ∧ value < bound then .ok value.toNat
    else .error ⟨.outOfRange value expected, span⟩
  | _ => .error ⟨.wrongType (Found.ofNode node) expected, node.span?⟩

/-- A number of 32 bits. -/
def word32 (node : Node) : Except LocatedMisfit UInt32 :=
  (natural (Nat.pow 2 32) "u32" node).map UInt32.ofNat

/-- A number of 64 bits. -/
def word64 (node : Node) : Except LocatedMisfit UInt64 :=
  (natural (Nat.pow 2 64) "usize" node).map UInt64.ofNat

/-- A truth value. -/
def boolean (node : Node) : Except LocatedMisfit Bool :=
  match node with
  | .scalar (.boolean value) _ => .ok value
  | _ => .error ⟨.wrongType (Found.ofNode node) "a boolean", node.span?⟩

/-- The kind of a scalar in messages about tables. -/
def scalarKind : Scalar → String
  | .string _ => "string"
  | .integer _ => "integer"
  | .float _ => "float"
  | .boolean _ => "boolean"
  | .moment _ => "datetime"

/-- Checks the value beside a name in a table: it must be empty. -/
def emptyContent : Node → Except LocatedMisfit Unit
  | .scalar value span => .error ⟨.notTable (scalarKind value), span⟩
  | .array items span => if items.isEmpty then .ok () else .error ⟨.notEmptyTable, span⟩
  | .table _ span entries => if entries.isEmpty then .ok () else .error ⟨.notEmptyTable, span⟩
  | .tables members span => if members.isEmpty then .ok () else .error ⟨.notEmptyArray, span⟩

section
variable {α : Type} [Choice α]

/-- The value of a name. -/
def named (name : String) (span : Span) : Except LocatedMisfit α :=
  match Choice.ofName? name with
  | some value => .ok value
  | none => .error ⟨.unknownName name (Choice.names α), span⟩

/-- The value that the only entry of a table names. -/
def onlyEntry (span : Option Span) : Entries → Except LocatedMisfit α
  | [] => .error ⟨.noEntry, span⟩
  | [(key, node)] => do
    let value ← named key.name key.span
    emptyContent node
    return value
  | _ :: _ :: _ => .error ⟨.manyEntries, span⟩

/-- One of the named values of a type. -/
def choice (node : Node) : Except LocatedMisfit α :=
  match node with
  | .scalar (.string text) span => named text span
  | .table _ span entries => (onlyEntry span entries).mapError (·.orAt span)
  | _ => .error ⟨.notNameOrTable, node.span?⟩

end

end Setting

/-! ## Settings of a document -/

namespace Overrides

open Toml

/-- The overrides with the value of one more setting. -/
def set (o : Overrides) (node : Node) : Setting → Except LocatedMisfit Overrides
  | .iterations => do return { o with iterations := some (← Setting.word32 node) }
  | .size => do return { o with size := some (← Setting.word64 node) }
  | .shape => do return { o with shape := some (← Setting.choice node) }
  | .seed => do return { o with seed := some (← Setting.word32 node) }
  | .strategy => do return { o with strategy := some (← Setting.choice node) }
  | .warmup => do return { o with warmup := some (← Setting.word32 node) }
  | .verify => do return { o with verify := some (← Setting.boolean node) }
  | .format => do return { o with format := some (← Setting.choice node) }

/-- The overrides with one more entry of a document. -/
def add (o : Overrides) (entry : Key × Node) : Except LocatedMisfit Overrides :=
  match Setting.ofName? entry.1.name with
  | none => .error ⟨.unknownSetting entry.1.name, entry.1.span⟩
  | some setting => (o.set entry.2 setting).mapError (·.orAt (entry.2.span? <|> entry.1.span))

/-- The settings of a document. -/
def ofEntries (entries : Entries) : Except LocatedMisfit Overrides :=
  entries.foldlM add {}

end Overrides

/-- Why a text is no settings file. -/
inductive FileFault where
  /-- The text is not TOML. -/
  | notToml
  /-- An entry is no setting. -/
  | misfit (diagnostic : Toml.Diagnostic)
  deriving Repr

namespace FileFault

/-- The text shown to a user. -/
def render : FileFault → String
  | .notToml => "TOML parse error\n"
  | .misfit diagnostic => diagnostic.render

end FileFault

namespace Overrides

/-- The settings of a text. -/
def ofText (text : String) : Except FileFault Overrides :=
  match Toml.document? text with
  | none => .error .notToml
  | some entries => (ofEntries entries).mapError fun m =>
    .misfit ⟨m.misfit.message, m.span.map (Toml.Excerpt.ofSpan text.toList)⟩

end Overrides

end ThreeBucket
