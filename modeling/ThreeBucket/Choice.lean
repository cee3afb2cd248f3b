/-!
# Named choices

Several settings take one of a few named values.  A type of such values lists them in the order
in which they are offered, and names each.

* `Choice` — the class of such types.
* `Choice.ofName?` — the value of an exact name.  **Names are matched letter by letter**: case
  counts, and nothing is trimmed.
-/

namespace ThreeBucket

/-- A type of finitely many named values. -/
class Choice (α : Type) where
  /-- The values, in the order in which they are offered. -/
  all : List α
  /-- The name by which a user asks for a value. -/
  name : α → String
  /-- The value used unless another is asked for. -/
  default : α

namespace Choice

variable {α : Type} [Choice α]

/-- The value of that exact name. -/
def ofName? (text : String) : Option α :=
  all.find? fun a => name a == text

/-- The names that `ofName?` knows, in the order in which they are offered. -/
def names (α : Type) [Choice α] : List String :=
  (all : List α).map name

end Choice

end ThreeBucket
