import ThreeBucket.Choice
import ThreeBucket.Sort
import ThreeBucket.Sort.WorkStack

/-!
# Strategies

The ways to sort a list in the order of its type.  All three give the same list; they differ in
what they need while they run.

* `Strategy` — the recursive quicksort, the quicksort on a work stack, and the standard stable
  merge sort.
* `Strategy.sort` — the sort that a strategy stands for.
* `Strategy.recurses` — whether a strategy nests calls as deep as its partitions are unbalanced.
-/

namespace ThreeBucket

universe u

/-- A way to sort a list. -/
inductive Strategy where
  | recursive
  | workStack
  | std
  deriving Repr, DecidableEq

namespace Strategy

/-- The name of a strategy. -/
def name : Strategy → String
  | .recursive => "recursive"
  | .workStack => "work-stack"
  | .std => "std"

instance : Choice Strategy where
  all := [.recursive, .workStack, .std]
  name := name
  default := .recursive

/-- Whether the strategy nests one call for every level of unbalanced partitions. -/
def recurses : Strategy → Bool
  | .recursive => true
  | .workStack | .std => false

/-- Sorts a list in the order of its type. -/
@[specialize]
def sort {α : Type u} [Ord α] : Strategy → List α → List α
  | .recursive, items => ThreeBucket.sort items
  | .workStack, items => sortStack items
  | .std, items => items.mergeSort fun a b => (compare a b).isLE

end Strategy

end ThreeBucket
