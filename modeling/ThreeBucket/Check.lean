import ThreeBucket.Comparator
import ThreeBucket.Strategy

/-!
# Checking a sorted list

Two checks that together tell whether a list is the sorted form of another.

* `isSorted` — every element is less than or equal to its successor.  Only adjacent elements are
  looked at, so an element without an ordering beside another makes the list unsorted.
* `isPermutationOf` — both lists hold the same elements equally often: they have the same length,
  and their sorted forms agree place by place.
-/

namespace ThreeBucket

universe u

variable {α : Type u}

/-- Whether `a` is known to be less than or equal to `b`. -/
def atMost [PartialCompare α] (a b : α) : Bool :=
  match compare? a b with
  | some ordering => ordering.isLE
  | none => false

/-- Whether no element is followed by one that it does not precede or equal. -/
def isSorted [PartialCompare α] : List α → Bool
  | [] => true
  | [_] => true
  | a :: b :: rest => atMost a b && isSorted (b :: rest)

/-- Whether the two lists hold the same elements, each equally often. -/
def isPermutationOf [Ord α] [BEq α] (candidate items : List α) : Bool :=
  candidate.length == items.length &&
    Strategy.std.sort candidate == Strategy.std.sort items

end ThreeBucket
