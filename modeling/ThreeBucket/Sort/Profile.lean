import ThreeBucket.Buckets

/-!
# Profile of a sort

Counts what the quicksort does to a list: how often it partitions, how many comparisons the
partitions take, and how deep its recursion goes.  The count keeps its own recursion beside the
sort's, and adds the comparisons of a partition at once, one for every element but the pivot.

* `Profile` — the three counters, as exact numbers.
* `Profile.words` — what words of 64 bits hold of them.
* `sortProfiled` — the sorted list with the counters of the sort.

Depth counts every sequence that the recursion meets, **those of at most one element included**,
and the whole list has depth 0.
-/

namespace ThreeBucket

universe u

/-- What a sort of one list cost, in exact numbers.  A machine keeps the counters in words of 64
bits.  They hold the same numbers for every list of up to 6074001000 elements.  From the next
length on there are lists whose comparisons a word cannot count. -/
structure Profile where
  /-- Sequences of two or more elements that were partitioned. -/
  partitions : Nat := 0
  /-- Comparisons made by all partitions. -/
  comparisons : Nat := 0
  /-- Depth of the deepest sequence. -/
  maxDepth : Nat := 0
  deriving Repr, DecidableEq

namespace Profile

/-- Notes that a sequence was met at `depth`. -/
def visit (p : Profile) (depth : Nat) : Profile :=
  { p with maxDepth := max p.maxDepth depth }

/-- Notes that a sequence of `size` elements is partitioned. -/
def partition (p : Profile) (size : Nat) : Profile :=
  { p with partitions := p.partitions + 1, comparisons := p.comparisons + (size - 1) }

/-- The counters in words of 64 bits. -/
structure Words where
  partitions : UInt64
  comparisons : UInt64
  maxDepth : UInt64
  deriving Repr, DecidableEq

/-- What words of 64 bits hold of the counters: a sum that does not fit loses its upper part.  Where
sums are checked, the sort stops there instead. -/
def words (p : Profile) : Words where
  partitions := UInt64.ofNat p.partitions
  comparisons := UInt64.ofNat p.comparisons
  maxDepth := UInt64.ofNat p.maxDepth

end Profile

variable {α : Type u} [Ord α]

/-- Sorts a sequence met at `depth` and adds its cost to the counters `p`. -/
@[specialize]
def sortProfiledAt (depth : Nat) (p : Profile) : List α → Profile × List α
  | [] => (p.visit depth, [])
  | [item] => (p.visit depth, [item])
  | pivot :: item :: rest =>
    let b := (Buckets.partition Comparator.natural () pivot (item :: rest)).2
    let l := sortProfiledAt (depth + 1) ((p.visit depth).partition (rest.length + 2))
      b.less.toList
    let g := sortProfiledAt (depth + 1) l.1 b.greater.toList
    (g.1, l.2 ++ pivot :: (b.equal.toList ++ g.2))
termination_by items => items.length
decreasing_by
  · exact Nat.lt_succ_of_le (Buckets.length_less_partition _ () pivot (item :: rest))
  · exact Nat.lt_succ_of_le (Buckets.length_greater_partition _ () pivot (item :: rest))

/-- The sorted list, and what sorting it cost. -/
@[specialize]
def sortProfiled (items : List α) : Profile × List α :=
  sortProfiledAt 0 {} items

end ThreeBucket
