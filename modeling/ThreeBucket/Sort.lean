import ThreeBucket.Buckets

/-!
# The three-bucket quicksort

A sequence of at most one element is left alone.  Any other is partitioned around its first
element; the lesser items are sorted, then the greater ones, and the result is

    lesser ++ pivot :: equal ++ greater

Because a bucket keeps the order of arrival and the pivot is the earliest element of its
sequence, elements that compare equal keep their order.

* `sortBy` — the sort for any comparator with memory.  It also returns the state in which the
  comparator is left, **so the order of the two recursive calls is part of its meaning**.
* `sortBy_cons` — its one equation for all sequences that are not empty.
* `sort` — the sort in a type's own order.
* `sortByKey` — the sort by an extracted key.
-/

namespace ThreeBucket

universe u v w

variable {σ : Type u} {α : Type v}

/-- Sorts with a comparator that starts in state `s`. -/
@[specialize]
def sortBy (c : Comparator σ α) (s : σ) : List α → σ × List α
  | [] => (s, [])
  | [item] => (s, [item])
  | pivot :: item :: rest =>
    let r := Buckets.partition c s pivot (item :: rest)
    let l := sortBy c r.1 r.2.less.toList
    let g := sortBy c l.1 r.2.greater.toList
    (g.1, l.2 ++ pivot :: (r.2.equal.toList ++ g.2))
termination_by items => items.length
decreasing_by
  · exact Nat.lt_succ_of_le (Buckets.length_less_partition c s pivot (item :: rest))
  · exact Nat.lt_succ_of_le (Buckets.length_greater_partition c s pivot (item :: rest))

@[simp]
theorem sortBy_nil (c : Comparator σ α) (s : σ) : sortBy c s [] = (s, []) := by
  rw [sortBy]

/-- A single element may as well be partitioned: its buckets are empty. -/
theorem sortBy_cons (c : Comparator σ α) (s : σ) (pivot : α) (rest : List α) :
    sortBy c s (pivot :: rest) =
      let r := Buckets.partition c s pivot rest
      let l := sortBy c r.1 r.2.less.toList
      let g := sortBy c l.1 r.2.greater.toList
      (g.1, l.2 ++ pivot :: (r.2.equal.toList ++ g.2)) := by
  cases rest with
  | nil => simp [sortBy, Buckets.partition, Buckets.partitionOnto]
  | cons item rest => rw [sortBy]

/-- Sorts in the order of the type. -/
@[specialize]
def sort [Ord α] (items : List α) : List α :=
  (sortBy Comparator.natural () items).2

/-- Sorts by a key whose extraction may carry a state. -/
def sortByKey {κ : Type w} [Ord κ] (key : σ → α → σ × κ) (s : σ) (items : List α) :
    σ × List α :=
  sortBy (Comparator.byKey key) s items

end ThreeBucket
