import ThreeBucket.Buckets

/-!
# Sorting what may not be comparable

The same sort for a comparator that may find no ordering.  The first missing answer ends the
sort: no further question is asked, and the error names how deep in the recursion and at which
place of the sequence the item stood.

* `trySortAt`, `trySortAt_cons` — the recursion, and its one equation for all sequences that are
  not empty.
* `trySortBy` — sorts with any partial comparator.
* `trySort` — sorts in a type's own partial order.
-/

namespace ThreeBucket

universe u v

variable {σ : Type u} {α : Type v}

/-- Sorts a sequence that was met `depth` partitions below the top.  The comparator's state is
given back also when the sort fails. -/
@[specialize]
def trySortAt (c : PartialComparator σ α) (depth : Nat) (s : σ) :
    List α → σ × Except Incomparable (List α)
  | [] => (s, .ok [])
  | [item] => (s, .ok [item])
  | pivot :: item :: rest =>
    match h : Buckets.tryPartition c depth s pivot (item :: rest) with
    | (s, .error e) => (s, .error e)
    | (s, .ok b) =>
      have size_b : b.size = (item :: rest).length :=
        Buckets.size_tryPartition c depth _ pivot (item :: rest) b (by rw [h])
      match trySortAt c (depth + 1) s b.less.toList with
      | (s, .error e) => (s, .error e)
      | (s, .ok less) =>
        match trySortAt c (depth + 1) s b.greater.toList with
        | (s, .error e) => (s, .error e)
        | (s, .ok greater) => (s, .ok (less ++ pivot :: (b.equal.toList ++ greater)))
termination_by items => items.length
decreasing_by
  all_goals
    simp only [Buckets.size, Array.length_toList, List.length_cons] at size_b ⊢
    omega

@[simp]
theorem trySortAt_nil (c : PartialComparator σ α) (depth : Nat) (s : σ) :
    trySortAt c depth s [] = (s, .ok []) := by
  rw [trySortAt]

/-- A single element may as well be partitioned: its buckets are empty. -/
theorem trySortAt_cons (c : PartialComparator σ α) (depth : Nat) (s : σ) (pivot : α)
    (rest : List α) :
    trySortAt c depth s (pivot :: rest) =
      match Buckets.tryPartition c depth s pivot rest with
      | (s, .error e) => (s, .error e)
      | (s, .ok b) =>
        match trySortAt c (depth + 1) s b.less.toList with
        | (s, .error e) => (s, .error e)
        | (s, .ok less) =>
          match trySortAt c (depth + 1) s b.greater.toList with
          | (s, .error e) => (s, .error e)
          | (s, .ok greater) => (s, .ok (less ++ pivot :: (b.equal.toList ++ greater))) := by
  cases rest with
  | nil => simp [trySortAt, Buckets.tryPartition, Buckets.tryPartitionOnto]
  | cons item rest =>
      rw [trySortAt]
      split <;> rename_i h <;> simp only [h]

/-- Sorts with a comparator that starts in state `s`. -/
@[inline]
def trySortBy (c : PartialComparator σ α) (s : σ) (items : List α) :
    σ × Except Incomparable (List α) :=
  trySortAt c 0 s items

/-- Sorts in the partial order of the type. -/
@[specialize]
def trySort [PartialCompare α] (items : List α) : Except Incomparable (List α) :=
  (trySortBy PartialComparator.natural () items).2

end ThreeBucket
