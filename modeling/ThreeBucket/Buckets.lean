import ThreeBucket.Comparator

/-!
# Three buckets around a pivot

Partitioning asks the comparator once about every item, in list order, and drops the item into
the bucket that the answer names.  Items that share a bucket keep the order in which they were
met, and this is all that the stability of the sorts rests on.

* `Buckets` — the items less than, equal to and greater than a pivot.
* `partition` — the buckets of a list, with the comparator's state after the last call.
* `tryPartition` — the same for a comparator that may have no answer.  It stops at the first
  missing one and names its place as an `Incomparable`.

**`Buckets.size_partition`**: no item is lost, so each bucket is at most as long as the list.
Every recursion of the sorts ends because of it.
-/

namespace ThreeBucket

universe u v

/-- The items met so far, by how they compared with the pivot.  Each bucket is in order of
arrival. -/
structure Buckets (α : Type u) where
  less : Array α := #[]
  equal : Array α := #[]
  greater : Array α := #[]
  deriving Repr, DecidableEq

namespace Buckets

variable {σ : Type u} {α : Type v}

/-- Adds an item at the end of the bucket that `ordering` names. -/
@[inline]
def push (b : Buckets α) (ordering : Ordering) (item : α) : Buckets α :=
  match ordering with
  | .lt => { b with less := b.less.push item }
  | .eq => { b with equal := b.equal.push item }
  | .gt => { b with greater := b.greater.push item }

/-- The number of items in all three buckets. -/
def size (b : Buckets α) : Nat :=
  b.less.size + b.equal.size + b.greater.size

/-- Whether no bucket holds an item. -/
def isEmpty (b : Buckets α) : Bool :=
  b.size == 0

@[simp]
theorem size_empty : ({} : Buckets α).size = 0 := rfl

@[simp]
theorem size_push (b : Buckets α) (o : Ordering) (a : α) : (b.push o a).size = b.size + 1 := by
  cases o <;> simp only [push, size, Array.size_push] <;> omega

/-! ## Partitioning with a comparator that always answers -/

/-- Distributes the items over buckets that may already hold some. -/
@[specialize]
def partitionOnto (c : Comparator σ α) (pivot : α) :
    σ → Buckets α → List α → σ × Buckets α
  | s, b, [] => (s, b)
  | s, b, item :: rest =>
    let r := c s item pivot
    partitionOnto c pivot r.1 (b.push r.2 item) rest

/-- The buckets of `items` around `pivot`, and the state in which the comparator is left. -/
@[inline]
def partition (c : Comparator σ α) (s : σ) (pivot : α) (items : List α) : σ × Buckets α :=
  partitionOnto c pivot s {} items

theorem size_partitionOnto (c : Comparator σ α) (pivot : α) (s : σ) (b : Buckets α)
    (items : List α) :
    (partitionOnto c pivot s b items).2.size = b.size + items.length := by
  induction items generalizing s b with
  | nil => rfl
  | cons item rest ih =>
    rw [partitionOnto, ih, size_push, List.length_cons]
    omega

/-- **Partitioning keeps every item.** -/
@[simp]
theorem size_partition (c : Comparator σ α) (s : σ) (pivot : α) (items : List α) :
    (partition c s pivot items).2.size = items.length := by
  rw [partition, size_partitionOnto, size_empty, Nat.zero_add]

theorem length_less_partition (c : Comparator σ α) (s : σ) (pivot : α) (items : List α) :
    (partition c s pivot items).2.less.toList.length ≤ items.length := by
  have h := size_partition c s pivot items
  simp only [size, Array.length_toList] at h ⊢
  omega

theorem length_greater_partition (c : Comparator σ α) (s : σ) (pivot : α) (items : List α) :
    (partition c s pivot items).2.greater.toList.length ≤ items.length := by
  have h := size_partition c s pivot items
  simp only [size, Array.length_toList] at h ⊢
  omega

/-- The buckets of `items` around `pivot` in the type's own order. -/
def around [Ord α] (pivot : α) (items : List α) : Buckets α :=
  (partition Comparator.natural () pivot items).2

end Buckets

/-! ## Partitioning with a comparator that may not answer -/

/-- Where a sort met two elements without an ordering: how many partitions deep, and at which
place of the sequence then being partitioned.  The pivot has place 0, so items count from 1. -/
structure Incomparable where
  depth : Nat
  position : Nat
  deriving Repr, DecidableEq

namespace Incomparable

/-- The sentence shown to a user. -/
def message (e : Incomparable) : String :=
  s!"element at position {e.position} has no ordering against the pivot (depth {e.depth})"

end Incomparable

namespace Buckets

variable {σ : Type u} {α : Type v}

/-- Distributes the items over buckets that may already hold some, the next item being the one
at place `position`.  The comparator's state is given back also when an answer is missing. -/
@[specialize]
def tryPartitionOnto (c : PartialComparator σ α) (pivot : α) (depth : Nat) :
    Nat → σ → Buckets α → List α → σ × Except Incomparable (Buckets α)
  | _, s, b, [] => (s, .ok b)
  | position, s, b, item :: rest =>
    match c s item pivot with
    | (s, none) => (s, .error { depth, position })
    | (s, some ordering) =>
      tryPartitionOnto c pivot depth (position + 1) s (b.push ordering item) rest

/-- The buckets of `items` around `pivot`, or the place of the first item without an ordering. -/
@[inline]
def tryPartition (c : PartialComparator σ α) (depth : Nat) (s : σ) (pivot : α)
    (items : List α) : σ × Except Incomparable (Buckets α) :=
  tryPartitionOnto c pivot depth 1 s {} items

theorem size_tryPartitionOnto (c : PartialComparator σ α) (pivot : α) (depth position : Nat)
    (s : σ) (b b' : Buckets α) (items : List α)
    (h : (tryPartitionOnto c pivot depth position s b items).2 = .ok b') :
    b'.size = b.size + items.length := by
  induction items generalizing position s b with
  | nil =>
    simp only [tryPartitionOnto, Except.ok.injEq] at h
    simp [h]
  | cons item rest ih =>
    rw [tryPartitionOnto] at h
    split at h
    · simp at h
    · rw [ih _ _ _ h, size_push, List.length_cons]
      omega

/-- **A partition that succeeds keeps every item.** -/
theorem size_tryPartition (c : PartialComparator σ α) (depth : Nat) (s : σ) (pivot : α)
    (items : List α) (b : Buckets α) (h : (tryPartition c depth s pivot items).2 = .ok b) :
    b.size = items.length := by
  rw [size_tryPartitionOnto c pivot depth 1 s {} b items h, size_empty, Nat.zero_add]

end Buckets

end ThreeBucket
