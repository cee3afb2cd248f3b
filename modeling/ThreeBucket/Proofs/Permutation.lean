import Mathlib.Tactic.Lemma
import ThreeBucket.Proofs.Recursion

/-!
# Nothing is lost and nothing is doubled

A partition drops every item into one bucket, whatever the comparator says, and a sort only ever
partitions and joins.  So **the result of a sort is a permutation of the list for every
comparator**, a contradictory or moody one included.

* `Buckets.toList` — the contents of the three buckets, lesser items first.
* `Buckets.perm_partition` — a partition permutes its items.
* `perm_sortBy` — a sort permutes its list.
-/

namespace ThreeBucket

open scoped List

universe u v

variable {σ : Type u} {α : Type v}

namespace Buckets

/-- The contents of the buckets: the lesser items, the equal ones, the greater ones. -/
def toList (b : Buckets α) : List α :=
  b.less.toList ++ (b.equal.toList ++ b.greater.toList)

lemma perm_toList_push (b : Buckets α) (o : Ordering) (a : α) :
    (b.push o a).toList ~ a :: b.toList := by
  cases o with
  | lt =>
      simp only [push, toList, Array.toList_push, List.append_assoc, List.singleton_append]
      exact List.perm_middle
  | eq =>
      simp only [push, toList, Array.toList_push, List.append_assoc, List.singleton_append]
      exact (List.perm_middle.append_left _).trans List.perm_middle
  | gt =>
      simp only [push, toList, Array.toList_push, ← List.append_assoc]
      exact List.perm_append_singleton a _

lemma perm_partitionOnto (c : Comparator σ α) (pivot : α) (s : σ) (b : Buckets α)
    (items : List α) :
    (partitionOnto c pivot s b items).2.toList ~ b.toList ++ items := by
  induction items generalizing s b with
  | nil => rw [partitionOnto, List.append_nil]
  | cons item rest ih =>
      rw [partitionOnto]
      calc (partitionOnto c pivot (c s item pivot).1 (b.push (c s item pivot).2 item) rest).2.toList
        _ ~ (b.push (c s item pivot).2 item).toList ++ rest := ih _ _
        _ ~ item :: b.toList ++ rest := (perm_toList_push b _ item).append_right rest
        _ ~ b.toList ++ item :: rest := List.perm_middle.symm

/-- **A partition permutes its items.** -/
theorem perm_partition (c : Comparator σ α) (s : σ) (pivot : α) (items : List α) :
    (partition c s pivot items).2.toList ~ items :=
  perm_partitionOnto c pivot s {} items

end Buckets

/-- **A sort permutes its list**, whatever the comparator answers. -/
theorem perm_sortBy (c : Comparator σ α) (s : σ) (items : List α) :
    (sortBy c s items).2 ~ items := by
  induction s, items using sortBy_induction c with
  | nil s => simp
  | cons s pivot rest ihl ihg =>
      rw [sortBy_cons]
      calc _ ~ _ := ihl.append ((ihg.append_left _).cons pivot)
        _ ~ pivot :: (Buckets.partition c s pivot rest).2.toList := List.perm_middle
        _ ~ pivot :: rest := (Buckets.perm_partition c s pivot rest).cons pivot

end ThreeBucket
