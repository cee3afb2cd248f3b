import ThreeBucket.Proofs.Permutation

/-!
# Completing a partial comparator

A comparator that always answers *completes* a partial one if it says the same wherever the
partial one says anything.  As long as no answer is missing, the fallible sort and the sort with
a completion cannot tell each other apart: **a success of the fallible sort is the run of every
completion**.  What holds of every sort thereby holds of every success.

* `PartialComparator.CompletedBy` — one comparator completes the other.
* `PartialComparator.CompletedBy.partition_eq`, `PartialComparator.CompletedBy.sortBy_eq` — a
  success carries over to the completion, list and state.
* `perm_of_trySortAt` — a success permutes its list, because the missing answers can always be
  filled in.
-/

namespace ThreeBucket

open scoped List

universe u v

variable {σ : Type u} {α : Type v}

namespace PartialComparator

/-- Wherever `c` has an answer, `c'` gives it and goes on in the same state. -/
def CompletedBy (c : PartialComparator σ α) (c' : Comparator σ α) : Prop :=
  ∀ s item pivot o, (c s item pivot).2 = some o → c' s item pivot = ((c s item pivot).1, o)

/-- The completion that takes two elements without an ordering for equal. -/
def completion (c : PartialComparator σ α) : Comparator σ α :=
  fun s item pivot => ((c s item pivot).1, (c s item pivot).2.getD .eq)

lemma completedBy_completion (c : PartialComparator σ α) : c.CompletedBy c.completion := by
  intro s item pivot o h
  simp [completion, h]

/-- A function that always answers, seen as a partial one, is completed by itself. -/
lemma completedBy_ofFun (f : α → α → Ordering) :
    (PartialComparator.ofFun fun a b => some (f a b)).CompletedBy (Comparator.ofFun f) := by
  intro s item pivot o h
  rw [← Option.some.inj h]
  rfl

namespace CompletedBy

variable {c : PartialComparator σ α} {c' : Comparator σ α}

lemma apply_eq (hc : c.CompletedBy c') {s s₁ : σ} {item pivot : α} {o : Ordering}
    (h : c s item pivot = (s₁, some o)) : c' s item pivot = (s₁, o) := by
  rw [hc s item pivot o (by rw [h]), h]

lemma partitionOnto_eq (hc : c.CompletedBy c') {pivot : α} {depth position : Nat} {s t : σ}
    {b b' : Buckets α} {items : List α}
    (h : Buckets.tryPartitionOnto c pivot depth position s b items = (t, .ok b')) :
    Buckets.partitionOnto c' pivot s b items = (t, b') := by
  induction items generalizing position s b with
  | nil =>
      simp only [Buckets.tryPartitionOnto, Prod.mk.injEq, Except.ok.injEq] at h
      rw [Buckets.partitionOnto, h.1, h.2]
  | cons item rest ih =>
      rw [Buckets.tryPartitionOnto] at h
      split at h
      · simp at h
      · rename_i s₁ o ho
        rw [Buckets.partitionOnto, hc.apply_eq ho]
        exact ih h

lemma partition_eq (hc : c.CompletedBy c') {depth : Nat} {s t : σ} {pivot : α} {items : List α}
    {b : Buckets α} (h : Buckets.tryPartition c depth s pivot items = (t, .ok b)) :
    Buckets.partition c' s pivot items = (t, b) :=
  hc.partitionOnto_eq h

/-- **A success of the fallible sort is the sort of every completion**, to the last state. -/
theorem sortBy_eq (hc : c.CompletedBy c') {depth : Nat} {s t : σ} {items sorted : List α}
    (h : trySortAt c depth s items = (t, .ok sorted)) : sortBy c' s items = (t, sorted) := by
  induction depth, s, items using trySortAt_induction c generalizing t sorted with
  | nil depth s =>
      simp only [trySortAt_nil, Prod.mk.injEq, Except.ok.injEq] at h
      rw [sortBy_nil, h.1, h.2]
  | cons depth s pivot rest ihl ihg =>
      obtain ⟨s₁, b, s₂, less, greater, hb, hl, hg, rfl⟩ := trySortAt_cons_eq_ok_iff.mp h
      rw [sortBy_cons, hc.partition_eq hb]
      simp only [ihl s₁ b hb hl, ihg s₁ b s₂ less hb hl hg]

end CompletedBy

end PartialComparator

/-- **A success permutes its list.** -/
theorem perm_of_trySortAt {c : PartialComparator σ α} {depth : Nat} {s t : σ}
    {items sorted : List α} (h : trySortAt c depth s items = (t, .ok sorted)) :
    sorted ~ items := by
  have hsort := c.completedBy_completion.sortBy_eq h
  have hperm := perm_sortBy c.completion s items
  rwa [hsort] at hperm

end ThreeBucket
