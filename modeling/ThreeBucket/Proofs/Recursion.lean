import ThreeBucket.Sort
import ThreeBucket.Sort.Fallible

/-!
# The sorts, one partition at a time

Each sort obeys *one* equation for a nonempty sequence, so its recursion has two cases only.

* `sortBy_induction` — the recursive sort, for any comparator.  The induction hands over the very
  states in which the two recursive calls start.
* `trySortAt_cons_eq_ok_iff`, `trySortAt_induction` — the fallible sort.  **A success is a
  successful partition and two successful sorts**, in this order.
* `trySortAt_cons_eq_error_iff` — an error comes from the first of the three that fails.
-/

namespace ThreeBucket

universe u v

variable {σ : Type u} {α : Type v}

/-! ## The recursive sort -/

/-- Induction along the recursive calls that a sort makes. -/
theorem sortBy_induction (c : Comparator σ α) {motive : σ → List α → Prop}
    (nil : ∀ s, motive s [])
    (cons : ∀ s pivot rest,
      motive (Buckets.partition c s pivot rest).1
        (Buckets.partition c s pivot rest).2.less.toList →
      motive (sortBy c (Buckets.partition c s pivot rest).1
          (Buckets.partition c s pivot rest).2.less.toList).1
        (Buckets.partition c s pivot rest).2.greater.toList →
      motive s (pivot :: rest))
    (s : σ) (items : List α) : motive s items := by
  match items with
  | [] => exact nil s
  | pivot :: rest =>
      have hl := Buckets.length_less_partition c s pivot rest
      have hg := Buckets.length_greater_partition c s pivot rest
      exact cons s pivot rest (sortBy_induction c nil cons _ _) (sortBy_induction c nil cons _ _)
termination_by items.length
decreasing_by
  all_goals
    simp only [List.length_cons]
    omega

/-! ## The fallible sort -/

/-- **How a sort of a nonempty sequence succeeds.** -/
theorem trySortAt_cons_eq_ok_iff {c : PartialComparator σ α} {depth : Nat} {s t : σ} {pivot : α}
    {rest sorted : List α} :
    trySortAt c depth s (pivot :: rest) = (t, .ok sorted) ↔
      ∃ s₁ b s₂ less greater,
        Buckets.tryPartition c depth s pivot rest = (s₁, .ok b) ∧
        trySortAt c (depth + 1) s₁ b.less.toList = (s₂, .ok less) ∧
        trySortAt c (depth + 1) s₂ b.greater.toList = (t, .ok greater) ∧
        sorted = less ++ pivot :: (b.equal.toList ++ greater) := by
  rw [trySortAt_cons]
  constructor
  · intro h
    split at h
    · simp at h
    · rename_i s₁ b hb
      split at h
      · simp at h
      · rename_i s₂ less hl
        split at h
        · simp at h
        · rename_i s₃ greater hg
          simp only [Prod.mk.injEq, Except.ok.injEq] at h
          obtain ⟨rfl, rfl⟩ := h
          exact ⟨s₁, b, s₂, less, greater, hb, hl, hg, rfl⟩
  · rintro ⟨s₁, b, s₂, less, greater, hb, hl, hg, rfl⟩
    simp only [hb, hl, hg]

/-- **How a sort of a nonempty sequence fails**: in its partition, below in the lesser items, or
below in the greater items after the lesser ones could be sorted. -/
theorem trySortAt_cons_eq_error_iff {c : PartialComparator σ α} {depth : Nat} {s t : σ} {pivot : α}
    {rest : List α} {e : Incomparable} :
    trySortAt c depth s (pivot :: rest) = (t, .error e) ↔
      Buckets.tryPartition c depth s pivot rest = (t, .error e) ∨
      ∃ s₁ b, Buckets.tryPartition c depth s pivot rest = (s₁, .ok b) ∧
        (trySortAt c (depth + 1) s₁ b.less.toList = (t, .error e) ∨
        ∃ s₂ less, trySortAt c (depth + 1) s₁ b.less.toList = (s₂, .ok less) ∧
          trySortAt c (depth + 1) s₂ b.greater.toList = (t, .error e)) := by
  rw [trySortAt_cons]
  constructor
  · intro h
    split at h
    · rename_i hb
      simp only [Prod.mk.injEq, Except.error.injEq] at h
      obtain ⟨rfl, rfl⟩ := h
      exact .inl hb
    · rename_i s₁ b hb
      refine .inr ⟨s₁, b, hb, ?_⟩
      split at h
      · rename_i hl
        exact .inl (hl.trans h)
      · rename_i s₂ less hl
        refine .inr ⟨s₂, less, hl, ?_⟩
        split at h
        · rename_i hg
          exact hg.trans h
        · simp at h
  · rintro (hb | ⟨s₁, b, hb, hl | ⟨s₂, less, hl, hg⟩⟩)
    · simp only [hb]
    · simp only [hb, hl]
    · simp only [hb, hl, hg]

/-- Induction along the recursive calls that a fallible sort makes: on the greater items only if
the lesser ones could be sorted. -/
theorem trySortAt_induction (c : PartialComparator σ α) {motive : Nat → σ → List α → Prop}
    (nil : ∀ depth s, motive depth s [])
    (cons : ∀ depth s pivot rest,
      (∀ s₁ b, Buckets.tryPartition c depth s pivot rest = (s₁, .ok b) →
        motive (depth + 1) s₁ b.less.toList) →
      (∀ s₁ b s₂ less, Buckets.tryPartition c depth s pivot rest = (s₁, .ok b) →
        trySortAt c (depth + 1) s₁ b.less.toList = (s₂, .ok less) →
        motive (depth + 1) s₂ b.greater.toList) →
      motive depth s (pivot :: rest))
    (depth : Nat) (s : σ) (items : List α) : motive depth s items := by
  match items with
  | [] => exact nil depth s
  | pivot :: rest =>
      refine cons depth s pivot rest (fun s₁ b hb => ?_) (fun s₁ b s₂ less hb _ => ?_)
      all_goals
        have hsize := Buckets.size_tryPartition c depth s pivot rest b (by rw [hb])
        exact trySortAt_induction c nil cons _ _ _
termination_by items.length
decreasing_by
  all_goals
    simp only [Buckets.size, Array.length_toList, List.length_cons] at hsize ⊢
    omega

end ThreeBucket
