import Mathlib.Tactic.Lemma
import ThreeBucket.Proofs.Recursion

/-!
# Sorting by a function

A comparator without memory asks a function `f`, which may have no answer.  Then the buckets of a
partition can be read off the list: each is the sublist of the items that `f` answers for.  A
sort is determined by the three sublists and by whether every item has an answer.

* `answered` — the items with a given answer against a pivot.
* `tryPartition_ofFun_eq_ok_iff` — **a partition succeeds exactly if every item has an answer**,
  and its buckets are the answered items.
* `trySortAt_ofFun_cons_eq_ok_iff` — the same for a whole sort.
* `answered_induction` — induction from the lesser and the greater items to the whole list.
-/

namespace ThreeBucket

universe u

variable {α : Type u} {f : α → α → Option Ordering}

/-! ## The answered items -/

/-- The items that stand to the pivot as `o` says. -/
def answered (f : α → α → Option Ordering) (o : Ordering) (pivot : α) (items : List α) : List α :=
  items.filter fun a => f a pivot == some o

@[simp] lemma mem_answered {o : Ordering} {pivot a : α} {items : List α} :
    a ∈ answered f o pivot items ↔ a ∈ items ∧ f a pivot = some o := by
  simp [answered]

lemma answered_sublist (f : α → α → Option Ordering) (o : Ordering) (pivot : α)
    (items : List α) : (answered f o pivot items).Sublist items :=
  List.filter_sublist

lemma answered_append (f : α → α → Option Ordering) (o : Ordering) (pivot : α) (l l' : List α) :
    answered f o pivot (l ++ l') = answered f o pivot l ++ answered f o pivot l' :=
  List.filter_append ..

/-- Induction along the partitions by `f`: the property goes from the lesser and the greater
items around a first element to the whole list. -/
theorem answered_induction (f : α → α → Option Ordering) {motive : List α → Prop}
    (nil : motive [])
    (cons : ∀ pivot rest, motive (answered f .lt pivot rest) →
      motive (answered f .gt pivot rest) → motive (pivot :: rest))
    (items : List α) : motive items := by
  match items with
  | [] => exact nil
  | pivot :: rest =>
      have hl := (answered_sublist f .lt pivot rest).length_le
      have hg := (answered_sublist f .gt pivot rest).length_le
      exact cons pivot rest (answered_induction f nil cons _) (answered_induction f nil cons _)
termination_by items.length
decreasing_by
  all_goals
    simp only [List.length_cons]
    omega

/-! ## Partitions -/

lemma PartialComparator.ofFun_apply (s : Unit) (a b : α) :
    PartialComparator.ofFun f s a b = (s, f a b) := rfl

/-- The three sublists of answered items. -/
def answeredBuckets (f : α → α → Option Ordering) (pivot : α) (items : List α) : Buckets α where
  less := (answered f .lt pivot items).toArray
  equal := (answered f .eq pivot items).toArray
  greater := (answered f .gt pivot items).toArray

lemma tryPartitionOnto_ofFun {pivot : α} {depth position : Nat} {b : Buckets α} {items : List α}
    (h : ∀ a ∈ items, (f a pivot).isSome) :
    Buckets.tryPartitionOnto (.ofFun f) pivot depth position () b items =
      ((), .ok {
        less := b.less ++ answered f .lt pivot items
        equal := b.equal ++ answered f .eq pivot items
        greater := b.greater ++ answered f .gt pivot items }) := by
  induction items generalizing position b with
  | nil => simp [Buckets.tryPartitionOnto, answered]
  | cons item rest ih =>
      obtain ⟨o, ho⟩ := Option.isSome_iff_exists.mp (h item List.mem_cons_self)
      simp only [Buckets.tryPartitionOnto, PartialComparator.ofFun_apply, ho]
      rw [ih fun a ha => h a (List.mem_cons_of_mem item ha)]
      cases o <;> simp [Buckets.push, answered, ho]

lemma isSome_of_tryPartitionOnto {pivot : α} {depth position : Nat} {s t : Unit}
    {b b' : Buckets α} {items : List α}
    (h : Buckets.tryPartitionOnto (.ofFun f) pivot depth position s b items = (t, .ok b')) :
    ∀ a ∈ items, (f a pivot).isSome := by
  induction items generalizing position s b with
  | nil => simp
  | cons item rest ih =>
      simp only [Buckets.tryPartitionOnto, PartialComparator.ofFun_apply] at h
      split at h
      · simp at h
      · rename_i s₁ o ho
        have hitem : f item pivot = some o := congrArg Prod.snd ho
        intro a ha
        rcases List.mem_cons.mp ha with rfl | ha
        · simp [hitem]
        · exact ih h a ha

/-- **When a partition succeeds, and with which buckets.** -/
theorem tryPartition_ofFun_eq_ok_iff {depth : Nat} {s t : Unit} {pivot : α} {items : List α}
    {b : Buckets α} :
    Buckets.tryPartition (.ofFun f) depth s pivot items = (t, .ok b) ↔
      (∀ a ∈ items, (f a pivot).isSome) ∧ b = answeredBuckets f pivot items := by
  constructor
  · intro h
    have hall := isSome_of_tryPartitionOnto h
    refine ⟨hall, ?_⟩
    rw [Buckets.tryPartition, tryPartitionOnto_ofFun hall] at h
    simp only [Prod.mk.injEq, Except.ok.injEq] at h
    rw [← h.2, answeredBuckets]
    simp
  · rintro ⟨hall, rfl⟩
    rw [Buckets.tryPartition, tryPartitionOnto_ofFun hall, answeredBuckets]
    simp

/-! ## Sorts -/

/-- **How a sort by a function succeeds.** -/
theorem trySortAt_ofFun_cons_eq_ok_iff {depth : Nat} {s t : Unit} {pivot : α}
    {rest sorted : List α} :
    trySortAt (.ofFun f) depth s (pivot :: rest) = (t, .ok sorted) ↔
      (∀ a ∈ rest, (f a pivot).isSome) ∧
      ∃ less greater,
        trySortAt (.ofFun f) (depth + 1) () (answered f .lt pivot rest) = ((), .ok less) ∧
        trySortAt (.ofFun f) (depth + 1) () (answered f .gt pivot rest) = ((), .ok greater) ∧
        sorted = less ++ pivot :: (answered f .eq pivot rest ++ greater) := by
  rw [trySortAt_cons_eq_ok_iff]
  constructor
  · rintro ⟨s₁, b, s₂, less, greater, hb, hl, hg, rfl⟩
    obtain ⟨hall, rfl⟩ := tryPartition_ofFun_eq_ok_iff.mp hb
    exact ⟨hall, less, greater, hl, hg, rfl⟩
  · rintro ⟨hall, less, greater, hl, hg, rfl⟩
    exact ⟨(), answeredBuckets f pivot rest, (), less, greater,
      tryPartition_ofFun_eq_ok_iff.mpr ⟨hall, rfl⟩, hl, hg, rfl⟩

end ThreeBucket
