import Mathlib.Tactic.Lemma
import ThreeBucket.Proofs.Recursion

/-!
# One comparator standing for another

Two comparators can run side by side: one answers about elements of `β` with a state of type `τ`,
the other about their images in `α` with the image of that state.  If every single answer agrees
then so does a whole sort, because partitions and sorts never look at an element or at a state
except through the comparator.

* `Comparator.Simulates` — the two comparators agree call by call.
* `Comparator.Simulates.partitionOnto_eq`, `Comparator.Simulates.sortBy_eq` — **a run of one is
  the image of a run of the other**, state and list.
* `Comparator.recorded_simulates` — writing the calls down is such a pair, so the recorded run
  of a comparator is its run.
* `PartialComparator.Simulates`, `PartialComparator.Simulates.trySortAt_eq` — the same for
  comparators that may not answer, **errors included**.
-/

namespace ThreeBucket

universe u v w x

variable {σ : Type u} {α : Type v} {τ : Type w} {β : Type x}

/-- The buckets that hold the images of the items. -/
def Buckets.map (g : β → α) (b : Buckets β) : Buckets α where
  less := b.less.map g
  equal := b.equal.map g
  greater := b.greater.map g

@[simp] lemma Buckets.map_empty (g : β → α) : ({} : Buckets β).map g = {} := by
  simp [Buckets.map]

lemma Buckets.map_push (g : β → α) (b : Buckets β) (o : Ordering) (a : β) :
    (b.push o a).map g = (b.map g).push o (g a) := by
  cases o <;> simp [Buckets.push, Buckets.map]

/-- Every answer of `c'` is the one that `c` gives about the images, and leads to the image of
the state. -/
def Comparator.Simulates (φ : τ → σ) (g : β → α) (c' : Comparator τ β) (c : Comparator σ α) :
    Prop :=
  ∀ t item pivot, c (φ t) (g item) (g pivot) = (φ (c' t item pivot).1, (c' t item pivot).2)

namespace Comparator.Simulates

variable {φ : τ → σ} {g : β → α} {c' : Comparator τ β} {c : Comparator σ α}

lemma partitionOnto_eq (h : c'.Simulates φ g c) (pivot : β) (t : τ) (b : Buckets β)
    (items : List β) :
    Buckets.partitionOnto c (g pivot) (φ t) (b.map g) (items.map g)
      = (φ (Buckets.partitionOnto c' pivot t b items).1,
         (Buckets.partitionOnto c' pivot t b items).2.map g) := by
  induction items generalizing t b with
  | nil => rfl
  | cons item rest ih =>
      simp only [List.map_cons, Buckets.partitionOnto, h t item pivot]
      rw [← Buckets.map_push, ih]

lemma partition_eq (h : c'.Simulates φ g c) (t : τ) (pivot : β) (items : List β) :
    Buckets.partition c (φ t) (g pivot) (items.map g)
      = (φ (Buckets.partition c' t pivot items).1,
         (Buckets.partition c' t pivot items).2.map g) := by
  have := h.partitionOnto_eq pivot t {} items
  rwa [Buckets.map_empty] at this

/-- **A sort of the images is the image of the sort.** -/
theorem sortBy_eq (h : c'.Simulates φ g c) (t : τ) (items : List β) :
    sortBy c (φ t) (items.map g) = (φ (sortBy c' t items).1, (sortBy c' t items).2.map g) := by
  induction t, items using sortBy_induction c' with
  | nil t => simp
  | cons t pivot rest ihl ihg =>
      rw [List.map_cons, sortBy_cons, sortBy_cons, h.partition_eq]
      simp only [Buckets.map, Array.toList_map, ihl, ihg, List.map_append, List.map_cons]

end Comparator.Simulates

/-! ## Recorded runs -/

lemma Comparator.recorded_simulates (c : Comparator σ α) :
    c.recorded.Simulates Recorded.state id c :=
  fun _ _ _ => rfl

/-- **Writing the calls down changes nothing.**  The recorded sort ends in the state of the plain
one and with its list. -/
theorem sortBy_recorded (c : Comparator σ α) (r : Recorded σ α Ordering) (items : List α) :
    sortBy c r.state items =
      ((sortBy c.recorded r items).1.state, (sortBy c.recorded r items).2) := by
  simpa using c.recorded_simulates.sortBy_eq r items

/-! ## Comparators that may not answer

Places are counted and not compared, so the two runs also fail at the same place.
-/

/-- Every answer of `c'`, a missing one included, is the one that `c` gives about the images, and
leads to the image of the state. -/
def PartialComparator.Simulates (φ : τ → σ) (g : β → α) (c' : PartialComparator τ β)
    (c : PartialComparator σ α) : Prop :=
  ∀ t item pivot, c (φ t) (g item) (g pivot) = (φ (c' t item pivot).1, (c' t item pivot).2)

namespace PartialComparator.Simulates

variable {φ : τ → σ} {g : β → α} {c' : PartialComparator τ β} {c : PartialComparator σ α}

lemma tryPartitionOnto_eq (h : c'.Simulates φ g c) (pivot : β) (depth position : Nat) (t : τ)
    (b : Buckets β) (items : List β) :
    Buckets.tryPartitionOnto c (g pivot) depth position (φ t) (b.map g) (items.map g)
      = (φ (Buckets.tryPartitionOnto c' pivot depth position t b items).1,
         (Buckets.tryPartitionOnto c' pivot depth position t b items).2.map (Buckets.map g)) := by
  induction items generalizing position t b with
  | nil => rfl
  | cons item rest ih =>
      simp only [List.map_cons, Buckets.tryPartitionOnto, h t item pivot]
      rcases c' t item pivot with ⟨t₁, _ | o⟩
      · rfl
      · simp only [← Buckets.map_push, ih]

lemma tryPartition_eq (h : c'.Simulates φ g c) (depth : Nat) (t : τ) (pivot : β)
    (items : List β) :
    Buckets.tryPartition c depth (φ t) (g pivot) (items.map g)
      = (φ (Buckets.tryPartition c' depth t pivot items).1,
         (Buckets.tryPartition c' depth t pivot items).2.map (Buckets.map g)) := by
  have := h.tryPartitionOnto_eq pivot depth 1 t {} items
  rwa [Buckets.map_empty] at this

/-- **A fallible sort of the images is the image of the sort**, and fails at the same place. -/
theorem trySortAt_eq (h : c'.Simulates φ g c) (depth : Nat) (t : τ) (items : List β) :
    trySortAt c depth (φ t) (items.map g)
      = (φ (trySortAt c' depth t items).1,
         (trySortAt c' depth t items).2.map (List.map g)) := by
  induction depth, t, items using trySortAt_induction c' with
  | nil depth t => simp [Except.map]
  | cons depth t pivot rest ihl ihg =>
      rw [List.map_cons, trySortAt_cons, trySortAt_cons, h.tryPartition_eq]
      rcases hb : Buckets.tryPartition c' depth t pivot rest with ⟨t₁, e | b⟩
      · rfl
      · simp only [Except.map, Buckets.map, Array.toList_map, ihl t₁ b hb]
        rcases hl : trySortAt c' (depth + 1) t₁ b.less.toList with ⟨t₂, e | less⟩
        · rfl
        · simp only [Except.map, ihg t₁ b t₂ less hb hl]
          rcases trySortAt c' (depth + 1) t₂ b.greater.toList with ⟨t₃, e | greater⟩
          · rfl
          · simp

end PartialComparator.Simulates

lemma PartialComparator.recorded_simulates (c : PartialComparator σ α) :
    c.recorded.Simulates Recorded.state id c :=
  fun _ _ _ => rfl

theorem trySortAt_recorded (c : PartialComparator σ α) (depth : Nat)
    (r : Recorded σ α (Option Ordering)) (items : List α) :
    trySortAt c depth r.state items =
      ((trySortAt c.recorded depth r items).1.state, (trySortAt c.recorded depth r items).2) := by
  have h := c.recorded_simulates.trySortAt_eq depth r items
  rwa [List.map_id, List.map_id_fun, Except.map_id] at h

end ThreeBucket
