import ThreeBucket.Proofs.Descent

/-!
# The buckets are the answers

A partition decides nothing itself.  It puts the items to the pivot one after the other, and what it
gives back can be read off the answers: a bucket is the part of the list, in its order, that got the
answer, **and the k-th item goes by the k-th answer**, whatever the comparator remembers.  The
fallible partition does the same as long as it is answered, and at the first missing answer it names
the place of the item.

* `Buckets.pushAll` — the buckets after a sequence of pushes, and `Buckets.bucket_foldl_push`,
  `Buckets.size_foldl_push`, what they hold.
* `partition_recorded`, `tryPartition_recorded` — a recorded partition is the plain one, and leaves
  its calls.
* `partition_keeps_answers` — both partitions and the pushes.
-/

namespace ThreeBucket

universe u v

variable {σ : Type u} {α : Type v}

/-! ## Pushes -/

namespace Buckets

/-- The buckets after a sequence of pushes. -/
def pushAll (pushes : List (Ordering × α)) : Buckets α :=
  pushes.foldl (fun b p => b.push p.1 p.2) {}

/-- **Pushes go to the bucket of their ordering**, behind what it held. -/
lemma bucket_foldl_push (b : Buckets α) (pushes : List (Ordering × α)) (o : Ordering) :
    (pushes.foldl (fun b p => b.push p.1 p.2) b).bucket o =
      b.bucket o ++ (pushes.filter fun p => p.1 = o).map Prod.snd := by
  induction pushes generalizing b with
  | nil => simp
  | cons p pushes ih =>
      rw [List.foldl_cons, ih, bucket_push, List.append_assoc]
      by_cases h : p.1 = o <;> simp [h]

lemma size_foldl_push (b : Buckets α) (pushes : List (Ordering × α)) :
    (pushes.foldl (fun b p => b.push p.1 p.2) b).size = b.size + pushes.length := by
  induction pushes generalizing b with
  | nil => rfl
  | cons p pushes ih =>
      rw [List.foldl_cons, ih, size_push, List.length_cons]
      omega

lemma isEmpty_iff {b : Buckets α} : b.isEmpty = true ↔ b.size = 0 :=
  beq_iff_eq

end Buckets

/-! ## Recorded partitions -/

lemma partition_recorded (c : Comparator σ α) (s : σ) (pivot : α) (items : List α) :
    Buckets.partition c.recorded { state := s } pivot items =
      ({ state := (Buckets.partition c s pivot items).1
         calls := (partitionCalls c pivot s items).toArray },
        (Buckets.partition c s pivot items).2) := by
  rw [Buckets.partition, partitionOnto_recorded, Buckets.partition]
  simp

lemma tryPartition_recorded (c : PartialComparator σ α) (depth : Nat) (s : σ) (pivot : α)
    (items : List α) :
    Buckets.tryPartition c.recorded depth { state := s } pivot items =
      ({ state := (Buckets.tryPartition c depth s pivot items).1
         calls := (tryPartitionCalls c pivot s items).toArray },
        (Buckets.tryPartition c depth s pivot items).2) := by
  rw [Buckets.tryPartition, tryPartitionOnto_recorded, Buckets.tryPartition]
  simp

/-- A partition that is always answered succeeds. -/
lemma exists_tryPartition_eq_ok {c : PartialComparator σ α} (depth : Nat) {s : σ} {pivot : α}
    {items : List α} (h : ∀ call ∈ tryPartitionCalls c pivot s items, call.answer.isSome) :
    ∃ t b, Buckets.tryPartition c depth s pivot items = (t, .ok b) := by
  rcases hrun : Buckets.tryPartition c depth s pivot items with ⟨t, e | b⟩
  · obtain ⟨-, pivot', -, item, -, asked, -, -, -, hcalls⟩ := stopsAt_of_tryPartition hrun
    have hlast := h ⟨item, pivot', none⟩ (by rw [hcalls]; simp)
    cases hlast
  · exact ⟨t, b, rfl⟩

/-- A partition that is not always answered fails, at the place of the first item without an
answer. -/
lemma exists_tryPartition_eq_error {c : PartialComparator σ α} (depth : Nat) {s : σ} {pivot : α}
    {items : List α} (h : ¬ ∀ call ∈ tryPartitionCalls c pivot s items, call.answer.isSome) :
    ∃ t front item back asked, items = front ++ item :: back ∧ AllAnswered pivot front asked ∧
      tryPartitionCalls c pivot s items = asked ++ [⟨item, pivot, none⟩] ∧
      Buckets.tryPartition c depth s pivot items =
        (t, .error { depth, position := front.length + 1 }) := by
  rcases hrun : Buckets.tryPartition c depth s pivot items with ⟨t, e | b⟩
  · obtain ⟨rfl, _, front, item, back, asked, hitems, hposition, hall, hcalls⟩ :=
      stopsAt_of_tryPartition hrun
    obtain ⟨rfl, rfl⟩ := List.cons.inj hitems
    exact ⟨t, front, item, back, asked, rfl, hall, hcalls, by rw [← hposition]⟩
  · exact absurd (allAnswered_of_tryPartition hrun).1.isSome h

/-! ## All of it -/

/-- **Partitioning keeps the answers.**  A partition asks about each item once, in list order and
against the pivot, and each bucket holds the items with its answer, in list order.  So the buckets
together are as long as the list, and empty only if it is.  A fallible partition that is always
answered gives the buckets of these answers, and they are those of every completion of its
comparator.  Any other ends with the first item that gets no answer, and names its place, counted
from one.  Pushes, however many, fill the buckets by the same law. -/
theorem partition_keeps_answers (s : σ) (pivot : α) (items : List α) :
    (∀ c : Comparator σ α,
      let run := Buckets.partition c.recorded { state := s } pivot items
      let calls := run.1.calls.toList
      (run.1.state, run.2) = Buckets.partition c s pivot items ∧
      calls = partitionCalls c pivot s items ∧
      calls.map Call.item = items ∧
      (∀ call ∈ calls, call.pivot = pivot) ∧
      (∀ o, run.2.bucket o = itemsAnswered o calls) ∧
      run.2.size = items.length ∧
      (run.2.isEmpty = true ↔ items = [])) ∧
    (∀ (c : PartialComparator σ α) (depth : Nat),
      let run := Buckets.tryPartition c.recorded depth { state := s } pivot items
      let calls := run.1.calls.toList
      (run.1.state, run.2) = Buckets.tryPartition c depth s pivot items ∧
      calls = tryPartitionCalls c pivot s items ∧
      ((∀ call ∈ calls, call.answer.isSome) →
        calls.map Call.item = items ∧ (∀ call ∈ calls, call.pivot = pivot) ∧
        ∃ b, run.2 = .ok b ∧ (∀ o, b.bucket o = itemsAnswered (some o) calls) ∧
          ∀ c', c.CompletedBy c' → Buckets.partition c' s pivot items = (run.1.state, b)) ∧
      ((¬ ∀ call ∈ calls, call.answer.isSome) →
        ∃ front item back asked, items = front ++ item :: back ∧ AllAnswered pivot front asked ∧
          calls = asked ++ [⟨item, pivot, none⟩] ∧
          run.2 = .error { depth, position := front.length + 1 })) ∧
    ∀ pushes : List (Ordering × α),
      (∀ o, (Buckets.pushAll pushes).bucket o =
        (pushes.filter fun p => p.1 = o).map Prod.snd) ∧
      (Buckets.pushAll pushes).size = pushes.length ∧
      ((Buckets.pushAll pushes).isEmpty = true ↔ pushes = []) := by
  refine ⟨fun c => ?_, fun c depth => ?_, fun pushes => ?_⟩
  · rw [partition_recorded]
    refine ⟨rfl, rfl, map_item_partitionCalls c pivot s items,
      fun call hcall => pivot_of_mem_partitionCalls hcall,
      Buckets.bucket_partition c s pivot items, Buckets.size_partition c s pivot items, ?_⟩
    rw [Buckets.isEmpty_iff, Buckets.size_partition, List.length_eq_zero_iff]
  · rw [tryPartition_recorded]
    refine ⟨rfl, rfl, fun hall => ?_, fun hmissing => ?_⟩
    · obtain ⟨t, b, hrun⟩ := exists_tryPartition_eq_ok depth hall
      obtain ⟨hanswered, hbucket⟩ := allAnswered_of_tryPartition hrun
      refine ⟨hanswered.items_eq, hanswered.pivot_eq, b, by rw [hrun], hbucket, fun c' hc => ?_⟩
      rw [hrun]
      exact hc.partition_eq hrun
    · obtain ⟨t, front, item, back, asked, hitems, hall, hcalls, hrun⟩ :=
        exists_tryPartition_eq_error depth hmissing
      exact ⟨front, item, back, asked, hitems, hall, hcalls, by rw [hrun]⟩
  · have hsize : (Buckets.pushAll pushes).size = pushes.length := by
      rw [Buckets.pushAll, Buckets.size_foldl_push, Buckets.size_empty, Nat.zero_add]
    refine ⟨fun o => ?_, hsize, ?_⟩
    · rw [Buckets.pushAll, Buckets.bucket_foldl_push]
      cases o <;> rfl
    · rw [Buckets.isEmpty_iff, hsize, List.length_eq_zero_iff]

/-- Four answers suffice for four items.  With three the last item is left without one. -/
theorem partition_keeps_answers_tiring :
    (∃ b, (Buckets.tryPartition (tiring 4).recorded 7 { state := 0 } 3 [4, 1, 3, 5]).2 = .ok b ∧
      Buckets.partition tireless 0 3 [4, 1, 3, 5] = (4, b) ∧ b.greater = #[4, 5]) ∧
    (∃ front item back asked, [4, 1, 3, 5] = front ++ item :: back ∧ AllAnswered 3 front asked ∧
      (Buckets.tryPartition (tiring 3).recorded 7 { state := 0 } 3 [4, 1, 3, 5]).1.calls.toList =
        asked ++ [⟨item, 3, none⟩] ∧
      (Buckets.tryPartition (tiring 3).recorded 7 { state := 0 } 3 [4, 1, 3, 5]).2 =
        .error { depth := 7, position := front.length + 1 }) ∧
    (Buckets.tryPartition (tiring 3) 7 0 3 [4, 1, 3, 5]).2 = .error { depth := 7, position := 4 } := by
  have hpartial := (partition_keeps_answers 0 3 [4, 1, 3, 5]).2.1
  refine ⟨?_, (hpartial (tiring 3) 7).2.2.2 (by decide +kernel), by decide +kernel⟩
  obtain ⟨-, -, b, hb, -, hcompleted⟩ := (hpartial (tiring 4) 7).2.2.1 (by decide +kernel)
  have hrun := hcompleted tireless (tiring_completedBy_tireless 4)
  have hplain : Buckets.partition tireless 0 3 [4, 1, 3, 5] = (4, ⟨#[1], #[3], #[4, 5]⟩) := by
    decide +kernel
  obtain rfl : _ = b := congrArg Prod.snd (hplain.symm.trans hrun)
  exact ⟨_, hb, hplain, rfl⟩

end ThreeBucket
