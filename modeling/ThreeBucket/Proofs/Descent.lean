import ThreeBucket.Proofs.FirstMissing

/-!
# Where a sort fails

An error names a depth and a place.  Both can be read back off the record of the run: going down
from the list, `depth` times from a sequence to the bucket of its lesser or greater items, one
comes to the sequence that was being partitioned, and there the element at the place got no answer.

* `AllAnswered` — a stretch of a record in which all items were put to the pivot and got an answer.
* `Descent` — the way down, along the record: **the buckets are those of the answers given in this
  very run**.  `Descent.add_length_le` says that each level costs an element.
* `StopsAt` — a record that ends with an item left without an answer.
* `exists_descent_of_error` — every error of the fallible sort comes from such a place.
* `trySortBy_error_names_pair` — the same for the whole sort, with the places spelled out.
-/

namespace ThreeBucket

universe u v

variable {σ : Type u} {α : Type v}

/-! ## Stretches of a record -/

/-- The calls put the items to the pivot one by one, and each gets an answer. -/
structure AllAnswered (pivot : α) (items : List α) (calls : List (Call α (Option Ordering))) :
    Prop where
  items_eq : calls.map Call.item = items
  pivot_eq : ∀ call ∈ calls, call.pivot = pivot
  isSome : ∀ call ∈ calls, call.answer.isSome

lemma AllAnswered.length_itemsAnswered_le {pivot : α} {items : List α}
    {calls : List (Call α (Option Ordering))} (h : AllAnswered pivot items calls)
    (answer : Option Ordering) : (itemsAnswered answer calls).length ≤ items.length := by
  rw [← h.items_eq, itemsAnswered, List.length_map, List.length_map]
  exact List.length_filter_le _ _

/-- The calls put the items after the first one to the first one, and end at `position` with an
item that gets no answer. -/
def StopsAt (items : List α) (position : Nat) (calls : List (Call α (Option Ordering))) : Prop :=
  ∃ pivot front item back asked, items = pivot :: (front ++ item :: back) ∧
    position = front.length + 1 ∧ AllAnswered pivot front asked ∧
    calls = asked ++ [⟨item, pivot, none⟩]

lemma allAnswered_of_isPrefix {c : Comparator σ α} {pivot : α} {s : σ} {items : List α}
    {calls : List (Call α Ordering)} (h : calls <+: partitionCalls c pivot s items) :
    AllAnswered pivot (calls.map Call.item) (calls.map Call.answered) where
  items_eq := by
    rw [List.map_map]
    rfl
  pivot_eq := by
    intro call hcall
    obtain ⟨asked, hasked, rfl⟩ := List.mem_map.mp hcall
    exact pivot_of_mem_partitionCalls (h.subset hasked)
  isSome := by
    intro call hcall
    exact Option.isSome_iff_ne_none.mpr (answer_ne_none hcall)

/-! ## One partition -/

/-- What a partition that succeeds writes down, and how its buckets are read off it. -/
lemma allAnswered_of_tryPartition {c : PartialComparator σ α} {depth : Nat} {s t : σ} {pivot : α}
    {items : List α} {b : Buckets α}
    (h : Buckets.tryPartition c depth s pivot items = (t, .ok b)) :
    AllAnswered pivot items (tryPartitionCalls c pivot s items) ∧
      ∀ o, b.bucket o = itemsAnswered (some o) (tryPartitionCalls c pivot s items) := by
  have hc := c.completedBy_completion
  have hcalls := hc.tryPartitionCalls_eq h
  constructor
  · have hall := allAnswered_of_isPrefix
      (List.prefix_refl (partitionCalls c.completion pivot s items))
    rwa [map_item_partitionCalls, ← hcalls] at hall
  · intro o
    have hbucket := Buckets.bucket_partition c.completion s pivot items o
    rwa [hc.partition_eq h, ← itemsAnswered_map_answered, ← hcalls] at hbucket

/-- A partition that fails stops at the place that its error names. -/
lemma stopsAt_of_tryPartition {c : PartialComparator σ α} {depth : Nat} {s t : σ} {pivot : α}
    {items : List α} {e : Incomparable}
    (h : Buckets.tryPartition c depth s pivot items = (t, .error e)) :
    e.depth = depth ∧ StopsAt (pivot :: items) e.position (tryPartitionCalls c pivot s items) := by
  obtain ⟨before, last, after, hfull, hcut, rfl⟩ :=
    c.completedBy_completion.exists_cut_of_tryPartitionOnto h
  have hitems := map_item_partitionCalls c.completion pivot s items
  rw [hfull, List.map_append, List.map_cons] at hitems
  have hmem : last ∈ partitionCalls c.completion pivot s items := by simp [hfull]
  have hlast : last.pivot = pivot := pivot_of_mem_partitionCalls hmem
  refine ⟨rfl, pivot, before.map Call.item, last.item, after.map Call.item, _, by rw [hitems], ?_,
    allAnswered_of_isPrefix ⟨last :: after, hfull.symm⟩, ?_⟩
  · rw [List.length_map, Nat.add_comm]
  · rw [hcut, ← hlast]
    rfl

/-! ## The way down -/

/-- **The way down to a sequence.**  A sort of the first list with the first record comes, so many
partitions deeper, to the second list, where the second record is still to be written. -/
inductive Descent : List α → List (Call α (Option Ordering)) → Nat → List α →
    List (Call α (Option Ordering)) → Prop
  | here (items : List α) (calls : List (Call α (Option Ordering))) :
      Descent items calls 0 items calls
  -- The lesser items are sorted right after the partition.
  | less {pivot : α} {rest items' : List α} {depth : Nat}
      {partition later calls' : List (Call α (Option Ordering))}
      (answered : AllAnswered pivot rest partition)
      (below : Descent (itemsAnswered (some .lt) partition) later depth items' calls') :
      Descent (pivot :: rest) (partition ++ later) (depth + 1) items' calls'
  -- The greater items have to wait until the lesser ones are sorted.
  | greater {pivot : α} {rest items' : List α} {depth : Nat}
      {partition between later calls' : List (Call α (Option Ordering))}
      (answered : AllAnswered pivot rest partition)
      (inLess : ∀ call ∈ between, call.item ∈ itemsAnswered (some .lt) partition ∧
        call.pivot ∈ itemsAnswered (some .lt) partition)
      (below : Descent (itemsAnswered (some .gt) partition) later depth items' calls') :
      Descent (pivot :: rest) (partition ++ (between ++ later)) (depth + 1) items' calls'

namespace Descent

variable {items items' : List α} {calls calls' : List (Call α (Option Ordering))} {depth : Nat}

lemma isSuffix (h : Descent items calls depth items' calls') : calls' <:+ calls := by
  induction h with
  | here items calls => exact List.suffix_refl calls
  | less answered below ih => exact ih.trans (List.suffix_append _ _)
  | greater answered inLess below ih =>
      exact (ih.trans (List.suffix_append _ _)).trans (List.suffix_append _ _)

/-- **Each level costs an element**, its pivot. -/
lemma add_length_le (h : Descent items calls depth items' calls') :
    depth + items'.length ≤ items.length := by
  induction h with
  | here items calls => simp
  | less answered below ih | greater answered inLess below ih =>
      have hbucket := Nat.le_trans ih (answered.length_itemsAnswered_le _)
      rw [List.length_cons]
      omega

end Descent

/-! ## Every error -/

/-- **Every error is at the end of a way down**, as deep as it says and at the place it says. -/
theorem exists_descent_of_error {c : PartialComparator σ α} {depth : Nat} {s t : σ}
    {items : List α} {e : Incomparable} (h : trySortAt c depth s items = (t, .error e)) :
    ∃ below sequence last, e.depth = depth + below ∧
      Descent items (trySortAtCalls c depth s items) below sequence last ∧
      StopsAt sequence e.position last := by
  induction depth, s, items using trySortAt_induction c generalizing t e with
  | nil depth s => simp at h
  | cons depth s pivot rest ihl ihg =>
      rw [trySortAtCalls_cons]
      rcases trySortAt_cons_eq_error_iff.mp h with hb | ⟨s₁, b, hb, hl | ⟨s₂, less, hl, hg⟩⟩
      · obtain ⟨hdepth, hstop⟩ := stopsAt_of_tryPartition hb
        rw [hb, List.append_nil]
        exact ⟨0, _, _, hdepth, .here _ _, hstop⟩
      · obtain ⟨hall, hbucket⟩ := allAnswered_of_tryPartition hb
        obtain ⟨below, sequence, last, hdepth, hdescent, hstop⟩ := ihl s₁ b hb hl
        refine ⟨below + 1, sequence, last, by omega, ?_, hstop⟩
        simp only [hb, hl, List.append_nil]
        refine .less hall ?_
        rw [← hbucket .lt]
        exact hdescent
      · obtain ⟨hall, hbucket⟩ := allAnswered_of_tryPartition hb
        obtain ⟨below, sequence, last, hdepth, hdescent, hstop⟩ := ihg s₁ b s₂ less hb hl hg
        refine ⟨below + 1, sequence, last, by omega, ?_, hstop⟩
        simp only [hb, hl]
        refine .greater hall (fun call hcall => ?_) ?_
        · -- The lesser items were sorted without a failure, as by a completion.
          rw [c.completedBy_completion.trySortAtCalls_eq hl] at hcall
          obtain ⟨asked, hasked, rfl⟩ := List.mem_map.mp hcall
          rw [← hbucket .lt]
          exact mem_of_mem_sortCalls hasked
        · rw [← hbucket .gt]
          exact hdescent

/-- **An error names the pair without an ordering.**  There is a way down from the list, as many
buckets deep as the error says, to a sequence in which the error's place is neither the first nor
beyond the end.  The last call of the run compared the element at that place with the first one
and got no answer.  Just before it, the elements between the two were compared with the first one,
in order, and were answered.  So depth and place together stay below the length of the list. -/
theorem trySortBy_error_names_pair {c : PartialComparator σ α} {s : σ} {items : List α}
    {e : Incomparable} (h : (trySortBy c s items).2 = .error e) :
    ∃ sequence pivot item earlier asked,
      Descent items (trySortCalls c s items) e.depth sequence (asked ++ [⟨item, pivot, none⟩]) ∧
      (1 ≤ e.position ∧ e.position < sequence.length) ∧
      sequence[0]? = some pivot ∧ sequence[e.position]? = some item ∧
      trySortCalls c s items = earlier ++ asked ++ [⟨item, pivot, none⟩] ∧
      AllAnswered pivot ((sequence.take e.position).drop 1) asked ∧
      e.depth + e.position < items.length := by
  obtain ⟨below, sequence, last, hdepth, hdescent, hstop⟩ :=
    exists_descent_of_error (Prod.ext rfl h : trySortAt c 0 s items = (_, .error e))
  obtain rfl : e.depth = below := by omega
  obtain ⟨pivot, front, item, back, asked, rfl, hposition, hall, rfl⟩ := hstop
  obtain ⟨earlier, hearlier⟩ := hdescent.isSuffix
  have hlength := hdescent.add_length_le
  refine ⟨_, pivot, item, earlier, asked, hdescent, ?_, rfl, ?_, ?_, ?_, ?_⟩
  · simp only [List.length_cons, List.length_append]
    omega
  · simp [hposition]
  · rw [List.append_assoc]
    exact hearlier.symm
  · simpa [hposition] using hall
  · simp only [List.length_cons, List.length_append] at hlength
    omega

/-- The order of numbers, in which 3 has no ordering against 2. -/
def refusing : PartialComparator Unit Nat :=
  .ofFun fun item pivot => if item = 3 ∧ pivot = 2 then none else some (compare item pivot)

/-- One level down, in the greater items 2, 1, 3, the last one fails. -/
theorem trySortBy_error_names_pair_nested :
    (trySortBy refusing () [0, 2, 1, 3]).2 = .error ⟨1, 2⟩ ∧
    ∃ sequence pivot item earlier asked,
      Descent [0, 2, 1, 3] (trySortCalls refusing () [0, 2, 1, 3]) 1 sequence
        (asked ++ [⟨item, pivot, none⟩]) ∧
      sequence[0]? = some pivot ∧ sequence[2]? = some item ∧
      trySortCalls refusing () [0, 2, 1, 3] = earlier ++ asked ++ [⟨item, pivot, none⟩] ∧
      AllAnswered pivot ((sequence.take 2).drop 1) asked := by
  have herror : (trySortBy refusing () [0, 2, 1, 3]).2 = .error ⟨1, 2⟩ := by decide +kernel
  obtain ⟨sequence, pivot, item, earlier, asked, hdescent, -, hpivot, hitem, hcalls, hall, -⟩ :=
    trySortBy_error_names_pair herror
  exact ⟨herror, sequence, pivot, item, earlier, asked, hdescent, hpivot, hitem, hcalls, hall⟩

end ThreeBucket
