import ThreeBucket.Proofs.Calls

/-!
# What a partition writes down

A partition asks about every item once, in list order, and each bucket can be read off the
answers.  Nothing is assumed of the comparator, so a bucket is not a filter of the items by a
property of theirs: **it is the sublist of the items whose call got the answer**.

* `itemsAnswered` — the items with a given answer in a record.
* `Buckets.bucket` — the bucket for an answer, and `Buckets.bucket_push`, its law.
* `Buckets.bucket_partition` — the buckets of a partition, read off its calls.
* `map_item_partitionCalls`, `pivot_of_mem_partitionCalls` — who is asked about, and against whom.
* `mem_of_mem_sortCalls` — a sort asks only about its own elements.
-/

namespace ThreeBucket

universe u v w

variable {σ : Type u} {α : Type v} {β : Type w}

/-! ## Answers in a record -/

/-- The items whose call was answered `a`, in the order of the calls. -/
def itemsAnswered [DecidableEq β] (a : β) (calls : List (Call α β)) : List α :=
  (calls.filter fun call => call.answer = a).map Call.item

lemma mem_itemsAnswered [DecidableEq β] {a : β} {calls : List (Call α β)} {item : α} :
    item ∈ itemsAnswered a calls ↔ ∃ call ∈ calls, call.item = item ∧ call.answer = a := by
  simp only [itemsAnswered, List.mem_map, List.mem_filter, decide_eq_true_eq]
  constructor
  · rintro ⟨call, ⟨hcall, hanswer⟩, hitem⟩
    exact ⟨call, hcall, hitem, hanswer⟩
  · rintro ⟨call, hcall, hitem, hanswer⟩
    exact ⟨call, ⟨hcall, hanswer⟩, hitem⟩

lemma itemsAnswered_cons [DecidableEq β] (a : β) (call : Call α β) (calls : List (Call α β)) :
    itemsAnswered a (call :: calls) =
      (if call.answer = a then [call.item] else []) ++ itemsAnswered a calls := by
  by_cases h : call.answer = a <;> simp [itemsAnswered, h]

/-! ## Buckets -/

namespace Buckets

/-- The bucket for an answer. -/
def bucket (b : Buckets α) : Ordering → List α
  | .lt => b.less.toList
  | .eq => b.equal.toList
  | .gt => b.greater.toList

lemma bucket_push (b : Buckets α) (o o' : Ordering) (a : α) :
    (b.push o a).bucket o' = b.bucket o' ++ if o = o' then [a] else [] := by
  cases o <;> cases o' <;> simp [push, bucket]

lemma bucket_partitionOnto (c : Comparator σ α) (pivot : α) (s : σ) (b : Buckets α)
    (items : List α) (o : Ordering) :
    (partitionOnto c pivot s b items).2.bucket o =
      b.bucket o ++ itemsAnswered o (partitionCalls c pivot s items) := by
  induction items generalizing s b with
  | nil => simp [partitionOnto, partitionCalls, itemsAnswered]
  | cons item rest ih =>
      rw [partitionOnto, ih, bucket_push, partitionCalls, itemsAnswered_cons, List.append_assoc]

/-- **A bucket holds the items with its answer**, in list order. -/
theorem bucket_partition (c : Comparator σ α) (s : σ) (pivot : α) (items : List α)
    (o : Ordering) :
    (partition c s pivot items).2.bucket o =
      itemsAnswered o (partitionCalls c pivot s items) := by
  rw [partition, bucket_partitionOnto]
  cases o <;> rfl

end Buckets

/-! ## Calls -/

lemma map_item_partitionCalls (c : Comparator σ α) (pivot : α) (s : σ) (items : List α) :
    (partitionCalls c pivot s items).map Call.item = items := by
  induction items generalizing s with
  | nil => rfl
  | cons item rest ih => rw [partitionCalls, List.map_cons, ih]

lemma pivot_of_mem_partitionCalls {c : Comparator σ α} {pivot : α} {s : σ} {items : List α}
    {call : Call α Ordering} (h : call ∈ partitionCalls c pivot s items) : call.pivot = pivot := by
  induction items generalizing s with
  | nil => simp [partitionCalls] at h
  | cons item rest ih =>
      rcases List.mem_cons.mp h with rfl | h
      · rfl
      · exact ih h

lemma call_mem_of_mem_bucket {c : Comparator σ α} {pivot a : α} {s : σ} {items : List α}
    {o : Ordering} (h : a ∈ (Buckets.partition c s pivot items).2.bucket o) :
    ⟨a, pivot, o⟩ ∈ partitionCalls c pivot s items := by
  rw [Buckets.bucket_partition] at h
  obtain ⟨⟨item, p, answer⟩, hcall, rfl, rfl⟩ := mem_itemsAnswered.mp h
  obtain rfl : p = pivot := pivot_of_mem_partitionCalls hcall
  exact hcall

lemma mem_of_mem_bucket {c : Comparator σ α} {pivot a : α} {s : σ} {items : List α}
    {o : Ordering} (h : a ∈ (Buckets.partition c s pivot items).2.bucket o) : a ∈ items := by
  rw [← map_item_partitionCalls c pivot s items]
  exact List.mem_map.mpr ⟨_, call_mem_of_mem_bucket h, rfl⟩

/-- **A sort asks only about its own elements.** -/
theorem mem_of_mem_sortCalls {c : Comparator σ α} {s : σ} {items : List α}
    {call : Call α Ordering} (h : call ∈ sortCalls c s items) :
    call.item ∈ items ∧ call.pivot ∈ items := by
  induction s, items using sortBy_induction c with
  | nil s => simp at h
  | cons s pivot rest ihl ihg =>
      have hbucket : ∀ o, ∀ a ∈ (Buckets.partition c s pivot rest).2.bucket o, a ∈ pivot :: rest :=
        fun o a ha => List.mem_cons_of_mem pivot (mem_of_mem_bucket ha)
      rw [sortCalls_cons, List.mem_append, List.mem_append] at h
      rcases h with h | h | h
      · have hitem : call.item ∈ (partitionCalls c pivot s rest).map Call.item :=
          List.mem_map_of_mem h
        rw [map_item_partitionCalls] at hitem
        rw [pivot_of_mem_partitionCalls h]
        exact ⟨List.mem_cons_of_mem pivot hitem, List.mem_cons_self⟩
      · exact ⟨hbucket .lt _ (ihl h).1, hbucket .lt _ (ihl h).2⟩
      · exact ⟨hbucket .gt _ (ihg h).1, hbucket .gt _ (ihg h).2⟩

end ThreeBucket
