import Mathlib.Algebra.BigOperators.Intervals
import Mathlib.Algebra.Order.BigOperators.Group.Finset
import Mathlib.Data.Sym.Sym2
import ThreeBucket.Proofs.Certificate
import ThreeBucket.Proofs.Descent

/-!
# Who is compared with whom

Which questions a run asks depends on the answers, but not every set of questions is possible.  A
bucket keeps the order of the list, so a pivot always stands before the items that are put to it.
And once two elements have met, one of them is the pivot, which never comes back.

* `Call.question` — a call without its answer.
* `sublist_of_mem_sortCalls` — **the pivot stands before the item**, in this order a sublist of the
  list.
* `nodup_questions_sortCalls` — no question is asked twice, if the elements can be told apart.
* `questions_trySortCalls_isPrefix` — a fallible run asks what a completion asks, perhaps less.
* `Disciplined`, `FirstRound` — what this means for elements that carry their places: **every two
  places meet at most once**, and the first element meets all others first.
* `sorts_compare_each_pair_once` — all sorts, for every comparator.
-/

namespace ThreeBucket

open scoped List

universe u v w

variable {σ : Type u} {α : Type v} {β : Type w}

/-! ## Questions -/

/-- The item and the pivot of a call. -/
def Call.question (call : Call α β) : α × α :=
  (call.item, call.pivot)

lemma questions_map_answered (calls : List (Call α Ordering)) :
    (calls.map Call.answered).map Call.question = calls.map Call.question := by
  rw [List.map_map]
  rfl

lemma questions_partitionCalls (c : Comparator σ α) (pivot : α) (s : σ) (items : List α) :
    (partitionCalls c pivot s items).map Call.question = items.map fun item => (item, pivot) := by
  induction items generalizing s with
  | nil => rfl
  | cons item rest ih =>
      rw [partitionCalls, List.map_cons, List.map_cons, ih]
      rfl

lemma bucket_partition_sublist (c : Comparator σ α) (s : σ) (pivot : α) (items : List α)
    (o : Ordering) : ((Buckets.partition c s pivot items).2.bucket o).Sublist items := by
  rw [Buckets.bucket_partition, itemsAnswered]
  nth_rewrite 2 [← map_item_partitionCalls c pivot s items]
  exact List.filter_sublist.map Call.item

/-! ## Pivots stand first -/

/-- **The pivot of a call stands before its item.** -/
theorem sublist_of_mem_sortCalls {c : Comparator σ α} {s : σ} {items : List α}
    {call : Call α Ordering} (h : call ∈ sortCalls c s items) :
    [call.pivot, call.item].Sublist items := by
  induction s, items using sortBy_induction c with
  | nil s => simp at h
  | cons s pivot rest ihl ihg =>
      rw [sortCalls_cons, List.mem_append, List.mem_append] at h
      rcases h with h | h | h
      · have hquestion : call.question ∈ rest.map fun item => (item, pivot) := by
          rw [← questions_partitionCalls c pivot s rest]
          exact List.mem_map_of_mem h
        obtain ⟨item, hitem, heq⟩ := List.mem_map.mp hquestion
        obtain ⟨rfl, rfl⟩ := Prod.mk.inj heq
        exact (List.singleton_sublist.mpr hitem).cons_cons _
      · exact ((ihl h).trans (bucket_partition_sublist c s pivot rest .lt)).cons pivot
      · exact ((ihg h).trans (bucket_partition_sublist c s pivot rest .gt)).cons pivot

/-! ## No question is asked twice -/

lemma disjoint_less_greater {c : Comparator σ α} {s : σ} {pivot : α} {items : List α}
    (hnodup : items.Nodup) :
    List.Disjoint (Buckets.partition c s pivot items).2.less.toList
      (Buckets.partition c s pivot items).2.greater.toList := by
  have htoList := (Buckets.perm_partition c s pivot items).nodup_iff.mpr hnodup
  rw [Buckets.toList, List.nodup_append'] at htoList
  exact (List.disjoint_append_right.mp htoList.2.2).2

/-- **A sort asks no question twice.** -/
theorem nodup_questions_sortCalls {c : Comparator σ α} {s : σ} {items : List α}
    (hnodup : items.Nodup) : ((sortCalls c s items).map Call.question).Nodup := by
  induction s, items using sortBy_induction c with
  | nil s => simp
  | cons s pivot rest ihl ihg =>
      obtain ⟨hpivot, hrest⟩ := List.nodup_cons.mp hnodup
      have hless := bucket_partition_sublist c s pivot rest .lt
      have hgreater := bucket_partition_sublist c s pivot rest .gt
      rw [sortCalls_cons, List.map_append, List.map_append, questions_partitionCalls]
      refine List.nodup_append'.mpr ⟨?_, List.nodup_append'.mpr ⟨?_, ?_, ?_⟩, ?_⟩
      · exact hrest.map fun a b hab => congrArg Prod.fst hab
      · exact ihl (hrest.sublist hless)
      · exact ihg (hrest.sublist hgreater)
      · -- Below, the two sides have no item in common.
        intro question hl hg
        obtain ⟨call, hcall, rfl⟩ := List.mem_map.mp hl
        obtain ⟨call', hcall', heq⟩ := List.mem_map.mp hg
        have hitem : call'.item = call.item := congrArg Prod.fst heq
        refine disjoint_less_greater hrest (mem_of_mem_sortCalls hcall).1 ?_
        rw [← hitem]
        exact (mem_of_mem_sortCalls hcall').1
      · -- The pivot of the partition stays behind.
        intro question hpartition hbelow
        obtain ⟨item, -, rfl⟩ := List.mem_map.mp hpartition
        rw [← List.map_append] at hbelow
        obtain ⟨call, hcall, heq⟩ := List.mem_map.mp hbelow
        have hcallPivot : call.pivot = pivot := congrArg Prod.snd heq
        apply hpivot
        rw [← hcallPivot]
        rcases List.mem_append.mp hcall with hcall | hcall
        · exact hless.subset (mem_of_mem_sortCalls hcall).2
        · exact hgreater.subset (mem_of_mem_sortCalls hcall).2

/-! ## Fallible runs -/

lemma CutOf.questions_isPrefix {full : List (Call α Ordering)}
    {calls : List (Call α (Option Ordering))} (h : CutOf full calls) :
    calls.map Call.question <+: full.map Call.question := by
  obtain ⟨before, last, after, rfl, rfl⟩ := h
  refine ⟨after.map Call.question, ?_⟩
  rw [List.map_append, questions_map_answered, List.map_append, List.append_assoc]
  rfl

/-- **A fallible run asks no more than a completion**, and in the same order. -/
theorem questions_trySortCalls_isPrefix (c : PartialComparator σ α) (s : σ) (items : List α) :
    (trySortCalls c s items).map Call.question <+:
      (sortCalls c.completion s items).map Call.question := by
  have hc := c.completedBy_completion
  cases hresult : (trySortBy c s items).2 with
  | error e => exact (hc.cutOf_of_error (Prod.ext rfl hresult)).questions_isPrefix
  | ok sorted =>
      have hcalls : trySortCalls c s items = (sortCalls c.completion s items).map Call.answered :=
        hc.trySortAtCalls_eq (Prod.ext rfl hresult)
      rw [hcalls, questions_map_answered]

/-! ## The first partition -/

lemma questions_sortCalls_cons_isPrefix (c : Comparator σ α) (s : σ) (pivot : α) (rest : List α) :
    rest.map (fun item => (item, pivot)) <+:
      (sortCalls c s (pivot :: rest)).map Call.question := by
  rw [sortCalls_cons, List.map_append, questions_partitionCalls]
  exact List.prefix_append _ _

lemma questions_trySortCalls_cons_isPrefix {c : PartialComparator σ α} {s t : σ} {pivot : α}
    {rest : List α} {b : Buckets α} (h : Buckets.tryPartition c 0 s pivot rest = (t, .ok b)) :
    rest.map (fun item => (item, pivot)) <+:
      (trySortCalls c s (pivot :: rest)).map Call.question := by
  have hpartition := c.completedBy_completion.tryPartitionCalls_eq h
  have hcalls := trySortAtCalls_cons c 0 s pivot rest
  change trySortCalls c s (pivot :: rest) = _ at hcalls
  rw [hcalls, List.map_append, hpartition, questions_map_answered, questions_partitionCalls]
  exact List.prefix_append _ _

/-! ## Places

From here on elements carry their places in the list.
-/

/-- The places of the item and of the pivot. -/
def Call.places (call : Call (α × Nat) β) : Nat × Nat :=
  (call.item.2, call.pivot.2)

/-- The calls of a run on `items` compare later elements with earlier ones, and no two elements
twice. -/
structure Disciplined (items : List α) (calls : List (Call (α × Nat) β)) : Prop where
  /-- Every call is about elements of the list, at the places that they carry. -/
  located : ∀ call ∈ calls,
    items[call.item.2]? = some call.item.1 ∧ items[call.pivot.2]? = some call.pivot.1
  /-- The pivot stands before the item. -/
  forward : ∀ call ∈ calls, call.pivot.2 < call.item.2
  /-- No question is asked twice. -/
  once : (calls.map Call.places).Nodup
  /-- Nor is it asked the other way round. -/
  unordered : (calls.map fun call => s(call.item.2, call.pivot.2)).Nodup
  /-- So there are at most as many calls as there are pairs. -/
  length_le : calls.length ≤ items.length * (items.length - 1) / 2

/-- The first calls put all other elements to the first one, in order. -/
def FirstRound (items : List α) (calls : List (Call (α × Nat) β)) : Prop :=
  (calls.take (items.length - 1)).map Call.places =
    (List.range' 1 (items.length - 1)).map fun place => (place, 0)

lemma map_places (calls : List (Call (α × Nat) β)) :
    calls.map Call.places = (calls.map Call.question).map fun q => (q.1.2, q.2.2) := by
  rw [List.map_map]
  rfl

lemma lt_of_sublist_zipIdx {items : List α} {a b : α × Nat} (h : [a, b].Sublist items.zipIdx) :
    a.2 < b.2 := by
  have hrange := List.pairwise_lt_range' (s := 0) (n := items.length)
  rw [← List.zipIdx_map_snd 0 items, List.pairwise_map] at hrange
  exact List.rel_of_pairwise_cons (hrange.sublist h) List.mem_cons_self

lemma eq_of_mem_zipIdx {items : List α} {a b : α × Nat} (ha : a ∈ items.zipIdx)
    (hb : b ∈ items.zipIdx) (h : a.2 = b.2) : a = b := by
  have ha' := List.mem_zipIdx_iff_getElem?.mp ha
  have hb' := List.mem_zipIdx_iff_getElem?.mp hb
  rw [h, hb', Option.some.injEq] at ha'
  exact Prod.ext ha'.symm h

/-- If the later place is always named first, then a pair that comes up once does not come up the
other way round. -/
lemma nodup_unordered {asked : List (Nat × Nat)} (hnodup : asked.Nodup)
    (hlt : ∀ q ∈ asked, q.2 < q.1) : (asked.map fun q => s(q.1, q.2)).Nodup := by
  refine List.Nodup.map_on (fun q hq q' hq' heq => ?_) hnodup
  have hq := hlt q hq
  have hq' := hlt q' hq'
  rcases Sym2.eq_iff.mp heq with ⟨hitem, hpivot⟩ | ⟨hitem, hpivot⟩
  · exact Prod.ext hitem hpivot
  · omega

/-- There are `n * (n - 1) / 2` ways to choose a place and one before it. -/
lemma length_le_of_forall_lt {n : Nat} {asked : List (Nat × Nat)} (hnodup : asked.Nodup)
    (hlt : ∀ q ∈ asked, q.2 < q.1 ∧ q.1 < n) : asked.length ≤ n * (n - 1) / 2 := by
  have hsubset : asked.toFinset ⊆
      (Finset.range n).biUnion fun j => (Finset.range j).image fun i => (j, i) := by
    rintro ⟨j, i⟩ hq
    obtain ⟨hij, hj⟩ := hlt _ (List.mem_toFinset.mp hq)
    exact Finset.mem_biUnion.mpr
      ⟨j, Finset.mem_range.mpr hj, Finset.mem_image.mpr ⟨i, Finset.mem_range.mpr hij, rfl⟩⟩
  calc asked.length = asked.toFinset.card := (List.toFinset_card_of_nodup hnodup).symm
    _ ≤ _ := Finset.card_le_card hsubset
    _ ≤ ∑ j ∈ Finset.range n, ((Finset.range j).image fun i => (j, i)).card :=
        Finset.card_biUnion_le
    _ ≤ ∑ j ∈ Finset.range n, j :=
        Finset.sum_le_sum fun j _ => Finset.card_image_le.trans_eq (Finset.card_range j)
    _ = n * (n - 1) / 2 := Finset.sum_range_id n

/-- **Discipline is a matter of the questions**, not of the answers. -/
theorem disciplined_of_questions {items : List α} {calls : List (Call (α × Nat) β)}
    (hsublist : ∀ q ∈ calls.map Call.question, [q.2, q.1].Sublist items.zipIdx)
    (hnodup : (calls.map Call.question).Nodup) : Disciplined items calls := by
  have hmem : ∀ q ∈ calls.map Call.question, q.1 ∈ items.zipIdx ∧ q.2 ∈ items.zipIdx := by
    intro q hq
    have hsub := hsublist q hq
    exact ⟨hsub.subset (by simp), hsub.subset (by simp)⟩
  have hlocated : ∀ call ∈ calls,
      items[call.item.2]? = some call.item.1 ∧ items[call.pivot.2]? = some call.pivot.1 := by
    intro call hcall
    obtain ⟨hitem, hpivot⟩ := hmem _ (List.mem_map_of_mem hcall)
    exact ⟨List.mem_zipIdx_iff_getElem?.mp hitem, List.mem_zipIdx_iff_getElem?.mp hpivot⟩
  have hforward : ∀ call ∈ calls, call.pivot.2 < call.item.2 := by
    intro call hcall
    exact lt_of_sublist_zipIdx (hsublist _ (List.mem_map_of_mem hcall))
  have honce : (calls.map Call.places).Nodup := by
    rw [map_places]
    refine List.Nodup.map_on (fun q hq q' hq' heq => ?_) hnodup
    obtain ⟨hitem, hpivot⟩ := Prod.mk.inj heq
    exact Prod.ext (eq_of_mem_zipIdx (hmem q hq).1 (hmem q' hq').1 hitem)
      (eq_of_mem_zipIdx (hmem q hq).2 (hmem q' hq').2 hpivot)
  refine ⟨hlocated, hforward, honce, ?_, ?_⟩
  · have hunordered := nodup_unordered honce (List.forall_mem_map.mpr hforward)
    rwa [List.map_map] at hunordered
  · rw [← List.length_map (f := Call.places)]
    refine length_le_of_forall_lt honce (List.forall_mem_map.mpr fun call hcall => ?_)
    exact ⟨hforward call hcall, (List.getElem?_eq_some_iff.mp (hlocated call hcall).1).1⟩

lemma firstRound_of_isPrefix {pivot : α} {rest : List α} {calls : List (Call (α × Nat) β)}
    (h : (rest.zipIdx 1).map (fun item => (item, (pivot, 0))) <+: calls.map Call.question) :
    FirstRound (pivot :: rest) calls := by
  obtain ⟨later, hlater⟩ := h
  have hplaces : calls.map Call.places =
      (List.range' 1 rest.length).map (fun place => (place, 0)) ++
        later.map fun q => (q.1.2, q.2.2) := by
    rw [map_places, ← hlater, ← List.zipIdx_map_snd 1 rest, List.map_append, List.map_map,
      List.map_map]
    rfl
  rw [FirstRound, List.map_take, hplaces, List.length_cons, Nat.add_sub_cancel,
    List.take_left' (by simp)]

/-! ## All sorts -/

lemma sortBy_zipIdx_recorded (c : Comparator σ α) (s : σ) (items : List α) :
    sortBy c.recorded { state := s } items =
      ((sortBy (c.comap Prod.fst).recorded { state := s } items.zipIdx).1.map Prod.fst id,
        (sortBy (c.comap Prod.fst).recorded { state := s } items.zipIdx).2.map Prod.fst) := by
  rw [← sortBy_comap_recorded, List.zipIdx_map_fst]

lemma disciplined_sortCalls (c : Comparator σ (α × Nat)) (s : σ) (items : List α) :
    Disciplined items (sortCalls c s items.zipIdx) := by
  refine disciplined_of_questions ?_ (nodup_questions_sortCalls (nodup_zipIdx items))
  exact List.forall_mem_map.mpr fun call hcall => sublist_of_mem_sortCalls hcall

lemma disciplined_trySortCalls (c : PartialComparator σ (α × Nat)) (s : σ) (items : List α) :
    Disciplined items (trySortCalls c s items.zipIdx) := by
  have hinitial := questions_trySortCalls_isPrefix c s items.zipIdx
  refine disciplined_of_questions (fun q hq => ?_) ?_
  · obtain ⟨call, hcall, rfl⟩ := List.mem_map.mp (hinitial.subset hq)
    exact sublist_of_mem_sortCalls hcall
  · exact (nodup_questions_sortCalls (nodup_zipIdx items)).sublist hinitial.sublist

lemma firstRound_sortCalls (c : Comparator σ (α × Nat)) (s : σ) (items : List α) :
    FirstRound items (sortCalls c s items.zipIdx) := by
  cases items with
  | nil => simp [FirstRound]
  | cons pivot rest => exact firstRound_of_isPrefix (questions_sortCalls_cons_isPrefix c s _ _)

/-- A fallible run that gets through its first partition has made the first round. -/
lemma firstRound_trySortCalls {c : PartialComparator σ α} {s t : σ} {pivot : α} {rest : List α}
    {b : Buckets α} (h : Buckets.tryPartition c 0 s pivot rest = (t, .ok b)) :
    FirstRound (pivot :: rest) (trySortCalls (c.comap Prod.fst) s (pivot :: rest).zipIdx) := by
  have hsim : (c.comap (Prod.fst : α × Nat → α)).Simulates id Prod.fst c := fun _ _ _ => rfl
  have hpartition := hsim.tryPartition_eq 0 s (pivot, 0) (rest.zipIdx 1)
  rw [List.zipIdx_map_fst, id, h] at hpartition
  rcases hplaces : Buckets.tryPartition (c.comap Prod.fst) 0 s (pivot, 0) (rest.zipIdx 1)
    with ⟨t', e | b'⟩
  · simp [hplaces, Except.map] at hpartition
  · exact firstRound_of_isPrefix (questions_trySortCalls_cons_isPrefix hplaces)

/-- **No two elements are compared twice, whatever the comparator.**  Give every element its place
in the list; the comparator does not see the places, and the run is the plain one, call for call.
In all sorts, failing ones included, each call puts an element to an earlier one, and no two
elements meet twice, so that a list of `n` elements takes at most `n * (n - 1) / 2` calls.  Unless
the run fails in its very first partition, it begins with the calls that put all other elements to
the first one. -/
theorem sorts_compare_each_pair_once (s : σ) (items : List α) :
    (∀ c : Comparator σ α,
      let run := sortBy (c.comap Prod.fst).recorded { state := s } items.zipIdx
      sortBy c.recorded { state := s } items = (run.1.map Prod.fst id, run.2.map Prod.fst) ∧
      Disciplined items run.1.calls.toList ∧ FirstRound items run.1.calls.toList) ∧
    (∀ c : Comparator σ α,
      let run := sortByStack (c.comap Prod.fst).recorded { state := s } items.zipIdx
      sortByStack c.recorded { state := s } items = (run.1.map Prod.fst id, run.2.map Prod.fst) ∧
      Disciplined items run.1.calls.toList ∧ FirstRound items run.1.calls.toList) ∧
    ∀ c : PartialComparator σ α,
      let run := trySortBy (c.comap Prod.fst).recorded { state := s } items.zipIdx
      trySortBy c.recorded { state := s } items =
        (run.1.map Prod.fst id, run.2.map (List.map Prod.fst)) ∧
      Disciplined items run.1.calls.toList ∧
      ∀ pivot rest t b,
        items = pivot :: rest → Buckets.tryPartition c 0 s pivot rest = (t, .ok b) →
          FirstRound items run.1.calls.toList := by
  refine ⟨fun c => ⟨sortBy_zipIdx_recorded c s items, disciplined_sortCalls _ s items,
    firstRound_sortCalls _ s items⟩, fun c => ?_, fun c => ⟨?_, disciplined_trySortCalls _ s items,
    ?_⟩⟩
  · simp only [sortByStack_eq_sortBy]
    exact ⟨sortBy_zipIdx_recorded c s items, disciplined_sortCalls _ s items,
      firstRound_sortCalls _ s items⟩
  · have htry := trySortAt_comap_recorded Prod.fst c 0 s items.zipIdx
    rwa [List.zipIdx_map_fst] at htry
  · rintro pivot rest t b rfl hb
    exact firstRound_trySortCalls hb

/-- A failure one level down comes after the first round. -/
theorem sorts_compare_each_pair_once_nested :
    (∃ t b, Buckets.tryPartition refusing 0 () 0 [2, 1, 3] = (t, .ok b)) ∧
    ∃ run, run = trySortBy (PartialComparator.comap Prod.fst refusing).recorded { state := () }
        [(0, 0), (2, 1), (1, 2), (3, 3)] ∧
      run.2 = .error ⟨1, 2⟩ ∧
      run.1.calls.toList.map Call.places = [(1, 0), (2, 0), (3, 0), (2, 1), (3, 1)] ∧
      Disciplined [0, 2, 1, 3] run.1.calls.toList ∧
      FirstRound [0, 2, 1, 3] run.1.calls.toList := by
  have hmain := (sorts_compare_each_pair_once () [0, 2, 1, 3]).2.2 refusing
  have hpartition : Buckets.tryPartition refusing 0 () 0 [2, 1, 3] =
      ((), .ok { greater := #[2, 1, 3] }) := by
    decide +kernel
  exact ⟨⟨_, _, hpartition⟩, _, rfl, by decide +kernel, by decide +kernel, hmain.2.1,
    hmain.2.2 0 [2, 1, 3] _ _ rfl hpartition⟩

end ThreeBucket
