import Mathlib.Data.Fintype.Prod
import ThreeBucket.Proofs.CallTree
import ThreeBucket.Proofs.Discipline

/-!
# Which pairs are compared

For a total preorder the questions of a sort can be told without running it.  Two elements stay
together as long as every pivot has them on the same side.  The first element of the list that lies
between them, ends included, parts them or is one of them: it is a pivot while both are still in
its sequence.  So **an element meets an earlier one exactly if no element before both lies between
them**.

* `Separates` — an element lies in the closed interval between two others.
* `Unseparated` — along the list, one element comes up as the pivot before anything has separated it
  from the other.
* `unseparated_filter_iff` — going down to a bucket does not change this for its elements.
* `question_mem_sortCalls_iff` — **the questions of a sort are the unseparated pairs**.
* `sortBy_compares_unseparated` — the same in terms of places, and how many such pairs there are.
-/

namespace ThreeBucket

universe u v

variable {σ : Type v} {α : Type u} {f : α → α → Ordering}

/-! ## Elements between elements -/

/-- `x` lies in the closed interval between `a` and `b`, whichever of the two is less. -/
def Separates (f : α → α → Ordering) (x a b : α) : Prop :=
  ((f a x).isLE ∧ (f x b).isLE) ∨ ((f b x).isLE ∧ (f x a).isLE)

instance (f : α → α → Ordering) (x a b : α) : Decidable (Separates f x a b) :=
  inferInstanceAs (Decidable (_ ∨ _))

lemma not_separates_iff [Std.OrientedCmp f] {x a b : α} :
    ¬ Separates f x a b ↔ (f a x = .lt ∧ f b x = .lt) ∨ (f a x = .gt ∧ f b x = .gt) := by
  have hxa : f x a = (f a x).swap := Std.OrientedCmp.eq_swap
  have hxb : f x b = (f b x).swap := Std.OrientedCmp.eq_swap
  rw [Separates, hxa, hxb]
  cases f a x <;> cases f b x <;> decide

/-- An element that goes another way than `a` and `b` does not lie between them. -/
lemma not_separates_of_ne [Std.TransCmp f] {x y a b : α} {o : Ordering} (ho : o ≠ .eq)
    (ha : f a x = o) (hb : f b x = o) (hy : f y x ≠ o) : ¬ Separates f y a b := by
  rw [not_separates_iff]
  cases o with
  | eq => exact absurd rfl ho
  | lt =>
      have hxy : (f x y).isLE := by
        refine Std.OrientedCmp.isLE_of_isGE ?_
        cases hfy : f y x <;> simp_all
      exact .inl ⟨Std.TransCmp.lt_of_lt_of_isLE ha hxy, Std.TransCmp.lt_of_lt_of_isLE hb hxy⟩
  | gt =>
      have hxy : (f x y).isGE := by
        refine Std.OrientedCmp.isGE_of_isLE ?_
        cases hfy : f y x <;> simp_all
      exact .inr ⟨Std.TransCmp.gt_of_gt_of_isGE ha hxy, Std.TransCmp.gt_of_gt_of_isGE hb hxy⟩

/-! ## Pairs that nothing separates -/

/-- Along the list, `pivot` comes up with `item` still to come, and nothing before it separates the
two. -/
def Unseparated (f : α → α → Ordering) : List α → α → α → Prop
  | [], _, _ => False
  | head :: rest, pivot, item =>
    (pivot = head ∧ item ∈ rest) ∨ (¬ Separates f head pivot item ∧ Unseparated f rest pivot item)

lemma Unseparated.mem {items : List α} {pivot item : α} (h : Unseparated f items pivot item) :
    pivot ∈ items ∧ item ∈ items := by
  induction items with
  | nil => exact h.elim
  | cons head rest ih =>
      rcases h with ⟨rfl, hitem⟩ | ⟨-, hrest⟩
      · exact ⟨List.mem_cons_self, List.mem_cons_of_mem _ hitem⟩
      · exact ⟨List.mem_cons_of_mem _ (ih hrest).1, List.mem_cons_of_mem _ (ih hrest).2⟩

/-- **Going down to a bucket keeps its unseparated pairs.**  What goes elsewhere does not separate
two elements of the bucket. -/
theorem unseparated_filter_iff [Std.TransCmp f] {items : List α} {x pivot item : α} {o : Ordering}
    (ho : o ≠ .eq) (hpivot : f pivot x = o) (hitem : f item x = o) :
    Unseparated f (items.filter fun a => f a x == o) pivot item ↔
      Unseparated f items pivot item := by
  induction items with
  | nil => rfl
  | cons head rest ih =>
      by_cases hhead : f head x = o
      · have hmem : item ∈ rest.filter (fun a => f a x == o) ↔ item ∈ rest := by
          simp [List.mem_filter, hitem]
        rw [List.filter_cons_of_pos (by simp [hhead]), Unseparated, Unseparated, ih, hmem]
      · have hne : pivot ≠ head := by
          rintro rfl
          exact hhead hpivot
        have hnot := not_separates_of_ne ho hpivot hitem hhead
        rw [List.filter_cons_of_neg (by simp [hhead]), Unseparated, ih]
        simp [hne, hnot]

/-- A pair that the pivot `x` does not separate goes to the same side of it. -/
lemma unseparated_buckets_iff [Std.TransCmp f] {items : List α} {x pivot item : α} :
    Unseparated f (items.filter fun a => f a x == .lt) pivot item ∨
        Unseparated f (items.filter fun a => f a x == .gt) pivot item ↔
      ¬ Separates f x pivot item ∧ Unseparated f items pivot item := by
  have hside : ∀ {o : Ordering}, Unseparated f (items.filter fun a => f a x == o) pivot item →
      f pivot x = o ∧ f item x = o := by
    intro o h
    obtain ⟨hpivot, hitem⟩ := h.mem
    exact ⟨eq_of_beq (List.mem_filter.mp hpivot).2, eq_of_beq (List.mem_filter.mp hitem).2⟩
  rw [not_separates_iff]
  constructor
  · rintro (h | h)
    · obtain ⟨hpivot, hitem⟩ := hside h
      exact ⟨.inl ⟨hpivot, hitem⟩, (unseparated_filter_iff (by decide) hpivot hitem).mp h⟩
    · obtain ⟨hpivot, hitem⟩ := hside h
      exact ⟨.inr ⟨hpivot, hitem⟩, (unseparated_filter_iff (by decide) hpivot hitem).mp h⟩
  · rintro ⟨⟨hpivot, hitem⟩ | ⟨hpivot, hitem⟩, h⟩
    · exact .inl ((unseparated_filter_iff (by decide) hpivot hitem).mpr h)
    · exact .inr ((unseparated_filter_iff (by decide) hpivot hitem).mpr h)

/-! ## The questions of a sort -/

lemma itemsAnswered_partitionCalls_ofFun (pivot : α) (s : Unit) (items : List α) (o : Ordering) :
    itemsAnswered o (partitionCalls (.ofFun f) pivot s items) =
      items.filter fun a => f a pivot == o := by
  induction items with
  | nil => rfl
  | cons item rest ih =>
      rw [partitionCalls, itemsAnswered_cons, ih]
      by_cases h : f item pivot = o <;> simp [Comparator.ofFun, h]

lemma bucket_partition_ofFun (pivot : α) (s : Unit) (items : List α) (o : Ordering) :
    (Buckets.partition (.ofFun f) s pivot items).2.bucket o =
      items.filter fun a => f a pivot == o := by
  rw [Buckets.bucket_partition, itemsAnswered_partitionCalls_ofFun]

/-- **A sort asks about the pairs that nothing separates**, and about no others. -/
theorem question_mem_sortCalls_iff [Std.TransCmp f] {s : Unit} {items : List α} {item pivot : α} :
    (item, pivot) ∈ (sortCalls (.ofFun f) s items).map Call.question ↔
      Unseparated f items pivot item := by
  induction s, items using sortBy_induction (.ofFun f) with
  | nil s => simp [Unseparated]
  | cons s head rest ihl ihg =>
      have hless : (Buckets.partition (.ofFun f) s head rest).2.less.toList = _ :=
        bucket_partition_ofFun head s rest .lt
      have hgreater : (Buckets.partition (.ofFun f) s head rest).2.greater.toList = _ :=
        bucket_partition_ofFun head s rest .gt
      have hhead : (item, pivot) ∈ rest.map (fun item => (item, head)) ↔
          pivot = head ∧ item ∈ rest := by
        simp only [List.mem_map, Prod.mk.injEq]
        constructor
        · rintro ⟨a, ha, rfl, rfl⟩
          exact ⟨rfl, ha⟩
        · rintro ⟨rfl, hitem⟩
          exact ⟨item, hitem, rfl, rfl⟩
      rw [sortCalls_cons, List.map_append, List.map_append, questions_partitionCalls,
        List.mem_append, List.mem_append, ihl, ihg, hless, hgreater, unseparated_buckets_iff, hhead,
        Unseparated]

/-! ## Places -/

/-- In a list without repetitions, unseparated pairs are found by their places. -/
lemma unseparated_getElem_iff {items : List α} (hnodup : items.Nodup) {i j : Nat}
    (hi : i < items.length) (hj : j < items.length) :
    Unseparated f items items[i] items[j] ↔
      i < j ∧ ∀ k (hk : k < i), ¬ Separates f items[k] items[i] items[j] := by
  induction items generalizing i j with
  | nil => exact absurd hi (Nat.not_lt_zero i)
  | cons head rest ih =>
      obtain ⟨hhead, hrest⟩ := List.nodup_cons.mp hnodup
      rw [Unseparated]
      cases i with
      | zero =>
          have hnot : ∀ item, ¬ Unseparated f rest head item := fun item h => hhead h.mem.1
          cases j with
          | zero => simp [hhead, hnot]
          | succ j => simp
      | succ i =>
          have hi' : i < rest.length := Nat.lt_of_succ_lt_succ hi
          have hne : rest[i] ≠ head := by
            rintro rfl
            exact hhead (List.getElem_mem hi')
          cases j with
          | zero =>
              have hnot : ¬ Unseparated f rest rest[i] head := fun h => hhead h.mem.2
              simp [hne, hnot]
          | succ j =>
              simp only [List.getElem_cons_succ, hne, false_and, false_or, ih hrest,
                Nat.add_lt_add_iff_right]
              constructor
              · rintro ⟨hsep, hij, h⟩
                refine ⟨hij, ?_⟩
                rintro (_ | k) hk
                · exact hsep
                · exact h k (by omega)
              · rintro ⟨hij, h⟩
                exact ⟨h 0 (by omega), hij, fun k hk => h (k + 1) (by omega)⟩

/-- A call is told by its places. -/
lemma Disciplined.exists_places_iff {β : Type v} {items : List α} {calls : List (Call (α × Nat) β)}
    (h : Disciplined items calls) (i j : Fin items.length) :
    (∃ call ∈ calls, call.places = (↑j, ↑i)) ↔
      ((items.get j, ↑j), (items.get i, ↑i)) ∈ calls.map Call.question := by
  have hget : ∀ (place : Fin items.length) (a : α × Nat), items[a.2]? = some a.1 → a.2 = ↑place →
      a = (items.get place, ↑place) := by
    rintro place ⟨a, n⟩ ha rfl
    exact Prod.ext (List.getElem?_eq_some_iff.mp ha).2.symm rfl
  rw [List.mem_map]
  constructor
  · rintro ⟨call, hcall, hplaces⟩
    obtain ⟨hitem, hpivot⟩ := Prod.mk.inj hplaces
    obtain ⟨hlocItem, hlocPivot⟩ := h.located call hcall
    exact ⟨call, hcall, Prod.ext (hget j _ hlocItem hitem) (hget i _ hlocPivot hpivot)⟩
  · rintro ⟨call, hcall, hquestion⟩
    obtain ⟨hitem, hpivot⟩ := Prod.mk.inj hquestion
    exact ⟨call, hcall, by rw [Call.places, hitem, hpivot]⟩

lemma transCmp_fst (f : α → α → Ordering) [Std.TransCmp f] :
    Std.TransCmp fun a b : α × Nat => f a.1 b.1 where
  eq_swap := Std.OrientedCmp.eq_swap
  isLE_trans := Std.TransCmp.isLE_trans

/-- **Which places meet.** -/
theorem exists_call_places_iff [Std.TransCmp f] (items : List α) (i j : Fin items.length) :
    (∃ call ∈ sortCalls ((Comparator.ofFun f).comap Prod.fst) () items.zipIdx,
        call.places = (↑j, ↑i)) ↔
      i < j ∧ ∀ k < i, ¬ Separates f (items.get k) (items.get i) (items.get j) := by
  have htrans := transCmp_fst f
  have hget := unseparated_getElem_iff (f := fun a b : α × Nat => f a.1 b.1) (nodup_zipIdx items)
    (i := i) (j := j) (by simp) (by simp)
  simp only [List.getElem_zipIdx, Nat.zero_add] at hget
  rw [(disciplined_sortCalls _ () items).exists_places_iff i j]
  refine question_mem_sortCalls_iff.trans (hget.trans (and_congr_right fun _ => ?_))
  exact ⟨fun h k hk => h k hk, fun h k hk => h ⟨k, by omega⟩ hk⟩

/-! ## The number of comparisons -/

/-- The pairs of places, earlier first, that no element before both separates. -/
def unseparatedPlaces (f : α → α → Ordering) (items : List α) :
    Finset (Fin items.length × Fin items.length) :=
  Finset.univ.filter fun q =>
    q.1 < q.2 ∧ ∀ k < q.1, ¬ Separates f (items.get k) (items.get q.1) (items.get q.2)

lemma length_sortCalls_zipIdx (c : Comparator σ α) (s : σ) (items : List α) :
    (sortCalls (c.comap Prod.fst) s items.zipIdx).length = (sortCalls c s items).length := by
  rw [sortCalls, sortCalls, sortBy_zipIdx_recorded c s items]
  simp [Recorded.map]

/-- **The pairs of places that a sort asks about.** -/
theorem toFinset_places_sortCalls [Std.TransCmp f] (items : List α) :
    ((sortCalls ((Comparator.ofFun f).comap Prod.fst) () items.zipIdx).map
      Call.places).toFinset =
      (unseparatedPlaces f items).image fun q => ((q.2 : Nat), (q.1 : Nat)) := by
  have hdisciplined := disciplined_sortCalls ((Comparator.ofFun f).comap Prod.fst) () items
  ext ⟨j, i⟩
  rw [List.mem_toFinset, List.mem_map, Finset.mem_image]
  constructor
  · rintro ⟨call, hcall, hplaces⟩
    obtain ⟨hitem, hpivot⟩ := Prod.mk.inj hplaces
    obtain ⟨hlocItem, hlocPivot⟩ := hdisciplined.located call hcall
    rw [hitem] at hlocItem
    rw [hpivot] at hlocPivot
    have hj := (List.getElem?_eq_some_iff.mp hlocItem).1
    have hi := (List.getElem?_eq_some_iff.mp hlocPivot).1
    refine ⟨(⟨i, hi⟩, ⟨j, hj⟩), Finset.mem_filter.mpr ⟨Finset.mem_univ _, ?_⟩, rfl⟩
    exact (exists_call_places_iff items ⟨i, hi⟩ ⟨j, hj⟩).mp ⟨call, hcall, hplaces⟩
  · rintro ⟨q, hq, hplaces⟩
    rw [← hplaces]
    exact (exists_call_places_iff items q.1 q.2).mpr (Finset.mem_filter.mp hq).2

/-- **A sort makes as many calls as there are unseparated pairs of places**, since it asks no
question twice. -/
theorem length_sortCalls_eq_card [Std.TransCmp f] (items : List α) :
    (sortCalls (.ofFun f) () items).length = (unseparatedPlaces f items).card := by
  have honce := (disciplined_sortCalls ((Comparator.ofFun f).comap Prod.fst) () items).once
  have hinjective : Function.Injective fun q : Fin items.length × Fin items.length =>
      ((q.2 : Nat), (q.1 : Nat)) := by
    intro q q' heq
    obtain ⟨hitem, hpivot⟩ := Prod.mk.inj heq
    exact Prod.ext (Fin.ext hpivot) (Fin.ext hitem)
  rw [← length_sortCalls_zipIdx, ← List.length_map (f := Call.places),
    ← List.toFinset_card_of_nodup honce, toFinset_places_sortCalls,
    Finset.card_image_of_injective _ hinjective]

/-- **Which elements a sort compares, told without the sort.**  Give every element its place in the
list; the run stays the plain one.  For a total preorder, the element at `j` is put to the one at
`i` exactly if `i` comes first and no element before `i` lies in the closed interval between the
two.  Not to lie there is to have both of them below or both above.  So the comparisons that the
profile of a sort counts are as many as there are such pairs. -/
theorem sortBy_compares_unseparated (items : List α) :
    (∀ (f : α → α → Ordering) [Std.TransCmp f],
      let run := sortBy ((Comparator.ofFun f).comap Prod.fst).recorded { state := () } items.zipIdx
      sortBy (Comparator.ofFun f).recorded { state := () } items =
        (run.1.map Prod.fst id, run.2.map Prod.fst) ∧
      (∀ i j : Fin items.length,
        (∃ call ∈ run.1.calls.toList, call.places = (↑j, ↑i)) ↔
          i < j ∧ ∀ k < i, ¬ Separates f (items.get k) (items.get i) (items.get j)) ∧
      ∀ x a b, ¬ Separates f x a b ↔
        (f a x = .lt ∧ f b x = .lt) ∨ (f a x = .gt ∧ f b x = .gt)) ∧
    ∀ [Ord α] [Std.TransOrd α],
      (sortProfiled items).1.comparisons = (unseparatedPlaces compare items).card := by
  refine ⟨fun f _ => ⟨sortBy_zipIdx_recorded _ () items, exists_call_places_iff items,
    fun x a b => not_separates_iff⟩, fun {_ _} => ?_⟩
  rw [sortProfiled_eq]
  exact length_sortCalls_eq_card (f := compare) items

/-- The first 3 parts 1 from 5 but not from 2, and has the other 3 for its equal. -/
theorem sortBy_compares_unseparated_duplicates :
    (∃ run, run = sortBy ((Comparator.ofFun (compare (α := Nat))).comap Prod.fst).recorded
        { state := () } [(3, 0), (1, 1), (3, 2), (5, 3), (2, 4)] ∧
      (∃ call ∈ run.1.calls.toList, call.places = (4, 1)) ∧
      ¬ ∃ call ∈ run.1.calls.toList, call.places = (3, 1)) ∧
    (sortProfiled [3, 1, 3, 5, 2]).1.comparisons = 5 := by
  have hmain := sortBy_compares_unseparated [3, 1, 3, 5, 2]
  have hcalls := (hmain.1 (compare (α := Nat))).2.1
  refine ⟨⟨_, rfl, (hcalls 1 4).mpr (by decide), ?_⟩, hmain.2.trans (by decide)⟩
  exact fun h => absurd ((hcalls 1 3).mp h) (by decide)

end ThreeBucket
