import Mathlib.Data.List.Chain
import Mathlib.Data.List.Nodup
import ThreeBucket.Proofs.FirstMissing
import ThreeBucket.Proofs.WorkStack

/-!
# What the answers of a run vouch for

A comparator that contradicts itself has no order to sort by.  Even so, the answers that it gave
during the run stand behind the result: for every two elements of it there is an element, the pivot
at which they went different ways, that was found not below the one and not above the other.

* `CertifiedBy` — the answers given vouch for a list.
* `pairwise_between_join`, `isChain_join` — the argument at one pivot.
* `certifiedBy_sortBy` — a sort of distinct elements is certified by its calls.
* `sorts_certified_by_calls` — all sorts, on elements told apart by their places.  **Without ties
  the result is a path**: each element was compared with the next, although the comparator may run
  in circles.
-/

namespace ThreeBucket

open scoped List

universe u v

variable {σ : Type u} {α : Type v}

/-! ## Certificates

Below, `made x p o` says that the run compared `x` with `p` and got the answer `o`.
-/

/-- `x` is `p`, or was found less than or equal to it. -/
def NotAbove (made : α → α → Ordering → Prop) (x p : α) : Prop :=
  x = p ∨ ∃ o, made x p o ∧ o.isLE

/-- `y` is `p`, or was found greater than or equal to it. -/
def NotBelow (made : α → α → Ordering → Prop) (y p : α) : Prop :=
  y = p ∨ ∃ o, made y p o ∧ o.isGE

/-- Some element is not below `x` and not above `y`. -/
def Between (made : α → α → Ordering → Prop) (x y : α) : Prop :=
  ∃ p, NotAbove made x p ∧ NotBelow made y p

/-- The answers vouch for the order of a list. -/
structure CertifiedBy (made : α → α → Ordering → Prop) (sorted : List α) : Prop where
  /-- Between any two elements stands a third, or one of the two. -/
  between : sorted.Pairwise fun x y =>
    ∃ p, NotAbove made x p ∧ NotBelow made y p ∧ ¬ (x = p ∧ y = p)
  /-- If there are no ties, neighbours were compared with each other. -/
  path : (∀ x p, ¬ made x p .eq) → sorted.IsChain fun x y => made x y .lt ∨ made y x .gt

/-! ## At one pivot -/

section Join

variable {made : α → α → Ordering → Prop} {pivot : α} {less equal greater : List α}

/-- Two elements that went different ways, or both stayed level, have the pivot between them. -/
lemma pairwise_between_join (hl : less.Pairwise (Between made))
    (hg : greater.Pairwise (Between made))
    (hless : ∀ a ∈ less, made a pivot .lt) (hequal : ∀ a ∈ equal, made a pivot .eq)
    (hgreater : ∀ a ∈ greater, made a pivot .gt) :
    (less ++ pivot :: (equal ++ greater)).Pairwise (Between made) := by
  have low : ∀ a ∈ pivot :: equal, NotAbove made a pivot := by
    intro a ha
    rcases List.mem_cons.mp ha with rfl | ha
    · exact .inl rfl
    · exact .inr ⟨.eq, hequal a ha, rfl⟩
  have high : ∀ a ∈ pivot :: equal ++ greater, NotBelow made a pivot := by
    intro a ha
    rcases List.mem_append.mp ha with ha | ha
    · rcases List.mem_cons.mp ha with rfl | ha
      · exact .inl rfl
      · exact .inr ⟨.eq, hequal a ha, rfl⟩
    · exact .inr ⟨.gt, hgreater a ha, rfl⟩
  rw [← List.cons_append]
  refine List.pairwise_append.mpr ⟨hl, List.pairwise_append.mpr ⟨?_, hg, ?_⟩, ?_⟩
  · exact List.pairwise_of_forall_mem_list fun a ha b hb =>
      ⟨pivot, low a ha, high b (List.mem_append_left _ hb)⟩
  · exact fun a ha b hb => ⟨pivot, low a ha, high b (List.mem_append_right _ hb)⟩
  · exact fun a ha b hb => ⟨pivot, .inr ⟨.lt, hless a ha, rfl⟩, high b hb⟩

/-- Without ties, the pivot links the last of the lesser items to the first of the greater. -/
lemma isChain_join (hl : less.IsChain fun x y => made x y .lt ∨ made y x .gt)
    (hg : greater.IsChain fun x y => made x y .lt ∨ made y x .gt)
    (hless : ∀ a ∈ less, made a pivot .lt) (hgreater : ∀ a ∈ greater, made a pivot .gt) :
    (less ++ pivot :: greater).IsChain fun x y => made x y .lt ∨ made y x .gt := by
  refine List.isChain_append.mpr ⟨hl, List.isChain_cons.mpr ⟨fun b hb => ?_, hg⟩, ?_⟩
  · exact .inr (hgreater b (List.mem_of_mem_head? hb))
  · intro a ha b hb
    obtain rfl : b = pivot := (Option.mem_some_iff.mp hb).symm
    exact .inl (hless a (List.mem_of_mem_getLast? ha))

end Join

/-! ## A whole sort

The two facts are proved for anything that holds of all calls of the run, so that the recursion can
hand it down to the calls of its parts.
-/

section Recursion

variable {c : Comparator σ α} {made : α → α → Ordering → Prop}

lemma made_of_mem_partition {s : σ} {pivot : α} {rest : List α}
    (hmade : ∀ call ∈ sortCalls c s (pivot :: rest), made call.item call.pivot call.answer)
    {a : α} {o : Ordering} (h : a ∈ (Buckets.partition c s pivot rest).2.bucket o) :
    made a pivot o := by
  rw [sortCalls_cons] at hmade
  exact hmade _ (List.mem_append_left _ (call_mem_of_mem_bucket h))

/-- **Between any two elements of a result stands a pivot of the run**, or one of the two. -/
theorem pairwise_between_sortBy {s : σ} {items : List α}
    (hmade : ∀ call ∈ sortCalls c s items, made call.item call.pivot call.answer) :
    (sortBy c s items).2.Pairwise (Between made) := by
  induction s, items using sortBy_induction c with
  | nil s => simp
  | cons s pivot rest ihl ihg =>
      have hbucket : ∀ o, ∀ a ∈ (Buckets.partition c s pivot rest).2.bucket o, made a pivot o :=
        fun o a ha => made_of_mem_partition hmade ha
      rw [sortCalls_cons, List.forall_mem_append, List.forall_mem_append] at hmade
      rw [sortBy_cons]
      refine pairwise_between_join (ihl hmade.2.1) (ihg hmade.2.2) (fun a ha => ?_) (hbucket .eq)
        fun a ha => ?_
      · exact hbucket .lt a ((perm_sortBy c _ _).mem_iff.mp ha)
      · exact hbucket .gt a ((perm_sortBy c _ _).mem_iff.mp ha)

/-- **Without ties, neighbours in a result were compared with each other.** -/
theorem isChain_sortBy {s : σ} {items : List α}
    (hmade : ∀ call ∈ sortCalls c s items, made call.item call.pivot call.answer)
    (hties : ∀ x p, ¬ made x p .eq) :
    (sortBy c s items).2.IsChain fun x y => made x y .lt ∨ made y x .gt := by
  induction s, items using sortBy_induction c with
  | nil s => simp
  | cons s pivot rest ihl ihg =>
      have hbucket : ∀ o, ∀ a ∈ (Buckets.partition c s pivot rest).2.bucket o, made a pivot o :=
        fun o a ha => made_of_mem_partition hmade ha
      have hequal : (Buckets.partition c s pivot rest).2.equal.toList = [] :=
        List.eq_nil_iff_forall_not_mem.mpr fun a ha => hties a pivot (hbucket .eq a ha)
      rw [sortCalls_cons, List.forall_mem_append, List.forall_mem_append] at hmade
      simp only [sortBy_cons, hequal, List.nil_append]
      refine isChain_join (ihl hmade.2.1) (ihg hmade.2.2) (fun a ha => ?_) fun a ha => ?_
      · exact hbucket .lt a ((perm_sortBy c _ _).mem_iff.mp ha)
      · exact hbucket .gt a ((perm_sortBy c _ _).mem_iff.mp ha)

/-- **The calls of a sort certify its result**, if its elements can be told apart. -/
theorem certifiedBy_sortBy {s : σ} {items : List α} (hnodup : items.Nodup)
    (hmade : ∀ call ∈ sortCalls c s items, made call.item call.pivot call.answer) :
    CertifiedBy made (sortBy c s items).2 where
  between := by
    have hdistinct : (sortBy c s items).2.Nodup := (perm_sortBy c s items).nodup_iff.mpr hnodup
    refine ((pairwise_between_sortBy hmade).and hdistinct).imp ?_
    rintro x y ⟨⟨p, hx, hy⟩, hne⟩
    exact ⟨p, hx, hy, fun h => hne (h.1.trans h.2.symm)⟩
  path := isChain_sortBy hmade

end Recursion

/-! ## All sorts -/

lemma certifiedBy_recorded (c : Comparator σ α) (s : σ) {items : List α} (hnodup : items.Nodup) :
    CertifiedBy (fun x p o => ⟨x, p, o⟩ ∈ (sortBy c.recorded { state := s } items).1.calls.toList)
      (sortBy c.recorded { state := s } items).2 := by
  have hlist : (sortBy c.recorded { state := s } items).2 = (sortBy c s items).2 :=
    congrArg Prod.snd (sortBy_recorded c { state := s } items).symm
  rw [hlist]
  exact certifiedBy_sortBy hnodup fun call hcall => hcall

lemma certifiedBy_of_trySortBy {c : PartialComparator σ α} {s t : σ} {items sorted : List α}
    (hnodup : items.Nodup) (h : trySortBy c s items = (t, .ok sorted)) :
    CertifiedBy (fun x p o => ⟨x, p, some o⟩ ∈ trySortCalls c s items) sorted := by
  have hc := c.completedBy_completion
  have hcalls : trySortCalls c s items = (sortCalls c.completion s items).map Call.answered :=
    hc.trySortAtCalls_eq h
  have hmade : ∀ call ∈ sortCalls c.completion s items,
      ⟨call.item, call.pivot, some call.answer⟩ ∈ trySortCalls c s items := by
    intro call hcall
    rw [hcalls]
    exact List.mem_map_of_mem hcall
  have hcertified : CertifiedBy (fun x p o => ⟨x, p, some o⟩ ∈ trySortCalls c s items)
      (sortBy c.completion s items).2 := certifiedBy_sortBy hnodup hmade
  rwa [hc.sortBy_eq h] at hcertified

lemma nodup_zipIdx (items : List α) : items.zipIdx.Nodup := by
  refine List.Nodup.of_map Prod.snd ?_
  rw [List.zipIdx_map_snd]
  exact List.nodup_range'

/-- **The answers of a run vouch for its result, whatever the comparator.**  Give every element its
place in the list, so that equal elements are still two; the comparator does not see the places,
and the run is the plain one, call for call.  Its result is a permutation and certified by its
calls.  This holds for the recursive sort, for the sort on a work stack and for every success of
the fallible sort. -/
theorem sorts_certified_by_calls (s : σ) (items : List α) :
    (∀ c : Comparator σ α,
      let run := sortBy (c.comap Prod.fst).recorded { state := s } items.zipIdx
      sortBy c.recorded { state := s } items = (run.1.map Prod.fst id, run.2.map Prod.fst) ∧
      run.2 ~ items.zipIdx ∧
      CertifiedBy (fun x p o => ⟨x, p, o⟩ ∈ run.1.calls.toList) run.2) ∧
    (∀ c : Comparator σ α,
      let run := sortByStack (c.comap Prod.fst).recorded { state := s } items.zipIdx
      sortByStack c.recorded { state := s } items = (run.1.map Prod.fst id, run.2.map Prod.fst) ∧
      run.2 ~ items.zipIdx ∧
      CertifiedBy (fun x p o => ⟨x, p, o⟩ ∈ run.1.calls.toList) run.2) ∧
    ∀ c : PartialComparator σ α,
      let run := trySortBy (c.comap Prod.fst).recorded { state := s } items.zipIdx
      trySortBy c.recorded { state := s } items =
        (run.1.map Prod.fst id, run.2.map (List.map Prod.fst)) ∧
      ∀ sorted, run.2 = .ok sorted →
        sorted ~ items.zipIdx ∧
        CertifiedBy (fun x p o => ⟨x, p, some o⟩ ∈ run.1.calls.toList) sorted := by
  have hfst : items.zipIdx.map Prod.fst = items := List.zipIdx_map_fst 0 items
  have hrun : ∀ c : Comparator σ α,
      sortBy c.recorded { state := s } items =
        ((sortBy (c.comap Prod.fst).recorded { state := s } items.zipIdx).1.map Prod.fst id,
          (sortBy (c.comap Prod.fst).recorded { state := s } items.zipIdx).2.map Prod.fst) := by
    intro c
    rw [← sortBy_comap_recorded, hfst]
  refine ⟨fun c => ⟨hrun c, perm_sortBy _ _ _, certifiedBy_recorded _ s (nodup_zipIdx items)⟩,
    fun c => ?_, fun c => ⟨?_, fun sorted h => ?_⟩⟩
  · simp only [sortByStack_eq_sortBy]
    exact ⟨hrun c, perm_sortBy _ _ _, certifiedBy_recorded _ s (nodup_zipIdx items)⟩
  · have htry := trySortAt_comap_recorded Prod.fst c 0 s items.zipIdx
    rwa [hfst] at htry
  · have hplain := trySortAt_recorded (c.comap Prod.fst) 0 { state := s } items.zipIdx
    have hok : trySortBy (c.comap Prod.fst) s items.zipIdx = (_, .ok sorted) :=
      hplain.trans (Prod.ext rfl h)
    exact ⟨perm_of_trySortAt hok, certifiedBy_of_trySortBy (nodup_zipIdx items) hok⟩

/-- Three elements in a circle, each greater than the one before it. -/
def circular (item pivot : Fin 3) : Ordering :=
  if item = pivot then .eq else if item = pivot + 1 then .gt else .lt

/-- All three are in the circle, and the sort finds a path through it. -/
theorem sorts_certified_by_calls_circular :
    (sortBy (.ofFun circular) () [0, 1, 2]).2 = [2, 0, 1] ∧
    (∃ run, run = sortBy (Comparator.comap Prod.fst (.ofFun circular)).recorded { state := () }
        [((0 : Fin 3), 0), (1, 1), (2, 2)] ∧
      run.2.IsChain fun x y =>
        ⟨x, y, .lt⟩ ∈ run.1.calls.toList ∨ ⟨y, x, .gt⟩ ∈ run.1.calls.toList) ∧
    ∃ run, run = trySortBy (PartialComparator.comap Prod.fst
        (.ofFun fun item pivot => some (circular item pivot))).recorded { state := () }
        [((0 : Fin 3), 0), (1, 1), (2, 2)] ∧
      CertifiedBy (fun x p o => ⟨x, p, some o⟩ ∈ run.1.calls.toList) [(2, 2), (0, 0), (1, 1)] := by
  have hmain := sorts_certified_by_calls () [(0 : Fin 3), 1, 2]
  refine ⟨by decide +kernel, ⟨_, rfl, ?_⟩, ⟨_, rfl, ?_⟩⟩
  · refine (hmain.1 (.ofFun circular)).2.2.path fun x p => ?_
    have hcalls : (sortBy (Comparator.comap Prod.fst (.ofFun circular)).recorded { state := () }
        [((0 : Fin 3), 0), (1, 1), (2, 2)]).1.calls.toList
        = [⟨(1, 1), (0, 0), .gt⟩, ⟨(2, 2), (0, 0), .lt⟩] := by decide +kernel
    rw [show [(0 : Fin 3), 1, 2].zipIdx = [(0, 0), (1, 1), (2, 2)] from rfl, hcalls]
    simp
  · exact ((hmain.2.2 (.ofFun fun item pivot => some (circular item pivot))).2
      [(2, 2), (0, 0), (1, 1)] (by decide +kernel)).2

end ThreeBucket
