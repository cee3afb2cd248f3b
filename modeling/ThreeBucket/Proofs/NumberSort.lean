import ThreeBucket.Proofs.NumberOrder
import ThreeBucket.Proofs.StableSort

/-!
# Sorting numbers of 64 bits

A pattern that is not a number has no ordering with anything, so it cannot hide: the first partition
finds it, as the pivot or as an item, and **a sort of numbers never fails below the top**.  All
other patterns are ordered as the numbers they stand for, and then a sort does not fail at all.

* `trySortAt_of_missing` — a sort whose first partition misses an answer, and where it fails.
* `Binary64.trySort_of_isNaN`, `Binary64.exists_trySort_eq_ok` — the two outcomes.
* `Binary64.isStableSort_of_trySort` — a success is a stable sort in the order of numbers.
* `trySort_numbers` — all of it in one statement.
-/

namespace ThreeBucket

universe u

/-! ## A first partition that misses an answer -/

section Missing

variable {α : Type u} {f : α → α → Option Ordering} {pivot : α} {items : List α}

lemma tryPartitionOnto_of_missing (h : ∃ a ∈ items, f a pivot = none) (depth position : Nat)
    (b : Buckets α) :
    Buckets.tryPartitionOnto (.ofFun f) pivot depth position () b items =
      ((), .error { depth, position := position + items.findIdx fun a => (f a pivot).isNone }) := by
  induction items generalizing position b with
  | nil => simp at h
  | cons item rest ih =>
      rw [Buckets.tryPartitionOnto, PartialComparator.ofFun_apply, List.findIdx_cons]
      cases hitem : f item pivot with
      | none => simp
      | some o =>
          have hrest : ∃ a ∈ rest, f a pivot = none := by simpa [hitem] using h
          simp only [ih hrest, Option.isNone_some, cond_false]
          rw [Nat.add_assoc, Nat.add_comm 1]

/-- **A sort fails at the first item that has no ordering with the first element.** -/
lemma trySortAt_of_missing (h : ∃ a ∈ items, f a pivot = none) (depth : Nat) :
    trySortAt (.ofFun f) depth () (pivot :: items) =
      ((), .error { depth, position := 1 + items.findIdx fun a => (f a pivot).isNone }) :=
  trySortAt_cons_eq_error_iff.mpr (.inl (tryPartitionOnto_of_missing h depth 1 {}))

end Missing

/-! ## The sort of numbers -/

namespace Binary64

variable {items sorted : List Binary64}

-- If the first element is not a number, the second one has no ordering with it.
lemma trySort_of_isNaN (hlength : 2 ≤ items.length) (hnan : ∃ x ∈ items, x.isNaN = true) :
    trySort items = .error {
      depth := 0
      position := if items.head?.any isNaN then 1 else items.findIdx isNaN } := by
  match items, hlength with
  | pivot :: item :: rest, _ =>
    have hnone : ∀ a, (PartialCompare.compare? a pivot).isNone = (a.isNaN || pivot.isNaN) := by
      intro a
      rw [Bool.eq_iff_iff, Option.isNone_iff_eq_none, compare?_eq_none_iff, Bool.or_eq_true]
    have hmissing : ∃ a ∈ item :: rest, PartialCompare.compare? a pivot = none := by
      simp only [compare?_eq_none_iff]
      obtain ⟨x, hx, hxnan⟩ := hnan
      rcases List.mem_cons.mp hx with rfl | hx
      · exact ⟨item, List.mem_cons_self, .inr hxnan⟩
      · exact ⟨x, hx, .inl hxnan⟩
    have hrun := trySortAt_of_missing hmissing 0
    simp only [hnone] at hrun
    rw [trySort, trySortBy, PartialComparator.natural, hrun]
    cases hpivot : pivot.isNaN with
    | true => simp [hpivot, List.findIdx_cons]
    | false => simp [hpivot, List.findIdx_cons, Nat.add_comm 1]

lemma exists_trySort_eq_ok (h : items.length ≤ 1 ∨ ∀ x ∈ items, x.isNaN = false) :
    ∃ sorted, trySort items = .ok sorted := by
  have hcomparable : items.Pairwise fun x y => (PartialCompare.compare? x y).isSome := by
    rcases h with hlength | hnumbers
    · match items, hlength with
      | [], _ => exact .nil
      | [x], _ => exact List.pairwise_singleton _ x
    · refine List.pairwise_of_forall_mem_list fun x hx y hy => ?_
      rw [Option.isSome_iff_exists]
      exact ⟨_, compare?_eq_some_iff.mpr ⟨⟨hnumbers x hx, hnumbers y hy⟩, rfl⟩⟩
  obtain ⟨sorted, hsorted⟩ := exists_trySortAt_of_pairwise lawful_compare? 0 hcomparable
  exact ⟨sorted, congrArg Prod.snd hsorted⟩

/-- The order of numbers answers whenever the order of patterns does, and in the same way. -/
lemma completedBy_number :
    (PartialComparator.natural (α := Binary64)).CompletedBy (.ofFun (compareOn number)) := by
  intro s item pivot o h
  exact congrArg (Prod.mk s) (compare?_eq_some_iff.mp h).2

/-- **A success is the stable sort of the numbers.** -/
lemma isStableSort_of_trySort (h : trySort items = .ok sorted) :
    IsStableSort (compareOn number) items sorted := by
  have hrun : trySortAt .natural 0 () items = ((), .ok sorted) := Prod.ext rfl h
  have hstable := isStableSort_sortBy (compareOn number) items
  rwa [completedBy_number.sortBy_eq hrun] at hstable

/-- The two zeros are tied, so they keep the order in which they came. -/
lemma filter_zeros (h : IsStableSort (compareOn number) items sorted) :
    sorted.filter (fun x => x = .zero true ∨ x = .zero false) =
      items.filter (fun x => x = .zero true ∨ x = .zero false) := by
  have hzero : ∀ x : Binary64, (decide (x = .zero true ∨ x = .zero false) &&
      (compareOn number x (.zero false) == .eq)) = decide (x = .zero true ∨ x = .zero false) := by
    have htied : compareOn number (.zero true) (.zero false) = .eq := by
      refine (compare?_eq_some_iff.mp ?_).2
      decide
    intro x
    rw [Bool.and_eq_left_iff_imp]
    simp only [decide_eq_true_eq]
    rintro (rfl | rfl)
    · rw [htied]; rfl
    · simp [compareOn]
  have hfilter := congrArg (List.filter fun x => decide (x = .zero true ∨ x = .zero false))
    (h.stable (.zero false))
  simpa only [List.filter_filter, hzero] using hfilter

end Binary64

/-- **A sort of numbers fails at the top or not at all.**  Patterns are ordered as the numbers they
stand for, and a pattern that is not a number has no ordering with anything, itself included.  A
sort fails exactly if there are two elements and one of them is not a number.  It fails in its first
partition: at the second element if the first one is not a number, and otherwise at the first
element that is none.  What it gives if it does not fail is the stable sort of the numbers, with
zeros of either sign in the order in which they came. -/
theorem trySort_numbers (items : List Binary64) :
    (∀ (x y : Binary64) (o : Ordering), compare? x y = some o ↔
      (x.isNaN = false ∧ y.isNaN = false) ∧ compare x.number y.number = o) ∧
    ((∃ e, trySort items = .error e) ↔ 2 ≤ items.length ∧ ∃ x ∈ items, x.isNaN = true) ∧
    (∀ e, trySort items = .error e →
      e = { depth := 0
            position := if items.head?.any Binary64.isNaN then 1
              else items.findIdx Binary64.isNaN }) ∧
    ∀ sorted, trySort items = .ok sorted →
      IsStableSort (compareOn Binary64.number) items sorted ∧
      sorted.filter (fun x => x = .zero true ∨ x = .zero false) =
        items.filter (fun x => x = .zero true ∨ x = .zero false) := by
  have hfails : (∃ e, trySort items = .error e) →
      2 ≤ items.length ∧ ∃ x ∈ items, x.isNaN = true := by
    rintro ⟨e, he⟩
    by_contra hnot
    have hfree : items.length ≤ 1 ∨ ∀ x ∈ items, x.isNaN = false := by
      rcases Nat.lt_or_ge 1 items.length with hlong | hshort
      · right
        intro x hx
        exact Bool.eq_false_iff.mpr fun hnan => hnot ⟨hlong, x, hx, hnan⟩
      · exact .inl hshort
    obtain ⟨sorted, hok⟩ := Binary64.exists_trySort_eq_ok hfree
    cases he.symm.trans hok
  refine ⟨fun x y o => Binary64.compare?_eq_some_iff, ⟨hfails, ?_⟩, ?_, ?_⟩
  · rintro ⟨hlength, hnan⟩
    exact ⟨_, Binary64.trySort_of_isNaN hlength hnan⟩
  · intro e he
    obtain ⟨hlength, hnan⟩ := hfails ⟨e, he⟩
    rw [Binary64.trySort_of_isNaN hlength hnan] at he
    exact (Except.error.inj he).symm
  · intro sorted hsorted
    have hstable := Binary64.isStableSort_of_trySort hsorted
    exact ⟨hstable, Binary64.filter_zeros hstable⟩

/-- A pattern that is not a number is found as an item and as the pivot, also behind another one,
but alone it is compared with nothing.  The zeros stay as they came. -/
theorem trySort_numbers_hidden :
    (∃ e, trySort [Binary64.zero false, .infinity true, .nan, .nan] = .error e ∧
      e = { depth := 0, position := 2 }) ∧
    (∃ e, trySort [Binary64.nan, .infinity true, .nan] = .error e ∧
      e = { depth := 0, position := 1 }) ∧
    (∃ sorted, trySort [Binary64.nan] = .ok sorted) ∧
    ∃ sorted, trySort [Binary64.zero true, .infinity true, .zero false] = .ok sorted ∧
      sorted.filter (fun x => x = .zero true ∨ x = .zero false) = [.zero true, .zero false] := by
  refine ⟨?_, ?_, Binary64.exists_trySort_eq_ok (.inl (by decide)), ?_⟩
  · obtain ⟨-, hfails, hplace, -⟩ := trySort_numbers [.zero false, .infinity true, .nan, .nan]
    obtain ⟨e, he⟩ := hfails.mpr (by decide)
    exact ⟨e, he, (hplace e he).trans (by decide)⟩
  · obtain ⟨-, hfails, hplace, -⟩ := trySort_numbers [.nan, .infinity true, .nan]
    obtain ⟨e, he⟩ := hfails.mpr (by decide)
    exact ⟨e, he, (hplace e he).trans (by decide)⟩
  · obtain ⟨sorted, hsorted⟩ :
        ∃ sorted, trySort [Binary64.zero true, .infinity true, .zero false] = .ok sorted :=
      Binary64.exists_trySort_eq_ok (.inr (by decide))
    exact ⟨sorted, hsorted, ((trySort_numbers _).2.2.2 sorted hsorted).2.trans (by decide)⟩

end ThreeBucket
