import ThreeBucket.Proofs.PartialOrder
import ThreeBucket.Proofs.WorkStack
import ThreeBucket.Strategy

/-!
# Stable sorts

What a sort owes its caller when the comparison is a total preorder: the same elements, in
order, **and elements that compare equal in the order in which they came**.  Equal is not
identical here, as with a key that carries a tag, and the third condition is about every group
of ties.

* `IsStableSort` — the three conditions.
* `isStableSort_sortBy` — the quicksort meets them.  A total preorder is a partial order in which
  everything is comparable, so the sort of a partial order succeeds on it.
* `isStableSort_mergeSort` — so does the standard merge sort.
* `eq_of_ordered_of_filter_eq`, `IsStableSort.unique` — **order and groups of ties determine a
  list**, so two stable sorts of a list are the same list.
* `sorts_isStableSort`, `Strategy.sorts_agree` — what follows for the sorts and for the
  strategies.
-/

namespace ThreeBucket

open scoped List

universe u v w

variable {σ : Type u} {α : Type v}

/-- `sorted` is the stable sort of `items` in the order of `f`. -/
structure IsStableSort (f : α → α → Ordering) (items sorted : List α) : Prop where
  /-- The same elements, each equally often. -/
  perm : sorted ~ items
  /-- No element goes down to a later one. -/
  ordered : sorted.Pairwise fun a b => (f a b).isLE
  /-- The elements tied with `x` keep their order. -/
  stable : ∀ x, sorted.filter (fun a => f a x == .eq) = items.filter (fun a => f a x == .eq)

/-! ## The quicksort -/

theorem isStableSort_sortBy (f : α → α → Ordering) [Std.TransCmp f] (items : List α) :
    IsStableSort f items (sortBy (.ofFun f) () items).2 := by
  have law := LawfulPartialCmp.ofTransCmp f
  have hall : items.Pairwise fun a b => (some (f a b)).isSome :=
    List.pairwise_of_forall_mem_list fun _ _ _ _ => rfl
  obtain ⟨sorted, h⟩ := exists_trySortAt_of_pairwise law 0 hall
  rw [(PartialComparator.completedBy_ofFun f).sortBy_eq h]
  refine ⟨perm_of_trySortAt h, ?_, fun x => answered_eq_of_trySortAt law h x⟩
  refine (pairwise_atMost_of_trySortAt law h).imp ?_
  rintro a b ⟨o, ho, hle⟩
  rwa [Option.some.inj ho]

/-- A sort by a key that depends on the element alone is a sort by comparison of keys. -/
lemma sortByKey_eq_sortBy {κ : Type w} [Ord κ] (key : α → κ) (s : σ) (items : List α) :
    (sortByKey (fun s a => (s, key a)) s items).2 =
      (sortBy (.ofFun (compareOn key)) () items).2 := by
  have hsim : (Comparator.byKey fun (s : σ) a => (s, key a)).Simulates (fun _ => ()) id
      (.ofFun (compareOn key)) := fun _ _ _ => rfl
  have hrun := hsim.sortBy_eq s items
  rw [List.map_id, List.map_id] at hrun
  rw [hrun]
  rfl

/-- **The quicksort is a stable sort** for every total preorder: with a comparator, in a type's own
order, and by comparison of keys. -/
theorem sorts_isStableSort :
    (∀ (f : α → α → Ordering) [Std.TransCmp f] (items : List α),
      IsStableSort f items (sortBy (.ofFun f) () items).2) ∧
    (∀ [Ord α] [Std.TransOrd α] (items : List α), IsStableSort compare items (sort items)) ∧
    ∀ {κ : Type w} [Ord κ] [Std.TransOrd κ] (key : α → κ) (s : σ) (items : List α),
      IsStableSort (compareOn key) items (sortByKey (fun s a => (s, key a)) s items).2 := by
  refine ⟨fun f _ items => isStableSort_sortBy f items,
    fun items => isStableSort_sortBy compare items, fun key s items => ?_⟩
  rw [sortByKey_eq_sortBy]
  exact isStableSort_sortBy (compareOn key) items

/-- A key with a tag that the order does not look at, so that equals can be told apart. -/
structure Tagged where
  key : Nat
  tag : Char
  deriving DecidableEq

instance : Ord Tagged where
  compare := compareOn Tagged.key

instance : Std.TransOrd Tagged :=
  inferInstanceAs (Std.TransCmp (compareOn Tagged.key))

theorem sorts_isStableSort_tagged :
    IsStableSort (compareOn Tagged.key) [⟨2, 'a'⟩, ⟨1, 'b'⟩, ⟨2, 'c'⟩, ⟨1, 'd'⟩]
      [⟨1, 'b'⟩, ⟨1, 'd'⟩, ⟨2, 'a'⟩, ⟨2, 'c'⟩] ∧
    IsStableSort compare [⟨2, 'a'⟩, ⟨1, 'b'⟩, ⟨2, 'c'⟩, ⟨1, 'd'⟩]
      (sort [(⟨2, 'a'⟩ : Tagged), ⟨1, 'b'⟩, ⟨2, 'c'⟩, ⟨1, 'd'⟩]) ∧
    IsStableSort (compareOn Tagged.tag) [⟨2, 'c'⟩, ⟨1, 'b'⟩, ⟨3, 'c'⟩]
      (sortByKey (fun s a => (s, Tagged.tag a)) () [⟨2, 'c'⟩, ⟨1, 'b'⟩, ⟨3, 'c'⟩]).2 := by
  have hmain := sorts_isStableSort.{0, 0, 0} (σ := Unit) (α := Tagged)
  refine ⟨?_, hmain.2.1 _, hmain.2.2 Tagged.tag () _⟩
  have hrun : (sortBy (.ofFun (compareOn Tagged.key)) ()
      [⟨2, 'a'⟩, ⟨1, 'b'⟩, ⟨2, 'c'⟩, ⟨1, 'd'⟩]).2 = [⟨1, 'b'⟩, ⟨1, 'd'⟩, ⟨2, 'a'⟩, ⟨2, 'c'⟩] := by
    decide +kernel
  rw [← hrun]
  exact hmain.1 _ _

/-! ## Uniqueness -/

section Uniqueness

variable {f : α → α → Ordering} [Std.TransCmp f]

lemma mem_of_filter_eq {l l' : List α}
    (h : ∀ x, l.filter (fun a => f a x == .eq) = l'.filter (fun a => f a x == .eq)) {a : α}
    (ha : a ∈ l) : a ∈ l' := by
  have hmem : a ∈ l.filter (fun b => f b a == .eq) :=
    List.mem_filter.mpr ⟨ha, by simp [Std.ReflCmp.compare_self]⟩
  rw [h a] at hmem
  exact List.mem_of_mem_filter hmem

/-- **Order and groups of ties determine a list.** -/
theorem eq_of_ordered_of_filter_eq {l l' : List α}
    (hl : l.Pairwise fun a b => (f a b).isLE) (hl' : l'.Pairwise fun a b => (f a b).isLE)
    (h : ∀ x, l.filter (fun a => f a x == .eq) = l'.filter (fun a => f a x == .eq)) :
    l = l' := by
  induction l generalizing l' with
  | nil =>
      refine (List.eq_nil_iff_forall_not_mem.mpr fun b hb => ?_).symm
      exact List.not_mem_nil (mem_of_filter_eq (fun x => (h x).symm) hb)
  | cons a rest ih =>
      cases l' with
      | nil => exact absurd (mem_of_filter_eq h List.mem_cons_self) List.not_mem_nil
      | cons b rest' =>
          obtain ⟨ha, hrest⟩ := List.pairwise_cons.mp hl
          obtain ⟨hb, hrest'⟩ := List.pairwise_cons.mp hl'
          -- Each head is somewhere in the other list, so the heads are tied.
          have hab : (f a b).isLE := by
            rcases List.mem_cons.mp (mem_of_filter_eq (fun x => (h x).symm) List.mem_cons_self)
              with rfl | hmem
            · exact Std.ReflCmp.isLE_rfl
            · exact ha b hmem
          have hba : (f b a).isLE := by
            rcases List.mem_cons.mp (mem_of_filter_eq h List.mem_cons_self) with rfl | hmem
            · exact Std.ReflCmp.isLE_rfl
            · exact hb a hmem
          have htied : f b a = .eq := Std.OrientedCmp.isLE_antisymm hba hab
          -- Both head the group of elements tied with `a`, which is the same in both lists.
          have hgroup := h a
          simp only [List.filter_cons, htied, Std.ReflCmp.compare_self, beq_self_eq_true, if_true,
            List.cons.injEq] at hgroup
          obtain ⟨rfl, -⟩ := hgroup
          refine congrArg (a :: ·) (ih hrest hrest' fun x => ?_)
          have hx := h x
          simp only [List.filter_cons] at hx
          split_ifs at hx
          · exact (List.cons.inj hx).2
          · exact hx

/-- **A list has one stable sort.** -/
theorem IsStableSort.unique {items l l' : List α} (h : IsStableSort f items l)
    (h' : IsStableSort f items l') : l = l' :=
  eq_of_ordered_of_filter_eq h.ordered h'.ordered fun x => (h.stable x).trans (h'.stable x).symm

end Uniqueness

/-! ## The standard sort -/

theorem isStableSort_mergeSort (f : α → α → Ordering) [Std.TransCmp f] (items : List α) :
    IsStableSort f items (items.mergeSort fun a b => (f a b).isLE) := by
  have htrans : ∀ a b d, (f a b).isLE → (f b d).isLE → (f a d).isLE :=
    fun _ _ _ => Std.TransCmp.isLE_trans
  have htotal : ∀ a b, (f a b).isLE || (f b a).isLE := by
    intro a b
    rw [@Std.OrientedCmp.eq_swap _ f _ b a]
    cases f a b <;> rfl
  have hperm := List.mergeSort_perm items fun a b => (f a b).isLE
  refine ⟨hperm, List.pairwise_mergeSort htrans htotal items, fun x => ?_⟩
  -- A group of ties is in order, so the merge sort keeps it as a sublist; it has the right length.
  have hgroup : (items.filter fun a => f a x == .eq).Pairwise fun a b => (f a b).isLE := by
    refine List.pairwise_of_forall_mem_list fun a ha b hb => ?_
    have hax : f a x = .eq := eq_of_beq (List.mem_filter.mp ha).2
    have hbx : f b x = .eq := eq_of_beq (List.mem_filter.mp hb).2
    rw [Std.TransCmp.congr_left hax, Std.OrientedCmp.eq_comm.mp hbx]
    rfl
  have hsub := (List.sublist_mergeSort htrans htotal hgroup List.filter_sublist).filter
    fun a => f a x == .eq
  rw [List.filter_filter] at hsub
  simp only [Bool.and_self] at hsub
  exact (hsub.eq_of_length (hperm.filter _).length_eq.symm).symm

/-! ## The strategies -/

namespace Strategy

variable [Ord α] [Std.TransOrd α]

lemma isStableSort_sort (strategy : Strategy) (items : List α) :
    IsStableSort compare items (strategy.sort items) := by
  cases strategy with
  | recursive => exact isStableSort_sortBy compare items
  | workStack =>
      show IsStableSort compare items (sortByStack .natural () items).2
      rw [sortByStack_eq_sortBy]
      exact isStableSort_sortBy compare items
  | std => exact isStableSort_mergeSort compare items

/-- **All strategies give the same list, element for element**, in every total preorder.  It is
the list that any stable sort gives. -/
theorem sorts_agree (items : List α) :
    (∀ strategy strategy' : Strategy, strategy.sort items = strategy'.sort items) ∧
    ∀ (strategy : Strategy) (sorted : List α), IsStableSort compare items sorted →
      strategy.sort items = sorted := by
  refine ⟨fun strategy strategy' => ?_, fun strategy sorted h => ?_⟩
  · exact (isStableSort_sort strategy items).unique (isStableSort_sort strategy' items)
  · exact (isStableSort_sort strategy items).unique h

theorem sorts_agree_tagged :
    workStack.sort [(⟨2, 'a'⟩ : Tagged), ⟨1, 'b'⟩, ⟨2, 'c'⟩, ⟨1, 'd'⟩] =
      [⟨1, 'b'⟩, ⟨1, 'd'⟩, ⟨2, 'a'⟩, ⟨2, 'c'⟩] ∧
    std.sort [(⟨2, 'a'⟩ : Tagged), ⟨1, 'b'⟩, ⟨2, 'c'⟩, ⟨1, 'd'⟩] =
      [⟨1, 'b'⟩, ⟨1, 'd'⟩, ⟨2, 'a'⟩, ⟨2, 'c'⟩] := by
  have hrun : recursive.sort [(⟨2, 'a'⟩ : Tagged), ⟨1, 'b'⟩, ⟨2, 'c'⟩, ⟨1, 'd'⟩] =
      [⟨1, 'b'⟩, ⟨1, 'd'⟩, ⟨2, 'a'⟩, ⟨2, 'c'⟩] := by
    decide +kernel
  exact ⟨((sorts_agree _).1 workStack recursive).trans hrun,
    ((sorts_agree _).1 std recursive).trans hrun⟩

end Strategy

end ThreeBucket
