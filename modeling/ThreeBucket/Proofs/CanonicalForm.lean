import ThreeBucket.Proofs.StableSort

/-!
# The sorted list as a canonical form

Two runs of a sort on differently arranged lists have nothing in common: other pivots, other
buckets, another tree of calls.  Still their results can be compared, because a stable sort is
determined by the groups of ties alone.  So **sorting chooses one list out of all those with the
same groups of ties**, and what the sort is does not matter for this, only that it is stable.

* `SameTies` — two lists with the same groups of ties, each in the same order.
* `IsCanonicalForm` — what it means to choose one of them.
* `isCanonicalForm_of_isStableSort` — every stable sort does.
* `sorts_canonical` — the quicksort with a comparator, and every strategy in a type's own order.
-/

namespace ThreeBucket

open scoped List

universe u

variable {α : Type u} {f : α → α → Ordering}

/-- Every group of ties is the same list in `a` as in `b`. -/
def SameTies (f : α → α → Ordering) (a b : List α) : Prop :=
  ∀ x, a.filter (fun y => f y x == .eq) = b.filter (fun y => f y x == .eq)

/-- `normal` takes every list to the one that stands for all lists with the same ties. -/
structure IsCanonicalForm (f : α → α → Ordering) (normal : List α → List α) : Prop where
  /-- Lists are taken to the same one exactly if they have the same ties. -/
  eq_iff_sameTies : ∀ a b, normal a = normal b ↔ SameTies f a b
  /-- The second time changes nothing. -/
  idempotent : ∀ a, normal (normal a) = normal a
  /-- The lists that stand for themselves are those in order. -/
  eq_self_iff : ∀ a, normal a = a ↔ a.Pairwise fun x y => (f x y).isLE
  /-- Where only identical elements are tied, the order of a list does not matter at all. -/
  eq_iff_perm : (∀ x y, f x y = .eq → x = y) → ∀ a b, normal a = normal b ↔ b ~ a

section StableSorts

variable [Std.TransCmp f] {a b sorted sorted' : List α}

lemma IsStableSort.eq_iff_sameTies (ha : IsStableSort f a sorted) (hb : IsStableSort f b sorted') :
    sorted = sorted' ↔ SameTies f a b := by
  constructor
  · rintro rfl x
    rw [← ha.stable x, ← hb.stable x]
  · intro h
    refine eq_of_ordered_of_filter_eq ha.ordered hb.ordered fun x => ?_
    rw [ha.stable x, hb.stable x, h x]

lemma IsStableSort.eq_self_iff (h : IsStableSort f a sorted) :
    sorted = a ↔ a.Pairwise fun x y => (f x y).isLE := by
  constructor
  · rintro rfl
    exact h.ordered
  · intro hordered
    exact eq_of_ordered_of_filter_eq h.ordered hordered h.stable

lemma IsStableSort.eq_iff_perm (heq : ∀ x y, f x y = .eq → x = y) (ha : IsStableSort f a sorted)
    (hb : IsStableSort f b sorted') : sorted = sorted' ↔ b ~ a := by
  constructor
  · rintro rfl
    exact hb.perm.symm.trans ha.perm
  · intro hperm
    refine List.Perm.eq_of_pairwise ?_ ha.ordered hb.ordered
      (ha.perm.trans (hperm.symm.trans hb.perm.symm))
    intro x y _ _ hxy hyx
    exact heq x y (Std.OrientedCmp.isLE_antisymm hxy hyx)

/-- **Every stable sort is a canonical form.** -/
theorem isCanonicalForm_of_isStableSort {normal : List α → List α}
    (h : ∀ items, IsStableSort f items (normal items)) : IsCanonicalForm f normal where
  eq_iff_sameTies a b := (h a).eq_iff_sameTies (h b)
  idempotent a := (h (normal a)).eq_self_iff.mpr (h a).ordered
  eq_self_iff a := (h a).eq_self_iff
  eq_iff_perm heq a b := (h a).eq_iff_perm heq (h b)

end StableSorts

/-- **A sorted list is a canonical form**, in every total preorder: two lists have the same sorted
form exactly if each group of ties is the same list in both, sorting again changes nothing, a list
in order is returned as it is, and in a total order just the permutations of a list share its
sorted form.  This holds of the quicksort with a comparator, of the quicksort in a type's own order,
and of each strategy. -/
theorem sorts_canonical :
    (∀ (f : α → α → Ordering) [Std.TransCmp f],
      IsCanonicalForm f fun items => (sortBy (.ofFun f) () items).2) ∧
    ∀ [Ord α] [Std.TransOrd α],
      IsCanonicalForm compare (sort (α := α)) ∧
      ∀ strategy : Strategy, IsCanonicalForm compare (strategy.sort (α := α)) := by
  refine ⟨fun f _ => ?_, ?_, fun strategy => ?_⟩
  · exact isCanonicalForm_of_isStableSort (isStableSort_sortBy f)
  · exact isCanonicalForm_of_isStableSort (isStableSort_sortBy compare)
  · exact isCanonicalForm_of_isStableSort (strategy.isStableSort_sort ·)

/-- Elements that are not tied may change places, tied ones may not, and identical ones cannot be
told apart. -/
theorem sorts_canonical_tagged :
    SameTies compare [(⟨2, 'a'⟩ : Tagged), ⟨1, 'b'⟩, ⟨2, 'c'⟩] [⟨2, 'a'⟩, ⟨2, 'c'⟩, ⟨1, 'b'⟩] ∧
    sort [(⟨2, 'a'⟩ : Tagged), ⟨1, 'b'⟩, ⟨2, 'c'⟩] ≠ sort [⟨2, 'c'⟩, ⟨1, 'b'⟩, ⟨2, 'a'⟩] ∧
    sort [(⟨1, 'b'⟩ : Tagged), ⟨2, 'a'⟩, ⟨2, 'c'⟩] = [⟨1, 'b'⟩, ⟨2, 'a'⟩, ⟨2, 'c'⟩] ∧
    (sortBy (.ofFun compare) () [3, 1, 3, 2]).2 = (sortBy (.ofFun compare) () [2, 3, 3, 1]).2 := by
  obtain ⟨htagged, -⟩ := (sorts_canonical (α := Tagged)).2
  have hnat := (sorts_canonical (α := Nat)).1 compare
  refine ⟨?_, ?_, ?_, ?_⟩
  · exact (htagged.eq_iff_sameTies _ _).mp (by decide +kernel)
  · rw [ne_eq, htagged.eq_iff_sameTies]
    intro h
    exact absurd (h ⟨2, 'a'⟩) (by decide)
  · exact (htagged.eq_self_iff _).mpr (by decide)
  · exact (hnat.eq_iff_perm (fun _ _ => Std.LawfulEqCmp.eq_of_compare) _ _).mpr (by decide)

end ThreeBucket
