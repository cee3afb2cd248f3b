import Mathlib.Data.Finset.Card
import Mathlib.Data.Nat.Choose.Basic
import ThreeBucket.Proofs.Separation

/-!
# What a profile can be

The profile of a list is put together from the profiles of the items on either side of its first
element.  From this one equation follow the bounds on the counters, and their values where they are
largest.

* `onSide` — the items on one side of a pivot.
* `sortProfiled_split`, `profile_induction` — **the profile, one partition at a time**, and
  induction along it.
* `maxDepth_le_partitions`, `comparisons_le_mul`, `partitions_le_card` — how large the counters can
  be.  No element is a pivot twice, so there are at most as many partitions as distinct elements.
* `OneSided` — a list in which all that come after an element lie on one side of it.
* `sortProfiled_of_oneSided` — **on such a list every partition takes out the pivot only**: the
  recursion is as deep as the list is long, and each pair is compared.
-/

namespace ThreeBucket

universe u

variable {α : Type u} [Ord α]

/-! ## One partition at a time -/

/-- The items that stand to the pivot as `o` says. -/
def onSide (o : Ordering) (pivot : α) (items : List α) : List α :=
  items.filter fun a => compare a pivot == o

@[simp] lemma mem_onSide {o : Ordering} {pivot a : α} {items : List α} :
    a ∈ onSide o pivot items ↔ a ∈ items ∧ compare a pivot = o := by
  simp [onSide]

lemma length_onSide_le (o : Ordering) (pivot : α) (items : List α) :
    (onSide o pivot items).length ≤ items.length :=
  List.length_filter_le ..

lemma onSide_eq_self {o : Ordering} {pivot : α} {items : List α}
    (h : ∀ a ∈ items, compare a pivot = o) : onSide o pivot items = items := by
  refine List.filter_eq_self.mpr ?_
  intro a ha
  simp [h a ha]

lemma onSide_eq_nil {o o' : Ordering} {pivot : α} {items : List α}
    (h : ∀ a ∈ items, compare a pivot = o) (hne : o ≠ o') : onSide o' pivot items = [] := by
  refine List.filter_eq_nil_iff.mpr ?_
  intro a ha
  simp [h a ha, hne]

lemma sortProfiled_of_length_le_one {items : List α} (h : items.length ≤ 1) :
    (sortProfiled items).1 = {} := by
  match items with
  | [] => simp [sortProfiled, sortProfiledAt, Profile.visit]
  | [item] => simp [sortProfiled, sortProfiledAt, Profile.visit]

/-- **The profile of a list, from the profiles of the two sides of its first element.** -/
theorem sortProfiled_split (pivot item : α) (rest : List α) :
    let less := (sortProfiled (onSide .lt pivot (item :: rest))).1
    let greater := (sortProfiled (onSide .gt pivot (item :: rest))).1
    (sortProfiled (pivot :: item :: rest)).1 =
      { partitions := less.partitions + greater.partitions + 1
        comparisons := less.comparisons + greater.comparisons + (rest.length + 1)
        maxDepth := max less.maxDepth greater.maxDepth + 1 } := by
  have hless : (Buckets.partition .natural () pivot (item :: rest)).2.less.toList =
      onSide .lt pivot (item :: rest) := bucket_partition_ofFun pivot () (item :: rest) .lt
  have hgreater : (Buckets.partition .natural () pivot (item :: rest)).2.greater.toList =
      onSide .gt pivot (item :: rest) := bucket_partition_ofFun pivot () (item :: rest) .gt
  have htree : callTree .natural () (pivot :: item :: rest) =
      .split pivot (partitionCalls .natural pivot () (item :: rest))
        (callTree .natural () (onSide .lt pivot (item :: rest)))
        (callTree .natural () (onSide .gt pivot (item :: rest))) := by
    rw [callTree, hless, hgreater]
  have hcalls : sortCalls .natural () (pivot :: item :: rest) =
      partitionCalls .natural pivot () (item :: rest) ++
        (sortCalls .natural () (onSide .lt pivot (item :: rest)) ++
          sortCalls .natural () (onSide .gt pivot (item :: rest))) := by
    rw [sortCalls_cons, ← hless, ← hgreater]
  intro less greater
  simp only [less, greater, sortProfiled_eq, htree, hcalls, CallTree.partitions, CallTree.height,
    List.length_cons, List.length_append, length_partitionCalls, Profile.mk.injEq, and_true,
    true_and]
  omega

/-- Induction from the two sides of a first element to the whole list. -/
theorem profile_induction {motive : List α → Prop}
    (short : ∀ items, items.length ≤ 1 → motive items)
    (split : ∀ pivot item rest, motive (onSide .lt pivot (item :: rest)) →
      motive (onSide .gt pivot (item :: rest)) → motive (pivot :: item :: rest))
    (items : List α) : motive items := by
  match items with
  | [] => exact short [] (by simp)
  | [item] => exact short [item] (by simp)
  | pivot :: item :: rest =>
      have hl := length_onSide_le .lt pivot (item :: rest)
      have hg := length_onSide_le .gt pivot (item :: rest)
      exact split pivot item rest (profile_induction short split _)
        (profile_induction short split _)
termination_by items.length
decreasing_by
  all_goals
    simp only [List.length_cons] at hl hg ⊢
    omega

/-! ## Bounds -/

lemma maxDepth_le_partitions (items : List α) :
    (sortProfiled items).1.maxDepth ≤ (sortProfiled items).1.partitions := by
  induction items using profile_induction with
  | short items h => simp [sortProfiled_of_length_le_one h]
  | split pivot item rest ihl ihg =>
      simp only [sortProfiled_split]
      omega

/-- A partition takes fewer comparisons than there are elements. -/
lemma comparisons_le_mul (items : List α) :
    (sortProfiled items).1.comparisons ≤
      (sortProfiled items).1.partitions * (items.length - 1) := by
  induction items using profile_induction with
  | short items h => simp [sortProfiled_of_length_le_one h]
  | split pivot item rest ihl ihg =>
      have hwiden : ∀ o n, n * ((onSide o pivot (item :: rest)).length - 1) ≤
          n * (rest.length + 1) := by
        intro o n
        have hlength := length_onSide_le o pivot (item :: rest)
        rw [List.length_cons] at hlength
        exact Nat.mul_le_mul_left n (by omega)
      have hl := ihl.trans (hwiden .lt _)
      have hg := ihg.trans (hwiden .gt _)
      simp only [sortProfiled_split, List.length_cons, Nat.add_sub_cancel, Nat.add_mul, Nat.one_mul]
      omega

/-- **Each pivot is another element.**  It is on neither side of itself, and no element is on both
sides of it. -/
theorem partitions_le_card [DecidableEq α] [Std.OrientedOrd α] (items : List α) :
    (sortProfiled items).1.partitions ≤ items.toFinset.card := by
  induction items using profile_induction with
  | short items h => simp [sortProfiled_of_length_le_one h]
  | split pivot item rest ihl ihg =>
      set less := (onSide .lt pivot (item :: rest)).toFinset
      set greater := (onSide .gt pivot (item :: rest)).toFinset
      have hmem : ∀ o a, a ∈ (onSide o pivot (item :: rest)).toFinset →
          a ∈ item :: rest ∧ compare a pivot = o :=
        fun o a ha => mem_onSide.mp (List.mem_toFinset.mp ha)
      have hdisjoint : Disjoint less greater := by
        rw [Finset.disjoint_left]
        intro a hl hg
        cases (hmem .lt a hl).2.symm.trans (hmem .gt a hg).2
      have hpivot : pivot ∉ less ∪ greater := by
        intro h
        have hself : .eq = compare pivot pivot := Std.ReflCmp.compare_self.symm
        rcases Finset.mem_union.mp h with h | h
        · cases hself.trans (hmem .lt pivot h).2
        · cases hself.trans (hmem .gt pivot h).2
      have hsubset : insert pivot (less ∪ greater) ⊆ (pivot :: item :: rest).toFinset := by
        intro a ha
        rw [List.mem_toFinset]
        rcases Finset.mem_insert.mp ha with rfl | ha
        · exact List.mem_cons_self
        · refine List.mem_cons_of_mem pivot ?_
          rcases Finset.mem_union.mp ha with ha | ha
          · exact (hmem .lt a ha).1
          · exact (hmem .gt a ha).1
      calc (sortProfiled (pivot :: item :: rest)).1.partitions
          ≤ less.card + greater.card + 1 := by
            simp only [sortProfiled_split]
            omega
        _ = (insert pivot (less ∪ greater)).card := by
            rw [Finset.card_insert_of_notMem hpivot, Finset.card_union_of_disjoint hdisjoint]
        _ ≤ (pivot :: item :: rest).toFinset.card := Finset.card_le_card hsubset

/-! ## Lists that are never divided -/

/-- All that come after an element are less than it, or all are greater.  A single one may also be
equal: it makes no difference to the counters. -/
def OneSided : List α → Prop
  | [] => True
  | pivot :: rest =>
    (2 ≤ rest.length →
      (∀ a ∈ rest, compare a pivot = .lt) ∨ ∀ a ∈ rest, compare a pivot = .gt) ∧ OneSided rest

lemma oneSided_of_pairwise {items : List α} {o : Ordering} (ho : o ≠ .eq)
    (h : items.Pairwise fun a b => compare b a = o) : OneSided items := by
  induction items with
  | nil => trivial
  | cons pivot rest ih =>
      obtain ⟨hpivot, hrest⟩ := List.pairwise_cons.mp h
      refine ⟨fun _ => ?_, ih hrest⟩
      cases o with
      | lt => exact .inl hpivot
      | eq => exact absurd rfl ho
      | gt => exact .inr hpivot

/-- **A list that is never divided costs the most**: one partition for each element but the last,
one below the other, and one comparison for each pair. -/
theorem sortProfiled_of_oneSided {items : List α} (h : OneSided items) :
    (sortProfiled items).1 =
      { partitions := items.length - 1
        comparisons := items.length.choose 2
        maxDepth := items.length - 1 } := by
  induction items with
  | nil => rw [sortProfiled_of_length_le_one (by simp)]; rfl
  | cons pivot rest ih =>
      obtain ⟨hpivot, hrest⟩ := h
      cases rest with
      | nil => rw [sortProfiled_of_length_le_one (by simp)]; rfl
      | cons item rest =>
          have hnil : (sortProfiled ([] : List α)).1 = {} := sortProfiled_of_length_le_one (by simp)
          -- Everything goes to one side, or there is but one item and it ties.
          have hside : ∃ o, (∀ a ∈ item :: rest, compare a pivot = o) ∧ (o = .eq → rest = []) := by
            cases rest with
            | nil => exact ⟨compare item pivot, by simp, fun _ => rfl⟩
            | cons next rest =>
                rcases hpivot (by simp) with hlt | hgt
                · exact ⟨.lt, hlt, fun h => nomatch h⟩
                · exact ⟨.gt, hgt, fun h => nomatch h⟩
          have hchoose : (rest.length + 2).choose 2 =
              (rest.length + 1).choose 2 + (rest.length + 1) := by
            rw [Nat.choose_succ_succ, Nat.choose_one_right, Nat.add_comm]
          obtain ⟨o, ho, htie⟩ := hside
          simp only [sortProfiled_split]
          cases o with
          | lt =>
              rw [onSide_eq_self ho, onSide_eq_nil ho (by decide), ih hrest, hnil]
              simp [hchoose]
          | gt =>
              rw [onSide_eq_self ho, onSide_eq_nil ho (by decide), ih hrest, hnil]
              simp [hchoose]
          | eq =>
              rw [onSide_eq_nil ho (by decide), onSide_eq_nil ho (by decide), hnil, htie rfl]
              rfl

end ThreeBucket
