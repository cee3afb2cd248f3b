import Mathlib.Data.List.Chain
import ThreeBucket.Proofs.StableSort

/-!
# What the checks of a list decide

One check looks at neighbours only, the other compares two sorted copies place by place.  Both
decide what a reader would write with quantifiers, under few laws:

* `isSorted_iff_forall_lt` — the order of neighbours is the order of all pairs as soon as order is
  transitive.  **An element need not be in order with itself**, so numbers with an unordered element
  are included.
* `forall₂_of_ordered_of_count_eq` — lists in order with the same number of equals of every element
  are equal place by place.  They are not the same list: equals may differ, and may come in any
  order.
* `isPermutationOf_iff_count` — **two lists pass the check of elements exactly if they hold every
  element equally often**.
* `checks_decide` — both, and that the check of elements is an equivalence which does not depend on
  how the copies are sorted.
-/

namespace ThreeBucket

open scoped List

universe u

variable {α : Type u}

/-! ## Order -/

/-- **Neighbours in order are pairs in order.** -/
lemma isSorted_iff_forall_lt [PartialCompare α]
    (htrans : ∀ a b d : α, atMost a b = true → atMost b d = true → atMost a d = true)
    (items : List α) :
    isSorted items = true ↔
      ∀ (i j : Nat) (_ : i < j) (_ : j < items.length), atMost items[i] items[j] = true := by
  have _ : IsTrans α fun a b => atMost a b = true := ⟨htrans⟩
  rw [isSorted_iff_isChain, List.isChain_iff_pairwise, List.pairwise_iff_getElem]
  constructor
  · intro h i j hij hj
    exact h i j (hij.trans hj) hj hij
  · intro h i j _ hj hij
    exact h i j hij hj

/-! ## Elements -/

/-- Equality of lists is equality place by place. -/
lemma beq_iff_forall₂ [BEq α] {l l' : List α} :
    (l == l') = true ↔ List.Forall₂ (fun a b => (a == b) = true) l l' := by
  induction l generalizing l' with
  | nil => cases l' <;> simp
  | cons a rest ih =>
      cases l' with
      | nil => simp
      | cons b rest' => rw [List.cons_beq_cons, Bool.and_eq_true, ih, List.forall₂_cons]

section Elements

variable [Ord α] [Std.TransOrd α] [BEq α] [Std.LawfulBEqOrd α]

lemma beq_congr {a b : α} (h : (a == b) = true) (x : α) : (a == x) = (b == x) := by
  rw [Bool.eq_iff_iff]
  exact ⟨BEq.trans (BEq.symm h), BEq.trans h⟩

/-- Lists that are equal place by place hold every element equally often. -/
lemma count_eq_of_forall₂ {l l' : List α} (h : List.Forall₂ (fun a b => (a == b) = true) l l')
    (x : α) : l.count x = l'.count x := by
  induction h with
  | nil => rfl
  | cons hab _ ih => rw [List.count_cons, List.count_cons, ih, beq_congr hab]

lemma count_cons_pos (a : α) (l : List α) : 0 < (a :: l).count a := by
  rw [List.count_cons, if_pos BEq.rfl]
  omega

/-- The head of a list in order is not above anything that has an equal in the list. -/
lemma head_isLE_of_count_pos {a b : α} {l : List α}
    (hl : (b :: l).Pairwise fun x y => (compare x y).isLE) (h : 0 < (b :: l).count a) :
    (compare b a).isLE := by
  obtain ⟨y, hy, hya⟩ := List.countP_pos_iff.mp h
  have htied : compare y a = .eq := Std.LawfulBEqCmp.compare_eq_iff_beq.mpr hya
  rw [← Std.TransCmp.congr_right htied]
  rcases List.mem_cons.mp hy with rfl | hmem
  · exact Std.ReflCmp.isLE_rfl
  · exact List.rel_of_pairwise_cons hl hmem

/-- **Lists in order with the same counts are equal place by place.** -/
lemma forall₂_of_ordered_of_count_eq {l l' : List α} (hl : l.Pairwise fun a b => (compare a b).isLE)
    (hl' : l'.Pairwise fun a b => (compare a b).isLE) (h : ∀ x, l.count x = l'.count x) :
    List.Forall₂ (fun a b => (a == b) = true) l l' := by
  induction l generalizing l' with
  | nil =>
      cases l' with
      | nil => exact .nil
      | cons b rest' =>
          have hpos := count_cons_pos b rest'
          rw [← h b] at hpos
          simp at hpos
  | cons a rest ih =>
      cases l' with
      | nil =>
          have hpos := count_cons_pos a rest
          rw [h a] at hpos
          simp at hpos
      | cons b rest' =>
          -- Each head has an equal in the other list, so neither is above the other.
          have hba : (compare b a).isLE := head_isLE_of_count_pos hl' (h a ▸ count_cons_pos a rest)
          have hab : (compare a b).isLE := head_isLE_of_count_pos hl (h b ▸ count_cons_pos b rest')
          have hbeq : (a == b) = true :=
            Std.LawfulBEqCmp.compare_eq_iff_beq.mp (Std.OrientedCmp.isLE_antisymm hab hba)
          refine .cons hbeq (ih hl.of_cons hl'.of_cons fun x => ?_)
          have hx := h x
          rw [List.count_cons, List.count_cons, beq_congr hbeq] at hx
          exact Nat.add_right_cancel hx

/-- The comparison of two sorted copies, however they were sorted as long as it was stably. -/
lemma sorted_copies_beq_iff_count {candidate original sorted sorted' : List α}
    (h : IsStableSort compare candidate sorted) (h' : IsStableSort compare original sorted') :
    (candidate.length == original.length && sorted == sorted') = true ↔
      ∀ x, candidate.count x = original.count x := by
  rw [Bool.and_eq_true, beq_iff_eq, beq_iff_forall₂]
  constructor
  · rintro ⟨-, hbeq⟩ x
    rw [← h.perm.count_eq, count_eq_of_forall₂ hbeq, h'.perm.count_eq]
  · intro hcount
    have hbeq := forall₂_of_ordered_of_count_eq h.ordered h'.ordered fun x => by
      rw [h.perm.count_eq, h'.perm.count_eq, hcount x]
    refine ⟨?_, hbeq⟩
    rw [← h.perm.length_eq, ← h'.perm.length_eq, hbeq.length_eq]

/-- **The check of elements counts equals.** -/
lemma isPermutationOf_iff_count (candidate original : List α) :
    isPermutationOf candidate original = true ↔ ∀ x, candidate.count x = original.count x :=
  sorted_copies_beq_iff_count (Strategy.isStableSort_sort .std candidate)
    (Strategy.isStableSort_sort .std original)

end Elements

/-- **The checks decide what their names say.**  Where order is transitive, a list passes the check
of order exactly if every two of its elements are in order.  In a total preorder whose ties are the
equals, two lists pass the check of elements exactly if they hold the same number of equals of every
element, and so being a permutation is an equivalence.  Any other stable sort would decide the same
about them. -/
theorem checks_decide (α : Type u) :
    (∀ [PartialCompare α],
      (∀ a b d : α, atMost a b = true → atMost b d = true → atMost a d = true) →
      ∀ items : List α, isSorted items = true ↔
        ∀ (i j : Nat) (_ : i < j) (_ : j < items.length), atMost items[i] items[j] = true) ∧
    ∀ [Ord α] [Std.TransOrd α] [BEq α] [Std.LawfulBEqOrd α],
      (∀ candidate original : List α, isPermutationOf candidate original = true ↔
        ∀ x, candidate.count x = original.count x) ∧
      Equivalence (fun candidate original : List α => isPermutationOf candidate original = true) ∧
      ∀ sort : List α → List α, (∀ items, IsStableSort compare items (sort items)) →
        ∀ candidate original : List α, isPermutationOf candidate original =
          (candidate.length == original.length && sort candidate == sort original) := by
  refine ⟨fun htrans => isSorted_iff_forall_lt htrans, fun {_ _ _ _} => ?_⟩
  refine ⟨isPermutationOf_iff_count, ⟨fun items => ?_, fun h => ?_, fun h h' => ?_⟩, ?_⟩
  · rw [isPermutationOf_iff_count]
    exact fun _ => rfl
  · rw [isPermutationOf_iff_count] at h ⊢
    exact fun x => (h x).symm
  · rw [isPermutationOf_iff_count] at h h' ⊢
    exact fun x => (h x).trans (h' x)
  · intro sort hsort candidate original
    rw [Bool.eq_iff_iff, isPermutationOf_iff_count,
      sorted_copies_beq_iff_count (hsort candidate) (hsort original)]

/-- Order of numbers is transitive, although some patterns are not in order with themselves. -/
lemma Binary64.atMost_trans (x y z : Binary64) (hxy : atMost x y = true) (hyz : atMost y z = true) :
    atMost x z = true := by
  rw [atMost_iff] at hxy hyz ⊢
  exact Binary64.lawful_compare?.atMost_trans hxy hyz

/-- An element of which only the number counts, in order and in equality. -/
structure Numbered where
  number : Nat
  name : Char

instance : Ord Numbered where
  compare := compareOn Numbered.number

instance : Std.TransOrd Numbered :=
  inferInstanceAs (Std.TransCmp (compareOn Numbered.number))

instance : BEq Numbered where
  beq a b := a.number == b.number

instance : Std.LawfulBEqOrd Numbered where
  compare_eq_iff_beq := by
    intro a b
    show compare a.number b.number = .eq ↔ _
    exact Std.LawfulEqCmp.compare_eq_iff_eq.trans beq_iff_eq.symm

/-- A pattern that is no number is out of order wherever it stands, and equals may stand for each
other. -/
theorem checks_decide_unordered_and_numbered :
    let numbers := [Binary64.zero false, .zero true, .infinity false]
    (atMost Binary64.nan Binary64.nan = false ∧ isSorted numbers = true ∧
      ∀ (i j : Nat) (_ : i < j) (_ : j < numbers.length), atMost numbers[i] numbers[j] = true) ∧
    isSorted [Binary64.zero false, .nan, .infinity false] ≠ true ∧
    isPermutationOf [(⟨2, 'a'⟩ : Numbered), ⟨1, 'b'⟩, ⟨2, 'c'⟩] [⟨1, 'd'⟩, ⟨2, 'e'⟩, ⟨2, 'f'⟩] =
      true ∧
    isPermutationOf [(⟨2, 'a'⟩ : Numbered), ⟨1, 'b'⟩] [⟨1, 'b'⟩, ⟨1, 'a'⟩] ≠ true := by
  intro numbers
  have horder := (checks_decide Binary64).1 Binary64.atMost_trans
  have helements := (checks_decide Numbered).2.1
  have hbeq : ∀ a b : Numbered, (a == b) = (a.number == b.number) := fun _ _ => rfl
  have hnumbers : isSorted numbers = true := by decide
  refine ⟨⟨by decide, hnumbers, (horder _).mp hnumbers⟩, fun h => ?_, (helements _ _).mpr ?_,
    fun h => ?_⟩
  · exact absurd ((horder _).mp h 0 1 (by decide) (by decide)) (by decide)
  · intro x
    simp only [List.count_cons, List.count_nil, hbeq]
    omega
  · exact absurd ((helements _ _).mp h ⟨2, 'x'⟩) (by decide)

end ThreeBucket
