import ThreeBucket.Bench
import ThreeBucket.Proofs.StableSort

/-!
# Checking a sort by its output

A list can be known to be the sorted form of another without trusting the sort that made it: it
must be in order, and it must hold the same elements.  The check of the elements is made by sorting
both lists, which is no circle, because a list that is in order is its own sorted form.

* `isSorted_iff_pairwise` — the check of neighbours is a check of all pairs.
* `isSorted_and_isPermutationOf_iff` — **the two checks admit one list only**, the stable sort.
  Ties do not matter for this, as long as equality tells elements apart.
* `examine_eq` — the third check never is the one that fails.
* `verify_exact` — an examination admits the output of the standard sort and no other list, and so a
  verification admits every strategy on every input.
-/

namespace ThreeBucket

universe u

variable {α : Type u} [Ord α]

/-! ## The two checks -/

lemma Strategy.std_sort_eq_self {items : List α}
    (h : items.Pairwise fun a b => (compare a b).isLE) : Strategy.std.sort items = items :=
  List.mergeSort_of_pairwise h

variable [Std.TransOrd α]

lemma isSorted_iff_pairwise (items : List α) :
    isSorted items = true ↔ items.Pairwise fun a b => (compare a b).isLE := by
  have hle : ∀ a b d : α, (compare a b).isLE → (compare b d).isLE → (compare a d).isLE :=
    fun _ _ _ => Std.TransCmp.isLE_trans
  have htrans : IsTrans α fun a b => atMost a b = true := ⟨hle⟩
  rw [isSorted_iff_isChain, List.isChain_iff_pairwise]
  rfl

variable [BEq α] [LawfulBEq α]

lemma isPermutationOf_iff (candidate items : List α) :
    isPermutationOf candidate items = true ↔
      Strategy.std.sort candidate = Strategy.std.sort items := by
  rw [isPermutationOf, Bool.and_eq_true, beq_iff_eq, beq_iff_eq, and_iff_right_iff_imp]
  intro h
  calc candidate.length
      = (Strategy.std.sort candidate).length :=
        (Strategy.isStableSort_sort .std candidate).perm.length_eq.symm
    _ = (Strategy.std.sort items).length := by rw [h]
    _ = items.length := (Strategy.isStableSort_sort .std items).perm.length_eq

/-- **Only the sorted form of a list stands both checks.** -/
theorem isSorted_and_isPermutationOf_iff (candidate items : List α) :
    isSorted candidate = true ∧ isPermutationOf candidate items = true ↔
      candidate = Strategy.std.sort items := by
  rw [isSorted_iff_pairwise, isPermutationOf_iff]
  constructor
  · rintro ⟨hsorted, hsame⟩
    rw [← hsame, Strategy.std_sort_eq_self hsorted]
  · rintro rfl
    have hordered := (Strategy.isStableSort_sort .std items).ordered
    exact ⟨hordered, Strategy.std_sort_eq_self hordered⟩

/-! ## The verification of a strategy -/

/-- **The first two checks decide.**  A list that passes them is what the standard sort gives, so it
passes the third. -/
theorem examine_eq (strategy : Strategy) (input candidate : List Int) :
    examine strategy input candidate =
      if isSorted candidate = true then
        if isPermutationOf candidate input = true then .ok ()
        else .error (.unverified strategy "output is not a permutation of the input")
      else .error (.unverified strategy "output is not in non-decreasing order") := by
  rw [examine]
  by_cases hsorted : isSorted candidate = true
  · by_cases hperm : isPermutationOf candidate input = true
    · have heq := (isSorted_and_isPermutationOf_iff candidate input).mp ⟨hsorted, hperm⟩
      have hthird : (strategy != .std && candidate != Strategy.std.sort input) = false := by
        simp [heq]
      simp only [hsorted, hperm, hthird, Bool.not_true, Bool.false_eq_true, if_false, if_true]
    · simp [hsorted, hperm]
  · simp [hsorted]

lemma examine_eq_ok_iff (strategy : Strategy) (input candidate : List Int) :
    examine strategy input candidate = .ok () ↔ candidate = Strategy.std.sort input := by
  rw [← isSorted_and_isPermutationOf_iff, examine_eq]
  by_cases hsorted : isSorted candidate = true
  · by_cases hperm : isPermutationOf candidate input = true <;> simp [hsorted, hperm]
  · simp [hsorted]

lemma examine_ne_differs (strategy : Strategy) (input candidate : List Int) :
    examine strategy input candidate ≠
      .error (.unverified strategy "output differs from the reference sort") := by
  rw [examine_eq]
  split_ifs <;> simp

/-- Every strategy makes of an input what the standard sort makes of it. -/
lemma verify_eq_ok (strategy : Strategy) (input : List Int) : verify strategy input = .ok () := by
  rw [verify, examine_eq_ok_iff]
  exact (Strategy.isStableSort_sort strategy input).unique (Strategy.isStableSort_sort .std input)

/-- **Verification raises no false alarm and misses nothing.**  Of all lists, the sorted form of the
input alone passes the check of the order together with that of the elements.  So it alone passes an
examination, and none fails because it differs from what the standard sort gives.  It is the list
that any stable sort gives.  And the output of the strategy passes, whatever the settings and the
input. -/
theorem verify_exact (input : List Int) :
    (∀ candidate : List Int,
      isSorted candidate = true ∧ isPermutationOf candidate input = true ↔
        candidate = Strategy.std.sort input) ∧
    (∀ (strategy : Strategy) (candidate : List Int),
      (examine strategy input candidate = .ok () ↔ candidate = Strategy.std.sort input) ∧
      examine strategy input candidate ≠
        .error (.unverified strategy "output differs from the reference sort")) ∧
    (∀ sorted : List Int, IsStableSort compare input sorted → Strategy.std.sort input = sorted) ∧
    ∀ settings : Settings, verify settings.strategy input = .ok () := by
  refine ⟨fun candidate => isSorted_and_isPermutationOf_iff candidate input, ?_, ?_, ?_⟩
  · intro strategy candidate
    exact ⟨examine_eq_ok_iff strategy input candidate, examine_ne_differs strategy input candidate⟩
  · intro sorted hstable
    exact (Strategy.isStableSort_sort .std input).unique hstable
  · intro settings
    exact verify_eq_ok settings.strategy input

/-- The order alone and the elements alone do not make a list the sorted one. -/
theorem verify_exact_duplicates :
    (isSorted [-3, 1, 1] = true ∧ isPermutationOf [-3, 1, 1] [1, -3, (1 : Int)] = true) ∧
    examine .workStack [1, -3, 1] [-3, 1, 1] = .ok () ∧
    (isSorted [-3, -3, (1 : Int)] = true ∧ isPermutationOf [-3, -3, 1] [1, -3, (1 : Int)] ≠ true) ∧
    verify .workStack [1, -3, 1] = .ok () := by
  have hmain := verify_exact [1, -3, 1]
  have hstable : IsStableSort compare [1, -3, (1 : Int)] [-3, 1, 1] := by
    have hrun : Strategy.recursive.sort [1, -3, (1 : Int)] = [-3, 1, 1] := by decide +kernel
    rw [← hrun]
    exact Strategy.isStableSort_sort .recursive _
  have hstd := hmain.2.2.1 [-3, 1, 1] hstable
  have hbad : isSorted [-3, -3, (1 : Int)] = true := by decide
  refine ⟨(hmain.1 [-3, 1, 1]).mpr hstd.symm, (hmain.2.1 .workStack _).1.mpr hstd.symm,
    ⟨hbad, fun h => ?_⟩, hmain.2.2.2 { strategy := .workStack }⟩
  have heq := (hmain.1 [-3, -3, 1]).mp ⟨hbad, h⟩
  rw [hstd] at heq
  exact absurd heq (by decide)

end ThreeBucket
