import Mathlib.Data.List.Chain
import Mathlib.Tactic.SplitIfs
import ThreeBucket.Binary64
import ThreeBucket.Check
import ThreeBucket.Proofs.Completion
import ThreeBucket.Proofs.PureComparison

/-!
# Sorting a partial order

The fallible sort asks about few pairs: an item and a pivot.  In a lawful partial order that is
enough to find out about *all* pairs.  Two items on different sides of a pivot are ordered
through it, and two items on the same side meet again one level deeper.

* `LawfulPartialCmp` — answers turn round with the question, and compose.  **Nothing is asked of
  an element against itself**, so numbers with an unordered element are included.
* `pairwise_atMost_of_trySortAt` — a success is in order, and hence every two of its elements are
  comparable.
* `exists_trySortAt_of_pairwise` — a sort of comparable elements succeeds.
* `answered_eq_of_trySortAt` — a success keeps the order of tied elements.
* `trySort_eq_ok_iff_comparable` — all of it, for the partial order of a type.
-/

namespace ThreeBucket

open scoped List

universe u

variable {α : Type u} {f : α → α → Option Ordering}

/-! ## Laws -/

/-- The answers of `f` are those of a partial order, which need not relate an element to
itself. -/
structure LawfulPartialCmp (f : α → α → Option Ordering) : Prop where
  /-- The turned question has the turned answer, or none if there is none. -/
  swap : ∀ a b, f b a = (f a b).map Ordering.swap
  /-- Two steps that do not go down make one, and it stays level only if both steps did. -/
  trans : ∀ a b d o o', f a b = some o → f b d = some o' → o.isLE → o'.isLE →
    f a d = some (o.then o')

/-- An ordering is known and does not go down from `a` to `b`. -/
def AtMost (f : α → α → Option Ordering) (a b : α) : Prop :=
  ∃ o, f a b = some o ∧ o.isLE

lemma AtMost.isSome {a b : α} (h : AtMost f a b) : (f a b).isSome := by
  obtain ⟨o, ho, -⟩ := h
  simp [ho]

namespace LawfulPartialCmp

lemma isSome_comm (law : LawfulPartialCmp f) (a b : α) : (f a b).isSome = (f b a).isSome := by
  rw [law.swap a b, Option.isSome_map]

lemma eq_some_swap (law : LawfulPartialCmp f) {a b : α} {o : Ordering} (h : f a b = some o) :
    f b a = some o.swap := by
  rw [law.swap a b, h, Option.map_some]

lemma atMost_of_isGE (law : LawfulPartialCmp f) {a b : α} {o : Ordering} (h : f a b = some o)
    (hge : o.isGE) : AtMost f b a :=
  ⟨o.swap, law.eq_some_swap h, by rwa [Ordering.isLE_swap]⟩

lemma atMost_trans (law : LawfulPartialCmp f) {a b d : α} (hab : AtMost f a b)
    (hbd : AtMost f b d) : AtMost f a d := by
  obtain ⟨o, ho, hle⟩ := hab
  obtain ⟨o', ho', hle'⟩ := hbd
  refine ⟨o.then o', law.trans a b d o o' ho ho' hle hle', ?_⟩
  cases o <;> simp_all

/-- Tied elements get the same answer about anything that one of them is comparable with. -/
lemma answer_of_tied (law : LawfulPartialCmp f) {a x p : α} {o : Ordering}
    (htied : f a x = some .eq) (ho : f a p = some o) : f x p = some o := by
  have hxa : f x a = some .eq := law.eq_some_swap htied
  cases o with
  | lt => exact law.trans x a p .eq .lt hxa ho rfl rfl
  | eq => exact law.trans x a p .eq .eq hxa ho rfl rfl
  | gt =>
      -- The laws speak of steps that do not go down, so go from `p` to `x` and turn round.
      have hpx : f p x = some .lt := law.trans p a x .lt .eq (law.eq_some_swap ho) htied rfl rfl
      exact law.eq_some_swap hpx

/-- A total preorder is a partial order in which everything is comparable. -/
lemma ofTransCmp (g : α → α → Ordering) [Std.TransCmp g] :
    LawfulPartialCmp fun a b => some (g a b) where
  swap a b := congrArg some Std.OrientedCmp.eq_swap
  trans a b d o o' ho ho' hle hle' := by
    obtain rfl := Option.some.inj ho
    obtain rfl := Option.some.inj ho'
    cases hab : g a b with
    | lt =>
        have had : g a d = .lt := Std.TransCmp.lt_of_lt_of_isLE hab hle'
        simp [had]
    | eq => simp [Std.TransCmp.congr_left hab]
    | gt => simp [hab] at hle

end LawfulPartialCmp

/-- The order of numbers is lawful, although a pattern that is not a number is not even
comparable with itself. -/
theorem Binary64.lawful_compare? : LawfulPartialCmp (PartialCompare.compare? (α := Binary64)) where
  swap x y := by
    show Binary64.compare? y x = (Binary64.compare? x y).map Ordering.swap
    simp only [Binary64.compare?, Bool.or_comm y.isNaN]
    split_ifs
    · rfl
    · exact congrArg some Std.OrientedCmp.eq_swap
  trans x y z o o' h h' hle hle' := by
    change Binary64.compare? x y = some o at h
    change Binary64.compare? y z = some o' at h'
    show Binary64.compare? x z = some (o.then o')
    simp only [Binary64.compare?, Option.ite_none_left_eq_some, Bool.or_eq_true, not_or] at h h' ⊢
    exact ⟨⟨h.1.1, h'.1.2⟩,
      (LawfulPartialCmp.ofTransCmp compare).trans _ _ _ o o' h.2 h'.2 hle hle'⟩

/-! ## A success is in order -/

/-- **Order is put together at the pivot.**  Sorted lesser and greater items, with the pivot and
its equals between them, are sorted. -/
lemma pairwise_atMost_join (law : LawfulPartialCmp f) {pivot : α} {less equal greater : List α}
    (hl : less.Pairwise (AtMost f)) (hg : greater.Pairwise (AtMost f))
    (hless : ∀ a ∈ less, f a pivot = some .lt) (hequal : ∀ a ∈ equal, f a pivot = some .eq)
    (hgreater : ∀ a ∈ greater, f a pivot = some .gt) :
    (less ++ pivot :: (equal ++ greater)).Pairwise (AtMost f) := by
  have below : ∀ a ∈ less, AtMost f a pivot := fun a ha => ⟨.lt, hless a ha, rfl⟩
  have level : ∀ a ∈ equal, AtMost f a pivot := fun a ha => ⟨.eq, hequal a ha, rfl⟩
  have above : ∀ a ∈ equal ++ greater, AtMost f pivot a := by
    intro a ha
    rcases List.mem_append.mp ha with ha | ha
    · exact law.atMost_of_isGE (hequal a ha) rfl
    · exact law.atMost_of_isGE (hgreater a ha) rfl
  have hequals : equal.Pairwise (AtMost f) :=
    List.pairwise_of_forall_mem_list fun a ha b hb =>
      law.atMost_trans (level a ha) (above b (List.mem_append_left _ hb))
  refine List.pairwise_append.mpr ⟨hl, List.pairwise_cons.mpr ⟨above, ?_⟩, ?_⟩
  · refine List.pairwise_append.mpr ⟨hequals, hg, fun a ha b hb => ?_⟩
    exact law.atMost_trans (level a ha) (above b (List.mem_append_right _ hb))
  · intro a ha b hb
    rcases List.mem_cons.mp hb with rfl | hb
    · exact below a ha
    · exact law.atMost_trans (below a ha) (above b hb)

/-- **A success is sorted**: no element goes down to a later one. -/
theorem pairwise_atMost_of_trySortAt (law : LawfulPartialCmp f) {depth : Nat} {s t : Unit}
    {items sorted : List α} (h : trySortAt (.ofFun f) depth s items = (t, .ok sorted)) :
    sorted.Pairwise (AtMost f) := by
  induction items using answered_induction f generalizing depth s t sorted with
  | nil =>
      simp only [trySortAt_nil, Prod.mk.injEq, Except.ok.injEq] at h
      rw [← h.2]
      exact List.Pairwise.nil
  | cons pivot rest ihl ihg =>
      obtain ⟨-, less, greater, hl, hg, rfl⟩ := trySortAt_ofFun_cons_eq_ok_iff.mp h
      refine pairwise_atMost_join law (ihl hl) (ihg hg) ?_ ?_ ?_
      · intro a ha
        exact (mem_answered.mp ((perm_of_trySortAt hl).mem_iff.mp ha)).2
      · intro a ha
        exact (mem_answered.mp ha).2
      · intro a ha
        exact (mem_answered.mp ((perm_of_trySortAt hg).mem_iff.mp ha)).2

/-! ## Success and comparability

That every two elements are comparable does not depend on the order in which they stand.  So it
can be read off the sorted list.
-/

lemma pairwise_isSome_of_trySortAt (law : LawfulPartialCmp f) {depth : Nat} {s t : Unit}
    {items sorted : List α} (h : trySortAt (.ofFun f) depth s items = (t, .ok sorted)) :
    items.Pairwise fun a b => (f a b).isSome := by
  have hsorted : sorted.Pairwise fun a b => (f a b).isSome :=
    (pairwise_atMost_of_trySortAt law h).imp AtMost.isSome
  refine ((perm_of_trySortAt h).pairwise_iff ?_).mp hsorted
  intro a b hab
  rwa [← law.isSome_comm]

/-- **A sort of comparable elements succeeds.** -/
theorem exists_trySortAt_of_pairwise (law : LawfulPartialCmp f) (depth : Nat) {items : List α}
    (h : items.Pairwise fun a b => (f a b).isSome) :
    ∃ sorted, trySortAt (.ofFun f) depth () items = ((), .ok sorted) := by
  induction items using answered_induction f generalizing depth with
  | nil => exact ⟨[], trySortAt_nil _ _ _⟩
  | cons pivot rest ihl ihg =>
      obtain ⟨hpivot, hrest⟩ := List.pairwise_cons.mp h
      have hall : ∀ a ∈ rest, (f a pivot).isSome := by
        intro a ha
        rw [law.isSome_comm]
        exact hpivot a ha
      obtain ⟨less, hl⟩ := ihl (depth + 1) (hrest.sublist (answered_sublist f .lt pivot rest))
      obtain ⟨greater, hg⟩ := ihg (depth + 1) (hrest.sublist (answered_sublist f .gt pivot rest))
      exact ⟨_, trySortAt_ofFun_cons_eq_ok_iff.mpr ⟨hall, less, greater, hl, hg, rfl⟩⟩

/-! ## Ties keep their order -/

/-- The elements tied with `x` are all in the bucket into which `x` itself would go. -/
lemma answered_eq_answered (law : LawfulPartialCmp f) {pivot : α} {rest : List α}
    (hall : ∀ a ∈ rest, (f a pivot).isSome) (o : Ordering) (x : α) :
    answered f .eq x (answered f o pivot rest)
      = if f x pivot = some o then answered f .eq x rest else [] := by
  split_ifs with hx
  · simp only [answered, List.filter_filter]
    refine List.filter_congr fun a ha => ?_
    obtain ⟨o', ho'⟩ := Option.isSome_iff_exists.mp (hall a ha)
    rw [Bool.eq_iff_iff, Bool.and_eq_true, and_iff_left_iff_imp]
    intro htied
    rw [ho', ← law.answer_of_tied (eq_of_beq htied) ho', hx]
    simp
  · refine List.filter_eq_nil_iff.mpr fun a ha htied => hx ?_
    exact law.answer_of_tied (eq_of_beq htied) (mem_answered.mp ha).2

lemma answered_singleton (law : LawfulPartialCmp f) (pivot x : α) :
    answered f .eq x [pivot] = if f x pivot = some .eq then [pivot] else [] := by
  have hcomm : f pivot x = some .eq ↔ f x pivot = some .eq :=
    ⟨fun h => law.eq_some_swap h, fun h => law.eq_some_swap h⟩
  simp only [answered, List.filter_cons, List.filter_nil, beq_iff_eq, hcomm]

/-- **A success keeps the order of ties**: the elements tied with `x` are the same list before and
after. -/
theorem answered_eq_of_trySortAt (law : LawfulPartialCmp f) {depth : Nat} {s t : Unit}
    {items sorted : List α} (h : trySortAt (.ofFun f) depth s items = (t, .ok sorted)) (x : α) :
    answered f .eq x sorted = answered f .eq x items := by
  induction items using answered_induction f generalizing depth s t sorted with
  | nil =>
      simp only [trySortAt_nil, Prod.mk.injEq, Except.ok.injEq] at h
      rw [h.2]
  | cons pivot rest ihl ihg =>
      obtain ⟨hall, less, greater, hl, hg, rfl⟩ := trySortAt_ofFun_cons_eq_ok_iff.mp h
      show answered f .eq x (less ++ ([pivot] ++ (answered f .eq pivot rest ++ greater)))
        = answered f .eq x ([pivot] ++ rest)
      simp only [answered_append, ihl hl, ihg hg, answered_eq_answered law hall,
        answered_singleton law]
      -- `x` has at most one bucket; without one, nothing is tied with it.
      cases hx : f x pivot with
      | none =>
          have hrest : answered f .eq x rest = [] := by
            refine List.eq_nil_iff_forall_not_mem.mpr fun a ha => ?_
            obtain ⟨ha, htied⟩ := mem_answered.mp ha
            obtain ⟨o, ho⟩ := Option.isSome_iff_exists.mp (hall a ha)
            rw [law.answer_of_tied htied ho] at hx
            cases hx
          simp [hrest]
      | some o => cases o <;> simp

/-! ## The partial order of a type -/

/-- Comparable in pairs is comparable at any two different places. -/
lemma pairwise_isSome_iff (law : LawfulPartialCmp f) (items : List α) :
    (items.Pairwise fun a b => (f a b).isSome) ↔
      ∀ i j : Fin items.length, i ≠ j → (f items[i] items[j]).isSome := by
  rw [List.pairwise_iff_getElem]
  constructor
  · intro h i j hij
    rcases Nat.lt_or_gt_of_ne (Fin.val_ne_of_ne hij) with hlt | hgt
    · exact h i j i.isLt j.isLt hlt
    · rw [law.isSome_comm]
      exact h j i j.isLt i.isLt hgt
  · intro h i j hi hj hij
    exact h ⟨i, hi⟩ ⟨j, hj⟩ (Fin.ne_of_lt hij)

variable [PartialCompare α]

lemma atMost_iff (a b : α) : atMost a b = true ↔ AtMost compare? a b := by
  cases h : compare? a b <;> simp [atMost, AtMost, h]

/-- The check of a list looks at neighbours. -/
lemma isSorted_iff_isChain (items : List α) :
    isSorted items = true ↔ items.IsChain fun a b => atMost a b = true := by
  induction items with
  | nil => simp [isSorted]
  | cons a rest ih =>
      cases rest with
      | nil => simp [isSorted]
      | cons b rest => rw [isSorted, Bool.and_eq_true, ih, List.isChain_cons_cons]

/-- **The sort finds every pair without an ordering.**  In a lawful partial order it succeeds
exactly if the elements at any two places are comparable.  What it gives is then a permutation of
the list, in order throughout and so to the check of neighbours, with ties as they were. -/
theorem trySort_eq_ok_iff_comparable (law : LawfulPartialCmp (compare? (α := α)))
    (items : List α) :
    ((∃ sorted, trySort items = .ok sorted) ↔
      ∀ i j : Fin items.length, i ≠ j → (compare? items[i] items[j]).isSome) ∧
    ∀ sorted, trySort items = .ok sorted →
      sorted ~ items ∧
      (sorted.Pairwise fun a b => atMost a b = true) ∧
      isSorted sorted = true ∧
      ∀ x, sorted.filter (fun a => compare? a x == some .eq) =
        items.filter (fun a => compare? a x == some .eq) := by
  have hrun : ∀ sorted, trySort items = .ok sorted ↔
      trySortAt (.ofFun compare?) 0 () items = ((), .ok sorted) :=
    fun sorted => ⟨fun h => Prod.ext rfl h, fun h => congrArg Prod.snd h⟩
  refine ⟨?_, fun sorted h => ?_⟩
  · rw [← pairwise_isSome_iff law]
    constructor
    · rintro ⟨sorted, h⟩
      exact pairwise_isSome_of_trySortAt law ((hrun sorted).mp h)
    · intro h
      obtain ⟨sorted, hsorted⟩ := exists_trySortAt_of_pairwise law 0 h
      exact ⟨sorted, (hrun sorted).mpr hsorted⟩
  · have hok := (hrun sorted).mp h
    have hordered : sorted.Pairwise fun a b => atMost a b = true :=
      (pairwise_atMost_of_trySortAt law hok).imp fun hab => (atMost_iff _ _).mpr hab
    exact ⟨perm_of_trySortAt hok, hordered, (isSorted_iff_isChain sorted).mpr hordered.isChain,
      answered_eq_of_trySortAt law hok⟩

/-- The two zeros are tied and keep their order, and a pattern that is not a number makes the sort
fail. -/
theorem trySort_zeros_and_nan :
    (∃ sorted, trySort [Binary64.zero true, .infinity true, .zero false] = .ok sorted ∧
      isSorted sorted = true ∧
      sorted.filter (fun a => compare? a (Binary64.zero false) == some .eq)
        = [.zero true, .zero false]) ∧
    ¬ ∃ sorted, trySort [Binary64.zero true, .nan, .zero false] = .ok sorted := by
  refine ⟨?_, ?_⟩
  · have hmain := trySort_eq_ok_iff_comparable Binary64.lawful_compare?
      [.zero true, .infinity true, .zero false]
    obtain ⟨sorted, h⟩ := hmain.1.mpr (by decide)
    obtain ⟨-, -, hsorted, htied⟩ := hmain.2 sorted h
    exact ⟨sorted, h, hsorted, (htied _).trans (by decide)⟩
  · rw [(trySort_eq_ok_iff_comparable Binary64.lawful_compare? _).1]
    decide

end ThreeBucket
