import Mathlib.Tactic.TFAE
import ThreeBucket.Proofs.Profile

/-!
# The worst case of a profile

How large the counters of a profile can become, and on which lists they do.  Two of the counters are
put together from the two sides of a pivot in the same way, and both are bounded by a function of
the length that prefers one large side to two small ones.  So the bounds are reached on the same
lists: **those that no partition divides**.

* `Extremal`, `Extremal.le_bound`, `Extremal.oneSided_of_eq` — a counter with such a bound, that it
  is a bound, and where it is reached.
* `extremal_partitions`, `extremal_comparisons` — the two counters.
* `ProfiledCall` — the calls that the profiled sort makes, with the counters that each one takes
  over.  `ProfiledCall.atMost`: no counter is ever larger than at the end.
* `profile_extremes` — all bounds, and the lists on which they are reached.
-/

namespace ThreeBucket

universe u

variable {α : Type u} [Ord α]

/-! ## The two sides -/

lemma length_sides_le (pivot : α) (items : List α) :
    (onSide .lt pivot items).length + (onSide .gt pivot items).length ≤ items.length := by
  induction items with
  | nil => simp [onSide]
  | cons item rest ih =>
      simp only [onSide, List.filter_cons] at ih ⊢
      cases compare item pivot <;> simp <;> omega

lemma forall_mem_of_length_onSide {o : Ordering} {pivot : α} {items : List α}
    (h : (onSide o pivot items).length = items.length) : ∀ a ∈ items, compare a pivot = o := by
  intro a ha
  have hall := List.length_filter_eq_length_iff.mp h a ha
  simpa using hall

/-! ## Counters with an extremal bound -/

/-- A counter that a list takes from the two sides of its first element.  What the partition adds to
it is what one more element adds to the bound, and the bound for two sides of a division is less
than that for all items on one side. -/
structure Extremal (cost : List α → Nat) (bound : Nat → Nat) : Prop where
  short : ∀ items, items.length ≤ 1 → cost items = 0
  split : ∀ pivot item rest,
    cost (pivot :: item :: rest) + bound (item :: rest).length =
      cost (onSide .lt pivot (item :: rest)) + cost (onSide .gt pivot (item :: rest)) +
        bound (pivot :: item :: rest).length
  bound_zero : bound 0 = 0
  divided : ∀ l g m, l + g ≤ m → l < m → g < m → 2 ≤ m → bound l + bound g < bound m

namespace Extremal

variable {cost : List α → Nat} {bound : Nat → Nat}

lemma add_le (h : Extremal cost bound) {l g m : Nat} (hsum : l + g ≤ m) :
    bound l + bound g ≤ bound m := by
  have hzero := h.bound_zero
  by_cases hl : l = m
  · obtain rfl : g = 0 := by omega
    rw [hl, hzero, Nat.add_zero]
  · by_cases hg : g = m
    · obtain rfl : l = 0 := by omega
      rw [hg, hzero, Nat.zero_add]
    · by_cases hm : 2 ≤ m
      · exact (h.divided l g m hsum (by omega) (by omega) hm).le
      · obtain ⟨rfl, rfl⟩ : l = 0 ∧ g = 0 := by omega
        omega

theorem le_bound (h : Extremal cost bound) (items : List α) : cost items ≤ bound items.length := by
  induction items using profile_induction with
  | short items hshort => simp [h.short items hshort]
  | split pivot item rest ihl ihg =>
      have hsplit := h.split pivot item rest
      have hsides := h.add_le (length_sides_le pivot (item :: rest))
      omega

/-- **The bound is reached only if no partition divides its items.** -/
theorem oneSided_of_eq (h : Extremal cost bound) {items : List α}
    (heq : cost items = bound items.length) : OneSided items := by
  induction items using profile_induction with
  | short items hshort =>
      match items, hshort with
      | [], _ => trivial
      | [item], _ => exact ⟨by simp, trivial⟩
  | split pivot item rest ihl ihg =>
      have hsplit := h.split pivot item rest
      have hl := h.le_bound (onSide .lt pivot (item :: rest))
      have hg := h.le_bound (onSide .gt pivot (item :: rest))
      have hsides := length_sides_le pivot (item :: rest)
      have hzero := h.bound_zero
      have hreached : cost (onSide .lt pivot (item :: rest)) +
          cost (onSide .gt pivot (item :: rest)) = bound (item :: rest).length := by
        omega
      -- The side that has all items has reached its own bound, as nothing is left for the other.
      by_cases hless : (onSide .lt pivot (item :: rest)).length = (item :: rest).length
      · have hall := forall_mem_of_length_onSide hless
        have hnone : (onSide .gt pivot (item :: rest)).length = 0 := by omega
        have hself := onSide_eq_self hall
        rw [hnone] at hg
        rw [hself] at ihl hreached
        exact ⟨fun _ => .inl hall, ihl (by omega)⟩
      · by_cases hgreater : (onSide .gt pivot (item :: rest)).length = (item :: rest).length
        · have hall := forall_mem_of_length_onSide hgreater
          have hnone : (onSide .lt pivot (item :: rest)).length = 0 := by omega
          have hself := onSide_eq_self hall
          rw [hnone] at hl
          rw [hself] at ihg hreached
          exact ⟨fun _ => .inr hall, ihg (by omega)⟩
        · -- Divided items, or items tied with the pivot, cost less; but a single item may tie.
          have hsingle : ¬2 ≤ (item :: rest).length := by
            intro hlong
            have hdivided := h.divided _ _ _ hsides (by omega) (by omega) hlong
            omega
          obtain rfl : rest = [] := by
            rw [← List.length_eq_zero_iff]
            simp only [List.length_cons] at hsingle
            omega
          exact ⟨by simp, by simp, trivial⟩

end Extremal

/-! ## The two counters -/

lemma extremal_partitions :
    Extremal (fun items : List α => (sortProfiled items).1.partitions) (· - 1) where
  short items h := by simp [sortProfiled_of_length_le_one h]
  split pivot item rest := by
    simp only [sortProfiled_split, List.length_cons]
    omega
  bound_zero := rfl
  divided l g m _ _ _ _ := by omega

lemma choose_two_add_lt {l g m : Nat} (hsum : l + g ≤ m) (hl : l < m) (hg : g < m) (hm : 2 ≤ m) :
    l.choose 2 + g.choose 2 < m.choose 2 := by
  have htwice : ∀ n : Nat, n.choose 2 * 2 = n * (n - 1) := by
    intro n
    cases n with
    | zero => rfl
    | succ n => rw [← Nat.add_one_mul_choose_eq, Nat.choose_one_right, Nat.succ_sub_one]
  have hless : l * (l - 1) ≤ l * (m - 2) := Nat.mul_le_mul_left l (by omega)
  have hgreater : g * (g - 1) ≤ g * (m - 2) := Nat.mul_le_mul_left g (by omega)
  have hdouble : (l.choose 2 + g.choose 2) * 2 < m.choose 2 * 2 := by
    calc (l.choose 2 + g.choose 2) * 2
        = l * (l - 1) + g * (g - 1) := by rw [Nat.add_mul, htwice, htwice]
      _ ≤ (l + g) * (m - 2) := by rw [Nat.add_mul]; omega
      _ ≤ m * (m - 2) := Nat.mul_le_mul_right (m - 2) hsum
      _ < m * (m - 1) := Nat.mul_lt_mul_of_pos_left (by omega) (by omega)
      _ = m.choose 2 * 2 := (htwice m).symm
  omega

lemma extremal_comparisons :
    Extremal (fun items : List α => (sortProfiled items).1.comparisons) (Nat.choose · 2) where
  short items h := by simp [sortProfiled_of_length_le_one h]
  split pivot item rest := by
    have hpascal : (rest.length + 2).choose 2 = (rest.length + 1) + (rest.length + 1).choose 2 := by
      rw [Nat.choose_succ_succ, Nat.choose_one_right]
    simp only [sortProfiled_split, List.length_cons, hpascal]
    omega
  bound_zero := rfl
  divided _ _ _ := choose_two_add_lt

lemma partitions_le_comparisons (items : List α) :
    (sortProfiled items).1.partitions ≤ (sortProfiled items).1.comparisons := by
  induction items using profile_induction with
  | short items h => simp [sortProfiled_of_length_le_one h]
  | split pivot item rest ihl ihg =>
      simp only [sortProfiled_split]
      omega

/-- The first partition alone asks about every element but one. -/
lemma length_sub_one_le_comparisons (items : List α) :
    items.length - 1 ≤ (sortProfiled items).1.comparisons := by
  match items with
  | [] => simp
  | [item] => simp
  | pivot :: item :: rest =>
      simp only [sortProfiled_split, List.length_cons]
      omega

/-! ## Counters on the way -/

namespace Profile

/-- No counter of `p` is above that of `q`. -/
structure AtMost (p q : Profile) : Prop where
  partitions : p.partitions ≤ q.partitions
  comparisons : p.comparisons ≤ q.comparisons
  maxDepth : p.maxDepth ≤ q.maxDepth

/-- All counters fit into words of 64 bits. -/
structure Fits (p : Profile) : Prop where
  partitions : p.partitions < 2 ^ 64
  comparisons : p.comparisons < 2 ^ 64
  maxDepth : p.maxDepth < 2 ^ 64

lemma AtMost.trans {p q r : Profile} (hpq : p.AtMost q) (hqr : q.AtMost r) : p.AtMost r where
  partitions := hpq.partitions.trans hqr.partitions
  comparisons := hpq.comparisons.trans hqr.comparisons
  maxDepth := hpq.maxDepth.trans hqr.maxDepth

lemma AtMost.fits {p q : Profile} (h : p.AtMost q) (hq : q.Fits) : p.Fits where
  partitions := h.partitions.trans_lt hq.partitions
  comparisons := h.comparisons.trans_lt hq.comparisons
  maxDepth := h.maxDepth.trans_lt hq.maxDepth

end Profile

/-- **Counters only grow**, and the depth of a call is counted. -/
lemma atMost_sortProfiledAt (depth : Nat) (p : Profile) (items : List α) :
    p.AtMost (sortProfiledAt depth p items).1 ∧
      depth ≤ (sortProfiledAt depth p items).1.maxDepth := by
  rw [sortProfiledAt_eq]
  exact ⟨⟨Nat.le_add_right .., Nat.le_add_right .., Nat.le_max_left ..⟩,
    (Nat.le_add_right ..).trans (Nat.le_max_right ..)⟩

/-- The calls that the profiled sort of `items` makes, by their depth, the counters that they take
over and their sequence. -/
inductive ProfiledCall (items : List α) : Nat → Profile → List α → Prop where
  | top : ProfiledCall items 0 {} items
  | less {depth : Nat} {p : Profile} {pivot item : α} {rest : List α} :
    ProfiledCall items depth p (pivot :: item :: rest) →
    ProfiledCall items (depth + 1) ((p.visit depth).partition (rest.length + 2))
      (Buckets.around pivot (item :: rest)).less.toList
  | greater {depth : Nat} {p : Profile} {pivot item : α} {rest : List α} :
    ProfiledCall items depth p (pivot :: item :: rest) →
    ProfiledCall items (depth + 1)
      (sortProfiledAt (depth + 1) ((p.visit depth).partition (rest.length + 2))
        (Buckets.around pivot (item :: rest)).less.toList).1
      (Buckets.around pivot (item :: rest)).greater.toList

/-- **A call leaves its counters no higher than the whole sort does.** -/
lemma ProfiledCall.atMost {items part : List α} {depth : Nat} {p : Profile}
    (h : ProfiledCall items depth p part) :
    (sortProfiledAt depth p part).1.AtMost (sortProfiled items).1 := by
  induction h with
  | top => exact ⟨le_refl _, le_refl _, le_refl _⟩
  | less _ ih =>
      rw [sortProfiledAt] at ih
      exact (atMost_sortProfiledAt _ _ _).1.trans ih
  | greater _ ih =>
      rw [sortProfiledAt] at ih
      exact ih

/-- The comparisons are the counter that is the first not to fit. -/
lemma fits_iff_comparisons (items : List α) :
    (sortProfiled items).1.Fits ↔ (sortProfiled items).1.comparisons < 2 ^ 64 := by
  have hdepth := maxDepth_le_partitions items
  have hpartitions := partitions_le_comparisons items
  exact ⟨Profile.Fits.comparisons, fun h => ⟨by omega, h, by omega⟩⟩

/-- The longest lists of which every profile fits have 6074001000 elements. -/
lemma fits_sortProfiled {items : List α} (h : items.length ≤ 6074001000) :
    (sortProfiled items).1.Fits := by
  rw [fits_iff_comparisons]
  calc (sortProfiled items).1.comparisons
      ≤ items.length.choose 2 := extremal_comparisons.le_bound items
    _ ≤ Nat.choose 6074001000 2 := Nat.choose_le_choose 2 h
    _ < 2 ^ 64 := by rw [Nat.choose_two_right]; decide

lemma ProfiledCall.fits {items part : List α} {depth : Nat} {p : Profile}
    (h : ProfiledCall items depth p part) (hlength : items.length ≤ 2 ^ 32) :
    depth < 2 ^ 64 ∧ p.Fits := by
  obtain ⟨hp, hdepth⟩ := atMost_sortProfiledAt depth p part
  have hend := h.atMost.fits (fits_sortProfiled (hlength.trans (by decide)))
  exact ⟨hdepth.trans_lt hend.maxDepth, hp.fits hend⟩

/-! ## Where the bounds are reached -/

lemma oneSided_iff [Std.OrientedOrd α] (items : List α) :
    OneSided items ↔ ∀ x after, x :: after <:+ items → 2 ≤ after.length →
      (∀ y ∈ after, compare x y = .lt) ∨ ∀ y ∈ after, compare x y = .gt := by
  induction items with
  | nil => simp [OneSided]
  | cons pivot rest ih =>
      have hturn : ∀ a : α, (compare a pivot = .gt ↔ compare pivot a = .lt) ∧
          (compare a pivot = .lt ↔ compare pivot a = .gt) :=
        fun a => ⟨Std.OrientedCmp.gt_iff_lt, Std.OrientedCmp.gt_iff_lt.symm⟩
      simp only [OneSided, ih, (hturn _).1, (hturn _).2]
      constructor
      · rintro ⟨hpivot, hrest⟩ x after hsuffix hlong
        rcases List.suffix_cons_iff.mp hsuffix with heq | hsuffix
        · obtain ⟨rfl, rfl⟩ := List.cons.inj heq
          exact (hpivot hlong).symm
        · exact hrest x after hsuffix hlong
      · intro h
        refine ⟨fun hlong => (h pivot rest (List.suffix_refl _) hlong).symm, ?_⟩
        intro x after hsuffix hlong
        exact h x after (hsuffix.trans (List.suffix_cons ..)) hlong

lemma tfae_worst_case (items : List α) :
    [(sortProfiled items).1.comparisons = items.length.choose 2,
      (sortProfiled items).1.partitions = items.length - 1,
      (sortProfiled items).1.maxDepth = items.length - 1,
      OneSided items].TFAE := by
  tfae_have 1 → 4 := extremal_comparisons.oneSided_of_eq
  tfae_have 2 → 4 := extremal_partitions.oneSided_of_eq
  tfae_have 3 → 2 := by
    intro h
    have hle := maxDepth_le_partitions items
    have hbound := extremal_partitions.le_bound items
    omega
  tfae_have 4 → 1 := fun h => by rw [sortProfiled_of_oneSided h]
  tfae_have 4 → 3 := fun h => by rw [sortProfiled_of_oneSided h]
  tfae_finish

/-- **How large a profile can be, and when it is that large.**  The recursion is at most as deep as
there are partitions, each partition takes a comparison, and each pair of elements is compared once
at most; there are no more partitions than distinct elements, and fewer than elements; and every
element but one is compared.  So words of 64 bits hold all counters of a list with up to `2 ^ 32`
elements, at every call that the sort makes and at the end.  The largest numbers of comparisons, of
partitions and of levels are reached on the same lists: those in which each element with two
successors or more is less than all of them or greater than all of them.  Of the order it is enough
that the turned question has the turned answer. -/
theorem profile_extremes [Std.OrientedOrd α] [DecidableEq α] (items : List α) :
    let p := (sortProfiled items).1
    let n := items.length
    (p.maxDepth ≤ p.partitions ∧ p.partitions ≤ p.comparisons ∧ p.comparisons ≤ n * (n - 1) / 2) ∧
    p.partitions ≤ items.toFinset.card ∧
    (1 ≤ n → p.partitions ≤ n - 1 ∧ n - 1 ≤ p.comparisons) ∧
    (n ≤ 2 ^ 32 → p.Fits ∧
      ∀ depth q part, ProfiledCall items depth q part → depth < 2 ^ 64 ∧ q.Fits) ∧
    (2 ≤ n →
      [p.comparisons = n * (n - 1) / 2,
        p.partitions = n - 1,
        p.maxDepth = n - 1,
        ∀ x after, x :: after <:+ items → 2 ≤ after.length →
          (∀ y ∈ after, compare x y = .lt) ∨ ∀ y ∈ after, compare x y = .gt].TFAE) := by
  intro p n
  have hcomparisons := extremal_comparisons.le_bound items
  rw [Nat.choose_two_right] at hcomparisons
  refine ⟨⟨maxDepth_le_partitions items, partitions_le_comparisons items, hcomparisons⟩,
    partitions_le_card items, fun _ => ?_, fun hlength => ?_, fun _ => ?_⟩
  · exact ⟨extremal_partitions.le_bound items, length_sub_one_le_comparisons items⟩
  · exact ⟨fits_sortProfiled (hlength.trans (by decide)), fun depth q part h => h.fits hlength⟩
  · have htfae := tfae_worst_case items
    rwa [Nat.choose_two_right, oneSided_iff] at htfae

/-- The last two elements may be tied, and no others. -/
theorem profile_extremes_last_tie :
    let p := (sortProfiled [1, 5, 3, 3]).1
    (p.comparisons = 6 ∧ p.partitions = 3 ∧ p.maxDepth = 3 ∧ p.Fits) ∧
    ((∀ y ∈ [3, 3], compare 5 y = .lt) ∨ ∀ y ∈ [3, 3], compare 5 y = .gt) ∧
    (sortProfiled [3, 3, 3]).1.comparisons ≠ 3 := by
  intro p
  have hsix : p.comparisons = 6 := by decide +kernel
  obtain ⟨-, -, -, hfits, hworst⟩ := profile_extremes [1, 5, 3, 3]
  have htfae := hworst (by decide)
  refine ⟨⟨hsix, (htfae.out 0 1).mp hsix, (htfae.out 0 2).mp hsix, (hfits (by decide)).1⟩, ?_, ?_⟩
  · have hsides : ∀ x after, x :: after <:+ [1, 5, 3, 3] → 2 ≤ after.length →
        (∀ y ∈ after, compare x y = .lt) ∨ ∀ y ∈ after, compare x y = .gt :=
      (htfae.out 0 3).mp hsix
    exact hsides 5 [3, 3] ⟨[1], rfl⟩ (by decide)
  · intro hthree
    obtain ⟨-, -, -, -, hties⟩ := profile_extremes [3, 3, 3]
    have htwo := ((hties (by decide)).out 0 1).mp hthree
    exact absurd htwo (by decide +kernel)

end ThreeBucket
