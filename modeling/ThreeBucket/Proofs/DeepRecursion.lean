import Mathlib.Data.Int.Interval
import ThreeBucket.Proofs.CounterWords
import ThreeBucket.Proofs.Inputs

/-!
# How deep the benchmark inputs go

The profile of each shape, for every size and seed.  Inputs that count up or down are never divided,
so their sorts are as deep as they are long.  The numbers below 7 and the random numbers are few,
and so are the partitions.

* `Shape.oneSided_build`, `Shape.sortProfiled_monotonic` — the exact profile of the two monotonic
  shapes.
* `sortProfiled_of_mem_Ico` — **few values, few partitions**.
* `Bench.fits_input_monotonic_iff`, `Bench.fits_input_duplicates` — up to which size words can count
  the comparisons of an input.
* `Bench.deepRecursion_mem_iff` — when a run warns.  It looks at the size that was asked for.
* `warning_iff_deep` — the warning against the depth of the input.
-/

namespace ThreeBucket

/-! ## Monotonic shapes -/

namespace Shape

lemma pairwise_counting (size : UInt64) : (counting size).Pairwise (· < ·) := by
  by_cases h : size.toNat < 2 ^ 63
  · rw [counting_of_lt h]
    exact List.pairwise_map.mpr (List.pairwise_lt_range.imp Int.ofNat_lt.mpr)
  · rw [counting_of_le (Nat.not_lt.mp h)]
    exact List.Pairwise.nil

lemma oneSided_build {shape : Shape} (h : shape.isMonotonic = true) (size : UInt64)
    (seed : UInt32) : OneSided (shape.build size seed) := by
  cases shape with
  | ascending =>
      refine oneSided_of_pairwise (o := .gt) (by decide) ?_
      refine (pairwise_counting size).imp ?_
      intro a b hab
      exact Int.compare_eq_gt.mpr hab
  | descending =>
      refine oneSided_of_pairwise (o := .lt) (by decide) ?_
      refine List.pairwise_reverse.mpr ((pairwise_counting size).imp ?_)
      intro a b hab
      exact Int.compare_eq_lt.mpr hab
  | duplicates => cases h
  | random => cases h

/-- **An input that counts up or down costs the most that its length allows.** -/
theorem sortProfiled_monotonic {shape : Shape} (hshape : shape.isMonotonic = true) {size : UInt64}
    (hsize : size.toNat < 2 ^ 63) (seed : UInt32) :
    (sortProfiled (shape.build size seed)).1 =
      { partitions := size.toNat - 1
        comparisons := size.toNat * (size.toNat - 1) / 2
        maxDepth := size.toNat - 1 } := by
  rw [sortProfiled_of_oneSided (oneSided_build hshape size seed), length_build,
    length_of_fits (.inr hsize), Nat.choose_two_right]

end Shape

/-! ## Shapes with few values -/

/-- **Few values, few partitions**, and no deep recursion. -/
theorem sortProfiled_of_mem_Ico {items : List Int} {n : Nat} (h : ∀ a ∈ items, 0 ≤ a ∧ a < n) :
    (sortProfiled items).1.partitions ≤ n ∧ (sortProfiled items).1.maxDepth ≤ n ∧
      (sortProfiled items).1.comparisons ≤ n * items.length := by
  have hpartitions : (sortProfiled items).1.partitions ≤ n := by
    calc (sortProfiled items).1.partitions
        ≤ items.toFinset.card := partitions_le_card items
      _ ≤ (Finset.Ico 0 (n : Int)).card := by
          refine Finset.card_le_card fun a ha => ?_
          exact Finset.mem_Ico.mpr (h a (List.mem_toFinset.mp ha))
      _ = n := by simp
  refine ⟨hpartitions, (maxDepth_le_partitions items).trans hpartitions, ?_⟩
  calc (sortProfiled items).1.comparisons
      ≤ (sortProfiled items).1.partitions * (items.length - 1) := comparisons_le_mul items
    _ ≤ n * items.length := Nat.mul_le_mul hpartitions (Nat.sub_le _ _)

namespace Shape

lemma mem_build_duplicates {size : UInt64} {seed : UInt32} {a : Int}
    (h : a ∈ Shape.duplicates.build size seed) : 0 ≤ a ∧ a < 7 := by
  obtain ⟨b, -, rfl⟩ := List.mem_map.mp h
  omega

lemma mem_build_random {size : UInt64} {seed : UInt32} {a : Int}
    (h : a ∈ Shape.random.build size seed) : 0 ≤ a ∧ a < 100000 := by
  rw [build, Generator.toList_emit, List.nil_append] at h
  obtain ⟨i, -, rfl⟩ := List.mem_map.mp h
  exact Generator.element_mem_range _

lemma monotonic_or_duplicates {shape : Shape} (h : shape ≠ .random) :
    (shape.isMonotonic = true ∧ shape ≠ .duplicates) ∨
      (shape.isMonotonic = false ∧ shape = .duplicates) := by
  cases shape with
  | ascending | descending | duplicates => decide
  | random => exact absurd rfl h

end Shape

/-! ## The profile of an input -/

namespace Bench

variable {s : Settings}

lemma maxDepth_input_monotonic (hshape : s.shape.isMonotonic = true)
    (hsize : s.size.toNat < 2 ^ 63) :
    (sortProfiled (input s)).1.maxDepth = s.size.toNat - 1 := by
  rw [input, Shape.sortProfiled_monotonic hshape hsize]

/-- Nothing is sorted if a signed word cannot hold the size. -/
lemma maxDepth_input_of_le (hshape : s.shape ≠ .random) (hsize : 2 ^ 63 ≤ s.size.toNat) :
    (sortProfiled (input s)).1.maxDepth = 0 := by
  rw [input, Shape.build_eq_nil s.seed (not_or.mpr ⟨hshape, Nat.not_lt.mpr hsize⟩),
    sortProfiled_of_length_le_one (by simp)]

lemma sortProfiled_input_duplicates (hshape : s.shape = .duplicates) :
    (sortProfiled (input s)).1.partitions ≤ 7 ∧ (sortProfiled (input s)).1.maxDepth ≤ 7 ∧
      (sortProfiled (input s)).1.comparisons ≤ 7 * (input s).length := by
  rw [input, hshape]
  exact sortProfiled_of_mem_Ico (n := 7) fun a ha => Shape.mem_build_duplicates ha

lemma mem_input_random (hshape : s.shape = .random) : ∀ a ∈ input s, 0 ≤ a ∧ a < 100000 := by
  intro a ha
  rw [input, hshape] at ha
  exact Shape.mem_build_random ha

lemma length_input_lt (hshort : ¬ s.Overlong) : (input s).length < 2 ^ 60 := by
  have hcapacity : Shape.capacity = 2 ^ 60 - 1 := rfl
  have hlength := Shape.capacity_lt_length_iff.not.mpr hshort
  rw [input, Shape.length_build]
  omega

/-- **Up to which size a word can count the comparisons of a monotonic input.** -/
lemma fits_input_monotonic_iff (hshape : s.shape.isMonotonic = true)
    (hsize : s.size.toNat < 2 ^ 63) :
    (sortProfiled (input s)).1.Fits ↔ s.size.toNat ≤ 6074001000 := by
  rw [← length_input (.inr hsize)]
  exact (Shape.oneSided_build hshape s.size s.seed).fits_iff

/-- No list in memory has enough duplicates for a counter that does not fit. -/
lemma fits_input_duplicates (hshape : s.shape = .duplicates) (hshort : ¬ s.Overlong) :
    (sortProfiled (input s)).1.Fits := by
  have hlength := length_input_lt hshort
  have hcomparisons := (sortProfiled_input_duplicates hshape).2.2
  rw [fits_iff_comparisons]
  omega

end Bench

/-! ## The warning -/

namespace Bench

lemma deepRecursion_notMem_closing (s : Settings) (input : List Int) (elapsed : Duration)
    (profiled : Bool) (shape : Shape) (size : UInt64) :
    Log.Event.deepRecursion shape size ∉ (closing s input elapsed profiled).1 := by
  have hprofile : Log.Event.deepRecursion shape size ∉ profileEvents s input profiled := by
    rw [profileEvents]
    split <;> simp
  simp only [closing, verify_eq_ok]
  split <;> simp [hprofile]

/-- **When a run warns**: there is an input, the sort recurses, the shape is monotonic, and the size
that was asked for is beyond the limit. -/
theorem deepRecursion_mem_iff {s : Settings} (h : s.iterations ≠ 0) (profiled : Bool)
    (m : Measurement) :
    (∃ shape size, Log.Event.deepRecursion shape size ∈ (run s profiled m).1) ↔
      ¬ s.Overlong ∧ s.strategy.recurses = true ∧ s.shape.isMonotonic = true ∧
        10000 < s.size.toNat := by
  have hopening : ∀ shape size, Log.Event.deepRecursion shape size ∈ opening s (input s) ↔
      recursesDeeply s = true ∧ shape = s.shape ∧ size = s.size := by
    intro shape size
    rw [opening]
    by_cases hdeep : recursesDeeply s = true <;> by_cases hwarmup : 0 < s.warmup <;>
      simp [hdeep, hwarmup]
  have hdeep : recursesDeeply s = true ↔
      s.strategy.recurses = true ∧ s.shape.isMonotonic = true ∧ 10000 < s.size.toNat := by
    rw [recursesDeeply, Bool.and_eq_true, Bool.and_eq_true, decide_eq_true_eq, and_assoc]
    rfl
  by_cases hlong : s.Overlong
  · rw [run_of_overlong h hlong]
    simp [hlong]
  · rw [run_of_not_overlong h hlong, ← hdeep]
    simp only [List.mem_append, deepRecursion_notMem_closing, or_false, hopening, hlong,
      not_false_eq_true, true_and]
    constructor
    · rintro ⟨shape, size, h, -, -⟩
      exact h
    · intro h
      exact ⟨s.shape, s.size, h, rfl, rfl⟩

end Bench

/-- **How deep an input goes, and when a run warns of it.**  For every size that a signed word can
hold, the two monotonic shapes have one partition for each element but the last, each below the one
before, and compare every pair.  The duplicates need at most 7 partitions, and the random numbers,
which lie below 100000, at most as many as there are such numbers.  All this is said of the inputs
that there are, with less than `2 ^ 60` elements.  Words hold their partitions and depths.  The
comparisons of the duplicates fit as well, those of the monotonic shapes up to 6074001000 elements
and **no further**: from there on the word has wrapped around.

With the recursive strategy and a shape that is not random, a run with an input therefore warns
exactly if the sort of this input is at least 10000 calls deep, as long as the size fits or the
shape is not monotonic.  A larger size leaves a monotonic input empty, and then the run warns of a
depth that is not there.  A run without an input breaks off before it could warn. -/
theorem warning_iff_deep (s : Settings) (profiled : Bool) (m : Measurement) :
    let p := (sortProfiled (Bench.input s)).1
    (¬ s.Overlong →
      Bench.input? s = some (Bench.input s) ∧
      p.words.partitions.toNat = p.partitions ∧ p.words.maxDepth.toNat = p.maxDepth) ∧
    (¬ s.Overlong → s.size.toNat < 2 ^ 63 →
      (s.shape = .ascending ∨ s.shape = .descending →
        p = { partitions := s.size.toNat - 1
              comparisons := s.size.toNat * (s.size.toNat - 1) / 2
              maxDepth := s.size.toNat - 1 } ∧
        (p.words.comparisons.toNat = p.comparisons ↔ s.size.toNat ≤ 6074001000)) ∧
      (s.shape = .duplicates →
        p.partitions ≤ 7 ∧ p.maxDepth ≤ 7 ∧ p.comparisons ≤ 7 * s.size.toNat ∧
        p.words.comparisons.toNat = p.comparisons) ∧
      (s.shape = .random →
        p.partitions ≤ 100000 ∧ ∀ a ∈ Bench.input s, 0 ≤ a ∧ a < 100000)) ∧
    (s.invalid? = none → s.strategy = .recursive → s.shape ≠ .random → ¬ s.Overlong →
      (((∃ shape size, .deepRecursion shape size ∈ (Bench.run s profiled m).1) ↔
          10000 ≤ p.maxDepth) ↔
        s.shape = .duplicates ∨ s.size.toNat < 2 ^ 63)) ∧
    (s.invalid? = none → s.Overlong →
      Bench.input? s = none ∧ Bench.run s profiled m = ([], .brokenOff)) := by
  intro p
  refine ⟨?_, ?_, ?_, ?_⟩
  · intro hshort
    have hlength : (Bench.input s).length ≤ 2 ^ 64 :=
      (Bench.length_input_lt hshort).le.trans (by decide)
    obtain ⟨hpartitions, hdepth⟩ := partitions_and_maxDepth_lt hlength
    exact ⟨Bench.input?_eq_some_iff.mpr ⟨hshort, rfl⟩, toNat_ofNat_eq_iff.mpr hpartitions,
      toNat_ofNat_eq_iff.mpr hdepth⟩
  · intro hshort hsize
    refine ⟨?_, ?_, ?_⟩
    · intro hshape
      have hmonotonic : s.shape.isMonotonic = true := by
        rcases hshape with hshape | hshape <;> rw [hshape] <;> rfl
      refine ⟨Shape.sortProfiled_monotonic hmonotonic hsize s.seed, ?_⟩
      rw [← Bench.fits_input_monotonic_iff hmonotonic hsize, fits_iff_comparisons]
      exact toNat_ofNat_eq_iff
    · intro hshape
      rw [← Bench.length_input (.inr hsize)]
      obtain ⟨hpartitions, hdepth, hcomparisons⟩ := Bench.sortProfiled_input_duplicates hshape
      have hfits := Bench.fits_input_duplicates hshape hshort
      exact ⟨hpartitions, hdepth, hcomparisons, toNat_ofNat_eq_iff.mpr hfits.comparisons⟩
    · intro hshape
      have hvalues := Bench.mem_input_random hshape
      exact ⟨(sortProfiled_of_mem_Ico (n := 100000) hvalues).1, hvalues⟩
  · intro hvalid hstrategy hshape hshort
    rw [Bench.deepRecursion_mem_iff (Settings.iterations_ne_zero_of_invalid? hvalid), hstrategy]
    rcases Shape.monotonic_or_duplicates hshape with ⟨hmonotonic, hne⟩ | ⟨hmonotonic, hduplicates⟩
    · simp only [Strategy.recurses, hmonotonic, hshort, not_false_eq_true, true_and]
      -- The warning goes by the size, the depth by the input: they part where the input is empty.
      by_cases hsize : s.size.toNat < 2 ^ 63
      · rw [show p.maxDepth = _ from Bench.maxDepth_input_monotonic hmonotonic hsize]
        exact iff_of_true (by omega) (.inr hsize)
      · rw [show p.maxDepth = _ from Bench.maxDepth_input_of_le hshape (Nat.not_lt.mp hsize)]
        exact iff_of_false (by omega) (not_or.mpr ⟨hne, hsize⟩)
    · have hdepth : p.maxDepth ≤ 7 := (Bench.sortProfiled_input_duplicates hduplicates).2.1
      refine iff_of_true (iff_of_false ?_ (by omega)) (.inl hduplicates)
      rintro ⟨-, -, h, -⟩
      rw [hmonotonic] at h
      cases h
  · intro hvalid hlong
    exact ⟨Bench.input?_eq_none_iff.mpr hlong,
      Bench.run_of_overlong (Settings.iterations_ne_zero_of_invalid? hvalid) hlong profiled m⟩

/-- The longest monotonic input without a warning, and the next one. -/
theorem warning_iff_deep_at_limit :
    (∃ shape size, .deepRecursion shape size ∈
      (Bench.run { size := 10001, shape := .descending } false ⟨⟨0, 0⟩, ⟨0, 0⟩, none⟩).1) ∧
    ¬ ∃ shape size, .deepRecursion shape size ∈
      (Bench.run { size := 10000, shape := .descending } false ⟨⟨0, 0⟩, ⟨0, 0⟩, none⟩).1 := by
  have hwarns : ∀ size : UInt64, size.toNat < 2 ^ 60 →
      ((∃ shape size', .deepRecursion shape size' ∈
          (Bench.run { size, shape := .descending } false ⟨⟨0, 0⟩, ⟨0, 0⟩, none⟩).1) ↔
        10000 ≤ size.toNat - 1) := by
    intro size hsize
    have hshort : ¬ Settings.Overlong { size, shape := .descending } := fun hlong =>
      absurd hlong.1 (Nat.not_le.mpr hsize)
    have hlt : size.toNat < 2 ^ 63 := hsize.trans (by decide)
    have h := warning_iff_deep { size, shape := .descending } false ⟨⟨0, 0⟩, ⟨0, 0⟩, none⟩
    have hprofile := ((h.2.1 hshort hlt).1 (.inr rfl)).1
    have hiff := (h.2.2.1 rfl rfl nofun hshort).mpr (.inr hlt)
    rw [hprofile] at hiff
    exact hiff
  constructor
  · rw [hwarns 10001 (by decide)]
    decide
  · rw [hwarns 10000 (by decide)]
    decide

/-- A run that warns of the depth of an empty input. -/
theorem warning_on_empty_input :
    Settings.invalid? { size := 9223372036854775808 } = none ∧
    Bench.input? { size := 9223372036854775808 } = some [] ∧
    .deepRecursion .ascending 9223372036854775808 ∈
      (Bench.run { size := 9223372036854775808 } false ⟨⟨0, 0⟩, ⟨0, 0⟩, none⟩).1 ∧
    (sortProfiled (Bench.input { size := 9223372036854775808 })).1.maxDepth = 0 := by
  have hempty : Bench.input { size := 9223372036854775808 } = [] :=
    Shape.build_eq_nil 42 (by decide)
  have hrun := Bench.run_of_not_overlong (s := { size := 9223372036854775808 }) (by decide)
    (by decide) false ⟨⟨0, 0⟩, ⟨0, 0⟩, none⟩
  refine ⟨rfl, Bench.input?_eq_some_iff.mpr ⟨by decide, hempty.symm⟩, ?_,
    Bench.maxDepth_input_of_le nofun (by decide)⟩
  rw [hrun, hempty]
  exact List.mem_append_left _ (by decide)

end ThreeBucket
