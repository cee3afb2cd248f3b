import ThreeBucket.Proofs.WorstCase

/-!
# Counters in machine words

A machine adds the counters of a profile up in words of 64 bits, and a sum that does not fit wraps
around.  The sums of a sort are taken in the order of its calls, so every word holds the exact
counter modulo `2 ^ 64` at each call and at the end.

* `Profile.Words.visit`, `Profile.Words.partition` — the steps of the count, on words.
* `ProfiledCall.words_step` — **a call does to the words what it does to the exact counters**.
* `Profile.shown_words_eq_iff` — words show the exact counters if and only if these fit.
* `fits_of_length_le`, `OneSided.fits_iff` — **the counters fit for every list of up to 6074001000
  elements**, and on lists that no partition divides for no longer one.
-/

namespace ThreeBucket

universe u

variable {α : Type u} [Ord α]

/-! ## The count on words -/

/-- A word shows the numbers that fit, and no others. -/
lemma toNat_ofNat_eq_iff {n : Nat} : (UInt64.ofNat n).toNat = n ↔ n < 2 ^ 64 := by
  rw [UInt64.toNat_ofNat']
  exact Nat.mod_eq_iff_lt (by decide)

namespace Profile

namespace Words

/-- Notes in words that a sequence was met at `depth`. -/
def visit (w : Words) (depth : UInt64) : Words :=
  { w with maxDepth := max w.maxDepth depth }

/-- Notes in words that a sequence of `size` elements is partitioned. -/
def partition (w : Words) (size : UInt64) : Words :=
  { w with partitions := w.partitions + 1, comparisons := w.comparisons + (size - 1) }

/-- The counters that words show. -/
def shown (w : Words) : Profile where
  partitions := w.partitions.toNat
  comparisons := w.comparisons.toNat
  maxDepth := w.maxDepth.toNat

end Words

/-- **Words show the exact counters if and only if these fit.** -/
theorem shown_words_eq_iff {p : Profile} : p.words.shown = p ↔ p.Fits := by
  rw [Words.shown, words, Profile.mk.injEq]
  simp only [toNat_ofNat_eq_iff]
  exact ⟨fun ⟨h, h', h''⟩ => ⟨h, h', h''⟩, fun h => ⟨h.partitions, h.comparisons, h.maxDepth⟩⟩

lemma words_visit {p : Profile} {depth : Nat} (hp : p.maxDepth < 2 ^ 64)
    (hdepth : depth < 2 ^ 64) : (p.visit depth).words = p.words.visit (.ofNat depth) := by
  have hmax : UInt64.ofNat (max p.maxDepth depth) = max (.ofNat p.maxDepth) (.ofNat depth) := by
    rw [max_def, UInt64.max_def, apply_ite UInt64.ofNat]
    simp only [UInt64.ofNat_le_iff_le hp hdepth]
  rw [words, Words.visit, visit, hmax, words]

lemma words_partition (p : Profile) {size : Nat} (hsize : 1 ≤ size) :
    (p.partition size).words = p.words.partition (.ofNat size) := by
  have hless : UInt64.ofNat (size - 1) = .ofNat size - 1 := UInt64.ofNat_sub hsize
  rw [words, Words.partition, partition, UInt64.ofNat_add, UInt64.ofNat_add, hless, words]
  rfl

end Profile

/-- No call is deeper than there are partitions, and these are fewer than elements. -/
lemma partitions_and_maxDepth_lt {items : List α} (h : items.length ≤ 2 ^ 64) :
    (sortProfiled items).1.partitions < 2 ^ 64 ∧ (sortProfiled items).1.maxDepth < 2 ^ 64 := by
  have hdepth := maxDepth_le_partitions items
  have hpartitions : (sortProfiled items).1.partitions ≤ items.length - 1 :=
    extremal_partitions.le_bound items
  omega

/-- **A call does to the words what it does to the exact counters**, also if sums wrap around. -/
theorem ProfiledCall.words_step {items part : List α} {depth : Nat} {p : Profile}
    (h : ProfiledCall items depth p part) (hlength : items.length ≤ 2 ^ 64) :
    (p.visit depth).words = p.words.visit (.ofNat depth) ∧
      ∀ size, 1 ≤ size → ((p.visit depth).partition size).words =
        (p.words.visit (.ofNat depth)).partition (.ofNat size) := by
  obtain ⟨hp, hdepth⟩ := atMost_sortProfiledAt depth p part
  have hlast := h.atMost.maxDepth.trans_lt (partitions_and_maxDepth_lt hlength).2
  have hvisit := Profile.words_visit (hp.maxDepth.trans_lt hlast) (hdepth.trans_lt hlast)
  refine ⟨hvisit, fun size hsize => ?_⟩
  rw [Profile.words_partition _ hsize, hvisit]

/-! ## The lists whose counters fit -/

/-- **Up to 6074001000 elements, words show the exact profile.** -/
theorem shown_words_sortProfiled {items : List α} (h : items.length ≤ 6074001000) :
    (sortProfiled items).1.words.shown = (sortProfiled items).1 :=
  Profile.shown_words_eq_iff.mpr (fits_sortProfiled h)

/-- **No longer list that no partition divides has a profile that fits.** -/
theorem OneSided.fits_iff {items : List α} (h : OneSided items) :
    (sortProfiled items).1.Fits ↔ items.length ≤ 6074001000 := by
  refine ⟨fun hfits => ?_, fits_sortProfiled⟩
  by_contra hlong
  have hlarge : Nat.choose 6074001001 2 ≤ items.length.choose 2 :=
    Nat.choose_le_choose 2 (by omega)
  have hcomparisons : items.length.choose 2 < 2 ^ 64 := by
    simpa only [sortProfiled_of_oneSided h] using hfits.comparisons
  rw [Nat.choose_two_right] at hlarge
  omega

end ThreeBucket
