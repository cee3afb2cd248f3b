import Mathlib.Algebra.Ring.GeomSum
import Mathlib.Dynamics.PeriodicPts.Lemmas
import Mathlib.Tactic.Ring
import ThreeBucket.Proofs.Inputs

/-!
# The generator runs through all states

A step of the generator is a multiplication and an addition modulo `2 ^ 32`, so the state after `k`
steps is a power of the multiplier times the seed, and a geometric sum times the increment.  The
multiplier is one more than a multiple of four.  Then the geometric sum of length `2 ^ k` is an odd
multiple of `2 ^ k`, and as the increment is odd, the first power of two steps that leads back to the
seed is `2 ^ 32`.  **All states lie on one cycle**: a random input is a window of it, which the seed
places.

* `Generator.stateAfter`, `Generator.toNat_iterate_next` — the states in closed form.
* `exists_geomSum_two_pow` — how often two divides a geometric sum.
* `Generator.minimalPeriod_next`, `Generator.exists_iterate_next` — **the period is full**, and so
  every state is reached.
* `Shape.build_random_full_period` — what it says about random inputs.
-/

namespace ThreeBucket

open Finset Function

/-! ## Geometric sums -/

lemma pow_mod_four {a : Nat} (ha : a % 4 = 1) (n : Nat) : a ^ n % 4 = 1 := by
  rw [Nat.pow_mod, ha, one_pow, Nat.one_mod]

/-- **A geometric sum of length `2 ^ k` is an odd multiple of `2 ^ k`**, if its base is one more than
a multiple of four. -/
theorem exists_geomSum_two_pow {a : Nat} (ha : a % 4 = 1) (k : Nat) :
    ∃ t, ∑ j ∈ range (2 ^ k), a ^ j = 2 ^ k * (2 * t + 1) := by
  induction k with
  | zero => exact ⟨0, by simp⟩
  | succ k ih =>
      obtain ⟨t, ht⟩ := ih
      -- The second half of the sum is the first one times a power of the base.
      have hhalves : ∑ j ∈ range (2 ^ (k + 1)), a ^ j =
          (∑ j ∈ range (2 ^ k), a ^ j) * (1 + a ^ 2 ^ k) := by
        rw [pow_succ, mul_two, sum_range_add, mul_add, mul_one, mul_comm _ (a ^ 2 ^ k), mul_sum]
        simp only [pow_add]
      have hpow := pow_mod_four ha (2 ^ k)
      obtain ⟨u, hu⟩ : ∃ u, 1 + a ^ 2 ^ k = 2 * (2 * u + 1) := ⟨a ^ 2 ^ k / 4, by omega⟩
      refine ⟨2 * t * u + t + u, ?_⟩
      rw [hhalves, ht, hu]
      ring

namespace Generator

/-! ## The states in closed form -/

/-- The state after `k` steps from a seed. -/
def stateAfter (seed : UInt32) (k : Nat) : Nat :=
  (1103515245 ^ k * seed.toNat + 12345 * ∑ j ∈ range k, 1103515245 ^ j) % 2 ^ 32

lemma toNat_next (state : UInt32) :
    (next state).toNat = (1103515245 * state.toNat + 12345) % 2 ^ 32 := by
  have hmultiplier : (1103515245 : UInt32).toNat = 1103515245 := rfl
  have hincrement : (12345 : UInt32).toNat = 12345 := rfl
  rw [next, UInt32.toNat_add, UInt32.toNat_mul, hmultiplier, hincrement]
  omega

/-- **The generator passes through the states of the closed form.** -/
theorem toNat_iterate_next (seed : UInt32) (k : Nat) :
    (next^[k] seed).toNat = stateAfter seed k := by
  induction k with
  | zero =>
      have hlt := seed.toNat_lt
      simp only [stateAfter, iterate_zero, id, range_zero, sum_empty]
      omega
  | succ k ih =>
      rw [iterate_succ_apply', toNat_next, ih, stateAfter, stateAfter, geom_sum_succ]
      have hstep : 1103515245 ^ (k + 1) * seed.toNat +
          12345 * (1103515245 * ∑ j ∈ range k, 1103515245 ^ j + 1) =
          1103515245 * (1103515245 ^ k * seed.toNat + 12345 * ∑ j ∈ range k, 1103515245 ^ j) +
          12345 := by ring
      rw [hstep]
      omega

lemma element_iterate_next (seed : UInt32) (k : Nat) :
    element (next^[k] seed) = (stateAfter seed k % 100000 : Nat) := by
  rw [element, UInt32.toNat_mod, toNat_iterate_next]
  rfl

/-! ## The period -/

/-- The steps move a state by a multiple of the geometric sum. -/
lemma stateAfter_eq_add (seed : UInt32) (k : Nat) :
    stateAfter seed k = (seed.toNat +
      (∑ j ∈ range k, 1103515245 ^ j) * (1103515244 * seed.toNat + 12345)) % 2 ^ 32 := by
  have hpow : (1103515245 : Nat) ^ k =
      (∑ j ∈ range k, 1103515245 ^ j) * 1103515244 + 1 := (geom_sum_mul_add 1103515244 k).symm
  rw [stateAfter, hpow]
  refine congrArg (· % 2 ^ 32) ?_
  ring

/-- A power of two steps moves a state by an odd multiple of that power. -/
lemma exists_stateAfter_two_pow (seed : UInt32) (k : Nat) :
    ∃ t, stateAfter seed (2 ^ k) = (seed.toNat + 2 ^ k * (2 * t + 1)) % 2 ^ 32 := by
  obtain ⟨t, ht⟩ := exists_geomSum_two_pow (a := 1103515245) (by norm_num) k
  refine ⟨t * (1103515244 * seed.toNat + 12345) + 551757622 * seed.toNat + 6172, ?_⟩
  rw [stateAfter_eq_add, ht]
  refine congrArg (· % 2 ^ 32) ?_
  ring

/-- **The generator comes back to its seed after `2 ^ 32` steps and not before.** -/
theorem minimalPeriod_next (seed : UInt32) : minimalPeriod next seed = 2 ^ 32 := by
  have hprime : Fact (Nat.Prime 2) := ⟨Nat.prime_two⟩
  have hlt := seed.toNat_lt
  refine minimalPeriod_eq_prime_pow (k := 31) ?_ ?_
  · intro hperiodic
    obtain ⟨t, ht⟩ := exists_stateAfter_two_pow seed 31
    have hsame : stateAfter seed (2 ^ 31) = seed.toNat := by
      rw [← toNat_iterate_next, hperiodic.eq]
    omega
  · obtain ⟨t, ht⟩ := exists_stateAfter_two_pow seed 32
    refine UInt32.toNat_inj.mp ?_
    rw [toNat_iterate_next, ht]
    omega

/-- **Every state is reached** from every seed in less than a period. -/
theorem exists_iterate_next (seed other : UInt32) : ∃ k < 2 ^ 32, next^[k] seed = other := by
  have hinj : Set.InjOn (fun k => (next^[k] seed).toNat) (range (2 ^ 32)) := by
    intro i hi j hj h
    rw [coe_range, ← minimalPeriod_next seed] at hi hj
    exact iterate_injOn_Iio_minimalPeriod hi hj (UInt32.toNat_inj.mp h)
  have hmaps : Set.MapsTo (fun k => (next^[k] seed).toNat) (range (2 ^ 32)) (range (2 ^ 32)) :=
    fun k _ => mem_coe.mpr (mem_range.mpr (next^[k] seed).toNat_lt)
  obtain ⟨k, hk, heq⟩ := surjOn_of_injOn_of_card_le _ hmaps hinj le_rfl
    (mem_coe.mpr (mem_range.mpr other.toNat_lt))
  exact ⟨k, mem_range.mp (mem_coe.mp hk), UInt32.toNat_inj.mp heq⟩

end Generator

/-! ## Random inputs -/

namespace Shape

open Generator

lemma build_random (size : UInt64) (seed : UInt32) :
    Shape.random.build size seed =
      (List.range size.toNat).map fun i => element (next^[i + 1] seed) := by
  rw [build, toList_emit, List.nil_append]

/-- A shorter input is the beginning of a longer one. -/
lemma build_random_isPrefix {m n : UInt64} (h : m ≤ n) (seed : UInt32) :
    Shape.random.build m seed <+: Shape.random.build n seed := by
  rw [build_random, build_random]
  refine List.IsPrefix.map _ ?_
  rw [List.prefix_iff_eq_take, List.length_range, List.take_range,
    Nat.min_eq_left (UInt64.le_iff_toNat_le.mp h)]

/-- An input without its first elements is the input of the state that these lead to. -/
lemma drop_build_random {m n : UInt64} {k : Nat} (h : m.toNat = n.toNat + k) (seed : UInt32) :
    (Shape.random.build m seed).drop k = Shape.random.build n (next^[k] seed) := by
  have hlength : k = ((List.range k).map fun i => element (next^[i + 1] seed)).length := by
    rw [List.length_map, List.length_range]
  rw [build_random, build_random, h, Nat.add_comm, List.range_add, List.map_append,
    List.drop_left' hlength.symm, List.map_map]
  refine List.map_congr_left fun i _ => ?_
  rw [comp_apply, ← iterate_add_apply, Nat.add_comm k i, Nat.add_right_comm]

/-- **A random input follows a generator of full period.**  Its elements are the states after the
seed, in closed form, modulo 100000.  No state comes twice within a period of `2 ^ 32`, and at its
end the seed comes back.  So a shorter input is the beginning of a longer one from the same seed, and
an input from another seed is a later part of it. -/
theorem build_random_full_period (seed : UInt32) :
    (∀ size : UInt64, Shape.random.build size seed =
      (List.range size.toNat).map fun i => ((stateAfter seed (i + 1) % 100000 : Nat) : Int)) ∧
    stateAfter seed 0 = seed.toNat ∧
    (∀ k, stateAfter seed k = (next^[k] seed).toNat) ∧
    (∀ i < 2 ^ 32, ∀ j < 2 ^ 32, stateAfter seed i = stateAfter seed j → i = j) ∧
    stateAfter seed (2 ^ 32) = seed.toNat ∧
    (∀ m n : UInt64, m ≤ n → Shape.random.build m seed <+: Shape.random.build n seed) ∧
    ∀ other : UInt32, ∃ k < 2 ^ 32, ∀ m n : UInt64, m.toNat = n.toNat + k →
      Shape.random.build n other = (Shape.random.build m seed).drop k := by
  refine ⟨fun size => ?_, ?_, fun k => (toNat_iterate_next seed k).symm, ?_, ?_,
    fun m n h => build_random_isPrefix h seed, fun other => ?_⟩
  · simp only [build_random, element_iterate_next]
  · rw [← toNat_iterate_next, iterate_zero, id]
  · intro i hi j hj h
    rw [← toNat_iterate_next, ← toNat_iterate_next] at h
    rw [← minimalPeriod_next seed] at hi hj
    exact iterate_injOn_Iio_minimalPeriod hi hj (UInt32.toNat_inj.mp h)
  · rw [← toNat_iterate_next, ← minimalPeriod_next seed, iterate_minimalPeriod]
  · obtain ⟨k, hk, rfl⟩ := exists_iterate_next seed other
    exact ⟨k, hk, fun m n h => (drop_build_random h seed).symm⟩

/-- From the seed 42, whose cycle holds every other seed as well. -/
theorem build_random_full_period_from_42 :
    Shape.random.build 3 42 = [79675, 85912, 60401] ∧
    stateAfter 42 1 ≠ stateAfter 42 3 ∧
    Shape.random.build 2 42 <+: Shape.random.build 3 42 ∧
    ∃ k < 2 ^ 32, Shape.random.build 3 7 =
      (Shape.random.build (UInt64.ofNat (3 + k)) 42).drop k := by
  obtain ⟨-, -, -, hdistinct, -, hprefix, hcycle⟩ := build_random_full_period 42
  refine ⟨by decide +kernel, ?_, hprefix 2 3 (by decide), ?_⟩
  · intro h
    exact absurd (hdistinct 1 (by omega) 3 (by omega) h) (by decide)
  · obtain ⟨k, hk, hdrop⟩ := hcycle 7
    refine ⟨k, hk, hdrop _ 3 ?_⟩
    have hthree : (3 : UInt64).toNat = 3 := rfl
    rw [UInt64.toNat_ofNat', hthree]
    omega

end Shape

end ThreeBucket
