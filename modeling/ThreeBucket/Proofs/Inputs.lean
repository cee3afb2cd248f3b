import Mathlib.Algebra.Order.Ring.Nat
import ThreeBucket.Proofs.Outcome

/-!
# The inputs of a benchmark

What the shapes build, told element by element.  A random input follows the states of its generator.
The other shapes number their elements by signed words of 64 bits, so a size that does not fit into
one leaves them without elements, while the report still names the size that was asked for.

* `Generator.toList_emit` — the elements of a random input.
* `Shape.length_build`, `Shape.build_eq_nil` — **how long an input is**, for every shape and every
  size.
* `Bench.sortRepeatedly_eq_mapM` — what the sorts of a run are given, `Bench.recordedSort` to see
  it.
* `report_size_eq_length_iff` — for which settings the reported size is the number of elements that
  were sorted.
-/

namespace ThreeBucket

/-! ## Random inputs -/

namespace Generator

/-- The images of the states after `x`, the first of them apart. -/
lemma map_iterate_range_succ {σ : Type} {α : Type} (step : σ → σ) (g : σ → α) (n : Nat) (x : σ) :
    (List.range (n + 1)).map (fun i => g (step^[i + 1] x)) =
      g (step x) :: (List.range n).map fun i => g (step^[i + 1] (step x)) := by
  rw [List.range_succ_eq_map, List.map_cons, List.map_map]
  rfl

/-- **A random input lists the states after the seed**, each as its element. -/
theorem toList_emit (n : Nat) (state : UInt32) (out : Array Int) :
    (emit n state out).toList =
      out.toList ++ (List.range n).map fun i => element (next^[i + 1] state) := by
  induction n generalizing state out with
  | zero => rw [emit, List.range_zero, List.map_nil, List.append_nil]
  | succ n ih =>
      -- The states are kept as they are: to compute one of them is to multiply words.
      rw [emit, ih, Array.toList_push, List.append_assoc, List.singleton_append,
        map_iterate_range_succ]

lemma element_mem_range (state : UInt32) : 0 ≤ element state ∧ element state < 100000 := by
  have hlt : (state % 100000).toNat < 100000 := by
    rw [UInt32.toNat_mod]
    exact Nat.mod_lt _ (by decide)
  rw [element]
  omega

end Generator

/-! ## All shapes -/

namespace Shape

lemma counting_of_lt {size : UInt64} (h : size.toNat < 2 ^ 63) :
    counting size = (List.range size.toNat).map Int.ofNat :=
  if_pos h

lemma counting_of_le {size : UInt64} (h : 2 ^ 63 ≤ size.toNat) : counting size = [] :=
  if_neg (Nat.not_lt.mpr h)

/-- **How long an input is.** -/
theorem length_build (shape : Shape) (size : UInt64) (seed : UInt32) :
    (shape.build size seed).length = shape.length size := by
  have hcounting : (counting size).length = if size.toNat < 2 ^ 63 then size.toNat else 0 := by
    by_cases h : size.toNat < 2 ^ 63
    · rw [counting_of_lt h, List.length_map, List.length_range, if_pos h]
    · rw [counting_of_le (Nat.not_lt.mp h), if_neg h, List.length_nil]
  cases shape with
  | random => rw [build, Generator.toList_emit, List.length_append, List.length_map,
      List.length_range, Array.length_toList, Array.size_empty, Nat.zero_add, length]
  | ascending => exact hcounting
  | descending => exact (List.length_reverse ..).trans hcounting
  | duplicates => exact (List.length_map ..).trans hcounting

/-- **An input is as long as its size**, if a signed word can hold it or none is needed. -/
lemma length_of_fits {shape : Shape} {size : UInt64} (h : shape = .random ∨ size.toNat < 2 ^ 63) :
    shape.length size = size.toNat := by
  cases shape with
  | random => rfl
  | ascending | descending | duplicates => exact if_pos (h.resolve_left nofun)

/-- A size that a signed word cannot hold leaves nothing to sort. -/
theorem build_eq_nil {shape : Shape} {size : UInt64} (seed : UInt32)
    (h : ¬ (shape = .random ∨ size.toNat < 2 ^ 63)) : shape.build size seed = [] := by
  rw [← List.length_eq_zero_iff, length_build]
  cases shape with
  | random => exact absurd (.inl rfl) h
  | ascending | descending | duplicates => exact if_neg fun hlt => h (.inr hlt)

end Shape

/-! ## What the sorts of a run are given -/

namespace Bench

/-- **Every sort of a run is given the input itself**, whatever the sorts do besides, and the
elements of all outputs are counted. -/
theorem sortRepeatedly_eq_mapM {m : Type → Type} [Monad m] [LawfulMonad m]
    (sort : List Int → m (List Int)) (input : List Int) (count times : Nat) :
    sortRepeatedly sort input count times =
      (fun outputs => count + (outputs.map List.length).sum) <$>
        (List.replicate times input).mapM sort := by
  induction times generalizing count with
  | zero => simp [sortRepeatedly]
  | succ times ih => simp [sortRepeatedly, ih, List.replicate_succ, Nat.add_assoc]

/-- The sort of a strategy, with a record of what it was given. -/
def recordedSort (strategy : Strategy) (items : List Int) :
    StateM (List (List Int)) (List Int) := do
  modify (· ++ [items])
  return strategy.sort items

lemma run_mapM_recordedSort (strategy : Strategy) (inputs seen : List (List Int)) :
    ((inputs.mapM (recordedSort strategy)).run seen).run =
      (inputs.map strategy.sort, seen ++ inputs) := by
  induction inputs generalizing seen with
  | nil => simp
  | cons input inputs ih => simp [recordedSort, ih]

/-- **What the sorts of a run were given**, and how many elements they gave back. -/
theorem run_sortRepeatedly (strategy : Strategy) (input : List Int) (times : Nat) :
    ((sortRepeatedly (recordedSort strategy) input 0 times).run []).run =
      (times * input.length, List.replicate times input) := by
  have hlength : (strategy.sort input).length = input.length :=
    (Strategy.isStableSort_sort strategy input).perm.length_eq
  rw [sortRepeatedly_eq_mapM, StateT.run_map, Id.run_map, run_mapM_recordedSort]
  simp [hlength]

end Bench

/-! ## The reported size -/

lemma Bench.length_input {s : Settings} (h : s.shape = .random ∨ s.size.toNat < 2 ^ 63) :
    (input s).length = s.size.toNat := by
  rw [input, Shape.length_build, Shape.length_of_fits h]

lemma Bench.inputBuilt_mem_opening (s : Settings) (input : List Int) :
    Log.Event.inputBuilt s.shape input.length s.strategy s.iterations ∈ opening s input := by
  simp [opening]

lemma Settings.iterations_ne_zero_of_invalid? {s : Settings} (h : s.invalid? = none) :
    s.iterations ≠ 0 := by
  intro hzero
  simp [invalid?, hzero] at h

/-- **When the reported size is the number of elements sorted.**  Settings that can be run give a
report, unless no list can hold their input: then the run breaks off.  The run tells how long its
input was, and every timed sort is given this input.  The report names that number exactly if the
shape is random or the size fits into a signed word; otherwise the input is empty. -/
theorem report_size_eq_length_iff (s : Settings) (h : s.invalid? = none) (profiled : Bool)
    (m : Measurement) :
    (¬ s.Overlong →
      Bench.input? s = some (Bench.input s) ∧
      ∃ events report, Bench.run s profiled m = (events, .reported report) ∧
        .inputBuilt s.shape (Bench.input s).length s.strategy s.iterations ∈ events ∧
        ((Bench.sortRepeatedly (Bench.recordedSort s.strategy) (Bench.input s) 0
            s.iterations.toNat).run []).run =
          (s.iterations.toNat * (Bench.input s).length,
            List.replicate s.iterations.toNat (Bench.input s)) ∧
        (report.size.toNat = (Bench.input s).length ↔
          s.shape = .random ∨ s.size.toNat < 2 ^ 63) ∧
        (¬ (s.shape = .random ∨ s.size.toNat < 2 ^ 63) → Bench.input s = [])) ∧
    (s.Overlong → Bench.input? s = none ∧ Bench.run s profiled m = ([], .brokenOff)) := by
  have hiterations := Settings.iterations_ne_zero_of_invalid? h
  constructor
  · intro hshort
    have hsize : (Report.ofMeasurement s m).size = s.size := rfl
    have hempty : ¬ (s.shape = .random ∨ s.size.toNat < 2 ^ 63) → Bench.input s = [] :=
      Shape.build_eq_nil s.seed
    refine ⟨Bench.input?_eq_some_iff.mpr ⟨hshort, rfl⟩, _, _,
      Bench.run_of_not_overlong hiterations hshort profiled m,
      List.mem_append_left _ (Bench.inputBuilt_mem_opening s _),
      Bench.run_sortRepeatedly s.strategy _ _, ?_, hempty⟩
    rw [hsize]
    constructor
    · intro hlength
      by_contra hfits
      have hlarge : 2 ^ 63 ≤ s.size.toNat := Nat.not_lt.mp fun hlt => hfits (.inr hlt)
      rw [hempty hfits, List.length_nil] at hlength
      omega
    · intro hfits
      exact (Bench.length_input hfits).symm
  · intro hlong
    exact ⟨Bench.input?_eq_none_iff.mpr hlong, Bench.run_of_overlong hiterations hlong profiled m⟩

theorem report_size_eq_length_iff_descending :
    ∃ events report,
      Bench.run { size := 3, shape := .descending } false ⟨⟨0, 0⟩, ⟨0, 0⟩, none⟩ =
        (events, .reported report) ∧
      report.size.toNat = (Bench.input { size := 3, shape := .descending }).length ∧
      Bench.input { size := 3, shape := .descending } = [2, 1, 0] := by
  obtain ⟨-, events, report, hrun, -, -, hiff, -⟩ := (report_size_eq_length_iff
    { size := 3, shape := .descending } (by decide) false ⟨⟨0, 0⟩, ⟨0, 0⟩, none⟩).1 (by decide)
  exact ⟨events, report, hrun, hiff.mpr (.inr (by decide)), by decide⟩

/-- One more than the largest signed word is reported as the size of an empty input. -/
theorem report_size_of_empty_input :
    Settings.invalid? { size := 9223372036854775808 } = none ∧
    Bench.input? { size := 9223372036854775808 } = some [] ∧
    ∃ events report,
      Bench.run { size := 9223372036854775808 } false ⟨⟨0, 0⟩, ⟨0, 0⟩, none⟩ =
        (events, .reported report) ∧
      report.size.toNat = 9223372036854775808 ∧
      report.size.toNat ≠ (Bench.input { size := 9223372036854775808 }).length := by
  have hinput : Bench.input { size := 9223372036854775808 } = [] :=
    Shape.build_eq_nil 42 (by decide)
  have hrun := Bench.run_of_not_overlong (s := { size := 9223372036854775808 }) (by decide)
    (by decide) false ⟨⟨0, 0⟩, ⟨0, 0⟩, none⟩
  refine ⟨by decide, Bench.input?_eq_some_iff.mpr ⟨by decide, hinput.symm⟩, _, _, hrun, rfl, ?_⟩
  rw [hinput]
  decide

end ThreeBucket
