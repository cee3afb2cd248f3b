import Mathlib.Tactic.Lemma
import ThreeBucket.Proofs.PartitionRecord
import ThreeBucket.Proofs.WorkStack
import ThreeBucket.Sort.Profile

/-!
# The tree of recursive calls

A sort calls itself on the lesser and on the greater items, and its calls form a tree: one node for
each sequence that is partitioned, one leaf for each that is too short.  Everything that a run does
can be read off the tree.  From left to right it gives the sorted list, and from the root downwards,
lesser items first, the questions in the order in which they are asked.

* `CallTree`, `callTree` — the tree, and the tree of a run.
* `CallTree.result`, `CallTree.partitions`, `CallTree.levels` — the list, the record of each
  partition, and the nesting level of each call, leaves included.
* `CallTree.result_callTree`, `CallTree.flatten_partitions_callTree` — **the list and the calls of
  the sort are those of the tree**.
* `sortProfiledAt_eq`, `sortProfiled_eq` — what the profiled sort adds to its counters, for any
  counters, and so its profile.
* `sortProfiled_counts_calls` — the profile of a sort counts its comparisons, partitions and levels.
-/

namespace ThreeBucket

universe u v

variable {σ : Type u} {α : Type v}

/-- The calls of a sort, with the calls that they make. -/
inductive CallTree (α : Type u) where
  /-- A call on at most one element, which comes straight back. -/
  | short (items : List α)
  /-- A call that partitions its items around the pivot, with the record of the partition, and goes
  on with the lesser and then with the greater ones. -/
  | split (pivot : α) (partition : List (Call α Ordering)) (less greater : CallTree α)

/-- The calls of a sort that starts in state `s`. -/
def callTree (c : Comparator σ α) (s : σ) : List α → CallTree α
  | [] => .short []
  | [item] => .short [item]
  | pivot :: item :: rest =>
    let r := Buckets.partition c s pivot (item :: rest)
    let l := sortBy c r.1 r.2.less.toList
    .split pivot (partitionCalls c pivot s (item :: rest))
      (callTree c r.1 r.2.less.toList) (callTree c l.1 r.2.greater.toList)
termination_by items => items.length
decreasing_by
  · exact Nat.lt_succ_of_le (Buckets.length_less_partition c s pivot (item :: rest))
  · exact Nat.lt_succ_of_le (Buckets.length_greater_partition c s pivot (item :: rest))

namespace CallTree

/-! ## What a tree tells -/

/-- The sorted list: the lesser items, the pivot with its equals, the greater items. -/
def result : CallTree α → List α
  | .short items => items
  | .split pivot partition less greater =>
    less.result ++ pivot :: (itemsAnswered .eq partition ++ greater.result)

/-- The records of the partitions, in the order in which they are made. -/
def partitions : CallTree α → List (List (Call α Ordering))
  | .short _ => []
  | .split _ partition less greater => partition :: (less.partitions ++ greater.partitions)

/-- The nesting levels of all calls, the first call being at `level`. -/
def levels : Nat → CallTree α → List Nat
  | level, .short _ => [level]
  | level, .split _ _ less greater =>
    level :: (less.levels (level + 1) ++ greater.levels (level + 1))

/-- How many levels there are below the first call. -/
def height : CallTree α → Nat
  | .short _ => 0
  | .split _ _ less greater => max less.height greater.height + 1

lemma add_height_mem_levels (tree : CallTree α) (level : Nat) :
    level + tree.height ∈ tree.levels level := by
  induction tree generalizing level with
  | short items => simp [height, levels]
  | split pivot partition less greater ihl ihg =>
      refine List.mem_cons_of_mem level (List.mem_append.mpr ?_)
      rcases Nat.le_total less.height greater.height with hle | hle
      · right
        have hg := ihg (level + 1)
        rwa [height, Nat.max_eq_right hle, Nat.add_comm greater.height, ← Nat.add_assoc]
      · left
        have hl := ihl (level + 1)
        rwa [height, Nat.max_eq_left hle, Nat.add_comm less.height, ← Nat.add_assoc]

lemma le_of_mem_levels {tree : CallTree α} {level l : Nat} (h : l ∈ tree.levels level) :
    l ≤ level + tree.height := by
  induction tree generalizing level with
  | short items =>
      obtain rfl : l = level := List.mem_singleton.mp h
      omega
  | split pivot partition less greater ihl ihg =>
      rw [height]
      rcases List.mem_cons.mp h with rfl | h
      · omega
      · rcases List.mem_append.mp h with h | h
        · have hl := ihl h
          omega
        · have hg := ihg h
          omega

/-! ## The tree of a run -/

/-- **The tree holds the sorted list.** -/
theorem result_callTree (c : Comparator σ α) (s : σ) (items : List α) :
    (callTree c s items).result = (sortBy c s items).2 := by
  fun_induction callTree c s items with
  | case1 s => rw [sortBy, result]
  | case2 s item => rw [sortBy, result]
  | case3 s pivot item rest r l ihl ihg =>
      have hequal : r.2.equal.toList =
          itemsAnswered .eq (partitionCalls c pivot s (item :: rest)) :=
        Buckets.bucket_partition c s pivot (item :: rest) .eq
      rw [sortBy, result, ihl, ihg, ← hequal]

/-- **The tree holds the calls of the run**, cut into partitions. -/
theorem flatten_partitions_callTree (c : Comparator σ α) (s : σ) (items : List α) :
    (callTree c s items).partitions.flatten = sortCalls c s items := by
  fun_induction callTree c s items with
  | case1 s => simp [partitions]
  | case2 s item => simp [partitions, sortCalls, sortBy]
  | case3 s pivot item rest r l ihl ihg =>
      rw [sortCalls_cons, partitions, List.flatten_cons, List.flatten_append, ihl, ihg]

/-- Each record is that of one partition, of a pivot and at least one more element. -/
lemma eq_partitionCalls_of_mem_partitions {c : Comparator σ α} {s : σ} {items : List α}
    {record : List (Call α Ordering)} (h : record ∈ (callTree c s items).partitions) :
    ∃ pivot t item rest, record = partitionCalls c pivot t (item :: rest) := by
  fun_induction callTree c s items with
  | case1 s => simp [partitions] at h
  | case2 s item => simp [partitions] at h
  | case3 s pivot item rest r l ihl ihg =>
      rcases List.mem_cons.mp h with rfl | h
      · exact ⟨pivot, s, item, rest, rfl⟩
      · rcases List.mem_append.mp h with h | h
        · exact ihl h
        · exact ihg h

end CallTree

/-! ## The profiled sort -/

lemma length_partitionCalls (c : Comparator σ α) (pivot : α) (s : σ) (items : List α) :
    (partitionCalls c pivot s items).length = items.length := by
  rw [← List.length_map (f := Call.item), map_item_partitionCalls]

variable [Ord α]

/-- **What the profiled sort adds to its counters** is what the tree of the sort holds. -/
theorem sortProfiledAt_eq (depth : Nat) (p : Profile) (items : List α) :
    sortProfiledAt depth p items =
      ({ partitions := p.partitions + (callTree .natural () items).partitions.length
         comparisons := p.comparisons + (sortCalls .natural () items).length
         maxDepth := max p.maxDepth (depth + (callTree .natural () items).height) },
        sort items) := by
  fun_induction sortProfiledAt depth p items with
  | case1 depth p =>
      simp [callTree, CallTree.partitions, CallTree.height, Profile.visit, sort]
  | case2 depth p item =>
      simp [callTree, CallTree.partitions, CallTree.height, Profile.visit, sort, sortCalls, sortBy]
  | case3 depth p pivot item rest b l g ihl _ ihg =>
      -- The comparator has no memory, so the two parts are sorted as lists of their own.
      have htree : callTree .natural () (pivot :: item :: rest) =
          .split pivot (partitionCalls .natural pivot () (item :: rest))
            (callTree .natural () b.less.toList) (callTree .natural () b.greater.toList) := by
        rw [callTree]
      have hcalls : sortCalls .natural () (pivot :: item :: rest) =
          partitionCalls .natural pivot () (item :: rest) ++
            (sortCalls .natural () b.less.toList ++ sortCalls .natural () b.greater.toList) :=
        sortCalls_cons .natural () pivot (item :: rest)
      have hsort : sort (pivot :: item :: rest) =
          sort b.less.toList ++ pivot :: (b.equal.toList ++ sort b.greater.toList) :=
        congrArg Prod.snd (sortBy_cons .natural () pivot (item :: rest))
      have hl : l = _ := ihl
      have hg : g = _ := ihg
      rw [hg, hl, htree, hcalls, hsort]
      simp only [Prod.mk.injEq, Profile.mk.injEq, and_true, Profile.visit, Profile.partition,
        CallTree.partitions, CallTree.height, List.length_cons, List.length_append,
        length_partitionCalls]
      omega

theorem sortProfiled_eq (items : List α) :
    sortProfiled items =
      ({ partitions := (callTree .natural () items).partitions.length
         comparisons := (sortCalls .natural () items).length
         maxDepth := (callTree .natural () items).height },
        sort items) := by
  simp [sortProfiled, sortProfiledAt_eq]

/-- **The profile of a sort is what the sort does.**  The profiled sort gives the sorted list.  Its
comparisons are the calls of the sort, on a work stack or not.  The tree of the recursive calls
gives the list of the run, and its calls cut into partitions of at least two elements; the profile
counts these partitions.  Its depth is the greatest level of a call, the first one being at level 0
and the short ones counting. -/
theorem sortProfiled_counts_calls (items : List α) :
    let tree := callTree .natural () items
    (sortProfiled items).2 = sort items ∧
    ((sortProfiled items).1.comparisons =
        (sortBy Comparator.natural.recorded { state := () } items).1.calls.size ∧
      (sortProfiled items).1.comparisons =
        (sortByStack Comparator.natural.recorded { state := () } items).1.calls.size) ∧
    (tree.result = sort items ∧
      tree.partitions.flatten =
        (sortBy Comparator.natural.recorded { state := () } items).1.calls.toList ∧
      ∀ record ∈ tree.partitions, ∃ pivot item rest,
        record = partitionCalls .natural pivot () (item :: rest)) ∧
    (sortProfiled items).1.partitions = tree.partitions.length ∧
    (sortProfiled items).1.maxDepth ∈ tree.levels 0 ∧
    ∀ level ∈ tree.levels 0, level ≤ (sortProfiled items).1.maxDepth := by
  intro tree
  have hcomparisons : (sortProfiled items).1.comparisons =
      (sortBy Comparator.natural.recorded { state := () } items).1.calls.size := by
    rw [sortProfiled_eq]
    exact Array.length_toList
  have hdepth : (sortProfiled items).1.maxDepth = 0 + tree.height := by
    rw [sortProfiled_eq, Nat.zero_add]
  refine ⟨by rw [sortProfiled_eq], ⟨hcomparisons, by rw [sortByStack_eq_sortBy, hcomparisons]⟩,
    ⟨CallTree.result_callTree _ () items, CallTree.flatten_partitions_callTree _ () items, ?_⟩,
    by rw [sortProfiled_eq], ?_, ?_⟩
  · intro record hrecord
    obtain ⟨pivot, _, item, rest, rfl⟩ := CallTree.eq_partitionCalls_of_mem_partitions hrecord
    exact ⟨pivot, item, rest, rfl⟩
  · rw [hdepth]
    exact CallTree.add_height_mem_levels tree 0
  · intro level hlevel
    rw [hdepth]
    exact CallTree.le_of_mem_levels hlevel

/-- Two partitions, one below the other, and below them two calls with nothing to do. -/
theorem sortProfiled_counts_calls_nested :
    (callTree .natural () [3, 1, 2]).levels 0 = [0, 1, 2, 2, 1] ∧
    (sortProfiled [3, 1, 2]).1 = { partitions := 2, comparisons := 3, maxDepth := 2 } ∧
    2 ≤ (sortProfiled [3, 1, 2]).1.maxDepth := by
  have hlevels : (callTree .natural () [3, 1, 2]).levels 0 = [0, 1, 2, 2, 1] := by decide +kernel
  refine ⟨hlevels, by decide +kernel, ?_⟩
  refine (sortProfiled_counts_calls [3, 1, 2]).2.2.2.2.2 2 ?_
  rw [hlevels]
  decide

end ThreeBucket
