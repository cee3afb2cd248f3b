import Mathlib.Data.List.Perm.Basic
import ThreeBucket.Proofs.CallTree
import ThreeBucket.Proofs.Certificate
import ThreeBucket.Proofs.StableSort

/-!
# Sorting with the answers turned round

A comparator that turns every answer round exchanges the lesser and the greater items of each
partition and nothing else.  The tree of calls becomes its mirror image: **the same partitions are
made, in another order**, so a comparator without memory is asked the same questions.  Ties have no
side that they could change.  They stay in the order in which they came, which is not the order of
the reversed result.

* `Buckets.mirror`, `CallTree.mirror` — lesser and greater exchanged.
* `Buckets.partition_reversed` — one partition, for any comparator.
* `callTree_reversed` — **the tree of the turned sort is the mirror image**, with no law for the
  comparator but that it has no memory.
* `IsStableSort.reverse` — a stable sort read from its end, for a total preorder.
* `sortBy_reversed_eq` — the list and the calls of the turned sort.
-/

namespace ThreeBucket

open scoped List

universe u v

variable {σ : Type u} {α : Type v}

/-! ## One partition -/

namespace Buckets

/-- The buckets with the lesser and the greater items exchanged. -/
def mirror (b : Buckets α) : Buckets α where
  less := b.greater
  equal := b.equal
  greater := b.less

lemma mirror_push (b : Buckets α) (o : Ordering) (a : α) :
    (b.push o a).mirror = b.mirror.push o.swap a := by
  cases o <;> rfl

lemma partitionOnto_reversed (c : Comparator σ α) (pivot : α) (s : σ) (b : Buckets α)
    (items : List α) :
    partitionOnto c.reversed pivot s b.mirror items =
      ((partitionOnto c pivot s b items).1, (partitionOnto c pivot s b items).2.mirror) := by
  induction items generalizing s b with
  | nil => rfl
  | cons item rest ih =>
      simp only [partitionOnto, Comparator.reversed]
      rw [← mirror_push]
      exact ih _ _

/-- **Turned answers exchange the outer buckets**, and leave the comparator in the same state. -/
theorem partition_reversed (c : Comparator σ α) (s : σ) (pivot : α) (items : List α) :
    partition c.reversed s pivot items =
      ((partition c s pivot items).1, (partition c s pivot items).2.mirror) :=
  partitionOnto_reversed c pivot s {} items

end Buckets

namespace Call

/-- The call with its answer turned round. -/
def swap (call : Call α Ordering) : Call α Ordering :=
  call.map id Ordering.swap

lemma swap_injective : Function.Injective (swap (α := α)) := by
  rintro ⟨item, pivot, answer⟩ ⟨item', pivot', answer'⟩ h
  simp only [swap, Call.map, id, Call.mk.injEq, Ordering.swap_inj] at h ⊢
  exact h

end Call

lemma partitionCalls_reversed (c : Comparator σ α) (pivot : α) (s : σ) (items : List α) :
    partitionCalls c.reversed pivot s items = (partitionCalls c pivot s items).map Call.swap := by
  induction items generalizing s with
  | nil => rfl
  | cons item rest ih =>
      simp only [partitionCalls, List.map_cons]
      exact congrArg (_ :: ·) (ih _)

/-! ## The tree of calls -/

namespace CallTree

/-- The tree with the two calls of every node exchanged and all answers turned round. -/
def mirror : CallTree α → CallTree α
  | .short items => .short items
  | .split pivot partition less greater =>
    .split pivot (partition.map Call.swap) greater.mirror less.mirror

/-- **A mirror image has the same partitions**, up to their order and to the sense of the
answers. -/
lemma perm_partitions_mirror (tree : CallTree α) :
    tree.mirror.partitions ~ tree.partitions.map (List.map Call.swap) := by
  induction tree with
  | short items => rfl
  | split pivot partition less greater ihl ihg =>
      rw [mirror, partitions, partitions, List.map_cons, List.map_append]
      exact ((ihg.append ihl).trans List.perm_append_comm).cons _

end CallTree

section WithoutMemory

variable (f : α → α → Ordering)

-- The state has one value only, so it does not matter which part of the list is sorted first.
theorem callTree_reversed (items : List α) :
    callTree (Comparator.ofFun f).reversed () items = (callTree (.ofFun f) () items).mirror := by
  generalize () = s
  fun_induction callTree (.ofFun f) s items with
  | case1 s => rw [callTree, CallTree.mirror]
  | case2 s item => rw [callTree, CallTree.mirror]
  | case3 s pivot item rest r l ihl ihg =>
      rw [callTree, CallTree.mirror, Buckets.partition_reversed, partitionCalls_reversed, ← ihl,
        ← ihg]
      rfl

lemma perm_sortCalls_reversed (items : List α) :
    sortCalls (Comparator.ofFun f).reversed () items ~
      (sortCalls (.ofFun f) () items).map Call.swap := by
  rw [← CallTree.flatten_partitions_callTree, ← CallTree.flatten_partitions_callTree,
    callTree_reversed, List.map_flatten]
  exact (CallTree.perm_partitions_mirror _).flatten

end WithoutMemory

/-! ## The calls behind the turned answers -/

/-- Writing the calls down before their answers are turned round is as good as afterwards. -/
lemma Comparator.recorded_reversed_simulates (c : Comparator σ α) :
    c.recorded.reversed.Simulates (Recorded.map id Ordering.swap) id c.reversed.recorded := by
  intro r item pivot
  simp [Comparator.recorded, Comparator.reversed, Recorded.map, Call.map]

lemma sortCalls_reversed (c : Comparator σ α) (s : σ) (items : List α) :
    sortCalls c.reversed s items =
      (sortBy c.recorded.reversed { state := s } items).1.calls.toList.map Call.swap := by
  have hrun := c.recorded_reversed_simulates.sortBy_eq { state := s } items
  have hempty : ({ state := s } : Recorded σ α Ordering).map id Ordering.swap = { state := s } := by
    simp [Recorded.map]
  rw [hempty, List.map_id] at hrun
  rw [sortCalls, hrun]
  simp [Recorded.map, Call.swap]

/-! ## Total preorders -/

/-- **A stable sort read from its end**, of a list read from its end, is a stable sort downwards. -/
lemma IsStableSort.reverse {f : α → α → Ordering} {items sorted : List α}
    [Std.OrientedCmp f] (h : IsStableSort f items.reverse sorted) :
    IsStableSort (fun a b => (f a b).swap) items sorted.reverse where
  perm := (List.reverse_perm sorted).trans (h.perm.trans (List.reverse_perm items))
  ordered := by
    rw [List.pairwise_reverse]
    refine h.ordered.imp fun hab => ?_
    rwa [← Std.OrientedCmp.eq_swap]
  stable x := by
    have htied : (fun a => (f a x).swap == .eq) = fun a => f a x == .eq := by
      funext a
      cases f a x <;> rfl
    rw [htied, List.filter_reverse, h.stable x, List.filter_reverse, List.reverse_reverse]

lemma transCmp_swap (f : α → α → Ordering) [Std.TransCmp f] :
    Std.TransCmp fun a b => (f a b).swap := by
  have hswap : (fun a b => (f a b).swap) = fun a b => f b a := by
    funext a b
    exact Std.OrientedCmp.eq_swap.symm
  rw [hswap]
  exact Std.TransCmp.opposite

/-- **Turned answers sort downwards, at the same cost.**  For a total preorder the list is the
stable sort downwards: what the sort of the reversed list gives, read from its end.  And for any
function, whatever its answers are, the turned sort makes the same calls in some other order, each
with the answer turned round, so that the function itself gets the same questions and gives the same
answers. -/
theorem sortBy_reversed_eq (f : α → α → Ordering) (items : List α) :
    (∀ [Std.TransCmp f],
      (sortBy (Comparator.ofFun f).reversed () items).2 =
        (sortBy (.ofFun f) () items.reverse).2.reverse ∧
      IsStableSort (fun a b => (f a b).swap) items
        (sortBy (Comparator.ofFun f).reversed () items).2) ∧
    sortCalls (Comparator.ofFun f).reversed () items ~
      (sortCalls (.ofFun f) () items).map Call.swap ∧
    (sortBy (Comparator.ofFun f).recorded.reversed { state := () } items).1.calls.toList ~
      sortCalls (.ofFun f) () items ∧
    (sortCalls (Comparator.ofFun f).reversed () items).length =
      (sortCalls (.ofFun f) () items).length := by
  have hcalls := perm_sortCalls_reversed f items
  refine ⟨?_, hcalls, ?_, by simpa using hcalls.length_eq⟩
  · intro _
    have _ := transCmp_swap f
    have hdown : IsStableSort (fun a b => (f a b).swap) items
        (sortBy (Comparator.ofFun f).reversed () items).2 :=
      isStableSort_sortBy (fun a b => (f a b).swap) items
    exact ⟨hdown.unique (isStableSort_sortBy f items.reverse).reverse, hdown⟩
  · rwa [sortCalls_reversed, List.map_perm_map_iff Call.swap_injective] at hcalls

/-- Ties keep their order where the list is turned round.  A function that goes round in a circle
gets the same questions, although not in the same order. -/
theorem sortBy_reversed_eq_tagged :
    (sortBy (Comparator.ofFun (compareOn Tagged.key)).reversed ()
        [⟨1, 'a'⟩, ⟨2, 'b'⟩, ⟨1, 'c'⟩, ⟨2, 'd'⟩]).2 =
      [⟨2, 'b'⟩, ⟨2, 'd'⟩, ⟨1, 'a'⟩, ⟨1, 'c'⟩] ∧
    sortCalls (Comparator.ofFun circular).reversed () [0, 1, 2, 1, 2] ≠
      (sortCalls (.ofFun circular) () [0, 1, 2, 1, 2]).map Call.swap ∧
    sortCalls (Comparator.ofFun circular).reversed () [0, 1, 2, 1, 2] ~
      (sortCalls (.ofFun circular) () [0, 1, 2, 1, 2]).map Call.swap := by
  refine ⟨?_, by decide +kernel, (sortBy_reversed_eq circular _).2.1⟩
  have hrun : (sortBy (.ofFun (compareOn Tagged.key)) ()
      [⟨2, 'd'⟩, ⟨1, 'c'⟩, ⟨2, 'b'⟩, ⟨1, 'a'⟩]).2 =
      [⟨1, 'c'⟩, ⟨1, 'a'⟩, ⟨2, 'd'⟩, ⟨2, 'b'⟩] := by
    decide +kernel
  have hmirror := ((sortBy_reversed_eq (compareOn Tagged.key)
    [⟨1, 'a'⟩, ⟨2, 'b'⟩, ⟨1, 'c'⟩, ⟨2, 'd'⟩]).1).1
  rw [hmirror]
  exact congrArg List.reverse hrun

end ThreeBucket
