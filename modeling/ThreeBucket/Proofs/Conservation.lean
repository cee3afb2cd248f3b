import ThreeBucket.Proofs.Completion
import ThreeBucket.Proofs.WorkStack

/-!
# Every sort ends with what it started from

Neither that a sort ends nor what it holds at the end depends on the answers.  The recursion loses
a pivot at each level; the loop loses weight at each turn, although a partition makes its stack
higher.  And no turn loses or doubles an element: the output and the frames together hold the list
from the first turn to the last.

* `WorkStack.holdings` — everything that a loop holds, output first and then frames.
* `WorkStack.perm_holdings_step?`, `WorkStack.perm_holdings_run` — **a turn permutes the holdings**,
  and so does the whole loop.
* `WorkStack.turns?`, `WorkStack.turns?_induction`, `WorkStack.exists_turns_run` — the loop after so
  many turns, what holds there, and that it stands still after finitely many, at most the weight of
  its stack.
* `sorts_conserve_items` — all sorts and the partition, for every comparator.
-/

namespace ThreeBucket

open scoped List

universe u v

variable {σ : Type u} {α : Type v}

namespace WorkStack

/-! ## What a loop holds -/

/-- The output and then the contents of the frames, from top to bottom. -/
def holdings (w : WorkStack σ α) : List α :=
  w.sorted.toList ++ w.frames.flatMap Frame.items

/-- **A turn permutes the holdings.** -/
theorem perm_holdings_step? {c : Comparator σ α} {w w' : WorkStack σ α}
    (h : w.step? c = some w') : w'.holdings ~ w.holdings := by
  rcases step?_cases h with ⟨frame, below, hf, -, rfl⟩ | ⟨pivot, item, rest, below, hf, rfl⟩
  · -- The top frame goes from one side to the other.
    simp [holdings, hf]
  · have hpartition := Buckets.perm_partition c w.state pivot (item :: rest)
    simp only [holdings, hf, List.flatMap_cons, Frame.items]
    refine List.Perm.append_left _ ?_
    calc _ ~ pivot :: (Buckets.partition c w.state pivot (item :: rest)).2.toList
          ++ below.flatMap Frame.items := by
          simp only [Buckets.toList, List.cons_append, List.append_assoc]
          exact List.perm_middle
      _ ~ pivot :: item :: rest ++ below.flatMap Frame.items :=
          (hpartition.cons pivot).append_right _

theorem perm_holdings_run (c : Comparator σ α) (w : WorkStack σ α) :
    (w.run c).holdings ~ w.holdings :=
  run_induction (motive := fun w' => w'.holdings ~ w.holdings)
    (fun _ _ h hw => (perm_holdings_step? h).trans hw) w (.refl _)

/-! ## How long a loop takes -/

/-- The loop's state after `n` turns, `none` if it stands still before. -/
def turns? (c : Comparator σ α) : Nat → WorkStack σ α → Option (WorkStack σ α)
  | 0, w => some w
  | n + 1, w => (w.step? c).bind (turns? c n)

/-- What a turn preserves, any number of turns preserves. -/
theorem turns?_induction {c : Comparator σ α} {motive : WorkStack σ α → Prop}
    (step : ∀ w w', w.step? c = some w' → motive w → motive w') {n : Nat} {w w' : WorkStack σ α}
    (start : motive w) (h : w.turns? c n = some w') : motive w' := by
  induction n generalizing w with
  | zero =>
      obtain rfl : w = w' := Option.some.inj h
      exact start
  | succ n ih =>
      obtain ⟨next, hnext, hrest⟩ := Option.bind_eq_some_iff.mp h
      exact ih (step w next hnext start) hrest

/-- **The loop gets to its end in finitely many turns**, at most the weight of the stack. -/
theorem exists_turns_run (c : Comparator σ α) (w : WorkStack σ α) :
    ∃ n ≤ w.weight, w.turns? c n = some (w.run c) := by
  rw [run]
  split
  · exact ⟨0, Nat.zero_le _, rfl⟩
  · rename_i w' h
    have smaller := weight_step? c w w' h
    obtain ⟨n, hn, hturns⟩ := exists_turns_run c w'
    exact ⟨n + 1, by omega, by simp [turns?, h, hturns]⟩
termination_by w.weight

lemma step?_run (c : Comparator σ α) (w : WorkStack σ α) : (w.run c).step? c = none := by
  have hframes := frames_run c w
  rcases hrun : w.run c with ⟨state, frames, sorted⟩
  rw [hrun] at hframes
  subst hframes
  rfl

end WorkStack

/-! ## All sorts -/

lemma perm_sortByStack (c : Comparator σ α) (s : σ) (items : List α) :
    (sortByStack c s items).2 ~ items := by
  have h := WorkStack.perm_holdings_run c (WorkStack.start s items)
  simpa [sortByStack, WorkStack.holdings, WorkStack.frames_run, WorkStack.start, Frame.items]
    using h

/-- **No element is lost or doubled by any comparator.**  The sorts are functions that give a
result for every comparator, state and list, and the loop of the work stack stands still after at
most three turns for every element and one more.  The result is a permutation of the list, or for
the fallible sort perhaps an error; and the three buckets of a partition together are a permutation
of its items. -/
theorem sorts_conserve_items (s : σ) (items : List α) :
    (∀ c : Comparator σ α,
      (sortBy c s items).2 ~ items ∧
      (sortByStack c s items).2 ~ items ∧
      (∃ n ≤ 3 * items.length + 1, ∃ w, (WorkStack.start s items).turns? c n = some w ∧
        w.step? c = none ∧ sortByStack c s items = (w.state, w.sorted.toList)) ∧
      ∀ pivot,
        (Buckets.partition c s pivot items).2.less.toList ++
          (Buckets.partition c s pivot items).2.equal.toList ++
          (Buckets.partition c s pivot items).2.greater.toList ~ items) ∧
    ∀ c : PartialComparator σ α,
      (∃ e, (trySortBy c s items).2 = .error e) ∨
      ∃ sorted, (trySortBy c s items).2 = .ok sorted ∧ sorted ~ items := by
  refine ⟨fun c => ⟨perm_sortBy c s items, perm_sortByStack c s items, ?_, fun pivot => ?_⟩,
    fun c => ?_⟩
  · obtain ⟨n, hn, hturns⟩ := WorkStack.exists_turns_run c (WorkStack.start s items)
    exact ⟨n, hn, _, hturns, WorkStack.step?_run c _, rfl⟩
  · rw [List.append_assoc]
    exact Buckets.perm_partition c s pivot items
  · cases hresult : (trySortBy c s items).2 with
    | error e => exact .inl ⟨e, rfl⟩
    | ok sorted => exact .inr ⟨sorted, rfl, perm_of_trySortAt (Prod.ext rfl hresult)⟩

end ThreeBucket
