import ThreeBucket.Proofs.Simulation
import ThreeBucket.Sort.WorkStack

/-!
# The work stack refines the recursion

The loop keeps on a stack what the recursion keeps on the call stack.  To compare the two, look
at a loop in the middle of its work: the output so far, then the frames from top to bottom, each
pending one sorted *by recursion* in the state that the frame above left behind.

* `WorkStack.settle`, `WorkStack.outcome` — what a stack still gives, and with it the result that
  a loop is heading for.
* `WorkStack.step?_cases` — everything that one turn of the loop can do.
* `WorkStack.outcome_step?` — **no turn changes the outcome**: the frames are pushed in the order
  in which the recursion visits them, so the comparator meets the same questions.
* `WorkStack.run_induction`, `WorkStack.frames_run` — what turns preserve holds at the end, and
  the end is an empty stack.
* `sortByStack_refines_sortBy` — the two sorts are the same function of comparator, state and
  list, and ask the same questions.
-/

namespace ThreeBucket

universe u v

variable {σ : Type u} {α : Type v}

namespace WorkStack

/-! ## One turn of the loop -/

/-- **What a turn can do**: move a run or a sequence of at most one element to the output, or
partition a longer sequence. -/
theorem step?_cases {c : Comparator σ α} {w w' : WorkStack σ α} (h : w.step? c = some w') :
    (∃ frame below, w.frames = frame :: below ∧
      ((∃ run, frame = .settled run) ∨ ∃ items, frame = .pending items ∧ items.length ≤ 1) ∧
      w' = { w with frames := below, sorted := w.sorted ++ frame.items }) ∨
    (∃ pivot item rest below, w.frames = .pending (pivot :: item :: rest) :: below ∧
      w' = { w with
        state := (Buckets.partition c w.state pivot (item :: rest)).1
        frames :=
          .pending (Buckets.partition c w.state pivot (item :: rest)).2.less.toList ::
          .settled (pivot ::
            (Buckets.partition c w.state pivot (item :: rest)).2.equal.toList) ::
          .pending (Buckets.partition c w.state pivot (item :: rest)).2.greater.toList ::
          below }) := by
  match w with
  | { frames := [], .. } => simp [step?] at h
  | { state, frames := .settled run :: below, sorted } =>
      simp only [step?, Option.some.injEq] at h
      subst h
      exact .inl ⟨_, _, rfl, .inl ⟨run, rfl⟩, rfl⟩
  | { state, frames := .pending [] :: below, sorted } =>
      simp only [step?, Option.some.injEq] at h
      subst h
      exact .inl ⟨_, _, rfl, .inr ⟨[], rfl, by simp⟩, by simp [Frame.items]⟩
  | { state, frames := .pending [item] :: below, sorted } =>
      simp only [step?, Option.some.injEq] at h
      subst h
      exact .inl ⟨_, _, rfl, .inr ⟨[item], rfl, by simp⟩, by simp [Frame.items]⟩
  | { state, frames := .pending (pivot :: item :: rest) :: below, sorted } =>
      simp only [step?, Option.some.injEq] at h
      subst h
      exact .inr ⟨pivot, item, rest, below, rfl, rfl⟩

/-- The loop goes on as long as there is a frame. -/
lemma frames_eq_nil_of_step? {c : Comparator σ α} {w : WorkStack σ α} (h : w.step? c = none) :
    w.frames = [] := by
  match w with
  | { frames := [], .. } => rfl
  | { frames := .settled _ :: _, .. } | { frames := .pending [] :: _, .. }
  | { frames := .pending [_] :: _, .. } | { frames := .pending (_ :: _ :: _) :: _, .. } =>
      simp [step?] at h

/-! ## The whole loop -/

/-- What every turn preserves, the loop preserves. -/
theorem run_induction {c : Comparator σ α} {motive : WorkStack σ α → Prop}
    (step : ∀ w w', w.step? c = some w' → motive w → motive w') (w : WorkStack σ α)
    (start : motive w) : motive (w.run c) := by
  rw [run]
  split
  · exact start
  · rename_i w' h
    have smaller := weight_step? c w w' h
    exact run_induction step w' (step w w' h start)
termination_by w.weight

/-- The loop leaves no work behind. -/
theorem frames_run (c : Comparator σ α) (w : WorkStack σ α) : (w.run c).frames = [] := by
  rw [run]
  split
  · rename_i h
    exact frames_eq_nil_of_step? h
  · rename_i w' h
    have smaller := weight_step? c w w' h
    exact frames_run c w'
termination_by w.weight

/-! ## The outcome of a stack -/

/-- What the frames give from top to bottom when every pending one is sorted by recursion, and
the state in which the comparator is left. -/
def settle (c : Comparator σ α) : σ → List (Frame α) → σ × List α
  | s, [] => (s, [])
  | s, .settled run :: below =>
    let d := settle c s below
    (d.1, run ++ d.2)
  | s, .pending items :: below =>
    let l := sortBy c s items
    let d := settle c l.1 below
    (d.1, l.2 ++ d.2)

/-- The state and the list in which a loop ends if the recursion takes over from here. -/
def outcome (c : Comparator σ α) (w : WorkStack σ α) : σ × List α :=
  let d := settle c w.state w.frames
  (d.1, w.sorted.toList ++ d.2)

/-- **A turn keeps the outcome.** -/
theorem outcome_step? {c : Comparator σ α} {w w' : WorkStack σ α} (h : w.step? c = some w') :
    w'.outcome c = w.outcome c := by
  rcases step?_cases h with ⟨frame, below, hf, hframe, rfl⟩ | ⟨pivot, item, rest, below, hf, rfl⟩
  · rcases hframe with ⟨run, rfl⟩ | ⟨items, rfl, hlen⟩
    · simp [outcome, hf, settle, Frame.items]
    · have hsort : sortBy c w.state items = (w.state, items) := by
        match items with
        | [] => rw [sortBy]
        | [item] => rw [sortBy]
      simp [outcome, hf, settle, Frame.items, hsort]
  · -- The three new frames give, one below the other, what `sortBy_cons` puts together.
    simp only [outcome, hf, settle, sortBy_cons, List.append_assoc, List.cons_append]

theorem outcome_run (c : Comparator σ α) (w : WorkStack σ α) :
    (w.run c).outcome c = w.outcome c :=
  run_induction (motive := fun w' => w'.outcome c = w.outcome c)
    (fun _ _ h hw => (outcome_step? h).trans hw) w rfl

end WorkStack

/-! ## The two sorts agree -/

theorem sortByStack_eq_sortBy (c : Comparator σ α) (s : σ) (items : List α) :
    sortByStack c s items = sortBy c s items := by
  have h := WorkStack.outcome_run c (WorkStack.start s items)
  simp only [WorkStack.outcome, WorkStack.frames_run, WorkStack.start, WorkStack.settle,
    List.append_nil, List.nil_append] at h
  exact h

/-- **Stack and recursion are one sort, call for call.**  For any comparator and any state to
start from, the list and the last state are the same.  So is the record of the run: the same
questions with the same answers, in the same order.  The record is that of the plain run, and the
sorts in a type's own order are the special case. -/
theorem sortByStack_refines_sortBy (c : Comparator σ α) (s : σ) (items : List α) :
    sortByStack c s items = sortBy c s items ∧
    sortByStack c.recorded { state := s } items = sortBy c.recorded { state := s } items ∧
    sortBy c s items =
      ((sortBy c.recorded { state := s } items).1.state,
        (sortBy c.recorded { state := s } items).2) ∧
    ∀ [Ord α],
      sortStack items = sort items ∧
      sortByStack Comparator.natural.recorded { state := () } items =
        sortBy Comparator.natural.recorded { state := () } items := by
  refine ⟨sortByStack_eq_sortBy c s items, sortByStack_eq_sortBy c.recorded _ items,
    sortBy_recorded c { state := s } items, fun {_} => ⟨?_, sortByStack_eq_sortBy _ _ items⟩⟩
  rw [sortStack, sort, sortByStack_eq_sortBy]

end ThreeBucket
