import ThreeBucket.Buckets

/-!
# The quicksort without recursion

The pending work is kept on an explicit stack of frames, so that a long run of unbalanced
partitions costs heap and not call depth.  One step takes the top frame off: a settled run goes
to the output, and so does a pending sequence of at most one element; a longer pending sequence
is partitioned, and its three parts go back on the stack with the lesser items on top.

* `Frame` — a sequence still to be sorted, or a run that is already in place.
* `WorkStack` — the comparator's state, the frames and the output: the loop's whole state.
* `WorkStack.step?` — one turn of the loop, `none` once the stack is empty.
* `sortByStack`, `sortStack` — the sort for any comparator, and in a type's own order.

**`WorkStack.weight_step?`**: each step lowers the weight of the stack, although a partition
adds two frames.  A pending sequence of `n` elements weighs `3 * n + 1` and a settled run 1.
-/

namespace ThreeBucket

universe u v

/-- A piece of work on the stack. -/
inductive Frame (α : Type u) where
  /-- A sequence still to be sorted. -/
  | pending (items : List α)
  /-- A pivot with its equals, already in place. -/
  | settled (run : List α)
  deriving Repr, DecidableEq

namespace Frame

variable {α : Type u}

/-- The elements that a frame holds. -/
def items : Frame α → List α
  | .pending items => items
  | .settled run => run

/-- An upper bound on the number of steps that a frame still causes. -/
def weight : Frame α → Nat
  | .pending items => 3 * items.length + 1
  | .settled _ => 1

end Frame

/-- The state of the loop: the comparator's state, the frames from top to bottom, and the output
so far. -/
structure WorkStack (σ : Type u) (α : Type v) where
  state : σ
  frames : List (Frame α)
  sorted : Array α := #[]

namespace WorkStack

variable {σ : Type u} {α : Type v}

/-- The loop's state before its first step. -/
def start (s : σ) (items : List α) : WorkStack σ α :=
  { state := s, frames := [.pending items] }

/-- The weight of all frames. -/
def weight (w : WorkStack σ α) : Nat :=
  w.frames.foldr (fun frame total => frame.weight + total) 0

/-- One turn of the loop, or `none` if no work is left. -/
@[specialize]
def step? (c : Comparator σ α) : WorkStack σ α → Option (WorkStack σ α)
  | { frames := [], .. } => none
  | { state, frames := .settled run :: below, sorted } =>
    some { state, frames := below, sorted := sorted ++ run }
  | { state, frames := .pending [] :: below, sorted } =>
    some { state, frames := below, sorted }
  | { state, frames := .pending [item] :: below, sorted } =>
    some { state, frames := below, sorted := sorted.push item }
  | { state, frames := .pending (pivot :: item :: rest) :: below, sorted } =>
    let r := Buckets.partition c state pivot (item :: rest)
    some {
      state := r.1
      frames := .pending r.2.less.toList :: .settled (pivot :: r.2.equal.toList) ::
        .pending r.2.greater.toList :: below
      sorted }

/-- **Every step lowers the weight.** -/
theorem weight_step? (c : Comparator σ α) (w w' : WorkStack σ α) (h : w.step? c = some w') :
    w'.weight < w.weight := by
  match w with
  | { frames := [], .. } => simp [step?] at h
  | { frames := .settled _ :: _, .. } | { frames := .pending [] :: _, .. }
  | { frames := .pending [_] :: _, .. } =>
    simp only [step?, Option.some.injEq] at h
    subst h
    simp [weight, Frame.weight]
  | { state, frames := .pending (pivot :: item :: rest) :: below, sorted } =>
    simp only [step?, Option.some.injEq] at h
    subst h
    have size_eq := Buckets.size_partition c state pivot (item :: rest)
    simp only [Buckets.size, List.length_cons] at size_eq
    simp only [weight, Frame.weight, List.foldr_cons, Array.length_toList,
      List.length_cons]
    omega

/-- Repeats the step until the stack is empty. -/
@[specialize]
def run (c : Comparator σ α) (w : WorkStack σ α) : WorkStack σ α :=
  match h : w.step? c with
  | none => w
  | some w' =>
    have := weight_step? c w w' h
    run c w'
termination_by w.weight

end WorkStack

variable {σ : Type u} {α : Type v}

/-- Sorts with a comparator that starts in state `s`, without recursion. -/
@[specialize]
def sortByStack (c : Comparator σ α) (s : σ) (items : List α) : σ × List α :=
  let w := (WorkStack.start s items).run c
  (w.state, w.sorted.toList)

/-- Sorts in the order of the type, without recursion. -/
@[specialize]
def sortStack [Ord α] (items : List α) : List α :=
  (sortByStack Comparator.natural () items).2

end ThreeBucket
