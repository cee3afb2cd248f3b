/-!
# Comparators that remember

A sort asks a comparator about an *item* and a *pivot*.  Nothing is assumed of the answers: a
comparator may keep a state, may contradict itself and may answer the same question differently
the second time.  It is therefore a function that takes its state and gives the next one back,
so that everything a run asks, in the order in which it asks, can be read off the definitions.

* `Comparator` — always answers with an `Ordering`.
* `PartialComparator` — may also answer that the two have no ordering.
* `Recorded` — a state together with the calls made so far.  **`Comparator.recorded` is how a run
  is observed**: sorting with `c.recorded` is sorting with `c`, and leaves the calls behind.
* `PartialCompare` — the class of types with a comparison that may have no answer, such as
  numbers with an unordered element.
-/

namespace ThreeBucket

universe u v w

/-- A comparison of an item (first) with a pivot (second) that carries a state of type `σ` from
one call to the next. -/
abbrev Comparator (σ : Type u) (α : Type v) : Type (max u v) :=
  σ → α → α → σ × Ordering

/-- A comparison that may find no ordering between the item and the pivot. -/
abbrev PartialComparator (σ : Type u) (α : Type v) : Type (max u v) :=
  σ → α → α → σ × Option Ordering

/-- A type with a comparison that may have no answer. -/
class PartialCompare (α : Type u) where
  /-- How the first element stands to the second, if they are comparable at all. -/
  compare? : α → α → Option Ordering

export PartialCompare (compare?)

/-- A type with a total comparison has one that always answers. -/
instance (priority := low) PartialCompare.ofOrd {α : Type u} [Ord α] : PartialCompare α where
  compare? a b := some (compare a b)

/-- Lists compare by the first pair that is not equal, and if that pair has no ordering neither
have the lists.  When one list is an initial segment of the other, the shorter is less. -/
def PartialCompare.lexicographic {α : Type u} [PartialCompare α] :
    List α → List α → Option Ordering
  | [], [] => some .eq
  | [], _ :: _ => some .lt
  | _ :: _, [] => some .gt
  | a :: as, b :: bs =>
    match compare? a b with
    | some .eq => lexicographic as bs
    | answer => answer

instance {α : Type u} [PartialCompare α] : PartialCompare (List α) where
  compare? := PartialCompare.lexicographic

/-! ## Building comparators -/

namespace Comparator

variable {σ : Type u} {α : Type v}

/-- The comparator that applies a function and has nothing to remember. -/
@[inline]
def ofFun (f : α → α → Ordering) : Comparator Unit α :=
  fun s item pivot => (s, f item pivot)

/-- The comparator of a type's own order. -/
@[inline]
def natural [Ord α] : Comparator Unit α :=
  Comparator.ofFun compare

/-- The comparator that turns every answer of `c` round. -/
def reversed (c : Comparator σ α) : Comparator σ α :=
  fun s item pivot =>
    let r := c s item pivot
    (r.1, r.2.swap)

/-- The comparator that asks `c` about the images under `f`. -/
def comap {β : Type w} (f : α → β) (c : Comparator σ β) : Comparator σ α :=
  fun s item pivot => c s (f item) (f pivot)

/-- The comparator that orders elements by a key.  The key is extracted afresh for every
comparison, from the item first and from the pivot second. -/
def byKey {κ : Type w} [Ord κ] (key : σ → α → σ × κ) : Comparator σ α :=
  fun s item pivot =>
    let i := key s item
    let p := key i.1 pivot
    (p.1, compare i.2 p.2)

end Comparator

namespace PartialComparator

variable {σ : Type u} {α : Type v}

/-- The comparator that applies a function and has nothing to remember. -/
@[inline]
def ofFun (f : α → α → Option Ordering) : PartialComparator Unit α :=
  fun s item pivot => (s, f item pivot)

/-- The comparator of a type's own comparison. -/
@[inline]
def natural [PartialCompare α] : PartialComparator Unit α :=
  PartialComparator.ofFun compare?

/-- The comparator that asks `c` about the images under `f`. -/
def comap {β : Type w} (f : α → β) (c : PartialComparator σ β) : PartialComparator σ α :=
  fun s item pivot => c s (f item) (f pivot)

end PartialComparator

/-! ## Observing a run -/

/-- One question put to a comparator, and its answer. -/
structure Call (α : Type u) (β : Type v) where
  item : α
  pivot : α
  answer : β
  deriving Repr, DecidableEq

/-- A state together with the calls made so far, oldest first. -/
structure Recorded (σ : Type u) (α : Type v) (β : Type w) where
  state : σ
  calls : Array (Call α β) := #[]

/-- The comparator that answers as `c` does and writes every call down. -/
def Comparator.recorded {σ : Type u} {α : Type v} (c : Comparator σ α) :
    Comparator (Recorded σ α Ordering) α :=
  fun r item pivot =>
    let a := c r.state item pivot
    ({ state := a.1, calls := r.calls.push ⟨item, pivot, a.2⟩ }, a.2)

/-- The partial comparator that answers as `c` does and writes every call down, those without an
answer included. -/
def PartialComparator.recorded {σ : Type u} {α : Type v} (c : PartialComparator σ α) :
    PartialComparator (Recorded σ α (Option Ordering)) α :=
  fun r item pivot =>
    let a := c r.state item pivot
    ({ state := a.1, calls := r.calls.push ⟨item, pivot, a.2⟩ }, a.2)

end ThreeBucket
