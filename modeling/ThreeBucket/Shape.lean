import ThreeBucket.Choice

/-!
# Shapes of benchmark inputs

An input is determined by its shape, its size and a seed.

* `Shape` — ascending, descending, with many duplicates, or random.
* `Generator` — the linear congruential generator behind random inputs, on words of 32 bits.
* `Shape.build` — the elements of a shape, one after the other.
* `Shape.build?` — the same as a list in memory, which has room for less than `2 ^ 60` elements.

**A size of `2 ^ 63` or more counts as negative for the shapes that are not random**, whose
elements are numbered by signed words, and gives the empty list.  So these shapes are too long only
between the two powers, and the random one is from the first on.
-/

namespace ThreeBucket

/-- The arrangement of a benchmark input. -/
inductive Shape where
  /-- Counts up, so that every pivot is the least element of its sequence. -/
  | ascending
  /-- Counts down, so that every pivot is the greatest element of its sequence. -/
  | descending
  /-- Repeats the numbers below 7, so that most elements equal their pivot. -/
  | duplicates
  /-- Noise that the seed determines. -/
  | random
  deriving Repr, DecidableEq

/-! ## The random generator -/

namespace Generator

/-- The state after `state`. -/
def next (state : UInt32) : UInt32 :=
  state * 1103515245 + 12345

/-- The element that a state stands for. -/
def element (state : UInt32) : Int :=
  (state % 100000).toNat

/-- Appends the elements of the next `n` states. -/
def emit : Nat → UInt32 → Array Int → Array Int
  | 0, _, out => out
  | n + 1, state, out => emit n (next state) (out.push (element (next state)))

end Generator

/-! ## The shapes -/

namespace Shape

/-- The name of a shape. -/
def name : Shape → String
  | .ascending => "ascending"
  | .descending => "descending"
  | .duplicates => "duplicates"
  | .random => "random"

instance : Choice Shape where
  all := [.ascending, .descending, .duplicates, .random]
  name := name
  default := .ascending

/-- Whether the shape is sorted one way or the other, which makes every partition one-sided. -/
def isMonotonic : Shape → Bool
  | .ascending | .descending => true
  | .duplicates | .random => false

/-- The numbers from 0 to one below the size read as a signed word. -/
def counting (size : UInt64) : List Int :=
  if size.toNat < Nat.pow 2 63 then (List.range size.toNat).map Int.ofNat else []

/-- The elements of a shape, in order. -/
def build (shape : Shape) (size : UInt64) (seed : UInt32) : List Int :=
  match shape with
  | .ascending => counting size
  | .descending => (counting size).reverse
  | .duplicates => (counting size).map (· % 7)
  | .random => (Generator.emit size.toNat seed #[]).toList

/-- How many elements a shape has. -/
def length (shape : Shape) (size : UInt64) : Nat :=
  match shape with
  | .ascending | .descending | .duplicates =>
    if size.toNat < Nat.pow 2 63 then size.toNat else 0
  | .random => size.toNat

/-- The most elements that a list in memory can have.  An element takes 8 bytes, and the bytes of a
list are counted by a signed word. -/
def capacity : Nat :=
  (Nat.pow 2 63 - 1) / 8

/-- The input of a shape.  Room for all elements is asked for before the first one is made, and for
more of them than any list can have it is refused, **however much memory there is**.  Memory that
has too little room for a shorter list is not modelled. -/
def build? (shape : Shape) (size : UInt64) (seed : UInt32) : Option (List Int) :=
  if shape.length size ≤ capacity then some (shape.build size seed) else none

end Shape

end ThreeBucket
