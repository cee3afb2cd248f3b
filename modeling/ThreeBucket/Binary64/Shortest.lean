import ThreeBucket.Binary64

/-!
# The shortest decimal of a number

Every finite number is the nearest one to a whole interval of reals.  Among the decimals in that
interval, the shortest are the points of the coarsest grid `10 ^ e` that reaches into it.  The
search tries the two grid points beside the number, from a grid that is too coarse downwards, and
takes the nearer of those that lie in the interval.

* `Decimal` — an integer times a power of ten.
* `Binary64.interval` — the reals that round to a number, in quarters of its last place.
* **`Binary64.shortest`** — the shortest decimal that reads back as the number, and of several
  the nearest one.  `Tie` says which of two equally near ones is taken.
-/

namespace ThreeBucket

/-- The decimal `digits * 10 ^ exponent`. -/
structure Decimal where
  digits : Nat
  exponent : Int
  deriving Repr, DecidableEq

/-- Which of two equally near decimals is taken. -/
inductive Tie where
  /-- The one of larger magnitude. -/
  | up
  /-- The one whose last digit is even. -/
  | even
  deriving Repr, DecidableEq

namespace Binary64

/-- The reals that round to a positive finite number, in quarters of the unit of its last place.
The lower half is narrower at a power of two, where the numbers below are twice as dense. -/
structure Interval where
  low : Nat
  value : Nat
  high : Nat
  /-- Whether the ends round to the number too. -/
  closed : Bool
  deriving Repr

namespace Interval

/-- Whether a point lies in the interval, where `unit` is the length of a quarter on the scale of
the point. -/
def contains (i : Interval) (unit point : Nat) : Bool :=
  if i.closed then i.low * unit ≤ point && point ≤ i.high * unit
  else i.low * unit < point && point < i.high * unit

end Interval

/-- The interval of reals that round to `x`. -/
def interval (x : Binary64) : Interval :=
  let value := 4 * x.significand
  { low := if x.fraction = 0 ∧ 1 < x.exponentField then value - 1 else value - 2
    value
    high := value + 2
    closed := x.significand % 2 = 0 }

/-- The nearer to `x` of the points of the grid `10 ^ exponent` beside it, if one is in the
interval of `x`.  The comparison is between multiples of `10 ^ exponent` and of a quarter of the
last place, both brought to natural numbers. -/
def nearestOnGrid? (x : Binary64) (tie : Tie) (exponent : Int) : Option Decimal :=
  let i := x.interval
  let quarter := x.scale - 2
  let unit := Nat.pow 10 (-exponent).toNat * Nat.pow 2 quarter.toNat
  let step := Nat.pow 10 exponent.toNat * Nat.pow 2 (-quarter).toNat
  let exact := i.value * unit
  let below := exact / step
  let rest := exact % step
  let lower := i.contains unit (below * step)
  let upper := i.contains unit ((below + 1) * step)
  let preferLower :=
    if 2 * rest < step then true
    else if step < 2 * rest then false
    else tie == .even && below % 2 == 0
  if lower && (!upper || preferLower) then some ⟨below, exponent⟩
  else if upper then some ⟨below + 1, exponent⟩
  else none

/-- The exact decimal of a finite number. -/
def exactDecimal (x : Binary64) : Decimal :=
  if 0 ≤ x.scale then ⟨x.significand * Nat.pow 2 x.scale.toNat, 0⟩
  else ⟨x.significand * Nat.pow 5 (-x.scale).toNat, x.scale⟩

/-- Searches the grids from `10 ^ exponent` downwards, `n` of them. -/
def searchGrids (x : Binary64) (tie : Tie) : Nat → Int → Decimal
  | 0, _ => x.exactDecimal
  | n + 1, exponent =>
    match x.nearestOnGrid? tie exponent with
    | some d => d
    | none => searchGrids x tie n (exponent - 1)

/-- The shortest decimal that reads back as the finite number `x`, apart from the sign. -/
def shortest (x : Binary64) (tie : Tie) : Decimal :=
  if x.significand = 0 then ⟨0, 0⟩
  else
    -- `2 ^ b` exceeds the number, so a grid just above `10 ^ (b * log10 2)` is too coarse
    let b : Int := (x.significand.log2 : Int) + 1 + x.scale
    searchGrids x tie 24 (b * 30103 / 100000 + 2)

end Binary64

end ThreeBucket
