/-!
# Sets of characters by ranges

A property of characters is a table of ranges of code points, first and last of each, in
increasing order.

* `Ranges` — such a table.
* `Ranges.contains` — whether a character lies in one of the ranges.
-/

namespace ThreeBucket.Text

/-- Ranges of code points, first and last of each. -/
abbrev Ranges : Type :=
  Array (Nat × Nat)

namespace Ranges

/-- Whether a character lies in one of the ranges. -/
def contains (ranges : Ranges) (c : Char) : Bool :=
  ranges.any fun r => r.1 ≤ c.toNat && c.toNat ≤ r.2

end Ranges

end ThreeBucket.Text
