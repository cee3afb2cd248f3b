import ThreeBucket.Binary64.Shortest

/-!
# Numbers as text

Two ways to write a number.  The natural form has the shortest digits that read back, laid out as
a `NumberStyle` says; the fixed form has a set number of places after the point.

* `NumberStyle` — the decisions of one output format.
* `Binary64.write` — the natural form in a style.
* `Binary64.writeFixed` — the form with fixed places: **the exact value is rounded once, a half
  going to the even neighbour**, and the sign of a negative zero is kept.
-/

namespace ThreeBucket

/-- How an output format lays out the digits of a number. -/
structure NumberStyle where
  /-- Which numbers are written without an exponent, by the power of ten of their first digit. -/
  positional : Int → Bool
  /-- Whether a whole number written without an exponent ends in `.0`. -/
  pointZero : Bool
  /-- Whether a positive exponent has a sign. -/
  exponentPlus : Bool
  /-- Which of two equally near digit strings is taken. -/
  tie : Tie
  /-- The text of an infinity of either sign. -/
  infinity : Bool → String
  /-- The text of a pattern that is not a number. -/
  nan : String

namespace Decimal

/-- The digits of the integer factor, most significant first. -/
def digitChars (d : Decimal) : List Char :=
  Nat.toDigits 10 d.digits

/-- The power of ten of the first digit. -/
def leadingPower (d : Decimal) : Int :=
  d.digitChars.length - 1 + d.exponent

/-- The decimal without an exponent, with no point if it is whole. -/
def positional (d : Decimal) : List Char :=
  let ds := d.digitChars
  if 0 ≤ d.exponent then ds ++ List.replicate d.exponent.toNat '0'
  else
    let places := (-d.exponent).toNat
    let padded := List.replicate (places + 1 - ds.length) '0' ++ ds
    padded.take (padded.length - places) ++ '.' :: padded.drop (padded.length - places)

/-- The decimal with one digit before the point and an exponent. -/
def scientific (d : Decimal) (plus : Bool) : List Char :=
  let e := d.leadingPower
  let mark := if e < 0 then ['e', '-'] else if plus then ['e', '+'] else ['e']
  let fraction := match d.digitChars.tail with
    | [] => []
    | rest => '.' :: rest
  d.digitChars.take 1 ++ fraction ++ mark ++ Nat.toDigits 10 e.natAbs

end Decimal

namespace Binary64

/-- The natural form of a number in a style. -/
def write (x : Binary64) (style : NumberStyle) : String :=
  if x.isNaN then style.nan
  else if !x.isFinite then style.infinity x.isNegative
  else
    let d := x.shortest style.tie
    let body :=
      if style.positional d.leadingPower then
        d.positional ++ if style.pointZero && 0 ≤ d.exponent then ['.', '0'] else []
      else d.scientific style.exponentPlus
    String.ofList (if x.isNegative then '-' :: body else body)

/-- The text of an infinity where it is spelled `inf`. -/
def infText (negative : Bool) : String :=
  if negative then "-inf" else "inf"

/-- A number with exactly `places` digits after the point. -/
def writeFixed (x : Binary64) (places : Nat) : String :=
  if x.isNaN then "NaN"
  else if !x.isFinite then infText x.isNegative
  else
    let r := x.ratio
    let d : Decimal := ⟨roundDiv (r.1 * Nat.pow 10 places) r.2, -(places : Int)⟩
    String.ofList (if x.isNegative then '-' :: d.positional else d.positional)

end Binary64

end ThreeBucket
