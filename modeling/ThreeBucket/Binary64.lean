import ThreeBucket.Comparator

/-!
# Binary floating-point numbers of 64 bits

A number is its bit pattern.  The sign, the exponent field and the fraction are read off the
bits, so that every statement about a number is a statement about natural numbers, and no
operation of the machine is trusted.

* `Binary64` — a bit pattern.  `significand` and `scale` give the exact value of a finite one,
  `significand * 2 ^ scale`, apart from the sign.
* `Binary64.compare?` — the order of numbers: both zeros are equal, and a pattern that is not a
  number has no ordering with anything, itself included.
* `Binary64.ofRatio` — the number nearest to a quotient.  **All arithmetic is done on exact
  quotients and rounded once**: `add`, `mul` and `div` are defined through it.
-/

namespace ThreeBucket

/-- A binary floating-point number of 64 bits, by its bit pattern. -/
structure Binary64 where
  bits : UInt64
  deriving Repr, DecidableEq

namespace Binary64

/-! ## Reading the bits -/

/-- Whether the sign bit is set, also for a zero. -/
def isNegative (x : Binary64) : Bool :=
  Nat.pow 2 63 ≤ x.bits.toNat

/-- The bits without the sign, which order the magnitudes. -/
def magnitudeBits (x : Binary64) : Nat :=
  x.bits.toNat % Nat.pow 2 63

/-- The exponent field. -/
def exponentField (x : Binary64) : Nat :=
  x.magnitudeBits / Nat.pow 2 52

/-- The fraction field. -/
def fraction (x : Binary64) : Nat :=
  x.magnitudeBits % Nat.pow 2 52

/-- The magnitude bits of an infinity, which are the least that no finite number has. -/
def infinityBits : Nat :=
  2047 * Nat.pow 2 52

/-- Whether the pattern stands for a number of finite size. -/
def isFinite (x : Binary64) : Bool :=
  x.magnitudeBits < infinityBits

/-- Whether the pattern stands for no number. -/
def isNaN (x : Binary64) : Bool :=
  infinityBits < x.magnitudeBits

/-- The integer factor of a finite number's magnitude. -/
def significand (x : Binary64) : Nat :=
  if x.exponentField = 0 then x.fraction else x.fraction + Nat.pow 2 52

/-- The power of two in a finite number's magnitude. -/
def scale (x : Binary64) : Int :=
  (max x.exponentField 1 : Nat) - 1075

/-- The number with these magnitude bits, which must be less than `2 ^ 63`. -/
def ofMagnitude (negative : Bool) (magnitude : Nat) : Binary64 :=
  ⟨UInt64.ofNat (magnitude + if negative then Nat.pow 2 63 else 0)⟩

/-- The zero of either sign. -/
def zero (negative : Bool) : Binary64 :=
  ofMagnitude negative 0

/-- The infinity of either sign. -/
def infinity (negative : Bool) : Binary64 :=
  ofMagnitude negative infinityBits

/-- The one pattern written for "not a number". -/
def nan : Binary64 :=
  ofMagnitude false (infinityBits + Nat.pow 2 51)

/-! ## Order -/

/-- An integer that orders the numbers: the magnitude bits with the sign. -/
def rank (x : Binary64) : Int :=
  if x.isNegative then -(x.magnitudeBits : Int) else x.magnitudeBits

/-- How two numbers stand to each other, if both are numbers. -/
def compare? (x y : Binary64) : Option Ordering :=
  if x.isNaN || y.isNaN then none else some (compare x.rank y.rank)

instance : PartialCompare Binary64 where
  compare? := Binary64.compare?

/-! ## Rounding a quotient -/

/-- The quotient rounded to the nearest natural number, a half going to the even neighbour. -/
def roundDiv (num den : Nat) : Nat :=
  let quotient := num / den
  let rest := num % den
  if 2 * rest < den then quotient
  else if den < 2 * rest then quotient + 1
  else quotient + quotient % 2

/-- The quotient `num / (den * 2 ^ power)` as a pair without a negative exponent. -/
def unscale (num den : Nat) (power : Int) : Nat × Nat :=
  (num * Nat.pow 2 (-power).toNat, den * Nat.pow 2 power.toNat)

/-- The largest `e` with `2 ^ e ≤ num / den`, for a positive quotient. -/
def floorLog2 (num den : Nat) : Int :=
  let e : Int := (num.log2 : Int) - den.log2
  let r := unscale num den e
  if r.2 ≤ r.1 then e else e - 1

/-- The power of two that is the unit of the last place at `num / den`. -/
def unitPower (num den : Nat) : Int :=
  max (floorLog2 num den - 52) (-1074)

/-- The number nearest to `num / den` with the given sign, a tie going to the even neighbour.
Too large a quotient gives an infinity.

The magnitude bits count the numbers of each sign from zero upwards.  A quotient of `m` units
`2 ^ q` therefore has the magnitude bits `(q + 1074) * 2 ^ 52 + m`, for subnormal numbers and
also when rounding carries `m` into the next power of two. -/
def ofRatio (negative : Bool) (num den : Nat) : Binary64 :=
  if num = 0 then zero negative
  else
    let q := unitPower num den
    let r := unscale num den q
    let magnitude := (q + 1074).toNat * Nat.pow 2 52 + roundDiv r.1 r.2
    ofMagnitude negative (min magnitude infinityBits)

/-- The number nearest to a natural number. -/
def ofNat (n : Nat) : Binary64 :=
  ofRatio false n 1

/-- The number nearest to `digits * 10 ^ exponent`.  Exponents far outside the range of numbers
are cut off before any power is computed. -/
def ofDecimal (negative : Bool) (digits : Nat) (exponent : Int) : Binary64 :=
  if digits = 0 then zero negative
  else
    let places : Int := (Nat.toDigits 10 digits).length
    if 310 < places + exponent then infinity negative
    else if places + exponent < -330 then zero negative
    else ofRatio negative (digits * Nat.pow 10 exponent.toNat) (Nat.pow 10 (-exponent).toNat)

/-! ## Arithmetic of magnitudes

Durations are never negative, so only the magnitudes of finite numbers are added, multiplied and
divided. -/

/-- A finite number's magnitude as an exact quotient. -/
def ratio (x : Binary64) : Nat × Nat :=
  (x.significand * Nat.pow 2 x.scale.toNat, Nat.pow 2 (-x.scale).toNat)

/-- The rounded sum of two finite magnitudes. -/
def add (x y : Binary64) : Binary64 :=
  let a := x.ratio
  let b := y.ratio
  ofRatio false (a.1 * b.2 + b.1 * a.2) (a.2 * b.2)

/-- The rounded product of two finite magnitudes. -/
def mul (x y : Binary64) : Binary64 :=
  let a := x.ratio
  let b := y.ratio
  ofRatio false (a.1 * b.1) (a.2 * b.2)

/-- The rounded quotient of two finite magnitudes, the second of which is not zero. -/
def div (x y : Binary64) : Binary64 :=
  let a := x.ratio
  let b := y.ratio
  ofRatio false (a.1 * b.2) (a.2 * b.1)

end Binary64

end ThreeBucket
