import ThreeBucket.Proofs.NumberOrder

/-!
# Rounding to the nearest number

Rounding is said here without an algorithm: a number is nearest to a quotient if no other number is
nearer, and of two equally near ones it is the one whose last bit is zero.  **There is one such
number**, and `Binary64.ofRatio` finds it.  The infinity takes part with the value that its bits
would have if there was one more exponent, so that a quotient rounds to it from half way beyond the
last finite number on.

* `IsNearest` — what it means to be the rounded quotient, up to the sign.
* `InUnits` — a magnitude as so many units of its last place.  `InUnits.le_value` and
  `InUnits.value_le` are the distances to the neighbours.
* `InUnits.isNearest` — **half a unit to each side is the range that rounds to a number**, and a
  quarter below a power of two.
* `isNearest_ofRatio`, `IsNearest.ofRatio_eq` — what is nearest is the result of rounding.
-/

namespace ThreeBucket.Binary64

variable {x y : Binary64} {q : ℚ}

/-! ## The nearest number -/

/-- The magnitude of `x` is the one nearest to `q`, and even if there are two. -/
structure IsNearest (q : ℚ) (x : Binary64) : Prop where
  isNaN : x.isNaN = false
  /-- No magnitude is nearer. -/
  near : ∀ y : Binary64, y.isNaN = false → |x.value - q| ≤ |y.value - q|
  /-- If another one is as near, the last bit is zero. -/
  even : ∀ y : Binary64, y.isNaN = false → y.magnitudeBits ≠ x.magnitudeBits →
    |y.value - q| = |x.value - q| → x.magnitudeBits % 2 = 0

section Distances
variable {a b : ℚ}

lemma abs_sub_le_iff_of_lt (h : a < b) : |b - q| ≤ |a - q| ↔ a + b ≤ 2 * q := by
  rcases abs_cases (b - q) with ⟨hb, _⟩ | ⟨hb, _⟩ <;>
    rcases abs_cases (a - q) with ⟨ha, _⟩ | ⟨ha, _⟩ <;>
    rw [hb, ha] <;> constructor <;> intro <;> linarith

lemma abs_sub_ge_iff_of_lt (h : a < b) : |a - q| ≤ |b - q| ↔ 2 * q ≤ a + b := by
  rcases abs_cases (b - q) with ⟨hb, _⟩ | ⟨hb, _⟩ <;>
    rcases abs_cases (a - q) with ⟨ha, _⟩ | ⟨ha, _⟩ <;>
    rw [hb, ha] <;> constructor <;> intro <;> linarith

end Distances

lemma infinityBits_lt : infinityBits < 2 ^ 63 := by decide

lemma isNaN_ofMagnitude {negative : Bool} {magnitude : Nat} (h : magnitude ≤ infinityBits) :
    (ofMagnitude negative magnitude).isNaN = false := by
  rw [isNaN, magnitudeBits_ofMagnitude (lt_of_le_of_lt h infinityBits_lt)]
  exact decide_eq_false (Nat.not_lt.mpr h)

lemma magnitudeBits_le_of_isNaN (h : x.isNaN = false) : x.magnitudeBits ≤ infinityBits :=
  Nat.not_lt.mp (of_decide_eq_false h)

/-- Nothing is nearer to the value of a number than the number. -/
lemma isNearest_value (hnan : x.isNaN = false) : IsNearest x.value x := by
  refine ⟨hnan, fun y _ => ?_, fun y _ hne hequal => ?_⟩
  · rw [sub_self, abs_zero]
    exact abs_nonneg _
  · rw [sub_self, abs_zero, abs_eq_zero, sub_eq_zero] at hequal
    rcases Nat.lt_or_gt_of_ne hne with hlt | hgt
    · exact absurd hequal (value_lt_value hlt).ne
    · exact absurd hequal (value_lt_value hgt).ne'

-- Two numbers that are both nearest are equally far, so both are even and something lies between.
/-- **There is only one nearest number**, up to its sign. -/
theorem IsNearest.magnitudeBits_unique (hx : IsNearest q x) (hy : IsNearest q y) :
    x.magnitudeBits = y.magnitudeBits := by
  by_contra hne
  wlog hlt : x.magnitudeBits < y.magnitudeBits generalizing x y
  · exact this hy hx (Ne.symm hne) (lt_of_le_of_ne (Nat.not_lt.mp hlt) (Ne.symm hne))
  have hsame : |x.value - q| = |y.value - q| :=
    le_antisymm (hx.near y hy.isNaN) (hy.near x hx.isNaN)
  have hxeven := hx.even y hy.isNaN (Ne.symm hne) hsame.symm
  have hyeven := hy.even x hx.isNaN hne hsame
  have hbound := magnitudeBits_le_of_isNaN hy.isNaN
  obtain ⟨z, hz, hbetween⟩ : ∃ z : Binary64, z.isNaN = false ∧
      z.magnitudeBits = x.magnitudeBits + 1 :=
    ⟨ofMagnitude false (x.magnitudeBits + 1), isNaN_ofMagnitude (by omega),
      magnitudeBits_ofMagnitude (lt_of_le_of_lt (by omega) infinityBits_lt)⟩
  have hlow : x.value < z.value := value_lt_value (by omega)
  have hhigh : z.value < y.value := value_lt_value (by omega)
  have hnear := (abs_sub_ge_iff_of_lt hlow).mp (hx.near z hz)
  have hmiddle := (abs_sub_le_iff_of_lt (hlow.trans hhigh)).mp hsame.ge
  linarith

/-! ## Units of the last place -/

lemma value_le_value (h : x.magnitudeBits ≤ y.magnitudeBits) : x.value ≤ y.value := by
  rcases Nat.lt_or_eq_of_le h with hlt | heq
  · exact (value_lt_value hlt).le
  · exact (value_eq_value heq).le

/-- The magnitude of `x` is `m` units of its last place, which is the `b`-th place from below.  The
units may have been rounded up to the next power of two. -/
structure InUnits (x : Binary64) (b m : Nat) : Prop where
  bits : x.magnitudeBits = b * 2 ^ 52 + m
  le : m ≤ 2 ^ 53
  normal : b = 0 ∨ 2 ^ 52 ≤ m

/-- How many units the next number below is away. -/
def gapBelow (b m : Nat) : ℚ :=
  if 0 < b ∧ m = 2 ^ 52 then 1 / 2 else 1

namespace InUnits
variable {b m : Nat}

lemma value_eq (h : x.InUnits b m) : x.value = m * 2 ^ ((b : ℤ) - 1074) :=
  value_of_magnitudeBits h.bits h.le h.normal

lemma le_value (h : x.InUnits b m) (hlt : x.magnitudeBits < y.magnitudeBits) :
    ((m : ℚ) + 1) * 2 ^ ((b : ℤ) - 1074) ≤ y.value := by
  have hbits := h.bits
  have hle := h.le
  have hnormal := h.normal
  obtain ⟨z, hz⟩ : ∃ z : Binary64, z.magnitudeBits = x.magnitudeBits + 1 :=
    ⟨ofMagnitude false (x.magnitudeBits + 1),
      magnitudeBits_ofMagnitude (lt_of_le_of_lt hlt y.magnitudeBits_lt)⟩
  refine le_trans ?_ (value_le_value (x := z) (by omega))
  rcases Nat.lt_or_eq_of_le hle with hplain | rfl
  · rw [value_of_magnitudeBits (b := b) (m := m + 1) (by omega) (by omega) (by omega),
      Nat.cast_succ]
  · -- above a power of two the units are twice as large
    rw [value_of_magnitudeBits (b := b + 1) (m := 2 ^ 52 + 1) (by omega) (by omega) (by omega)]
    have hunit : ((b + 1 : ℕ) : ℤ) - 1074 = 1 + ((b : ℤ) - 1074) := by omega
    rw [hunit, zpow_add₀ (by norm_num), zpow_one, ← mul_assoc]
    exact mul_le_mul_of_nonneg_right (by norm_num) (two_zpow_pos _).le

lemma value_le (h : x.InUnits b m) (hlt : y.magnitudeBits < x.magnitudeBits) :
    y.value ≤ (m - gapBelow b m) * 2 ^ ((b : ℤ) - 1074) := by
  have hbits := h.bits
  have hle := h.le
  have hnormal := h.normal
  obtain ⟨z, hz⟩ : ∃ z : Binary64, z.magnitudeBits + 1 = x.magnitudeBits := by
    have hrange := x.magnitudeBits_lt
    refine ⟨ofMagnitude false (x.magnitudeBits - 1), ?_⟩
    rw [magnitudeBits_ofMagnitude (by omega)]
    omega
  refine le_trans (value_le_value (y := z) (by omega)) (le_of_eq ?_)
  rw [gapBelow]
  split
  case isTrue hpower =>
    -- below a power of two the units are half as large
    obtain ⟨hb, rfl⟩ := hpower
    obtain ⟨c, rfl⟩ := Nat.exists_eq_succ_of_ne_zero hb.ne'
    rw [value_of_magnitudeBits (b := c) (m := 2 ^ 53 - 1) (by omega) (by omega) (by omega)]
    have hunit : ((c.succ : ℕ) : ℤ) - 1074 = 1 + ((c : ℤ) - 1074) := by omega
    rw [hunit, zpow_add₀ (by norm_num), zpow_one, ← mul_assoc]
    norm_num
  case isFalse hpower =>
    have hpos : 1 ≤ m := by omega
    rw [value_of_magnitudeBits (b := b) (m := m - 1) (by omega) (by omega) (by omega),
      Nat.cast_sub hpos, Nat.cast_one]

/-- **Half way to the neighbours** everything rounds to the number, and the end points do if the
units are even. -/
theorem isNearest (h : x.InUnits b m) (hnan : x.isNaN = false) {t : ℚ}
    (hlow : 2 * m - gapBelow b m ≤ 2 * t) (hhigh : 2 * t ≤ 2 * m + 1)
    (htie : 2 * t = 2 * m - gapBelow b m ∨ 2 * t = 2 * m + 1 → m % 2 = 0) :
    IsNearest (t * 2 ^ ((b : ℤ) - 1074)) x := by
  have hunit := two_zpow_pos ((b : ℤ) - 1074)
  have hvalue := h.value_eq
  refine ⟨hnan, ?_, ?_⟩
  · intro y _
    rcases lt_trichotomy y.magnitudeBits x.magnitudeBits with hbelow | hsame | habove
    · rw [abs_sub_le_iff_of_lt (value_lt_value hbelow), hvalue]
      have hy := h.value_le hbelow
      have hscaled := mul_le_mul_of_nonneg_right hlow hunit.le
      linarith
    · rw [value_eq_value hsame]
    · rw [abs_sub_ge_iff_of_lt (value_lt_value habove), hvalue]
      have hy := h.le_value habove
      have hscaled := mul_le_mul_of_nonneg_right hhigh hunit.le
      linarith
  · intro y _ hne hequal
    have hparity : m % 2 = 0 := by
      apply htie
      rcases Nat.lt_or_gt_of_ne hne with hbelow | habove
      · left
        have hfar := (abs_sub_ge_iff_of_lt (value_lt_value hbelow)).mp hequal.le
        rw [hvalue] at hfar
        have hy := h.value_le hbelow
        refine le_antisymm (le_of_mul_le_mul_right ?_ hunit) hlow
        linarith
      · right
        have hfar := (abs_sub_le_iff_of_lt (value_lt_value habove)).mp hequal.le
        rw [hvalue] at hfar
        have hy := h.le_value habove
        refine le_antisymm hhigh (le_of_mul_le_mul_right ?_ hunit)
        linarith
    have hbits := h.bits
    omega

end InUnits

/-! ## Rounding finds it -/

section
variable {num den : Nat}

lemma infinity_inUnits (negative : Bool) : (infinity negative).InUnits 2046 (2 ^ 52) :=
  ⟨magnitudeBits_ofMagnitude infinityBits_lt, by norm_num, .inr le_rfl⟩

/-- The infinity is nearest to everything beyond it. -/
lemma isNearest_infinity (negative : Bool) (h : (2 : ℚ) ^ 1024 ≤ q) :
    IsNearest q (infinity negative) := by
  have hinfinity := infinity_inUnits negative
  have hvalue : (infinity negative).value ≤ q := by
    have hexponent : ((2046 : ℕ) : ℤ) - 1074 = (972 : ℕ) := rfl
    rwa [hinfinity.value_eq, hexponent, zpow_natCast, Nat.cast_pow, Nat.cast_ofNat, ← pow_add]
  have hbits : (infinity negative).magnitudeBits = infinityBits :=
    magnitudeBits_ofMagnitude infinityBits_lt
  refine ⟨isNaN_ofMagnitude le_rfl, ?_, ?_⟩
  · intro y hy
    have hbelow : y.value ≤ (infinity negative).value :=
      value_le_value (le_of_le_of_eq (magnitudeBits_le_of_isNaN hy) hbits.symm)
    rw [abs_of_nonpos (by linarith), abs_of_nonpos (by linarith)]
    linarith
  · intro _ _ _ _
    rw [hbits]
    rfl

lemma zero_inUnits (negative : Bool) : (zero negative).InUnits 0 0 :=
  ⟨by rw [zero, magnitudeBits_ofMagnitude (by norm_num), Nat.zero_mul], by norm_num, .inl rfl⟩

/-- A quotient that does not overflow is rounded to so many units. -/
lemma inUnits_ofRatio (negative : Bool) (hnum : 0 < num) (hden : 0 < den)
    (h : (unitPower num den + 1074).toNat * 2 ^ 52 + units num den ≤ infinityBits) :
    (ofRatio negative num den).InUnits (unitPower num den + 1074).toNat (units num den) := by
  obtain ⟨hunits, hnormal⟩ := units_bounds hnum hden
  refine ⟨?_, hunits, hnormal.imp_left (by omega)⟩
  rw [ofRatio_eq negative hnum den, min_eq_left h,
    magnitudeBits_ofMagnitude (lt_of_le_of_lt h infinityBits_lt)]

lemma isNaN_ofRatio (negative : Bool) (num den : Nat) :
    (ofRatio negative num den).isNaN = false := by
  rcases Nat.eq_zero_or_pos num with rfl | hnum
  · exact isNaN_ofMagnitude (Nat.zero_le _)
  · rw [ofRatio_eq negative hnum den]
    exact isNaN_ofMagnitude (min_le_right _ _)

lemma two_pow_le_of_overflow (hnum : 0 < num) (hden : 0 < den)
    (h : infinityBits < (unitPower num den + 1074).toNat * 2 ^ 52 + units num den) :
    (2 : ℚ) ^ 1024 ≤ num / den := by
  have hinfinity : infinityBits = 2047 * 2 ^ 52 := rfl
  have hunits := (units_bounds hnum hden).1
  have hexponent : 972 ≤ unitPower num den := by omega
  have hlarge := (scaled_bounds hnum hden).2.resolve_left (by omega)
  rw [le_div_iff₀ (two_zpow_pos _)] at hlarge
  calc (2 : ℚ) ^ 1024 = (2 : ℚ) ^ 52 * (2 : ℚ) ^ (972 : ℤ) := by
        rw [show (972 : ℤ) = (972 : ℕ) from rfl, zpow_natCast, ← pow_add]
    _ ≤ (2 : ℚ) ^ 52 * (2 : ℚ) ^ unitPower num den :=
        mul_le_mul_of_nonneg_left (zpow_le_zpow_right₀ (by norm_num) hexponent) (by norm_num)
    _ ≤ num / den := hlarge

-- Rounding goes by half a unit.  Below a power of two the gap is smaller, but a quotient is only
-- counted in units of that power if it is not below it.
lemma isNearest_units (hnum : 0 < num) (hden : 0 < den)
    (hx : x.InUnits (unitPower num den + 1074).toNat (units num den)) (hnan : x.isNaN = false) :
    IsNearest ((num : ℚ) / den) x := by
  have hmin : -1074 ≤ unitPower num den := le_max_right _ _
  have hpower : ((unitPower num den + 1074).toNat : ℤ) - 1074 = unitPower num den := by omega
  have hlarge := (scaled_bounds hnum hden).2
  have hnear := units_near num hden
  have heven : |(units num den : ℚ) - num / den / 2 ^ unitPower num den| = 1 / 2 →
      units num den % 2 = 0 := units_even hden
  rw [← div_mul_cancel₀ ((num : ℚ) / den) (two_zpow_pos (unitPower num den)).ne']
  generalize (num : ℚ) / den / 2 ^ unitPower num den = t at *
  rw [← hpower]
  obtain ⟨hlower, hupper⟩ := abs_le.mp hnear
  by_cases hboundary : 0 < (unitPower num den + 1074).toNat ∧ units num den = 2 ^ 52
  · have hge : (units num den : ℚ) ≤ t := by
      rw [hboundary.2, Nat.cast_pow]
      exact hlarge.resolve_left (by omega)
    refine hx.isNearest hnan ?_ (by linarith) (fun _ => by omega)
    rw [gapBelow, if_pos hboundary]
    linarith
  · have hgap : gapBelow (unitPower num den + 1074).toNat (units num den) = 1 := if_neg hboundary
    refine hx.isNearest hnan (by linarith) (by linarith) ?_
    rw [hgap]
    rintro (htie | htie)
    · exact heven (by rw [abs_of_nonneg] <;> linarith)
    · exact heven (by rw [abs_of_nonpos] <;> linarith)

/-- **The result of rounding is the nearest number.** -/
theorem isNearest_ofRatio (negative : Bool) (num : Nat) (hden : 0 < den) :
    IsNearest ((num : ℚ) / den) (ofRatio negative num den) := by
  rcases Nat.eq_zero_or_pos num with rfl | hnum
  · have hnearest := (zero_inUnits negative).isNearest (isNaN_ofMagnitude (Nat.zero_le _))
      (t := 0) (by norm_num [gapBelow]) (by norm_num) (fun _ => rfl)
    simpa [ofRatio] using hnearest
  · rcases Nat.lt_or_ge infinityBits ((unitPower num den + 1074).toNat * 2 ^ 52 + units num den)
      with hover | hrange
    · rw [ofRatio_eq negative hnum den, min_eq_right hover.le]
      exact isNearest_infinity negative (two_pow_le_of_overflow hnum hden hover)
    · exact isNearest_units hnum hden (inUnits_ofRatio negative hnum hden hrange)
        (isNaN_ofRatio negative num den)

lemma isNegative_ofRatio (negative : Bool) (num den : Nat) :
    (ofRatio negative num den).isNegative = negative := by
  rcases Nat.eq_zero_or_pos num with rfl | hnum
  · exact isNegative_ofMagnitude (by norm_num)
  · rw [ofRatio_eq negative hnum den]
    exact isNegative_ofMagnitude (lt_of_le_of_lt (min_le_right _ _) infinityBits_lt)

end

/-- A pattern is its sign and its magnitude. -/
lemma eq_of_isNegative_of_magnitudeBits (hsign : x.isNegative = y.isNegative)
    (hbits : x.magnitudeBits = y.magnitudeBits) : x = y := by
  obtain ⟨a⟩ := x
  obtain ⟨b⟩ := y
  congr 1
  apply UInt64.toNat_inj.mp
  have ha := UInt64.toNat_lt a
  have hb := UInt64.toNat_lt b
  simp only [isNegative, decide_eq_decide, Nat.pow_eq] at hsign
  simp only [magnitudeBits, Nat.pow_eq] at hbits
  omega

/-- **A number that is nearest to a quotient is the result of rounding it.** -/
theorem IsNearest.ofRatio_eq {num den : Nat} (h : IsNearest ((num : ℚ) / den) x) (hden : 0 < den) :
    ofRatio x.isNegative num den = x :=
  eq_of_isNegative_of_magnitudeBits (isNegative_ofRatio _ _ _)
    ((isNearest_ofRatio _ num hden).magnitudeBits_unique h)

end ThreeBucket.Binary64
