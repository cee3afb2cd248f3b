import Mathlib.Algebra.Order.Field.Power
import Mathlib.Data.Rat.Cast.Order
import Mathlib.Tactic.FieldSimp
import Mathlib.Tactic.Linarith
import Mathlib.Tactic.Positivity
import Mathlib.Tactic.Ring
import ThreeBucket.Binary64.Text

/-!
# Rounding quotients

A finite number has an exact rational value.  Here the result of `Binary64.ofRatio` is compared with
the quotient that it rounds: by how much it is off, and when it is finite.

* `Binary64.value` — the magnitude of a finite number.
* `roundDiv_spec`, `floorLog2_bounds` — what the two steps of rounding do on natural numbers.
* `value_of_magnitudeBits` — **the magnitude bits count the numbers from zero upwards**: `b` and `m`
  in `b * 2 ^ 52 + m` give the value, also if `m` is so large that it carries into `b`.
* `ofRatio_error` — **a rounded quotient is off by half a unit of its last place at most**.
* `AtMost` — being finite, not negative and bounded by a power of two, which the arithmetic keeps as
  long as the exact result has such a bound.
-/

namespace ThreeBucket.Binary64

/-! ## Values -/

/-- The magnitude of a finite number. -/
def value (x : Binary64) : ℚ :=
  x.significand * 2 ^ x.scale

lemma two_zpow_pos (p : ℤ) : (0 : ℚ) < 2 ^ p :=
  zpow_pos (by norm_num) p

lemma zpow_eq_div (a : ℚ) (p : ℤ) : a ^ p = a ^ p.toNat / a ^ (-p).toNat := by
  rcases Int.le_total 0 p with hp | hp
  · have hneg : (-p).toNat = 0 := by omega
    obtain ⟨n, rfl⟩ := Int.eq_ofNat_of_zero_le hp
    simp [hneg]
  · have hpos : p.toNat = 0 := by omega
    obtain ⟨n, hn⟩ := Int.eq_ofNat_of_zero_le (Int.neg_nonneg.mpr hp)
    obtain rfl : p = -n := by omega
    simp

lemma isNaN_of_isFinite {x : Binary64} (h : x.isFinite = true) : x.isNaN = false := by
  simp only [isFinite, isNaN, decide_eq_true_eq, decide_eq_false_iff_not] at h ⊢
  omega

lemma ratio_snd_pos (x : Binary64) : 0 < x.ratio.2 :=
  Nat.pow_pos (by omega)

lemma ratio_eq_value (x : Binary64) : (x.ratio.1 : ℚ) / x.ratio.2 = x.value := by
  rw [value, zpow_eq_div]
  simp [ratio, mul_div_assoc]

lemma unscale_snd_pos (num : Nat) {den : Nat} (hden : 0 < den) (power : ℤ) :
    0 < (unscale num den power).2 :=
  Nat.mul_pos hden (Nat.pow_pos (by omega))

lemma unscale_eq (num den : Nat) (power : ℤ) :
    ((unscale num den power).1 : ℚ) / (unscale num den power).2 = num / den / 2 ^ power := by
  rw [zpow_eq_div]
  simp [unscale]
  field_simp

/-! ## Rounding on natural numbers -/

section
variable {num den : Nat}

lemma roundDiv_bounds (num den : Nat) :
    num / den ≤ roundDiv num den ∧ roundDiv num den ≤ num / den + 1 := by
  simp only [roundDiv]
  split
  · omega
  · split <;> omega

/-- **What rounding does on natural numbers**: it moves by half of the divisor at most, and if by
just that, to an even number. -/
lemma roundDiv_spec (num : Nat) (hden : 0 < den) :
    (2 * (den * roundDiv num den) ≤ 2 * num + den ∧
      2 * num ≤ 2 * (den * roundDiv num den) + den) ∧
    (2 * (den * roundDiv num den) = 2 * num + den ∨ 2 * num = 2 * (den * roundDiv num den) + den →
      roundDiv num den % 2 = 0) := by
  have hsplit := Nat.div_add_mod num den
  have hrest := Nat.mod_lt num hden
  simp only [roundDiv]
  split
  · omega
  · split
    · rw [Nat.mul_add]
      omega
    · rcases Nat.mod_two_eq_zero_or_one (num / den) with hparity | hparity
      · rw [hparity, Nat.add_zero]
        omega
      · rw [hparity, Nat.mul_add]
        omega

lemma roundDiv_sub (num : Nat) (hden : 0 < den) :
    (roundDiv num den : ℚ) - num / den = (2 * (den * roundDiv num den) - 2 * num) / (2 * den) := by
  have hden' : (den : ℚ) ≠ 0 := by exact_mod_cast hden.ne'
  field_simp

/-- **The rounded quotient is off by a half at most.** -/
lemma roundDiv_near (num : Nat) (hden : 0 < den) :
    |(roundDiv num den : ℚ) - num / den| ≤ 1 / 2 := by
  have hden' : (0 : ℚ) < den := by exact_mod_cast hden
  obtain ⟨⟨hupper, hlower⟩, -⟩ := roundDiv_spec num hden
  have hupper' : (2 : ℚ) * (den * roundDiv num den) ≤ 2 * num + den := by exact_mod_cast hupper
  have hlower' : (2 : ℚ) * num ≤ 2 * (den * roundDiv num den) + den := by exact_mod_cast hlower
  rw [roundDiv_sub num hden, abs_le]
  constructor
  · rw [le_div_iff₀ (by linarith)]
    linarith
  · rw [div_le_iff₀ (by linarith)]
    linarith

/-- A half is rounded to an even number. -/
lemma roundDiv_even (hden : 0 < den) (h : |(roundDiv num den : ℚ) - num / den| = 1 / 2) :
    roundDiv num den % 2 = 0 := by
  have hden' : (den : ℚ) ≠ 0 := by exact_mod_cast hden.ne'
  refine (roundDiv_spec num hden).2 ?_
  rw [roundDiv_sub num hden] at h
  rcases eq_or_eq_neg_of_abs_eq h with habove | hbelow
  · left
    field_simp at habove
    have hscaled : (2 : ℚ) * (den * roundDiv num den) = 2 * num + den := by linarith
    exact_mod_cast hscaled
  · right
    field_simp at hbelow
    have hscaled : (2 : ℚ) * num = 2 * (den * roundDiv num den) + den := by linarith
    exact_mod_cast hscaled

lemma le_roundDiv (hden : 0 < den) {n : Nat} (h : (n : ℚ) ≤ num / den) : n ≤ roundDiv num den := by
  have hden' : (0 : ℚ) < den := by exact_mod_cast hden
  have hfloor : n ≤ num / den := by
    rw [Nat.le_div_iff_mul_le hden]
    exact_mod_cast (le_div_iff₀ hden').mp h
  exact Nat.le_trans hfloor (roundDiv_bounds num den).1

lemma roundDiv_le (hden : 0 < den) {n : Nat} (h : (num : ℚ) / den < n) : roundDiv num den ≤ n := by
  have hden' : (0 : ℚ) < den := by exact_mod_cast hden
  have hfloor : num / den < n := by
    rw [Nat.div_lt_iff_lt_mul hden]
    exact_mod_cast (div_lt_iff₀ hden').mp h
  exact Nat.le_trans (roundDiv_bounds num den).2 hfloor

lemma log2_bounds {n : Nat} (h : 0 < n) :
    (2 : ℚ) ^ (n.log2 : ℤ) ≤ n ∧ (n : ℚ) < 2 ^ ((n.log2 : ℤ) + 1) := by
  constructor
  · exact_mod_cast Nat.log2_self_le h.ne'
  · exact_mod_cast Nat.lt_log2_self

/-- **The power of two at a quotient.** -/
lemma floorLog2_bounds (hnum : 0 < num) (hden : 0 < den) :
    (2 : ℚ) ^ floorLog2 num den ≤ num / den ∧ (num : ℚ) / den < 2 ^ (floorLog2 num den + 1) := by
  have hden' : (0 : ℚ) < den := by exact_mod_cast hden
  obtain ⟨hnumLower, hnumUpper⟩ := log2_bounds hnum
  obtain ⟨hdenLower, hdenUpper⟩ := log2_bounds hden
  -- The difference of the logarithms is one too large at most.
  generalize he : (num.log2 : ℤ) - den.log2 = e
  have hlower : (2 : ℚ) ^ (e - 1) ≤ num / den := by
    rw [le_div_iff₀ hden']
    calc (2 : ℚ) ^ (e - 1) * den ≤ 2 ^ (e - 1) * 2 ^ ((den.log2 : ℤ) + 1) := by gcongr
      _ = 2 ^ (num.log2 : ℤ) := by
        rw [← zpow_add₀ (by norm_num)]
        congr 1
        omega
      _ ≤ num := hnumLower
  have hupper : (num : ℚ) / den < 2 ^ (e + 1) := by
    rw [div_lt_iff₀ hden']
    calc (num : ℚ) < 2 ^ ((num.log2 : ℤ) + 1) := hnumUpper
      _ = 2 ^ (e + 1) * 2 ^ (den.log2 : ℤ) := by
        rw [← zpow_add₀ (by norm_num)]
        congr 1
        omega
      _ ≤ 2 ^ (e + 1) * den := by gcongr
  have htest : (unscale num den e).2 ≤ (unscale num den e).1 ↔ (2 : ℚ) ^ e ≤ num / den := by
    have hpos : (0 : ℚ) < (unscale num den e).2 := by exact_mod_cast unscale_snd_pos num hden e
    rw [← one_le_div₀ (two_zpow_pos e), ← unscale_eq, one_le_div₀ hpos, Nat.cast_le]
  simp only [floorLog2, he, htest]
  split
  · exact ⟨‹_›, hupper⟩
  · rw [sub_add_cancel]
    exact ⟨hlower, not_le.mp ‹_›⟩

end

/-! ## From magnitude bits to values -/

lemma significand_eq (x : Binary64) :
    x.significand = if x.exponentField = 0 then x.fraction else x.fraction + 2 ^ 52 := rfl

lemma magnitudeBits_lt (x : Binary64) : x.magnitudeBits < 2 ^ 63 :=
  Nat.mod_lt _ (by decide)

section
variable {negative : Bool} {magnitude : Nat}

lemma isNegative_ofMagnitude (h : magnitude < 2 ^ 63) :
    (ofMagnitude negative magnitude).isNegative = negative := by
  cases negative <;> simp [isNegative, ofMagnitude] <;> omega

lemma magnitudeBits_ofMagnitude (h : magnitude < 2 ^ 63) :
    (ofMagnitude negative magnitude).magnitudeBits = magnitude := by
  cases negative <;> simp [magnitudeBits, ofMagnitude] <;> omega

end

-- The cases are those of the exponent field: a subnormal number, a normal one, and a significand
-- that was rounded up to the next power of two.
lemma value_of_magnitudeBits {x : Binary64} {b m : Nat} (hbits : x.magnitudeBits = b * 2 ^ 52 + m)
    (hm : m ≤ 2 ^ 53) (hnormal : b = 0 ∨ 2 ^ 52 ≤ m) : x.value = m * 2 ^ ((b : ℤ) - 1074) := by
  have hfield : x.exponentField = (b * 2 ^ 52 + m) / 2 ^ 52 := by rw [← hbits]; rfl
  have hfraction : x.fraction = (b * 2 ^ 52 + m) % 2 ^ 52 := by rw [← hbits]; rfl
  have hsignificand := x.significand_eq
  have hscale : x.scale = (max x.exponentField 1 : Nat) - 1075 := rfl
  rcases lt_or_ge m (2 ^ 52) with hsubnormal | hnormal'
  · obtain rfl : b = 0 := by omega
    have hzero : x.exponentField = 0 := by omega
    have hone : x.significand = m := by
      rw [hsignificand, if_pos hzero]
      omega
    rw [value, hone, hscale, hzero]
    rfl
  · rcases Nat.lt_or_ge m (2 ^ 53) with hplain | hcarry
    · have hone : x.exponentField = b + 1 := by omega
      have htwo : x.significand = m := by
        rw [hsignificand, if_neg (by omega)]
        omega
      rw [value, htwo, hscale, hone]
      congr 2
      omega
    · obtain rfl : m = 2 ^ 53 := by omega
      have hone : x.exponentField = b + 2 := by omega
      have htwo : x.significand = 2 ^ 52 := by
        rw [hsignificand, if_neg (by omega)]
        omega
      have hpower : ((max (b + 2) 1 : Nat) : ℤ) - 1075 = 1 + ((b : ℤ) - 1074) := by omega
      rw [value, htwo, hscale, hone, hpower, zpow_add₀ (by norm_num)]
      norm_num
      ring

/-! ## Rounded quotients -/

section
variable {num den : Nat}

/-- The quotient in units of its last place, which has 53 binary digits unless it is subnormal. -/
lemma scaled_bounds (hnum : 0 < num) (hden : 0 < den) :
    (num : ℚ) / den / 2 ^ unitPower num den < 2 ^ 53 ∧
      (unitPower num den = -1074 ∨ (2 : ℚ) ^ 52 ≤ num / den / 2 ^ unitPower num den) := by
  obtain ⟨hlower, hupper⟩ := floorLog2_bounds hnum hden
  have hpos := two_zpow_pos (unitPower num den)
  constructor
  · rw [div_lt_iff₀ hpos]
    calc (num : ℚ) / den < 2 ^ (floorLog2 num den + 1) := hupper
      _ ≤ 2 ^ (53 + unitPower num den) := by
        refine zpow_le_zpow_right₀ (by norm_num) ?_
        rw [unitPower]
        omega
      _ = 2 ^ 53 * 2 ^ unitPower num den := by
        rw [zpow_add₀ (by norm_num)]
        rfl
  · rcases le_or_gt (floorLog2 num den - 52) (-1074) with hsubnormal | hnormal
    · exact .inl (max_eq_right hsubnormal)
    · right
      have hunit : unitPower num den = floorLog2 num den - 52 := max_eq_left hnormal.le
      rw [le_div_iff₀ hpos, hunit]
      calc (2 : ℚ) ^ 52 * 2 ^ (floorLog2 num den - 52) = 2 ^ floorLog2 num den := by
            rw [← zpow_natCast, ← zpow_add₀ (by norm_num)]
            congr 1
            omega
        _ ≤ num / den := hlower

/-- The rounded quotient in units of its last place. -/
def units (num den : Nat) : Nat :=
  roundDiv (unscale num den (unitPower num den)).1 (unscale num den (unitPower num den)).2

lemma ofRatio_eq (negative : Bool) (hnum : 0 < num) (den : Nat) :
    ofRatio negative num den =
      ofMagnitude negative
        (min ((unitPower num den + 1074).toNat * 2 ^ 52 + units num den) infinityBits) := by
  rw [ofRatio, if_neg hnum.ne']
  rfl

lemma units_near (num : Nat) (hden : 0 < den) :
    |(units num den : ℚ) - num / den / 2 ^ unitPower num den| ≤ 1 / 2 := by
  rw [← unscale_eq]
  exact roundDiv_near _ (unscale_snd_pos num hden _)

lemma units_even (hden : 0 < den)
    (h : |(units num den : ℚ) - num / den / 2 ^ unitPower num den| = 1 / 2) :
    units num den % 2 = 0 := by
  rw [← unscale_eq] at h
  exact roundDiv_even (unscale_snd_pos num hden _) h

lemma le_units (hden : 0 < den) {n : Nat} (h : (n : ℚ) ≤ num / den / 2 ^ unitPower num den) :
    n ≤ units num den := by
  rw [← unscale_eq] at h
  exact le_roundDiv (unscale_snd_pos num hden _) h

lemma units_le (hden : 0 < den) {n : Nat} (h : (num : ℚ) / den / 2 ^ unitPower num den < n) :
    units num den ≤ n := by
  rw [← unscale_eq] at h
  exact roundDiv_le (unscale_snd_pos num hden _) h

lemma units_bounds (hnum : 0 < num) (hden : 0 < den) :
    units num den ≤ 2 ^ 53 ∧ (unitPower num den = -1074 ∨ 2 ^ 52 ≤ units num den) := by
  obtain ⟨hupper, hlower⟩ := scaled_bounds hnum hden
  constructor
  · exact units_le hden (by exact_mod_cast hupper)
  · exact hlower.imp_right fun h => le_units hden (by exact_mod_cast h)

lemma unitPower_bounds (hnum : 0 < num) (hden : 0 < den) {k : Nat} (h : (num : ℚ) / den < 2 ^ k) :
    -1074 ≤ unitPower num den ∧ unitPower num den ≤ max ((k : ℤ) - 53) (-1074) := by
  have hlog : floorLog2 num den < k := by
    have hlt := (floorLog2_bounds hnum hden).1.trans_lt h
    rw [← zpow_natCast] at hlt
    exact (zpow_lt_zpow_iff_right₀ (by norm_num)).mp hlt
  rw [unitPower]
  omega

/-- **What a rounded quotient is**, if it is in range: so many units of its last place. -/
lemma ofRatio_spec (hnum : 0 < num) (hden : 0 < den) (h : (num : ℚ) / den < 2 ^ 1023) :
    (ofRatio false num den).isNegative = false ∧ (ofRatio false num den).isFinite = true ∧
      (ofRatio false num den).value = units num den * 2 ^ unitPower num den := by
  obtain ⟨hunits, hnormal⟩ := units_bounds hnum hden
  obtain ⟨hlower, hupper⟩ := unitPower_bounds hnum hden h
  have hinfinity : infinityBits = 2047 * 2 ^ 52 := rfl
  have hmagnitude :
      (unitPower num den + 1074).toNat * 2 ^ 52 + units num den < infinityBits := by
    omega
  have heq := ofRatio_eq false hnum den
  rw [min_eq_left hmagnitude.le] at heq
  have hbits : (ofRatio false num den).magnitudeBits =
      (unitPower num den + 1074).toNat * 2 ^ 52 + units num den := by
    rw [heq, magnitudeBits_ofMagnitude (hmagnitude.trans (by decide))]
  refine ⟨?_, ?_, ?_⟩
  · rw [heq, isNegative_ofMagnitude (hmagnitude.trans (by decide))]
  · rw [isFinite, hbits]
    exact decide_eq_true hmagnitude
  · rw [value_of_magnitudeBits hbits hunits (by omega)]
    congr 2
    omega

/-- **A rounded quotient is off by half a unit of its last place at most.** -/
theorem ofRatio_error (hnum : 0 < num) (hden : 0 < den) (h : (num : ℚ) / den < 2 ^ 1023) :
    |(ofRatio false num den).value - num / den| ≤ 2 ^ unitPower num den / 2 := by
  have hpos := two_zpow_pos (unitPower num den)
  rw [(ofRatio_spec hnum hden h).2.2]
  calc |(units num den : ℚ) * 2 ^ unitPower num den - num / den|
      = |(units num den : ℚ) - num / den / 2 ^ unitPower num den| * 2 ^ unitPower num den := by
        rw [← abs_of_pos hpos, ← abs_mul, abs_of_pos hpos, sub_mul, div_mul_cancel₀ _ hpos.ne']
    _ ≤ 1 / 2 * 2 ^ unitPower num den := by
        gcongr
        exact units_near num hden
    _ = 2 ^ unitPower num den / 2 := by ring

/-- Rounding does not lead above a power of two. -/
lemma value_ofRatio_le (hnum : 0 < num) (hden : 0 < den) {k : Nat} (hk : k ≤ 1023)
    (h : (num : ℚ) / den < 2 ^ k) : (ofRatio false num den).value ≤ 2 ^ k := by
  have hrange : (num : ℚ) / den < 2 ^ 1023 := h.trans_le (pow_le_pow_right₀ (by norm_num) hk)
  have hpos := two_zpow_pos (unitPower num den)
  obtain ⟨-, hunit⟩ := unitPower_bounds hnum hden h
  -- The power of two is a whole number of units.
  have hwhole : (2 : ℚ) ^ k =
      (2 ^ ((k : ℤ) - unitPower num den).toNat : ℕ) * 2 ^ unitPower num den := by
    rw [Nat.cast_pow, Nat.cast_ofNat, ← zpow_natCast, ← zpow_natCast, ← zpow_add₀ (by norm_num)]
    congr 1
    omega
  have hunits : units num den ≤ 2 ^ ((k : ℤ) - unitPower num den).toNat := by
    refine units_le hden ?_
    rw [div_lt_iff₀ hpos, ← hwhole]
    exact h
  rw [(ofRatio_spec hnum hden hrange).2.2, hwhole]
  exact mul_le_mul_of_nonneg_right (Nat.cast_le.mpr hunits) hpos.le

/-- Rounding does not lead below one. -/
lemma one_le_value_ofRatio (hden : 0 < den) (hone : (1 : ℚ) ≤ num / den)
    (h : (num : ℚ) / den < 2 ^ 1023) : 1 ≤ (ofRatio false num den).value := by
  have hnum : 0 < num := by
    rw [Nat.pos_iff_ne_zero]
    rintro rfl
    norm_num at hone
  have hlog : 0 ≤ floorLog2 num den := by
    have hlt := hone.trans_lt (floorLog2_bounds hnum hden).2
    have hpos := (one_lt_zpow_iff_right₀ (by norm_num)).mp hlt
    omega
  have hunit : unitPower num den = floorLog2 num den - 52 := by
    rw [unitPower]
    omega
  have hunits : 2 ^ 52 ≤ units num den := (units_bounds hnum hden).2.resolve_left (by omega)
  rw [(ofRatio_spec hnum hden h).2.2, hunit]
  calc (1 : ℚ) ≤ 2 ^ floorLog2 num den := one_le_zpow₀ (by norm_num) hlog
    _ = 2 ^ 52 * 2 ^ (floorLog2 num den - 52) := by
      rw [← zpow_natCast, ← zpow_add₀ (by norm_num)]
      congr 1
      omega
    _ ≤ units num den * 2 ^ (floorLog2 num den - 52) := by
      gcongr
      exact_mod_cast hunits

end

/-! ## Arithmetic within bounds -/

/-- A finite number that is not negative and at most `2 ^ k`. -/
structure AtMost (x : Binary64) (k : Nat) : Prop where
  isNegative : x.isNegative = false
  isFinite : x.isFinite = true
  value_le : x.value ≤ 2 ^ k

lemma value_nonneg (x : Binary64) : 0 ≤ x.value :=
  mul_nonneg (Nat.cast_nonneg _) (two_zpow_pos _).le

lemma atMost_zero (k : Nat) : (zero false).AtMost k := by
  have hvalue : (zero false).value = 0 := by
    have hbits : (zero false).magnitudeBits = 0 * 2 ^ 52 + 0 := by decide
    rw [value_of_magnitudeBits hbits (by omega) (.inl rfl)]
    simp
  exact ⟨by decide, by decide, by rw [hvalue]; positivity⟩

/-- **A quotient below a power of two rounds to a finite number that is not above it.** -/
theorem atMost_ofRatio {num den : Nat} (hden : 0 < den) {k : Nat} (hk : k ≤ 1023)
    (h : (num : ℚ) / den < 2 ^ k) : (ofRatio false num den).AtMost k := by
  rcases Nat.eq_zero_or_pos num with rfl | hnum
  · exact atMost_zero k
  · have hrange : (num : ℚ) / den < 2 ^ 1023 := h.trans_le (pow_le_pow_right₀ (by norm_num) hk)
    obtain ⟨hnegative, hfinite, -⟩ := ofRatio_spec hnum hden hrange
    exact ⟨hnegative, hfinite, value_ofRatio_le hnum hden hk h⟩

lemma atMost_ofNat {n k : Nat} (hk : k ≤ 1023) (h : n < 2 ^ k) : (ofNat n).AtMost k := by
  refine atMost_ofRatio (by omega) hk ?_
  rw [Nat.cast_one, div_one]
  exact_mod_cast h

lemma one_le_value_ofNat {n k : Nat} (hone : 1 ≤ n) (hk : k ≤ 1023) (h : n < 2 ^ k) :
    1 ≤ (ofNat n).value := by
  refine one_le_value_ofRatio (by omega) ?_ ?_
  · rw [Nat.cast_one, div_one]
    exact_mod_cast hone
  · rw [Nat.cast_one, div_one]
    calc (n : ℚ) < 2 ^ k := by exact_mod_cast h
      _ ≤ 2 ^ 1023 := pow_le_pow_right₀ (by norm_num) hk

section
variable {x y : Binary64} {j k : Nat}

lemma AtMost.add (hx : x.AtMost k) (hy : y.AtMost j) (hjk : j < k) (hk : k + 1 ≤ 1023) :
    (x.add y).AtMost (k + 1) := by
  have hsnd : (0 : ℚ) < x.ratio.2 ∧ (0 : ℚ) < y.ratio.2 := by
    exact_mod_cast And.intro x.ratio_snd_pos y.ratio_snd_pos
  have hvalue : ((x.ratio.1 * y.ratio.2 + y.ratio.1 * x.ratio.2 : ℕ) : ℚ) /
      (x.ratio.2 * y.ratio.2 : ℕ) = x.value + y.value := by
    rw [← ratio_eq_value, ← ratio_eq_value, div_add_div _ _ hsnd.1.ne' hsnd.2.ne']
    push_cast
    ring
  refine atMost_ofRatio (Nat.mul_pos x.ratio_snd_pos y.ratio_snd_pos) hk ?_
  rw [hvalue]
  calc x.value + y.value ≤ 2 ^ k + 2 ^ j := add_le_add hx.value_le hy.value_le
    _ < 2 ^ k + 2 ^ k := by
      gcongr
      norm_num
    _ = 2 ^ (k + 1) := by ring

lemma AtMost.mul (hx : x.AtMost j) (hy : y.AtMost k) (h : j + k + 1 ≤ 1023) :
    (x.mul y).AtMost (j + k + 1) := by
  have hvalue : ((x.ratio.1 * y.ratio.1 : ℕ) : ℚ) / (x.ratio.2 * y.ratio.2 : ℕ) =
      x.value * y.value := by
    rw [← ratio_eq_value, ← ratio_eq_value, div_mul_div_comm]
    push_cast
    rfl
  refine atMost_ofRatio (Nat.mul_pos x.ratio_snd_pos y.ratio_snd_pos) h ?_
  rw [hvalue]
  calc x.value * y.value ≤ 2 ^ j * 2 ^ k :=
        mul_le_mul hx.value_le hy.value_le y.value_nonneg (by positivity)
    _ = 2 ^ (j + k) := (pow_add _ _ _).symm
    _ < 2 ^ (j + k + 1) := pow_lt_pow_right₀ (by norm_num) (by omega)

/-- Division by a number that is not below one does not lead above the dividend. -/
lemma AtMost.div (hx : x.AtMost k) (hy : 1 ≤ y.value) (hk : k + 1 ≤ 1023) :
    (x.div y).AtMost (k + 1) := by
  have hfst : 0 < y.ratio.1 := by
    rw [Nat.pos_iff_ne_zero]
    intro hzero
    rw [← ratio_eq_value, hzero] at hy
    norm_num at hy
  have hvalue : ((x.ratio.1 * y.ratio.2 : ℕ) : ℚ) / (x.ratio.2 * y.ratio.1 : ℕ) =
      x.value / y.value := by
    rw [← ratio_eq_value, ← ratio_eq_value, div_div_div_eq]
    push_cast
    rfl
  refine atMost_ofRatio (Nat.mul_pos x.ratio_snd_pos hfst) hk ?_
  rw [hvalue]
  calc x.value / y.value ≤ x.value := div_le_self x.value_nonneg hy
    _ ≤ 2 ^ k := hx.value_le
    _ < 2 ^ (k + 1) := pow_lt_pow_right₀ (by norm_num) (by omega)

end

end ThreeBucket.Binary64
