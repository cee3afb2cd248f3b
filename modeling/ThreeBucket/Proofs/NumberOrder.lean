import Mathlib.Order.WithBot
import ThreeBucket.Proofs.Rounding

/-!
# The order of numbers of 64 bits

Patterns are compared by their bits, without looking at what they stand for.  Here the bits are
compared with the exact numbers: **the order of patterns is the order of numbers**, through
subnormal numbers, all exponents, both zeros and both infinities.

* `value_lt_value` — the magnitude bits order the magnitudes.  One more bit is one more unit of the
  last place, also where it carries into the exponent.
* `number` — what a pattern stands for, with the infinities at the two ends.
* `compare?_eq_some_iff`, `compare?_eq_none_iff` — how two patterns compare, and which ones do not.
-/

namespace ThreeBucket.Binary64

variable {x y : Binary64}

/-! ## Magnitudes -/

lemma value_eq_value (h : x.magnitudeBits = y.magnitudeBits) : x.value = y.value := by
  unfold value significand scale fraction exponentField
  rw [h]

-- A unit of the last place may also be added where it carries into the exponent.
lemma value_lt_value_of_succ (h : y.magnitudeBits = x.magnitudeBits + 1) : x.value < y.value := by
  have hfield : x.exponentField = x.magnitudeBits / 2 ^ 52 := rfl
  generalize hb : x.exponentField - 1 = b at hfield
  obtain ⟨m, hm⟩ : ∃ m, x.magnitudeBits = b * 2 ^ 52 + m :=
    ⟨x.magnitudeBits - b * 2 ^ 52, by omega⟩
  have hx : x.value = m * 2 ^ ((b : ℤ) - 1074) :=
    value_of_magnitudeBits hm (by omega) (by omega)
  have hy : y.value = (m + 1 : ℕ) * 2 ^ ((b : ℤ) - 1074) :=
    value_of_magnitudeBits (by omega) (by omega) (by omega)
  rw [hx, hy]
  exact mul_lt_mul_of_pos_right (by norm_num) (two_zpow_pos _)

/-- **The magnitude bits order the magnitudes.** -/
lemma value_lt_value (h : x.magnitudeBits < y.magnitudeBits) : x.value < y.value := by
  generalize hn : y.magnitudeBits = n at h
  induction n generalizing y with
  | zero => omega
  | succ n ih =>
      have hbits : n < 2 ^ 63 := by
        have hy := y.magnitudeBits_lt
        omega
      have hbelow : (ofMagnitude false n).magnitudeBits = n := magnitudeBits_ofMagnitude hbits
      have hstep : (ofMagnitude false n).value < y.value := value_lt_value_of_succ (by omega)
      rcases Nat.lt_or_ge x.magnitudeBits n with hlt | hge
      · exact (ih hbelow hlt).trans hstep
      · rwa [value_eq_value (show x.magnitudeBits = (ofMagnitude false n).magnitudeBits by omega)]

lemma value_of_magnitudeBits_eq_zero (h : x.magnitudeBits = 0) : x.value = 0 := by
  rw [value_of_magnitudeBits (b := 0) (m := 0) (by omega) (by omega) (by omega)]
  simp

lemma value_pos (h : 0 < x.magnitudeBits) : 0 < x.value := by
  have hzero : (zero false).magnitudeBits = 0 := by decide
  rw [← value_of_magnitudeBits_eq_zero hzero]
  exact value_lt_value (by omega)

/-! ## Numbers -/

/-- The magnitude with its sign. -/
def signedValue (x : Binary64) : ℚ :=
  if x.isNegative then -x.value else x.value

/-- What a pattern stands for: an exact number, or an infinity.  A pattern that is not a number is
put with the infinity of its sign. -/
def number (x : Binary64) : WithBot (WithTop ℚ) :=
  if x.isFinite then ((x.signedValue : ℚ) : WithTop ℚ)
  else if x.isNegative then ⊥ else (⊤ : WithTop ℚ)

lemma signedValue_lt_signedValue (h : x.rank < y.rank) : x.signedValue < y.signedValue := by
  simp only [rank] at h
  simp only [signedValue]
  split_ifs at h ⊢
  · exact neg_lt_neg (value_lt_value (by omega))
  · have hx := value_nonneg x
    have hy := value_nonneg y
    rcases Nat.eq_zero_or_pos x.magnitudeBits with hzero | hpos
    · linarith [value_pos (x := y) (by omega)]
    · linarith [value_pos hpos]
  · omega
  · exact value_lt_value (by omega)

lemma signedValue_eq_signedValue (h : x.rank = y.rank) : x.signedValue = y.signedValue := by
  simp only [rank] at h
  simp only [signedValue]
  split_ifs at h ⊢
  · rw [value_eq_value (by omega : x.magnitudeBits = y.magnitudeBits)]
  · rw [value_of_magnitudeBits_eq_zero (by omega : x.magnitudeBits = 0),
      value_of_magnitudeBits_eq_zero (by omega : y.magnitudeBits = 0), neg_zero]
  · rw [value_of_magnitudeBits_eq_zero (by omega : x.magnitudeBits = 0),
      value_of_magnitudeBits_eq_zero (by omega : y.magnitudeBits = 0), neg_zero]
  · rw [value_eq_value (by omega : x.magnitudeBits = y.magnitudeBits)]

/-- The infinities have the two extreme ranks, and finite numbers the ranks between them. -/
lemma number_cases (h : x.isNaN = false) :
    (x.rank = -infinityBits ∧ x.number = ⊥) ∨ (x.rank = infinityBits ∧ x.number = (⊤ : WithTop ℚ)) ∨
      (-infinityBits < x.rank ∧ x.rank < infinityBits) ∧
        x.number = ((x.signedValue : ℚ) : WithTop ℚ) := by
  have hle : x.magnitudeBits ≤ infinityBits := by simpa [isNaN] using h
  have hfinite : x.isFinite = true ↔ x.magnitudeBits < infinityBits := by simp [isFinite]
  rcases Nat.lt_or_eq_of_le hle with hlt | heq
  · have hbetween : -infinityBits < x.rank ∧ x.rank < infinityBits := by
      unfold rank
      split_ifs <;> omega
    exact .inr (.inr ⟨hbetween, if_pos (hfinite.mpr hlt)⟩)
  · simp only [rank, number, hfinite]
    cases x.isNegative <;> simp [heq]

lemma number_lt_number (hx : x.isNaN = false) (hy : y.isNaN = false) (h : x.rank < y.rank) :
    x.number < y.number := by
  rcases number_cases hx with ⟨hxr, hx⟩ | ⟨hxr, hx⟩ | ⟨hxr, hx⟩
  · rcases number_cases hy with ⟨hyr, hy⟩ | ⟨-, hy⟩ | ⟨-, hy⟩
    · omega
    · rw [hx, hy]
      exact WithBot.bot_lt_coe _
    · rw [hx, hy]
      exact WithBot.bot_lt_coe _
  · rcases number_cases hy with ⟨hyr, -⟩ | ⟨hyr, -⟩ | ⟨hyr, -⟩ <;> omega
  · rcases number_cases hy with ⟨hyr, -⟩ | ⟨-, hy⟩ | ⟨-, hy⟩
    · omega
    · rw [hx, hy]
      exact WithBot.coe_lt_coe.mpr (WithTop.coe_lt_top _)
    · rw [hx, hy]
      exact WithBot.coe_lt_coe.mpr (WithTop.coe_lt_coe.mpr (signedValue_lt_signedValue h))

lemma number_eq_number (hx : x.isNaN = false) (hy : y.isNaN = false) (h : x.rank = y.rank) :
    x.number = y.number := by
  have hpos : 0 < infinityBits := by decide
  rcases number_cases hx with ⟨hxr, hx⟩ | ⟨hxr, hx⟩ | ⟨hxr, hx⟩ <;>
    rcases number_cases hy with ⟨hyr, hy⟩ | ⟨hyr, hy⟩ | ⟨hyr, hy⟩
  case inl.inl | inr.inl.inr.inl => rw [hx, hy]
  case inr.inr.inr.inr => rw [hx, hy, signedValue_eq_signedValue h]
  all_goals omega

/-! ## Comparison -/

/-- **Patterns compare as the numbers they stand for**, and a pattern that is not a number compares
with nothing. -/
theorem compare?_eq_some_iff {o : Ordering} :
    PartialCompare.compare? x y = some o ↔
      (x.isNaN = false ∧ y.isNaN = false) ∧ compareOn number x y = o := by
  show Binary64.compare? x y = some o ↔ _
  simp only [Binary64.compare?, Option.ite_none_left_eq_some, Bool.or_eq_true, not_or,
    Bool.not_eq_true, Option.some.injEq]
  refine and_congr_right fun ⟨hx, hy⟩ => ?_
  have horder : compare x.rank y.rank = compareOn number x y := by
    unfold compareOn
    rcases lt_trichotomy x.rank y.rank with hlt | heq | hgt
    · rw [compare_lt_iff_lt.mpr hlt, compare_lt_iff_lt.mpr (number_lt_number hx hy hlt)]
    · rw [compare_eq_iff_eq.mpr heq, compare_eq_iff_eq.mpr (number_eq_number hx hy heq)]
    · rw [compare_gt_iff_gt.mpr hgt, compare_gt_iff_gt.mpr (number_lt_number hy hx hgt)]
  rw [horder]

lemma compare?_eq_none_iff :
    PartialCompare.compare? x y = none ↔ x.isNaN = true ∨ y.isNaN = true := by
  show Binary64.compare? x y = none ↔ _
  cases hx : x.isNaN <;> simp [Binary64.compare?, hx]

end ThreeBucket.Binary64
