import ThreeBucket.Proofs.CsvReport
import ThreeBucket.Proofs.Nearest

/-!
# Seconds that read back

The seconds of a report are a plain decimal: digits, a point, digits.  Here the search for the
shortest decimal is tied to rounding.  Every way in which it ends gives a decimal that rounds to the
number, so nothing depends on where the search begins or how many grids it tries.

* `interval_low`, `interval_high` — the interval of the search is the one that rounds to the number.
* `isNearest_nearestOnGrid?`, `isNearest_shortest` — **the shortest decimal reads back**.
* `PlainDecimal` — a plain decimal and what it stands for.  `Decimal.plainDecimal` decides where a
  point is missing: exactly at the decimals that are whole.
* `seconds_reads_back` — the seconds of a report are a plain decimal, and **rounding it gives the
  number of the report**, for every finite pattern of bits.
-/

namespace ThreeBucket

/-- The number that a decimal stands for. -/
def Decimal.value (d : Decimal) : ℚ :=
  d.digits * 10 ^ d.exponent

namespace Binary64

variable {x : Binary64} {tie : Tie}

/-! ## The interval of a number -/

lemma inUnits_significand (x : Binary64) :
    x.InUnits (x.exponentField - 1) x.significand := by
  have hfield : x.exponentField = x.magnitudeBits / 2 ^ 52 := rfl
  have hfraction : x.fraction = x.magnitudeBits % 2 ^ 52 := rfl
  have hsignificand := x.significand_eq
  split at hsignificand
  · exact ⟨by omega, by omega, .inl (by omega)⟩
  · exact ⟨by omega, by omega, .inr (by omega)⟩

lemma scale_eq (x : Binary64) : ((x.exponentField - 1 : ℕ) : ℤ) - 1074 = x.scale := by
  rw [scale]
  omega

/-- The lower end of the interval, in quarters of a unit. -/
lemma interval_low (hpos : 0 < x.significand) :
    (x.interval.low : ℚ) =
      4 * x.significand - 2 * gapBelow (x.exponentField - 1) x.significand := by
  have hfraction : x.fraction < 2 ^ 52 := Nat.mod_lt _ (by decide)
  have hsignificand := x.significand_eq
  have hpower : (x.fraction = 0 ∧ 1 < x.exponentField) ↔
      (0 < x.exponentField - 1 ∧ x.significand = 2 ^ 52) := by
    split at hsignificand <;> omega
  simp only [interval, gapBelow, hpower]
  split <;> rw [Nat.cast_sub (by omega)] <;> push_cast <;> ring

lemma interval_high (x : Binary64) : (x.interval.high : ℚ) = 4 * x.significand + 2 := by
  rw [interval]
  push_cast
  rfl

lemma Interval.contains_iff {i : Interval} {unit point : Nat} :
    i.contains unit point = true ↔ (i.low * unit ≤ point ∧ point ≤ i.high * unit) ∧
      (point = i.low * unit ∨ point = i.high * unit → i.closed = true) := by
  rw [contains]
  split
  case isTrue hclosed => simp [hclosed]
  case isFalse hopen =>
    rw [Bool.and_eq_true, decide_eq_true_eq, decide_eq_true_eq]
    constructor
    · intro ⟨hlow, hhigh⟩
      exact ⟨⟨hlow.le, hhigh.le⟩, by omega⟩
    · rintro ⟨⟨hlow, hhigh⟩, hends⟩
      exact ⟨lt_of_le_of_ne hlow fun h => hopen (hends (.inl h.symm)),
        lt_of_le_of_ne hhigh fun h => hopen (hends (.inr h))⟩

/-- **What lies in the interval of a number rounds to it.** -/
lemma isNearest_of_contains (hnan : x.isNaN = false) (hpos : 0 < x.significand) {unit point : Nat}
    (hunit : 0 < unit) (h : x.interval.contains unit point = true) :
    IsNearest ((point : ℚ) / unit / 4 * 2 ^ x.scale) x := by
  obtain ⟨⟨hlow, hhigh⟩, hends⟩ := Interval.contains_iff.mp h
  have hunit' : (0 : ℚ) < unit := by exact_mod_cast hunit
  have hlow' : (x.interval.low : ℚ) ≤ point / unit := by
    rw [le_div_iff₀ hunit']
    exact_mod_cast hlow
  have hhigh' : (point : ℚ) / unit ≤ x.interval.high := by
    rw [div_le_iff₀ hunit']
    exact_mod_cast hhigh
  have hends' : (point : ℚ) / unit = x.interval.low ∨ (point : ℚ) / unit = x.interval.high →
      x.significand % 2 = 0 := by
    rw [div_eq_iff hunit'.ne', div_eq_iff hunit'.ne']
    intro hend
    exact of_decide_eq_true (hends (by exact_mod_cast hend))
  rw [interval_low hpos] at hlow' hends'
  rw [interval_high] at hhigh' hends'
  rw [← scale_eq]
  refine (inUnits_significand x).isNearest hnan (by linarith) (by linarith) fun htie => hends' ?_
  exact htie.imp (fun h => by linarith) (fun h => by linarith)

/-! ## The grids -/

/-- A point of the grid is taken only if it lies in the interval. -/
lemma contains_of_nearestOnGrid? {exponent : Int} {d : Decimal}
    (h : x.nearestOnGrid? tie exponent = some d) :
    ∃ n, d = ⟨n, exponent⟩ ∧ x.interval.contains
      (10 ^ (-exponent).toNat * 2 ^ (x.scale - 2).toNat)
      (n * (10 ^ exponent.toNat * 2 ^ (-(x.scale - 2)).toNat)) = true := by
  unfold nearestOnGrid? at h
  extract_lets i quarter unit step middle below rest lower upper preferLower at h
  split at h
  case isTrue hlower =>
    obtain ⟨hlower, -⟩ := (Bool.and_eq_true _ _).mp hlower
    exact ⟨below, (Option.some.inj h).symm, hlower⟩
  case isFalse =>
    split at h
    case isTrue hupper => exact ⟨below + 1, (Option.some.inj h).symm, hupper⟩
    case isFalse => exact absurd h (by simp)

lemma isNearest_nearestOnGrid? (hnan : x.isNaN = false) (hpos : 0 < x.significand)
    {exponent : Int} {d : Decimal} (h : x.nearestOnGrid? tie exponent = some d) :
    IsNearest d.value x := by
  obtain ⟨n, rfl, hcontains⟩ := contains_of_nearestOnGrid? h
  have hnearest := isNearest_of_contains hnan hpos
    (Nat.mul_pos (Nat.pow_pos (by omega)) (Nat.pow_pos (by omega))) hcontains
  have hscale : (2 : ℚ) ^ x.scale = 4 * 2 ^ (x.scale - 2) := by
    rw [zpow_sub₀ (by norm_num)]
    norm_num
    ring
  convert hnearest using 1
  rw [hscale, zpow_eq_div 2 (x.scale - 2), Decimal.value, zpow_eq_div 10 exponent]
  push_cast
  field_simp

lemma exactDecimal_value (x : Binary64) : x.exactDecimal.value = x.value := by
  rw [exactDecimal, value]
  split
  case isTrue hwhole =>
    obtain ⟨k, hk⟩ := Int.eq_ofNat_of_zero_le hwhole
    rw [hk, Decimal.value]
    simp
  case isFalse hfraction =>
    obtain ⟨k, hk⟩ := Int.eq_ofNat_of_zero_le (Int.neg_nonneg.mpr (not_le.mp hfraction).le)
    obtain hscale : x.scale = -k := by omega
    rw [hscale, Decimal.value]
    have hten : (10 : ℚ) ^ k = 5 ^ k * 2 ^ k := by
      rw [← mul_pow]
      norm_num
    simp [hten]
    field_simp

lemma isNearest_searchGrids (hnan : x.isNaN = false) (hpos : 0 < x.significand) (n : Nat)
    (exponent : Int) : IsNearest (x.searchGrids tie n exponent).value x := by
  induction n generalizing exponent with
  | zero =>
      rw [searchGrids, exactDecimal_value]
      exact isNearest_value hnan
  | succ n ih =>
      rw [searchGrids]
      split
      · exact isNearest_nearestOnGrid? hnan hpos ‹_›
      · exact ih _

/-- **The shortest decimal reads back as the number.** -/
theorem isNearest_shortest (hnan : x.isNaN = false) (tie : Tie) :
    IsNearest (x.shortest tie).value x := by
  rw [shortest]
  split
  case isTrue hzero =>
    have hvalue : x.value = (⟨0, 0⟩ : Decimal).value := by simp [value, Decimal.value, hzero]
    rw [← hvalue]
    exact isNearest_value hnan
  case isFalse hpos => exact isNearest_searchGrids hnan (Nat.pos_of_ne_zero hpos) _ _

end Binary64

/-! ## Plain decimals -/

/-- The text is a plain decimal, which stands for `q`: digits on both sides of a point. -/
def PlainDecimal (text : List Char) (q : ℚ) : Prop :=
  ∃ whole fraction, text = whole ++ '.' :: fraction ∧ whole ≠ [] ∧ fraction ≠ [] ∧
    (∀ c ∈ whole ++ fraction, c.isDigit = true) ∧
    (Nat.ofDigitChars 10 (whole ++ fraction) 0 : ℚ) / 10 ^ fraction.length = q

namespace Decimal
variable {d : Decimal}

lemma plainDecimal_of_neg (h : d.exponent < 0) : PlainDecimal d.positional d.value := by
  obtain ⟨digits, exponent⟩ := d
  obtain ⟨places, rfl⟩ := Int.exists_eq_neg_ofNat h.le
  have hplaces : 0 < places := by
    simp only at h
    omega
  obtain ⟨whole, fraction, htext, hwhole, hlength, hdigits, hvalue⟩ := positional_eq hplaces digits
  refine ⟨whole, fraction, htext, hwhole, ?_, hdigits, ?_⟩
  · rintro rfl
    exact absurd hlength hplaces.ne
  · rw [hvalue, hlength, value, zpow_neg, zpow_natCast, div_eq_mul_inv]

/-- A whole decimal is its digits and zeros. -/
lemma isDigit_of_mem_positional (h : 0 ≤ d.exponent) : ∀ c ∈ d.positional, c.isDigit = true := by
  intro c hc
  rw [positional, if_pos h] at hc
  rcases List.mem_append.mp hc with hdigit | hzero
  · exact isDigit_of_mem_toDigits c hdigit
  · rw [List.eq_of_mem_replicate hzero]
    rfl

lemma plainDecimal_of_nonneg (h : 0 ≤ d.exponent) :
    PlainDecimal (d.positional ++ ['.', '0']) d.value := by
  obtain ⟨power, hpower⟩ := Int.eq_ofNat_of_zero_le h
  refine ⟨d.positional, ['0'], rfl, ?_, by simp, ?_, ?_⟩
  · rw [positional, if_pos h]
    exact List.append_ne_nil_of_left_ne_nil Nat.toDigits_ne_nil _
  · intro c hc
    rcases List.mem_append.mp hc with hdigit | hzero
    · exact isDigit_of_mem_positional h c hdigit
    · rw [List.mem_singleton.mp hzero]
      rfl
  · have hzero : ['0'] = List.replicate 1 '0' := rfl
    rw [positional, if_pos h, hzero, Nat.ofDigitChars_append, Nat.ofDigitChars_append,
      Nat.ofDigitChars_replicate_zero, Nat.ofDigitChars_replicate_zero, digitChars,
      Nat.ofDigitChars_ten_toDigits, value, hpower]
    simp
    ring

/-- **With a point where there is none, every decimal is plain.** -/
lemma plainDecimal (d : Decimal) :
    PlainDecimal (d.positional ++ if '.' ∈ d.positional then [] else ['.', '0']) d.value := by
  rcases lt_or_ge d.exponent 0 with hneg | hwhole
  · have hplain := plainDecimal_of_neg hneg
    have hpoint : '.' ∈ d.positional := by
      obtain ⟨whole, fraction, htext, -⟩ := hplain
      simp [htext]
    rwa [if_pos hpoint, List.append_nil]
  · have hpoint : '.' ∉ d.positional := fun hc => by
      simpa using isDigit_of_mem_positional hwhole '.' hc
    rw [if_neg hpoint]
    exact plainDecimal_of_nonneg hwhole

end Decimal

/-! ## The seconds of a report -/

namespace Report

lemma toList_secondsText {x : Binary64} (hfinite : x.isFinite = true) :
    (secondsText x).toList = (if x.isNegative then ['-'] else []) ++
      ((x.shortest .up).positional ++
        if '.' ∈ (x.shortest .up).positional then [] else ['.', '0']) := by
  have htext : (x.write plainStyle).toList =
      (if x.isNegative then ['-'] else []) ++ (x.shortest .up).positional := by
    simp only [Binary64.write, Binary64.isNaN_of_isFinite hfinite, hfinite, plainStyle]
    cases x.isNegative <;> simp
  have hpoint : '.' ∈ (x.write plainStyle).toList ↔ '.' ∈ (x.shortest .up).positional := by
    rw [htext]
    cases x.isNegative <;> simp
  simp only [secondsText, List.contains_iff_mem, hpoint]
  split
  · rw [htext, List.append_nil]
  · rw [String.toList_append, htext, List.append_assoc]
    rfl

/-- **The seconds of a report read back.**  Apart from the sign, which is written if its bit is set,
the text is a plain decimal, and the number of the report is the nearest one to it. -/
theorem seconds_reads_back (r : Report) (hfinite : r.elapsed.isFinite = true) :
    ∃ body q, (r.render .seconds).toList = (if r.elapsed.isNegative then ['-'] else []) ++ body ∧
      PlainDecimal body q ∧ r.elapsed.IsNearest q ∧
      ∀ num den : Nat, 0 < den → (num : ℚ) / den = q →
        Binary64.ofRatio r.elapsed.isNegative num den = r.elapsed := by
  have hnearest := Binary64.isNearest_shortest (Binary64.isNaN_of_isFinite hfinite) .up
  refine ⟨_, _, toList_secondsText hfinite, Decimal.plainDecimal _, hnearest, ?_⟩
  intro num den hden hq
  exact Binary64.IsNearest.ofRatio_eq (by rwa [hq]) hden

/-- The shortest decimal of a large power of two is not the power itself. -/
theorem seconds_reads_back_power_of_two :
    let r : Report :=
      { name := "quicksort", shape := .random, strategy := .recursive, size := 5, iterations := 3,
        elapsed := .ofNat (2 ^ 60), perIteration := .nan, peakKb := none,
        startedAt := ⟨1767323045, 0⟩ }
    r.elapsed.isFinite = true ∧ r.render .seconds = "1152921504606847000.0" ∧
      ∃ q, PlainDecimal "1152921504606847000.0".toList q ∧ r.elapsed.IsNearest q ∧
        ∀ num den : Nat, 0 < den → (num : ℚ) / den = q →
          Binary64.ofRatio false num den = r.elapsed := by
  intro r
  have hfinite : r.elapsed.isFinite = true := by decide +kernel
  have hsign : r.elapsed.isNegative = false := by decide +kernel
  have htext : r.render .seconds = "1152921504606847000.0" := by decide +kernel
  obtain ⟨body, q, hbody, hplain, hnearest, hround⟩ := seconds_reads_back r hfinite
  rw [hsign] at hbody hround
  rw [htext] at hbody
  exact ⟨hfinite, htext, q, by rwa [hbody], hnearest, hround⟩

end Report

end ThreeBucket
