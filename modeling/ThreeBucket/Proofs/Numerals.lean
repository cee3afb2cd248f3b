import Mathlib.Algebra.Ring.Nat
import Mathlib.Data.List.Basic
import ThreeBucket.Text.Numeral
import ThreeBucket.Toml.Word

/-!
# Numerals that read back

A natural number is written by its decimal digits, without leading zeros.  There are three readers
for such a numeral, two for the command line and one for documents, and **each of them gives back
the number that was written**, as long as it lies in the reader's range.

* `Text.readDigits_of_isDigit` — reading digits onto a value; nothing overflows on the way if the
  outcome is in range.
* `Text.readUnsigned_toDigits`, `Text.readSigned_toDigits`, `Toml.integer?_toDigits` — the readers.
* `Text.IsNumeral`, `Text.readUnsigned_eq_ok_iff` — what else is a numeral, and that nothing else is
  read.
-/

namespace ThreeBucket

lemma toList_toString (n : Nat) : (toString n).toList = Nat.toDigits 10 n := by
  rw [Nat.toString_eq_ofList_toDigits, String.toList_ofList]

lemma isDigit_of_mem_toDigits {n : Nat} : ∀ c ∈ Nat.toDigits 10 n, c.isDigit = true := by
  intro c hc
  exact Nat.isDigit_of_mem_toDigits (by omega) (by omega) hc

/-- Digits with zeros in front are digits. -/
lemma isDigit_of_mem_padded (zeros n : Nat) :
    ∀ c ∈ List.replicate zeros '0' ++ Nat.toDigits 10 n, c.isDigit = true := by
  intro c hc
  rcases List.mem_append.mp hc with hzero | hdigit
  · rw [List.eq_of_mem_replicate hzero]
    rfl
  · exact isDigit_of_mem_toDigits c hdigit

/-- A positive number has no leading zero. -/
lemma head?_toDigits_ne_zero {n : Nat} (h : 0 < n) : (Nat.toDigits 10 n).head? ≠ some '0' := by
  induction n using Nat.strongRecOn with
  | ind n ih =>
      by_cases hlt : n < 10
      · rw [Nat.toDigits_of_lt_base hlt]
        simp [Nat.digitChar_eq_zero]
        omega
      · have hdiv : n / 10 < n ∧ 0 < n / 10 := by omega
        rw [Nat.toDigits_of_base_le (by omega) (by omega), List.head?_append]
        cases hdigits : (Nat.toDigits 10 (n / 10)).head? with
        | none => exact absurd (List.head?_eq_none_iff.mp hdigits) Nat.toDigits_ne_nil
        | some c =>
            have hc := ih (n / 10) hdiv.1 hdiv.2
            rwa [hdigits] at hc

/-! ## Numbers on the command line -/

namespace Text

lemma le_ofDigitChars (value : Nat) (digits : List Char) :
    value ≤ Nat.ofDigitChars 10 digits value := by
  rw [Nat.ofDigitChars_eq_ofDigitChars_zero]
  have hpow : 0 < 10 ^ digits.length := Nat.pow_pos (by omega)
  exact Nat.le_add_right_of_le (Nat.le_mul_of_pos_left value hpow)

-- The value only grows, so a digit that left the range would leave the outcome out of it too.
lemma readDigits_of_isDigit {limit : Nat} {excess : NumeralFault} {digits : List Char}
    (hdigits : ∀ c ∈ digits, c.isDigit = true) {value : Nat}
    (hlimit : Nat.ofDigitChars 10 digits value ≤ limit) :
    readDigits limit excess value digits = .ok (Nat.ofDigitChars 10 digits value) := by
  induction digits generalizing value with
  | nil => simp [readDigits]
  | cons c rest ih =>
      have hc : digit? c = some (c.toNat - '0'.toNat) := by
        simp [digit?, hdigits c List.mem_cons_self]
      rw [Nat.ofDigitChars_cons] at hlimit ⊢
      have hstep : 10 * value + (c.toNat - '0'.toNat) ≤ limit :=
        Nat.le_trans (le_ofDigitChars _ rest) hlimit
      simp only [readDigits, hc, hstep, if_true]
      exact ih (fun d hd => hdigits d (List.mem_cons_of_mem _ hd)) hlimit

lemma readDigits_toDigits {limit n : Nat} (h : n ≤ limit) (excess : NumeralFault) :
    readDigits limit excess 0 (Nat.toDigits 10 n) = .ok n := by
  rw [readDigits_of_isDigit isDigit_of_mem_toDigits (by rwa [Nat.ofDigitChars_ten_toDigits]),
    Nat.ofDigitChars_ten_toDigits]

-- A text of digits begins with no sign, so it is read as it stands.
lemma readUnsigned_of_isDigit {limit : Nat} {digits : List Char} (hne : digits ≠ [])
    (hdigits : ∀ c ∈ digits, c.isDigit = true) :
    readUnsigned limit digits = readDigits limit .tooLarge 0 digits := by
  unfold readUnsigned
  split
  · exact absurd rfl hne
  · simp at hdigits
  · simp at hdigits
  · rfl

lemma readSigned_of_isDigit {width : Nat} {digits : List Char} (hne : digits ≠ [])
    (hdigits : ∀ c ∈ digits, c.isDigit = true) :
    readSigned width digits =
      (readDigits (2 ^ (width - 1) - 1) .tooLarge 0 digits).map fun n => (n : Int) := by
  unfold readSigned
  split
  · exact absurd rfl hne
  all_goals first | simp at hdigits | rfl

lemma readUnsigned_toDigits {limit n : Nat} (h : n ≤ limit) :
    readUnsigned limit (Nat.toDigits 10 n) = .ok n := by
  rw [readUnsigned_of_isDigit Nat.toDigits_ne_nil isDigit_of_mem_toDigits, readDigits_toDigits h]

/-- Exactly digits are read, to their value. -/
lemma readDigits_eq_ok_iff {limit : Nat} {excess : NumeralFault} {digits : List Char}
    {value n : Nat} (hvalue : value ≤ limit) :
    readDigits limit excess value digits = .ok n ↔
      (∀ c ∈ digits, c.isDigit = true) ∧ Nat.ofDigitChars 10 digits value = n ∧ n ≤ limit := by
  constructor
  · intro h
    induction digits generalizing value with
    | nil =>
        obtain rfl : value = n := Except.ok.inj h
        exact ⟨by simp, by simp, hvalue⟩
    | cons c rest ih =>
        rw [readDigits] at h
        split at h
        · cases h
        · rename_i d hd
          split at h
          · rename_i hlimit
            obtain ⟨hrest, hn, hle⟩ := ih hlimit h
            rw [digit?, Option.ite_none_right_eq_some, Option.some.injEq] at hd
            obtain ⟨hc, rfl⟩ := hd
            exact ⟨List.forall_mem_cons.mpr ⟨hc, hrest⟩, by rw [Nat.ofDigitChars_cons, hn], hle⟩
          · cases h
  · rintro ⟨hdigits, rfl, hlimit⟩
    exact readDigits_of_isDigit hdigits hlimit

/-- A numeral of a number: its decimal digits, perhaps with zeros and then a plus sign in front. -/
def IsNumeral (word : List Char) (n : Nat) : Prop :=
  ∃ digits, digits ≠ [] ∧ (∀ c ∈ digits, c.isDigit = true) ∧ Nat.ofDigitChars 10 digits 0 = n ∧
    (word = digits ∨ word = '+' :: digits)

lemma readUnsigned_plus {limit : Nat} {digits : List Char} (hne : digits ≠ []) :
    readUnsigned limit ('+' :: digits) = readDigits limit .tooLarge 0 digits := by
  cases digits with
  | nil => exact absurd rfl hne
  | cons c rest => rfl

/-- **Exactly the numerals in range are read as numbers.** -/
theorem readUnsigned_eq_ok_iff {limit n : Nat} {word : List Char} :
    readUnsigned limit word = .ok n ↔ IsNumeral word n ∧ n ≤ limit := by
  constructor
  · intro h
    unfold readUnsigned at h
    split at h
    · cases h
    · cases h
    · rename_i digits hne
      obtain ⟨hdigits, hn, hle⟩ := (readDigits_eq_ok_iff (Nat.zero_le limit)).mp h
      exact ⟨⟨digits, hne, hdigits, hn, .inr rfl⟩, hle⟩
    · rename_i hne _ _
      obtain ⟨hdigits, hn, hle⟩ := (readDigits_eq_ok_iff (Nat.zero_le limit)).mp h
      exact ⟨⟨word, hne, hdigits, hn, .inl rfl⟩, hle⟩
  · rintro ⟨⟨digits, hne, hdigits, hn, rfl | rfl⟩, hle⟩
    · rw [readUnsigned_of_isDigit hne hdigits]
      exact (readDigits_eq_ok_iff (Nat.zero_le limit)).mpr ⟨hdigits, hn, hle⟩
    · rw [readUnsigned_plus hne]
      exact (readDigits_eq_ok_iff (Nat.zero_le limit)).mpr ⟨hdigits, hn, hle⟩

lemma readSigned_toDigits {width n : Nat} (h : n < 2 ^ (width - 1)) :
    readSigned width (Nat.toDigits 10 n) = .ok (n : Int) := by
  rw [readSigned_of_isDigit Nat.toDigits_ne_nil isDigit_of_mem_toDigits,
    readDigits_toDigits (by omega)]
  rfl

end Text

/-! ## Numbers of a document -/

namespace Toml

lemma hexValue?_of_isDigit {c : Char} (h : c.isDigit = true) :
    hexValue? c = some (c.toNat - '0'.toNat) := by
  simp [hexValue?, h]

lemma digitsValue_of_isDigit {digits : List Char} (h : ∀ c ∈ digits, c.isDigit = true) :
    digitsValue 10 digits = Nat.ofDigitChars 10 digits 0 := by
  rw [digitsValue, Nat.ofDigitChars_eq_foldl]
  refine List.foldl_ext _ _ _ ?_
  intro value c hc
  rw [hexValue?_of_isDigit (h c hc), Option.getD_some]

lemma ungroup?_of_isDigit {digits : List Char} (hne : digits ≠ [])
    (h : ∀ c ∈ digits, c.isDigit = true) : ungroup? Char.isDigit digits = some digits := by
  induction digits with
  | nil => exact absurd rfl hne
  | cons c rest ih =>
      have hc : c.isDigit = true := h c List.mem_cons_self
      have hrest : ∀ d ∈ rest, d.isDigit = true := fun d hd => h d (List.mem_cons_of_mem _ hd)
      cases rest with
      | nil => simp [ungroup?, hc]
      | cons d rest =>
          have hd : d ≠ '_' := by
            rintro rfl
            simp at hrest
          simp [ungroup?, hc, hd, ih (by simp) hrest]

lemma wholeDigits?_toDigits (n : Nat) :
    wholeDigits? (Nat.toDigits 10 n) = some (Nat.toDigits 10 n) := by
  unfold wholeDigits?
  split
  · rename_i heq
    have hn : n = 0 := by
      by_contra hpos
      exact head?_toDigits_ne_zero (Nat.pos_of_ne_zero hpos) (by rw [heq]; rfl)
    simp [hn] at heq
  · exact ungroup?_of_isDigit Nat.toDigits_ne_nil isDigit_of_mem_toDigits

lemma prefixed?_of_isDigit {digits : List Char} (h : ∀ c ∈ digits, c.isDigit = true) :
    prefixed? digits = none := by
  unfold prefixed?
  split
  all_goals first | simp at h | rfl

lemma splitSign_of_isDigit {digits : List Char} (h : ∀ c ∈ digits, c.isDigit = true) :
    splitSign digits = (false, digits) := by
  unfold splitSign
  split
  all_goals first | simp at h | rfl

/-- **A document reads a number back**, if a signed word can hold it. -/
lemma integer?_toDigits {n : Nat} (h : n < 2 ^ 63) :
    integer? (Nat.toDigits 10 n) = some (n : Int) := by
  have hvalue : digitsValue 10 (Nat.toDigits 10 n) = n := by
    rw [digitsValue_of_isDigit isDigit_of_mem_toDigits, Nat.ofDigitChars_ten_toDigits]
  have hread : unbounded? (Nat.toDigits 10 n) = some (n : Int) := by
    simp [unbounded?, prefixed?_of_isDigit isDigit_of_mem_toDigits,
      splitSign_of_isDigit isDigit_of_mem_toDigits, wholeDigits?_toDigits, hvalue]
  have hpow : Int.pow 2 63 = 2 ^ 63 := rfl
  rw [integer?, hread, hpow, Option.filter_some, if_pos]
  simp only [Bool.and_eq_true, decide_eq_true_iff]
  omega

end Toml

end ThreeBucket
