import Mathlib.Data.Nat.Digits.Defs
import ThreeBucket.Proofs.Numerals
import ThreeBucket.Timestamp

/-!
# The text of a time

The text of a time is enough to tell the time.  The day count can be computed back from the date,
the year ends at the first hyphen after its sign, and all other parts but the last have a width of
their own.

* `Date.toDays`, `Date.toDays_ofDays` — **the day count of a date**, so no two days have the same
  date.
* `Timestamp.IsValid` — the nanoseconds run on in the last second of a minute only.
* `Timestamp.write_injective` — **times with the same text are the same**.
-/

namespace ThreeBucket

/-! ## Dates -/

namespace Date

/-- The year of its era, counted from March, in which a day lies. -/
def yearOfEra (day : Nat) : Nat :=
  (day - day / 1460 + day / 36524 - day / 146096) / 365

/-- The days of an era before a year. -/
def yearStart (year : Nat) : Nat :=
  365 * year + year / 4 - year / 100

/-- The day of its year that a day of an era is. -/
def dayOfYear (day : Nat) : Nat :=
  day - yearStart (yearOfEra day)

/-- The month, counted from March, in which a day of a year lies. -/
def monthOfYear (day : Nat) : Nat :=
  (5 * day + 2) / 153

/-- The days of a year before a month. -/
def monthStart (month : Nat) : Nat :=
  (153 * month + 2) / 5

/-- The days from 1970-01-01 to a date. -/
def toDays (d : Date) : Int :=
  let fromMarch := if d.month ≤ 2 then d.month + 9 else d.month - 3
  let year := if d.month ≤ 2 then d.year - 1 else d.year
  let day := monthStart fromMarch + (d.day - 1)
  year / 400 * 146097 + (yearStart (year % 400).toNat + day : Nat) - 719468

/-- A day of an era, without what is added for the leap years before it, and with it. -/
lemma exists_yearOfEra (day : Nat) :
    ∃ t, t + day / 1460 + day / 146096 = day + day / 36524 ∧
      365 * yearOfEra day ≤ t ∧ t < 365 * yearOfEra day + 365 := by
  refine ⟨day - day / 1460 + day / 36524 - day / 146096, by omega, Nat.mul_div_le .., ?_⟩
  exact Nat.lt_mul_div_succ _ (by decide)

/-- A century has 36524 days, but the last one of an era is a day longer. -/
lemma century_eq {day : Nat} (h : day < 146097) :
    day / 36524 = yearOfEra day / 100 + day / 146096 := by
  obtain ⟨t, ht, hle, hlt⟩ := exists_yearOfEra day
  by_cases hlast : day = 146096
  · rw [hlast]
    decide
  · generalize hcentury : day / 36524 = century at ht ⊢
    generalize hleap : day / 1460 = leap at ht
    have hera : day / 146096 = 0 := by omega
    have hbounds : 36524 * century ≤ day ∧ day < 36524 * century + 36524 := by omega
    have hfour : 1460 * leap ≤ day ∧ day < 1460 * leap + 1460 := by omega
    have hcount : century < 5 := by omega
    rw [hera] at ht ⊢
    clear hcentury hleap hera
    -- By the leap days so far either the century or the four years give the better bound.
    have hlow : 36500 * century ≤ t := by
      rcases Nat.lt_or_ge (25 * century) leap <;> omega
    have hhigh : t < 36500 * century + 36500 := by
      rcases Nat.lt_or_ge leap (25 * century + 25) <;> omega
    omega

/-- **A day lies in its year**, and an era has 400 years. -/
lemma yearOfEra_bounds {day : Nat} (h : day < 146097) :
    yearOfEra day < 400 ∧ yearStart (yearOfEra day) + dayOfYear day = day ∧
      dayOfYear day ≤ 365 := by
  obtain ⟨t, ht, hle, hlt⟩ := exists_yearOfEra day
  have hcentury := century_eq h
  rw [dayOfYear, yearStart]
  generalize yearOfEra day = year at *
  have hfour : 1460 * (day / 1460) ≤ day ∧ day < 1460 * (day / 1460) + 1460 := by omega
  generalize day / 1460 = leap at *
  have hyear : 4 * (year / 4) ≤ year ∧ year < 4 * (year / 4) + 4 := by omega
  have hera : day / 146096 ≤ 1 := by omega
  have hcount : year / 100 + day / 146096 < 5 := by omega
  rw [hcentury] at ht
  have hafter : year / 4 ≤ leap := by
    by_contra hless
    omega
  have hbefore : leap ≤ year / 4 + 1 := by
    by_contra hless
    omega
  omega

/-- **A day lies in its month.** -/
lemma monthOfYear_bounds {day : Nat} (h : day ≤ 365) :
    monthOfYear day ≤ 11 ∧ monthStart (monthOfYear day) ≤ day ∧
      day < monthStart (monthOfYear day) + 31 := by
  rw [monthStart, monthOfYear]
  omega

/-- A date by the era of its day, the year of the era, and the month of the year. -/
lemma exists_ofDays (days : Int) :
    ∃ (era : Int) (year month day : Nat), year < 400 ∧ month ≤ 11 ∧ day < 31 ∧
      days + 719468 = era * 146097 + (yearStart year + (monthStart month + day) : Nat) ∧
      ofDays days =
        { year := year + era * 400 +
            if (if month < 10 then month + 3 else month - 9) ≤ 2 then 1 else 0
          month := if month < 10 then month + 3 else month - 9
          day := day + 1 } := by
  have hsplit := Int.mul_ediv_add_emod (days + 719468) 146097
  have hdiv : (days + 719468).fdiv 146097 = (days + 719468) / 146097 :=
    Int.fdiv_eq_ediv_of_nonneg _ (by decide)
  have hmod : (days + 719468).fmod 146097 = (days + 719468) % 146097 :=
    Int.fmod_eq_emod_of_nonneg _ (by decide)
  generalize hday : ((days + 719468) % 146097).toNat = dayOfEra at *
  have hlt : dayOfEra < 146097 := by omega
  obtain ⟨hyear, hstart, hend⟩ := yearOfEra_bounds hlt
  obtain ⟨hmonth, hfirst, hlast⟩ := monthOfYear_bounds hend
  refine ⟨(days + 719468) / 146097, yearOfEra dayOfEra, monthOfYear (dayOfYear dayOfEra),
    dayOfYear dayOfEra - monthStart (monthOfYear (dayOfYear dayOfEra)), hyear, hmonth,
    by omega, by omega, ?_⟩
  rw [ofDays, hdiv, hmod, hday]
  rfl

/-- **The date of a day tells the day.** -/
theorem toDays_ofDays (days : Int) : (ofDays days).toDays = days := by
  obtain ⟨era, year, month, day, hyear, hmonth, hday, hdays, hdate⟩ := exists_ofDays days
  have hera : (year + era * 400) / 400 = era ∧ ((year + era * 400) % 400).toNat = year := by omega
  rw [hdate, toDays]
  by_cases hlate : month < 10
  · have hafter : ¬ month + 3 ≤ 2 := by omega
    simp only [hlate, hafter, if_true, if_false, add_zero, hera, Nat.add_sub_cancel]
    omega
  · have hbefore : month - 9 ≤ 2 := by omega
    have hmarch : month - 9 + 9 = month := by omega
    simp only [hlate, hbefore, hmarch, if_true, if_false, add_sub_cancel_right, hera,
      Nat.add_sub_cancel]
    omega

lemma ofDays_bounds (days : Int) : (ofDays days).month < 100 ∧ (ofDays days).day < 100 := by
  obtain ⟨era, year, month, day, hyear, hmonth, hday, hdays, hdate⟩ := exists_ofDays days
  rw [hdate]
  constructor
  · show (if month < 10 then month + 3 else month - 9) < 100
    split <;> omega
  · show day + 1 < 100
    omega

end Date

/-! ## Padded numbers -/

namespace Timestamp

lemma toList_padded (width n : Nat) :
    (padded width n).toList =
      List.replicate (width - (Nat.toDigits 10 n).length) '0' ++ Nat.toDigits 10 n := by
  rw [padded, String.toList_ofList]

lemma ofDigitChars_padded (width n : Nat) : Nat.ofDigitChars 10 (padded width n).toList 0 = n := by
  rw [toList_padded, Nat.ofDigitChars_append, Nat.ofDigitChars_replicate_zero, Nat.mul_zero,
    Nat.ofDigitChars_ten_toDigits]

/-- Padding loses nothing. -/
lemma padded_injective {width n n' : Nat} (h : (padded width n).toList = (padded width n').toList) :
    n = n' := by
  rw [← ofDigitChars_padded width n, h, ofDigitChars_padded]

lemma length_padded {width n : Nat} (hwidth : 0 < width) (h : n < 10 ^ width) :
    (padded width n).toList.length = width := by
  have hdigits : (Nat.toDigits 10 n).length ≤ width := Nat.toDigits_length 10 n width hwidth h
  rw [toList_padded, List.length_append, List.length_replicate]
  omega

/-- A number that is not too wide is cut off at its width. -/
lemma padded_append_inj {width n n' : Nat} (hwidth : 0 < width) (h : n < 10 ^ width)
    (h' : n' < 10 ^ width) {rest rest' : List Char}
    (heq : (padded width n).toList ++ rest = (padded width n').toList ++ rest') :
    n = n' ∧ rest = rest' := by
  obtain ⟨hpadded, hrest⟩ := List.append_inj heq
    ((length_padded hwidth h).trans (length_padded hwidth h').symm)
  exact ⟨padded_injective hpadded, hrest⟩

lemma isDigit_padded (width n : Nat) : ∀ c ∈ (padded width n).toList, c.isDigit = true := by
  rw [toList_padded]
  exact isDigit_of_mem_padded _ n

lemma exists_padded_eq_cons (width n : Nat) :
    ∃ c digits, (padded width n).toList = c :: digits ∧ c.isDigit = true := by
  cases hpadded : (padded width n).toList with
  | nil =>
      rw [toList_padded] at hpadded
      exact absurd (List.append_eq_nil_iff.mp hpadded).2 Nat.toDigits_ne_nil
  | cons c digits => exact ⟨c, digits, rfl, isDigit_padded width n c (by simp [hpadded])⟩

/-- Any number is cut off at the hyphen after it. -/
lemma padded_append_hyphen_inj {width n n' : Nat} {rest rest' : List Char}
    (h : (padded width n).toList ++ '-' :: rest = (padded width n').toList ++ '-' :: rest') :
    n = n' ∧ rest = rest' := by
  have hcut : ∀ m (rest : List Char),
      ((padded width m).toList ++ '-' :: rest).takeWhile Char.isDigit = (padded width m).toList ∧
      ((padded width m).toList ++ '-' :: rest).dropWhile Char.isDigit = '-' :: rest := by
    intro m rest
    simp [List.takeWhile_append_of_pos (isDigit_padded width m),
      List.dropWhile_append_of_pos (isDigit_padded width m)]
  constructor
  · have hpadded : (padded width n).toList = (padded width n').toList := by
      rw [← (hcut n rest).1, h, (hcut n' rest').1]
    exact padded_injective hpadded
  · have hrest : '-' :: rest = '-' :: rest' := by
      rw [← (hcut n rest).2, h, (hcut n' rest').2]
    exact List.tail_eq_of_cons_eq hrest

/-! ## Years and fractions -/

/-- The sign of a year that has one. -/
def yearSign (year : Int) : List Char :=
  if 0 ≤ year ∧ year ≤ 9999 then [] else if year < 0 then ['-'] else ['+']

lemma toList_writeYear (year : Int) :
    (writeYear year).toList = yearSign year ++ (padded 4 year.natAbs).toList := by
  rw [writeYear, yearSign]
  split
  · rw [List.nil_append, show year.toNat = year.natAbs by omega]
  · split <;> simp

/-- A sign is no digit, so where there is one can be seen. -/
lemma yearSign_append_inj {year year' : Int} {n n' : Nat} {rest rest' : List Char}
    (h : yearSign year ++ ((padded 4 n).toList ++ rest) =
      yearSign year' ++ ((padded 4 n').toList ++ rest')) :
    yearSign year = yearSign year' ∧
      (padded 4 n).toList ++ rest = (padded 4 n').toList ++ rest' := by
  obtain ⟨c, digits, hc, hdigit⟩ := exists_padded_eq_cons 4 n
  obtain ⟨c', digits', hc', hdigit'⟩ := exists_padded_eq_cons 4 n'
  rw [hc, hc'] at h ⊢
  have hsign : ∀ sign : Char, sign.isDigit = false → c ≠ sign ∧ sign ≠ c' := by
    intro sign hfalse
    constructor <;> rintro rfl
    · rw [hdigit] at hfalse
      cases hfalse
    · rw [hdigit'] at hfalse
      cases hfalse
  have hminus := hsign '-' (by decide)
  have hplus := hsign '+' (by decide)
  rw [yearSign, yearSign] at h ⊢
  split_ifs at h ⊢ <;> simp_all

/-- **A year ends at the first hyphen that is not its sign.** -/
lemma writeYear_append_inj {year year' : Int} {rest rest' : List Char}
    (h : (writeYear year).toList ++ '-' :: rest = (writeYear year').toList ++ '-' :: rest') :
    year = year' ∧ rest = rest' := by
  rw [toList_writeYear, toList_writeYear, List.append_assoc, List.append_assoc] at h
  obtain ⟨hsign, hdigits⟩ := yearSign_append_inj h
  obtain ⟨habs, hrest⟩ := padded_append_hyphen_inj hdigits
  refine ⟨?_, hrest⟩
  rw [yearSign, yearSign] at hsign
  split_ifs at hsign <;> first | omega | simp at hsign

/-- A fraction of a second has some number of digits, and none is lost. -/
lemma exists_writeFraction {nanos : Nat} (h : nanos < 1000000000) :
    ∃ width n, n < 10 ^ width ∧ nanos = n * 10 ^ (9 - width) ∧
      (writeFraction nanos).toList =
        if width = 0 then [] else '.' :: (padded width n).toList := by
  rw [writeFraction]
  split_ifs with hzero hmillis hmicros
  · exact ⟨0, 0, by omega, by omega, rfl⟩
  · exact ⟨3, nanos / 1000000, by omega, by omega, by simp⟩
  · exact ⟨6, nanos / 1000, by omega, by omega, by simp⟩
  · exact ⟨9, nanos, h, by omega, by simp⟩

lemma writeFraction_injective {nanos nanos' : Nat} (h : nanos < 1000000000)
    (h' : nanos' < 1000000000)
    (heq : (writeFraction nanos).toList = (writeFraction nanos').toList) : nanos = nanos' := by
  obtain ⟨width, n, hn, hnanos, htext⟩ := exists_writeFraction h
  obtain ⟨width', n', hn', hnanos', htext'⟩ := exists_writeFraction h'
  rw [htext, htext'] at heq
  by_cases hwidth : width = 0 <;> by_cases hwidth' : width' = 0
  · subst hwidth hwidth'
    omega
  · simp [hwidth, hwidth'] at heq
  · simp [hwidth, hwidth'] at heq
  · rw [if_neg hwidth, if_neg hwidth', List.cons.injEq] at heq
    have hsame : width = width' := by
      rw [← length_padded (by omega) hn, heq.2, length_padded (by omega) hn']
    subst hsame
    rw [hnanos, hnanos', padded_injective heq.2]

/-! ## Times -/

/-- A point in time as a clock gives it.  The nanoseconds of the last second of a minute may run on
for another second, which is the leap second.  In any other second they would tell the next one. -/
def IsValid (t : Timestamp) : Prop :=
  t.nanos < 1000000000 ∨ t.nanos < 2000000000 ∧ t.seconds % 60 = 59

lemma toList_write (t : Timestamp) (zone : String) :
    let date := Date.ofDays (t.seconds / 86400)
    let second := (t.seconds % 86400).toNat
    (t.write zone).toList =
      (writeYear date.year).toList ++ '-' :: ((padded 2 date.month).toList ++
        '-' :: ((padded 2 date.day).toList ++ 'T' :: ((padded 2 (second / 3600)).toList ++
          ':' :: ((padded 2 (second / 60 % 60)).toList ++
            ':' :: ((padded 2 (second % 60 + t.nanos / 1000000000)).toList ++
              ((writeFraction (t.nanos % 1000000000)).toList ++ zone.toList)))))) := by
  have hdiv : t.seconds.fdiv 86400 = t.seconds / 86400 :=
    Int.fdiv_eq_ediv_of_nonneg _ (by decide)
  have hmod : t.seconds.fmod 86400 = t.seconds % 86400 :=
    Int.fmod_eq_emod_of_nonneg _ (by decide)
  simp [write, hdiv, hmod, List.append_assoc]

/-- **Times with the same text are the same.** -/
theorem write_injective {t t' : Timestamp} (ht : t.IsValid) (ht' : t'.IsValid) {zone : String}
    (h : t.write zone = t'.write zone) : t = t' := by
  have htext := congrArg String.toList h
  rw [toList_write, toList_write] at htext
  rw [IsValid] at ht ht'
  obtain ⟨hmonthBound, hdayBound⟩ := Date.ofDays_bounds (t.seconds / 86400)
  obtain ⟨hmonthBound', hdayBound'⟩ := Date.ofDays_bounds (t'.seconds / 86400)
  obtain ⟨hyear, htext⟩ := writeYear_append_inj htext
  obtain ⟨hmonth, htext⟩ := padded_append_inj (by omega) hmonthBound hmonthBound' htext
  obtain ⟨hday, htext⟩ :=
    padded_append_inj (by omega) hdayBound hdayBound' (List.cons.inj htext).2
  obtain ⟨hhour, htext⟩ :=
    padded_append_inj (by omega) (by omega) (by omega) (List.cons.inj htext).2
  obtain ⟨hminute, htext⟩ :=
    padded_append_inj (by omega) (by omega) (by omega) (List.cons.inj htext).2
  obtain ⟨hsecond, htext⟩ :=
    padded_append_inj (by omega) (by omega) (by omega) (List.cons.inj htext).2
  have hfraction := writeFraction_injective (by omega) (by omega) (List.append_cancel_right htext)
  have hdate : Date.ofDays (t.seconds / 86400) = Date.ofDays (t'.seconds / 86400) :=
    (Date.mk.injEq ..).mpr ⟨hyear, hmonth, hday⟩
  have hdays : t.seconds / 86400 = t'.seconds / 86400 := by
    rw [← Date.toDays_ofDays (t.seconds / 86400), hdate, Date.toDays_ofDays]
  -- Second 60 is told apart from the others, so a leap second and the next minute are, too.
  have hseconds : t.seconds = t'.seconds := by omega
  have hnanos : t.nanos = t'.nanos := by omega
  exact (Timestamp.mk.injEq ..).mpr ⟨hseconds, hnanos⟩

end Timestamp

end ThreeBucket
