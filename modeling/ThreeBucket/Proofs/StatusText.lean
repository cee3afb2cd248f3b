import ThreeBucket.Memory
import ThreeBucket.Proofs.Lines
import ThreeBucket.Proofs.Numerals

/-!
# The value of a key in a status text

The text has lines of a key, blanks, a number and whatever else.  The first line that starts with the
key decides: its second word is the number, or there is none.  **Nothing else in the text has a say**,
neither what stands before that line nor what follows the number, further lines of the same key
included.  A number that a word of 64 bits cannot hold is as good as none.

* `Memory.statusValue?_eq_some_iff` — when a key has which value.
* `Memory.IsEntry` — the texts around a number that make it the value of a key, and
  `Memory.IsEntry.exists_line`, the line that is found then.
* `Memory.statusValue?_reads_first_line` — the value of an entry, and the texts without a value.
-/

namespace ThreeBucket

/-! ## Numerals among other words -/

namespace Text

lemma isBlank_of_isDigit {c : Char} (h : c.isDigit = true) : isBlank c = false := by
  have hrange : 48 ≤ c.toNat ∧ c.toNat ≤ 57 := by
    simpa [Char.isDigit, UInt32.le_iff_toNat_le] using h
  simp only [isBlank, Bool.or_eq_false_iff, Bool.and_eq_false_iff, decide_eq_false_iff_not,
    beq_eq_false_iff_ne]
  omega

namespace IsNumeral

variable {word : List Char} {n m : Nat}

lemma ne_nil (h : IsNumeral word n) : word ≠ [] := by
  obtain ⟨digits, hne, -, -, rfl | rfl⟩ := h
  · exact hne
  · exact List.cons_ne_nil _ _

/-- A numeral is one word. -/
lemma isBlank_eq_false (h : IsNumeral word n) : ∀ c ∈ word, isBlank c = false := by
  obtain ⟨digits, -, hdigits, -, rfl | rfl⟩ := h
  · exact fun c hc => isBlank_of_isDigit (hdigits c hc)
  · intro c hc
    rcases List.mem_cons.mp hc with rfl | hc
    · rfl
    · exact isBlank_of_isDigit (hdigits c hc)

/-- A numeral stands for one number. -/
lemma unique (hn : IsNumeral word n) (hm : IsNumeral word m) : n = m := by
  have hreadn := readUnsigned_eq_ok_iff.mpr ⟨hn, Nat.le_max_left n m⟩
  have hreadm := readUnsigned_eq_ok_iff.mpr ⟨hm, Nat.le_max_right n m⟩
  exact Except.ok.inj (hreadn.symm.trans hreadm)

end IsNumeral

end Text

namespace Memory

open Text

/-! ## When a key has a value -/

lemma toOption_readUnsigned_eq_some_iff {word : List Char} {n : Nat} :
    (readUnsigned (Nat.pow 2 64 - 1) word).toOption = some n ↔ IsNumeral word n ∧ n < 2 ^ 64 := by
  have hlimit : n < 2 ^ 64 ↔ n ≤ Nat.pow 2 64 - 1 := by
    show n < 2 ^ 64 ↔ n ≤ 2 ^ 64 - 1
    omega
  rw [hlimit, ← readUnsigned_eq_ok_iff]
  cases readUnsigned (Nat.pow 2 64 - 1) word <;> simp [Except.toOption]

/-- **A key has the value that is the second word of the first line with the key.** -/
theorem statusValue?_eq_some_iff {status key : String} {value : UInt64} :
    statusValue? status key = some value ↔
      ∃ line word, (lines status.toList).find? (key.toList.isPrefixOf ·) = some line ∧
        (words line)[1]? = some word ∧ IsNumeral word value.toNat := by
  simp only [statusValue?, Option.bind_eq_bind, Option.bind_eq_some_iff, Option.pure_def,
    Option.some.injEq, toOption_readUnsigned_eq_some_iff]
  constructor
  · rintro ⟨line, hline, word, hword, n, ⟨hnumeral, hlt⟩, rfl⟩
    refine ⟨line, word, hline, hword, ?_⟩
    rwa [UInt64.toNat_ofNat_of_lt' hlt]
  · rintro ⟨line, word, hline, hword, hnumeral⟩
    exact ⟨line, hline, word, hword, value.toNat, ⟨hnumeral, value.toNat_lt⟩, UInt64.ofNat_toNat⟩

/-! ## The line of a key -/

/-- A line of the key, from the texts before and after its number. -/
structure IsEntry (key before blanks after : String) : Prop where
  key_ne : key ≠ ""
  key_word : ∀ c ∈ key.toList, isBlank c = false
  /-- What stands before are whole lines, -/
  before_whole : before = "" ∨ ∃ text, before = text ++ "\n"
  /-- and none of them starts with the key. -/
  before_other : ∀ line ∈ lines before.toList, ¬ key.toList <+: line
  blanks_ne : blanks ≠ ""
  blanks_blank : ∀ c ∈ blanks.toList, isBlank c = true ∧ c ≠ '\n'
  /-- The number ends at a blank, perhaps at that of a line ending, or with the text. -/
  after_blank : ∀ c ∈ after.toList.head?, isBlank c = true

lemma find?_append_cons {key line : List Char} {front back : List (List Char)}
    (hfront : ∀ other ∈ front, ¬ key <+: other) (hline : key <+: line) :
    (front ++ line :: back).find? (key.isPrefixOf ·) = some line := by
  have hnone : front.find? (key.isPrefixOf ·) = none :=
    List.find?_eq_none.mpr fun other hother => by
      rw [List.isPrefixOf_iff_prefix]
      exact hfront other hother
  rw [List.find?_append, hnone, Option.none_or,
    List.find?_cons_of_pos (List.isPrefixOf_iff_prefix.mpr hline)]

namespace IsEntry

variable {key before blanks after numeral : String} {n : Nat}

/-- The line of an entry does not end before its number does. -/
lemma newline_not_mem (h : IsEntry key before blanks after)
    (hnumeral : IsNumeral numeral.toList n) :
    '\n' ∉ key.toList ++ blanks.toList ++ numeral.toList := by
  have hnewline : isBlank '\n' = true := rfl
  rw [List.mem_append, List.mem_append, not_or, not_or]
  refine ⟨⟨fun hmem => ?_, fun hmem => (h.blanks_blank _ hmem).2 rfl⟩, fun hmem => ?_⟩
  · cases hnewline.symm.trans (h.key_word _ hmem)
  · cases hnewline.symm.trans (hnumeral.isBlank_eq_false _ hmem)

/-- **The words of the line**, as far as the number. -/
lemma words_line (h : IsEntry key before blanks after) (hnumeral : IsNumeral numeral.toList n)
    {back : List Char} (hback : back <+: after.toList) :
    words (key.toList ++ blanks.toList ++ numeral.toList ++ back) =
      key.toList :: numeral.toList :: words back := by
  have hkey : key.toList ≠ [] := by simpa using h.key_ne
  have hblanks : blanks.toList ≠ [] := by simpa using h.blanks_ne
  have hfirst : ∀ c ∈ (blanks.toList ++ (numeral.toList ++ back)).head?, isBlank c = true := by
    intro c hc
    rw [List.head?_append_of_ne_nil _ hblanks] at hc
    exact (h.blanks_blank c (List.mem_of_mem_head? hc)).1
  have hlast : ∀ c ∈ back.head?, isBlank c = true := by
    intro c hc
    obtain ⟨rest, hrest⟩ := hback
    refine h.after_blank c ?_
    rw [← hrest]
    exact List.mem_head?_append_of_mem_head? hc
  rw [List.append_assoc, List.append_assoc, words_word_append h.key_word hkey hfirst,
    words_blanks_append fun c hc => (h.blanks_blank c hc).1,
    words_word_append hnumeral.isBlank_eq_false hnumeral.ne_nil hlast]

/-- **The line of an entry is found, and its second word is the number.** -/
theorem exists_line (h : IsEntry key before blanks after) (hnumeral : IsNumeral numeral.toList n) :
    ∃ line, (lines (before ++ key ++ blanks ++ numeral ++ after).toList).find?
        (key.toList.isPrefixOf ·) = some line ∧
      (words line)[1]? = some numeral.toList := by
  have hne : key.toList ++ blanks.toList ++ numeral.toList ≠ [] := by
    simp [hnumeral.ne_nil]
  have hreturn : (key.toList ++ blanks.toList ++ numeral.toList).getLast? ≠ some '\r' := by
    rw [List.getLast?_append_of_ne_nil _ hnumeral.ne_nil]
    intro hlast
    have hblank : isBlank '\r' = true := rfl
    cases hblank.symm.trans (hnumeral.isBlank_eq_false _ (List.mem_of_getLast? hlast))
  obtain ⟨back, more, hlines, hback⟩ :=
    exists_lines_append (h.newline_not_mem hnumeral) hreturn hne after.toList
  have hbefore : before.toList = [] ∨ ∃ text, before.toList = text ++ ['\n'] := by
    rcases h.before_whole with rfl | ⟨text, rfl⟩
    · exact .inl rfl
    · exact .inr ⟨text.toList, by simp⟩
  have htext : (before ++ key ++ blanks ++ numeral ++ after).toList =
      before.toList ++ (key.toList ++ blanks.toList ++ numeral.toList ++ after.toList) := by
    simp
  refine ⟨_, ?_, by rw [h.words_line hnumeral hback]; rfl⟩
  rw [htext, lines_append hbefore, hlines]
  refine find?_append_cons h.before_other ?_
  simp only [List.append_assoc]
  exact List.prefix_append _ _

end IsEntry

/-- **The first line of a key is read exactly.**  A number after the key and some blanks is the value
of the key, if it fits into a word of 64 bits; a larger one is no value.  What follows the number
does not matter, nor do whole lines before it that start otherwise.  If no line starts with the key,
there is no value.  Nor is there one if the second word of the first line with the key is not such a
number, whatever the lines after it are. -/
theorem statusValue?_reads_first_line :
    (∀ (key before blanks numeral after : String) (n : Nat), IsEntry key before blanks after →
      IsNumeral numeral.toList n →
      (statusValue? (before ++ key ++ blanks ++ numeral ++ after) key).map UInt64.toNat =
        if n < 2 ^ 64 then some n else none) ∧
    (∀ status key : String, (∀ line ∈ lines status.toList, ¬ key.toList <+: line) →
      statusValue? status key = none) ∧
    ∀ (status key : String) (front : List (List Char)) (line : List Char)
      (back : List (List Char)), lines status.toList = front ++ line :: back →
      (∀ other ∈ front, ¬ key.toList <+: other) → key.toList <+: line →
      (¬ ∃ word n, (words line)[1]? = some word ∧ IsNumeral word n ∧ n < 2 ^ 64) →
      statusValue? status key = none := by
  refine ⟨fun key before blanks numeral after n h hnumeral => ?_, fun status key hother => ?_,
    fun status key front line back hlines hfront hline hnone => ?_⟩
  · obtain ⟨line, hline, hword⟩ := h.exists_line hnumeral
    split_ifs with hlt
    · have hvalue : statusValue? (before ++ key ++ blanks ++ numeral ++ after) key =
          some (UInt64.ofNat n) := by
        refine statusValue?_eq_some_iff.mpr ⟨line, _, hline, hword, ?_⟩
        rwa [UInt64.toNat_ofNat_of_lt' hlt]
      rw [hvalue, Option.map_some, UInt64.toNat_ofNat_of_lt' hlt]
    · rw [Option.map_eq_none_iff, Option.eq_none_iff_forall_ne_some]
      intro value hvalue
      obtain ⟨line', word, hline', hword', hnumeral'⟩ := statusValue?_eq_some_iff.mp hvalue
      obtain rfl : line = line' := Option.some.inj (hline.symm.trans hline')
      obtain rfl : numeral.toList = word := Option.some.inj (hword.symm.trans hword')
      exact hlt (hnumeral.unique hnumeral' ▸ value.toNat_lt)
  · rw [Option.eq_none_iff_forall_ne_some]
    intro value hvalue
    obtain ⟨line, -, hline, -⟩ := statusValue?_eq_some_iff.mp hvalue
    exact hother line (List.mem_of_find?_eq_some hline)
      (List.isPrefixOf_iff_prefix.mp (List.find?_some hline))
  · rw [Option.eq_none_iff_forall_ne_some]
    intro value hvalue
    obtain ⟨line', word, hline', hword, hnumeral⟩ := statusValue?_eq_some_iff.mp hvalue
    rw [hlines, find?_append_cons hfront hline] at hline'
    obtain rfl : line = line' := Option.some.inj hline'
    exact hnone ⟨word, value.toNat, hword, hnumeral, value.toNat_lt⟩

/-- A peak among other lines, with a sign and a zero in front; the least number that is too large; a
text without the key; and a first line with the key that has no number. -/
theorem statusValue?_reads_first_line_peak :
    (statusValue? ("VmPeak:\t 5120 kB\n" ++ peakKey ++ "\t " ++ "+04096" ++
        " kB\r\nVmHWM: 7 kB\n") peakKey).map UInt64.toNat = some 4096 ∧
      (statusValue? ("" ++ peakKey ++ " " ++ "18446744073709551616" ++ "") peakKey).map
        UInt64.toNat = none ∧
      statusValue? "VmRSS: 7 kB\n VmHWM: 7 kB\n" peakKey = none ∧
      statusValue? "VmHWM:\nVmHWM: 7 kB\n" peakKey = none := by
  obtain ⟨hentry, hother, hfirst⟩ := statusValue?_reads_first_line
  have hpeak : IsEntry peakKey "VmPeak:\t 5120 kB\n" "\t " " kB\r\nVmHWM: 7 kB\n" :=
    { key_ne := by decide
      key_word := by simp [peakKey, isBlank]
      before_whole := .inr ⟨"VmPeak:\t 5120 kB", by decide⟩
      before_other := by simp [peakKey, lines, linesFrom, endLine]
      blanks_ne := by decide
      blanks_blank := by simp [isBlank]
      after_blank := by simp [isBlank] }
  have hlone : IsEntry peakKey "" " " "" :=
    { key_ne := by decide
      key_word := by simp [peakKey, isBlank]
      before_whole := .inl rfl
      before_other := by simp [peakKey, lines, linesFrom]
      blanks_ne := by decide
      blanks_blank := by simp [isBlank]
      after_blank := by simp [isBlank] }
  refine ⟨hentry _ _ _ _ _ 4096 hpeak ?_, hentry _ _ _ _ _ (2 ^ 64) hlone ?_,
    hother _ _ (by simp [peakKey, lines, linesFrom, endLine]),
    hfirst _ _ [] "VmHWM:".toList ["VmHWM: 7 kB".toList] (by decide) (by simp) (by decide) ?_⟩
  · exact ⟨"04096".toList, by decide, by simp, by decide, .inr rfl⟩
  · exact ⟨"18446744073709551616".toList, by decide, by simp, by decide, .inl rfl⟩
  · rintro ⟨word, n, hword, -⟩
    have hnone : (words "VmHWM:".toList)[1]? = none := by decide
    cases hnone.symm.trans hword

end Memory

end ThreeBucket
