import Mathlib.Data.List.Basic
import ThreeBucket.Text.Blank

/-!
# Lines and words, piece by piece

A text is read from left to right, so a line feed and a blank each part what is read before from what
is read after.  The lines of a text are those before a line feed and those after it.  The words of a
line are its first word and those after it, **whatever blanks stand between them**.

* `Text.lines_append_newline`, `Text.lines_append` — the first line, and whole lines, taken apart.
* `Text.exists_lines_append` — what stands on the first line of a text, if one knows how it begins.
* `Text.words_word_append`, `Text.words_blanks_append` — a word, and blanks, in front of a text.
-/

namespace ThreeBucket.Text

/-! ## Lines -/

-- The induction is on the line; what was read of it already is kept in reverse.
lemma linesFrom_append {begun line rest : List Char} (h : '\n' ∉ line) :
    linesFrom begun (line ++ rest) = linesFrom (line.reverse ++ begun) rest := by
  induction line generalizing begun with
  | nil => rfl
  | cons c line ih =>
      rw [List.mem_cons, not_or] at h
      have hc : c ≠ '\n' := fun heq => h.1 heq.symm
      simp only [List.cons_append, linesFrom, hc, if_false, ih h.2, List.reverse_cons,
        List.append_assoc, List.nil_append]

lemma lines_singleton {line : List Char} (h : '\n' ∉ line) (hne : line ≠ []) :
    lines line = [line] := by
  have hread : linesFrom [] (line ++ []) = linesFrom (line.reverse ++ []) [] := linesFrom_append h
  rw [List.append_nil, List.append_nil] at hread
  rw [lines, hread]
  cases hreverse : line.reverse with
  | nil => exact absurd (List.reverse_eq_nil_iff.mp hreverse) hne
  | cons c rest =>
      show [(c :: rest).reverse] = [line]
      rw [← hreverse, List.reverse_reverse]

/-- A line feed ends the first line. -/
lemma lines_append_newline {line : List Char} (h : '\n' ∉ line) (rest : List Char) :
    lines (line ++ '\n' :: rest) = endLine line.reverse :: lines rest := by
  rw [lines, linesFrom_append h, List.append_nil, linesFrom, if_pos rfl, lines]

lemma linesFrom_append_newline (begun before rest : List Char) :
    linesFrom begun (before ++ '\n' :: rest) =
      linesFrom begun (before ++ ['\n']) ++ lines rest := by
  induction before generalizing begun with
  | nil => simp [linesFrom, lines]
  | cons c before ih =>
      by_cases hc : c = '\n'
      · simp only [List.cons_append, linesFrom, hc, if_true, ih]
      · simp only [List.cons_append, linesFrom, hc, if_false, ih]

/-- **Whole lines in front of a text** are lines in front of its lines. -/
theorem lines_append {before : List Char} (h : before = [] ∨ ∃ text, before = text ++ ['\n'])
    (rest : List Char) : lines (before ++ rest) = lines before ++ lines rest := by
  rcases h with rfl | ⟨text, rfl⟩
  · rfl
  · rw [List.append_assoc, List.singleton_append]
    exact linesFrom_append_newline [] text rest

/-- A line feed takes at most a carriage return off its line. -/
lemma endLine_reverse (line : List Char) :
    endLine line.reverse = line ∨ line = endLine line.reverse ++ ['\r'] := by
  cases hreverse : line.reverse with
  | nil => exact .inl (List.reverse_eq_nil_iff.mp hreverse).symm
  | cons c begun =>
      have hline : line = begun.reverse ++ [c] := by
        rw [← List.reverse_reverse line, hreverse, List.reverse_cons]
      by_cases hc : c = '\r'
      · subst hc
        exact .inr hline
      · left
        unfold endLine
        split
        · rename_i heq
          exact absurd (List.cons.inj heq).1 hc
        · rw [hline, List.reverse_cons]

/-- A line that does not end in a carriage return is kept whole. -/
lemma endLine_reverse_eq_self {line : List Char} (h : line.getLast? ≠ some '\r') :
    endLine line.reverse = line := by
  rcases endLine_reverse line with hend | hend
  · exact hend
  · rw [hend, List.getLast?_concat] at h
    exact absurd rfl h

/-- Two lines, the first of which has no carriage return at its end. -/
lemma lines_eq_pair {first second : List Char} (hfirst : '\n' ∉ first) (hsecond : '\n' ∉ second)
    (hreturn : first.getLast? ≠ some '\r') (hne : second ≠ []) :
    lines (first ++ '\n' :: second) = [first, second] := by
  rw [lines_append_newline hfirst, endLine_reverse_eq_self hreturn, lines_singleton hsecond hne]

/-- **What begins a text begins its first line**, if no part of it belongs to a line ending.  The line
goes on with what follows. -/
theorem exists_lines_append {front : List Char} (hfront : '\n' ∉ front)
    (hreturn : front.getLast? ≠ some '\r') (hne : front ≠ []) (after : List Char) :
    ∃ back more, lines (front ++ after) = (front ++ back) :: more ∧ back <+: after := by
  by_cases hafter : '\n' ∈ after
  · obtain ⟨back, rest, rfl, hback⟩ := List.eq_append_cons_of_mem hafter
    have hline : '\n' ∉ front ++ back := by simp [hfront, hback]
    rw [← List.append_assoc, lines_append_newline hline]
    rcases endLine_reverse (front ++ back) with hend | hend
    · exact ⟨back, lines rest, by rw [hend], List.prefix_append back _⟩
    · -- The carriage return is not the last character of the front, so it is one of the rest.
      rcases List.eq_nil_or_concat back with rfl | ⟨back, c, rfl⟩
      · rw [List.append_nil, endLine_reverse_eq_self hreturn]
        exact ⟨[], lines rest, by rw [List.append_nil], List.nil_prefix⟩
      · rw [List.concat_eq_append, ← List.append_assoc] at hend
        refine ⟨back, lines rest, ?_, ?_⟩
        · rw [List.concat_eq_append, ← List.append_assoc, ← (List.append_inj' hend rfl).1]
        · rw [List.concat_eq_append, List.append_assoc]
          exact List.prefix_append back _
  · refine ⟨after, [], lines_singleton ?_ (by simp [hne]), List.prefix_refl after⟩
    simp [hfront, hafter]

/-! ## Words -/

-- Stated by hand: whether a character is blank is not to be computed.
lemma wordsFrom_cons (begun : List Char) (c : Char) (rest : List Char) :
    wordsFrom begun (c :: rest) =
      if isBlank c then
        if begun.isEmpty then wordsFrom [] rest else begun.reverse :: wordsFrom [] rest
      else wordsFrom (c :: begun) rest := by
  cases begun <;> rfl

-- As for lines: the letters that were read already are kept in reverse.
lemma wordsFrom_append {begun word rest : List Char} (h : ∀ c ∈ word, isBlank c = false) :
    wordsFrom begun (word ++ rest) = wordsFrom (word.reverse ++ begun) rest := by
  induction word generalizing begun with
  | nil => rfl
  | cons c word ih =>
      have hc : isBlank c = false := h c List.mem_cons_self
      have hword : ∀ d ∈ word, isBlank d = false := fun d hd => h d (List.mem_cons_of_mem c hd)
      simp only [List.cons_append, wordsFrom_cons, hc, Bool.false_eq_true, if_false, ih hword,
        List.reverse_cons, List.append_assoc, List.nil_append]

/-- A blank in front of a text belongs to no word. -/
lemma words_cons_blank {c : Char} (hc : isBlank c = true) (rest : List Char) :
    words (c :: rest) = words rest := by
  simp only [words, wordsFrom_cons, hc, List.isEmpty_nil, if_true]

lemma words_blanks_append {blanks : List Char} (h : ∀ c ∈ blanks, isBlank c = true)
    (rest : List Char) : words (blanks ++ rest) = words rest := by
  induction blanks with
  | nil => rfl
  | cons c blanks ih =>
      rw [List.cons_append, words_cons_blank (h c List.mem_cons_self),
        ih fun d hd => h d (List.mem_cons_of_mem c hd)]

/-- **A word ends at a blank**, and at the end of the text. -/
theorem words_word_append {word rest : List Char} (h : ∀ c ∈ word, isBlank c = false)
    (hne : word ≠ []) (hrest : ∀ c ∈ rest.head?, isBlank c = true) :
    words (word ++ rest) = word :: words rest := by
  obtain ⟨c, begun, hbegun⟩ := List.exists_cons_of_ne_nil (mt List.reverse_eq_nil_iff.mp hne)
  rw [words, wordsFrom_append h, List.append_nil, hbegun]
  cases rest with
  | nil =>
      show [(c :: begun).reverse] = [word]
      rw [← hbegun, List.reverse_reverse]
  | cons d rest =>
      have hd : isBlank d = true := hrest d rfl
      simp only [wordsFrom_cons, hd, List.isEmpty_cons, if_true, Bool.false_eq_true, if_false]
      rw [← hbegun, List.reverse_reverse, words_cons_blank hd, words]

end ThreeBucket.Text
