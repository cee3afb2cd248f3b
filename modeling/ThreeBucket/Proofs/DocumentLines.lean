import Mathlib.Data.List.Forall2
import ThreeBucket.Proofs.Numerals
import ThreeBucket.Proofs.Table

/-!
# Documents written line by line

The plainest documents have one pair on each line, a bare key and a scalar, with single blanks
around the equals sign.  Reading such a text gives the pairs that were written, in their order.

* `Literal` — a text that is read as a scalar wherever a line ends after it.  Numbers, truth values
  and quoted names are literals: `literal_toDigits`, `literal_boolean`, `literal_quoted`.
* `Line` — a pair on a line, and `Line.join`, the text of several.
* `statement?_line` — one line is read, whatever follows it.
* `statements?_join`, `document?_join` — **a text of lines is read as the pairs on them**.
* `Line.perm_unplaced_entries` — lines in another order have the same entries in another order.
-/

namespace ThreeBucket.Toml

/-! ## Reading on from a position -/

namespace Cursor

@[simp] lemma char?_cons (c : Char) (pos : Nat) (rest : List Char) :
    char? c ⟨pos, c :: rest⟩ = some ⟨pos + 1, rest⟩ := by
  simp [char?]

lemma char?_eq_none {c : Char} {pos : Nat} {rest : List Char} (h : rest.head? ≠ some c) :
    char? c ⟨pos, rest⟩ = none := by
  cases rest with
  | nil => rfl
  | cons d rest =>
      have hd : d ≠ c := by simpa using h
      simp [char?, hd]

/-- The longest run of a class is the text up to a character outside the class. -/
lemma takeWhile_append {p : Char → Bool} {text rest : List Char} (pos : Nat)
    (htext : ∀ c ∈ text, p c = true) (hrest : ∀ c ∈ rest.head?, p c = false) :
    takeWhile p ⟨pos, text ++ rest⟩ = (text, ⟨pos + text.length, rest⟩) := by
  have hstop : rest.takeWhile p = [] ∧ rest.dropWhile p = rest := by
    cases rest with
    | nil => simp
    | cons c rest => simp [hrest c rfl]
  simp [takeWhile, List.takeWhile_append_of_pos htext, List.dropWhile_append_of_pos htext, hstop]

lemma dropWhile_eq_self {p : Char → Bool} {pos : Nat} {rest : List Char}
    (hrest : ∀ c ∈ rest.head?, p c = false) : dropWhile p ⟨pos, rest⟩ = ⟨pos, rest⟩ := by
  have htake : takeWhile p ⟨pos, [] ++ rest⟩ = ([], ⟨pos + 0, rest⟩) :=
    takeWhile_append pos (by simp) hrest
  simpa [dropWhile] using congrArg Prod.snd htake

lemma dropWhile_space {pos : Nat} {rest : List Char}
    (hrest : ∀ c ∈ rest.head?, isSpace c = false) :
    dropWhile isSpace ⟨pos, ' ' :: rest⟩ = ⟨pos + 1, rest⟩ := by
  have htake : takeWhile isSpace ⟨pos, [' '] ++ rest⟩ = ([' '], ⟨pos + 1, rest⟩) :=
    takeWhile_append pos (by simp [isSpace]) hrest
  simpa [dropWhile] using congrArg Prod.snd htake

end Cursor

/-! ## Literals -/

/-- Whether a line ends here: there is nothing more, or a line feed comes next. -/
def AtLineEnd (rest : List Char) : Prop :=
  rest = [] ∨ ∃ more, rest = '\n' :: more

/-- A text that is read as a scalar if the line ends after it. -/
structure Literal (text : List Char) (value : Scalar) : Prop where
  starts : ∀ c ∈ text.head?, isSpace c = false
  reads : ∀ pos rest, AtLineEnd rest →
    value? ⟨pos, text ++ rest⟩ =
      some (.scalar value ⟨pos, pos + text.length⟩, ⟨pos + text.length, rest⟩)

/-- What stops at every line end stops at this one. -/
lemma AtLineEnd.stops {p : Char → Bool} (hp : p '\n' = false) {rest : List Char}
    (h : AtLineEnd rest) : ∀ c ∈ rest.head?, p c = false := by
  rcases h with rfl | ⟨more, rfl⟩
  · simp
  · intro c hc
    cases hc
    exact hp

/-- A character of a class differs from one outside it. -/
lemma ne_of_class {p : Char → Bool} {c d : Char} (hc : p c = true) (hd : p d = false) : c ≠ d := by
  rintro rfl
  simp [hc] at hd

lemma isSpace_eq_false {p : Char → Bool} {c : Char} (hc : p c = true) (hspace : p ' ' = false)
    (htab : p '\t' = false) : isSpace c = false := by
  simp [isSpace, ne_of_class hc hspace, ne_of_class hc htab]

lemma value?_plain {c : Char} (hbracket : c ≠ '[') (hbrace : c ≠ '\x7b') (pos : Nat)
    (rest : List Char) : value? ⟨pos, c :: rest⟩ = plainValue? ⟨pos, c :: rest⟩ := by
  simp [value?, nestingLimit, valueWithin?, hbracket, hbrace]

lemma literal_word {word : List Char} {value : Scalar} (hne : word ≠ [])
    (hword : ∀ c ∈ word, isWordChar c = true) (hdate : isDate word = false)
    (hvalue : Scalar.ofWord? word = some value) : Literal word value := by
  cases word with
  | nil => exact absurd rfl hne
  | cons c word =>
      have hc : isWordChar c = true := hword c List.mem_cons_self
      constructor
      · intro d hd
        cases hd
        exact isSpace_eq_false hc (by decide) (by decide)
      · intro pos rest hrest
        have htake := Cursor.takeWhile_append pos hword (hrest.stops (p := isWordChar) (by decide))
        have hquote : c ≠ '"' := ne_of_class hc (by decide)
        have hapostrophe : c ≠ '\'' := ne_of_class hc (by decide)
        rw [List.cons_append] at htake ⊢
        rw [value?_plain (ne_of_class hc (by decide)) (ne_of_class hc (by decide))]
        simp [plainValue?, hquote, hapostrophe, word?, htake, hdate, hvalue]

lemma isDate_of_isDigit {digits : List Char} (h : ∀ c ∈ digits, c.isDigit = true) :
    isDate digits = false := by
  have hnone : afterDate? digits = none := by
    unfold afterDate?
    split
    · simp at h
    · rfl
  simp [isDate, hnone]

lemma literal_toDigits {n : Nat} (h : n < 2 ^ 63) : Literal (Nat.toDigits 10 n) (.integer n) := by
  refine literal_word Nat.toDigits_ne_nil ?_ (isDate_of_isDigit isDigit_of_mem_toDigits) ?_
  · intro c hc
    simp [isWordChar, Char.isAlphanum, isDigit_of_mem_toDigits c hc]
  · have hletters : ∀ word : List Char, 't' ∈ word ∨ 'f' ∈ word → Nat.toDigits 10 n ≠ word := by
      rintro word hword rfl
      rcases hword with hmem | hmem <;> simpa using isDigit_of_mem_toDigits _ hmem
    simp [Scalar.ofWord?, hletters, integer?_toDigits h]

lemma literal_boolean (b : Bool) : Literal (toString b).toList (.boolean b) := by
  have hword : ∀ c ∈ (toString b).toList, isWordChar c = true := by
    rw [← List.all_eq_true]
    cases b <;> decide
  cases b with
  | false => exact literal_word (by decide) hword (by decide) (by decide)
  | true => exact literal_word (by decide) hword (by decide) (by decide)

-- The induction is on what is left of the name; what was read already is kept in reverse.
lemma basic?_append {name : List Char}
    (hname : ∀ c ∈ name, isVisible c = true ∧ c ≠ '"' ∧ c ≠ '\\') (pos : Nat)
    (begun rest : List Char) :
    basic? pos begun (name ++ '"' :: rest) =
      some (String.ofList (begun.reverse ++ name), ⟨pos + name.length + 1, rest⟩) := by
  induction name generalizing pos begun with
  | nil => simp [basic?]
  | cons c name ih =>
      have hc := hname c List.mem_cons_self
      have hrest := ih (fun d hd => hname d (List.mem_cons_of_mem _ hd)) (pos + 1) (c :: begun)
      simp [basic?, hc, hrest]
      omega

lemma literal_quoted {name : List Char} (hne : name ≠ [])
    (hname : ∀ c ∈ name, isVisible c = true ∧ c ≠ '"' ∧ c ≠ '\\') :
    Literal ('"' :: name ++ ['"']) (.string (String.ofList name)) := by
  constructor
  · intro c hc
    cases hc
    rfl
  · intro pos rest _
    cases name with
    | nil => exact absurd rfl hne
    | cons c name =>
        have hquote : c ≠ '"' := (hname c List.mem_cons_self).2.1
        have hbasic := basic?_append hname (pos + 1) [] rest
        simp only [List.cons_append] at hbasic
        simp [value?_plain, plainValue?, string?, hquote, lineString?, hbasic]
        omega

/-! ## One line -/

/-- A bare key and a literal. -/
structure Line where
  key : List Char
  literal : List Char
  value : Scalar
  key_ne_nil : key ≠ []
  isBare_key : ∀ c ∈ key, isBare c = true
  reads : Literal literal value

namespace Line

/-- The text of a line. -/
def text (line : Line) : List Char :=
  line.key ++ ' ' :: '=' :: ' ' :: line.literal

/-- The text of several lines. -/
def join (lines : List Line) : List Char :=
  ['\n'].intercalate (lines.map text)

/-- The pair on a line that starts at a position. -/
def pair (line : Line) (pos : Nat) : Pair where
  path := []
  key := ⟨String.ofList line.key, ⟨pos, pos + line.key.length⟩⟩
  value := .scalar line.value
    ⟨pos + line.key.length + 3, pos + line.key.length + 3 + line.literal.length⟩

/-- The pairs on several lines, the first of which starts at a position. -/
def pairs : Nat → List Line → List Pair
  | _, [] => []
  | pos, line :: rest => line.pair pos :: pairs (pos + line.text.length + 1) rest

/-- The entries on several lines. -/
def entries (pos : Nat) (lines : List Line) : Entries :=
  (pairs pos lines).map fun pair => (pair.key, pair.value)

lemma exists_text_eq (line : Line) :
    ∃ c more, line.text = c :: more ∧ isBare c = true := by
  cases hkey : line.key with
  | nil => exact absurd hkey line.key_ne_nil
  | cons c key =>
      exact ⟨c, _, by rw [text, hkey, List.cons_append], line.isBare_key c (by simp [hkey])⟩

lemma exists_join_eq (line : Line) (lines : List Line) :
    ∃ rest, join (line :: lines) = line.text ++ rest := by
  cases lines with
  | nil => exact ⟨[], by simp [join]⟩
  | cons second lines => exact ⟨'\n' :: join (second :: lines), by simp [join]⟩

end Line

lemma dottedKey?_bare {key : List Char} (hne : key ≠ []) (hbare : ∀ c ∈ key, isBare c = true)
    (pos : Nat) (rest : List Char) :
    dottedKey? ⟨pos, key ++ ' ' :: '=' :: rest⟩ =
      some (([], ⟨String.ofList key, ⟨pos, pos + key.length⟩⟩),
        ⟨pos + key.length + 1, '=' :: rest⟩) := by
  have hstart : Cursor.dropWhile isSpace ⟨pos, key ++ ' ' :: '=' :: rest⟩ =
      ⟨pos, key ++ ' ' :: '=' :: rest⟩ := by
    refine Cursor.dropWhile_eq_self ?_
    cases key with
    | nil => exact absurd rfl hne
    | cons c key =>
        intro d hd
        cases hd
        exact isSpace_eq_false (hbare c List.mem_cons_self) (by decide) (by decide)
  have hend : ∀ c ∈ (' ' :: '=' :: rest).head?, isBare c = false := by
    simp
    decide
  have htake := Cursor.takeWhile_append pos hbare hend
  have hspace : Cursor.dropWhile isSpace ⟨pos + key.length, ' ' :: '=' :: rest⟩ =
      ⟨pos + key.length + 1, '=' :: rest⟩ := Cursor.dropWhile_space (by simp; decide)
  have hpart : keyPart? ⟨pos, key ++ ' ' :: '=' :: rest⟩ =
      some (⟨String.ofList key, ⟨pos, pos + key.length⟩⟩,
        ⟨pos + key.length, ' ' :: '=' :: rest⟩) := by
    simp [keyPart?, htake, hne]
  have hdot : Cursor.char? '.' ⟨pos + key.length + 1, '=' :: rest⟩ = none :=
    Cursor.char?_eq_none (by simp)
  rw [dottedKey?, nestingLimit, keyParts?, hstart, hpart]
  simp [hspace, hdot]

/-- **One line is read**, whatever follows it. -/
lemma statement?_line (line : Line) (pos : Nat) {rest : List Char} (hrest : AtLineEnd rest) :
    statement? ⟨pos, line.text ++ rest⟩ =
      some (.pair (line.pair pos), ⟨pos + line.text.length, rest⟩) := by
  have hkey := dottedKey?_bare line.key_ne_nil line.isBare_key pos (' ' :: (line.literal ++ rest))
  have hstarts : ∀ c ∈ (line.literal ++ rest).head?, isSpace c = false := by
    rw [List.head?_append]
    cases hliteral : line.literal.head? with
    | none => simpa using hrest.stops (by decide)
    | some c => simpa [hliteral] using line.reads.starts
  have hvalue := line.reads.reads (pos + line.key.length + 3) rest hrest
  have hpair : pair? ⟨pos, line.text ++ rest⟩ =
      some (line.pair pos, ⟨pos + line.text.length, rest⟩) := by
    have htext : line.text ++ rest = line.key ++ ' ' :: '=' :: ' ' :: (line.literal ++ rest) := by
      simp [Line.text]
    rw [htext, pair?, pairWith?, hkey]
    simp [Cursor.dropWhile_space hstarts, hvalue, Line.text, Line.pair]
    omega
  obtain ⟨c, more, hmore, hc⟩ := line.exists_text_eq
  rw [hmore] at hpair ⊢
  have hbracket : c ≠ '[' := ne_of_class hc (by decide)
  simpa [statement?, hbracket] using hpair

/-! ## All lines -/

lemma lineEnd?_newline (pos : Nat) (more : List Char) :
    Cursor.lineEnd? ⟨pos, '\n' :: more⟩ = some ⟨pos + 1, more⟩ := by
  have hspace : Cursor.dropWhile isSpace ⟨pos, '\n' :: more⟩ = ⟨pos, '\n' :: more⟩ :=
    Cursor.dropWhile_eq_self (by simp; decide)
  have hcomment : Cursor.char? '#' ⟨pos, '\n' :: more⟩ = none := Cursor.char?_eq_none (by simp)
  simp [Cursor.lineEnd?, hspace, hcomment, Cursor.newline?]

lemma skipTrivia?_line (line : Line) (pos : Nat) (rest : List Char) :
    Cursor.skipTrivia? ⟨pos, line.text ++ rest⟩ = some ⟨pos, line.text ++ rest⟩ := by
  obtain ⟨c, more, hmore, hc⟩ := line.exists_text_eq
  have hspace : isSpace c = false := isSpace_eq_false hc (by decide) (by decide)
  have hhash : c ≠ '#' := ne_of_class hc (by decide)
  have hfeed : c ≠ '\n' := ne_of_class hc (by decide)
  have hreturn : c ≠ '\r' := ne_of_class hc (by decide)
  simp_all [Cursor.skipTrivia?, trivia?]

-- One turn of the loop over the statements: a line is read, and reading goes on after its end.
lemma statementsFrom?_line (line : Line) (pos : Nat) {rest : List Char} (next : Cursor)
    (hrest : AtLineEnd rest)
    (hnext : (Cursor.lineEnd? ⟨pos + line.text.length, rest⟩).bind Cursor.skipTrivia? = some next)
    (hlength : next.rest.length ≤ rest.length) :
    statementsFrom? ⟨pos, line.text ++ rest⟩ =
      (statementsFrom? next).map (.pair (line.pair pos) :: ·) := by
  obtain ⟨after, hend, hskip⟩ := Option.bind_eq_some_iff.mp hnext
  obtain ⟨c, more, hmore, -⟩ := line.exists_text_eq
  have hne : (line.text ++ rest).isEmpty = false := by simp [hmore]
  have hshorter : next.rest.length < line.text.length + rest.length := by
    simp [hmore]
    omega
  rw [statementsFrom?, statement?_line line pos hrest]
  cases hlater : statementsFrom? next <;> simp [hne, hend, hskip, hshorter, hlater]

lemma statementsFrom?_nil (pos : Nat) : statementsFrom? ⟨pos, []⟩ = some [] := by
  rw [statementsFrom?]
  rfl

lemma statementsFrom?_join {last : List Char} (hlast : last = [] ∨ last = ['\n']) (line : Line)
    (lines : List Line) (pos : Nat) :
    statementsFrom? ⟨pos, Line.join (line :: lines) ++ last⟩ =
      some ((Line.pairs pos (line :: lines)).map .pair) := by
  induction lines generalizing line pos with
  | nil =>
      have hjoin : Line.join [line] = line.text := by simp [Line.join]
      rw [hjoin]
      rcases hlast with rfl | rfl
      · rw [statementsFrom?_line line pos ⟨pos + line.text.length, []⟩ (.inl rfl) rfl (by simp),
          statementsFrom?_nil]
        rfl
      · rw [statementsFrom?_line line pos ⟨pos + line.text.length + 1, []⟩ (.inr ⟨[], rfl⟩) rfl
          (by simp), statementsFrom?_nil]
        rfl
  | cons second lines ih =>
      have hjoin : Line.join (line :: second :: lines) ++ last =
          line.text ++ '\n' :: (Line.join (second :: lines) ++ last) := by
        simp [Line.join]
      obtain ⟨rest, hrest⟩ := Line.exists_join_eq second lines
      have hnext : (Cursor.lineEnd? ⟨pos + line.text.length,
          '\n' :: (Line.join (second :: lines) ++ last)⟩).bind Cursor.skipTrivia? =
            some ⟨pos + line.text.length + 1, Line.join (second :: lines) ++ last⟩ := by
        rw [lineEnd?_newline, Option.bind_some, hrest, List.append_assoc, skipTrivia?_line]
      rw [hjoin, statementsFrom?_line line pos _ (.inr ⟨_, rfl⟩) hnext (by simp), ih]
      rfl

/-- **A text of lines is read as the pairs on them**, also with a line end after the last. -/
theorem statements?_join {last : List Char} (hlast : last = [] ∨ last = ['\n'])
    (lines : List Line) :
    statements? (Line.join lines ++ last) = some ((Line.pairs 0 lines).map .pair) := by
  cases lines with
  | nil =>
      rcases hlast with rfl | rfl
      · exact statementsFrom?_nil 0
      · exact statementsFrom?_nil 1
  | cons line lines =>
      obtain ⟨rest, hrest⟩ := Line.exists_join_eq line lines
      obtain ⟨c, more, hmore, hc⟩ := line.exists_text_eq
      have hmark : c ≠ '\ufeff' := ne_of_class hc (by decide)
      have hskip := skipTrivia?_line line 0 (rest ++ last)
      rw [hmore, List.cons_append] at hskip hrest
      rw [← statementsFrom?_join hlast line lines 0]
      simp [statements?, hrest, hmark, hskip]

/-! ## The document -/

lemma sections_pairs (pairs : List Pair) : sections (pairs.map .pair) = (pairs, []) := by
  induction pairs with
  | nil => rfl
  | cons pair pairs ih => simp [sections, ih]

lemma Entries.insertAll?_pairs {lines : List Line} (hnodup : (lines.map Line.key).Nodup)
    {entries : Entries} (hnew : ∀ line ∈ lines, String.ofList line.key ∉ entries.names)
    (pos : Nat) :
    Entries.insertAll? (Line.pairs pos lines) entries =
      some (entries ++ Line.entries pos lines) := by
  induction lines generalizing entries pos with
  | nil => simp [Line.pairs, Line.entries, Entries.insertAll?]
  | cons line lines ih =>
      rw [List.map_cons, List.nodup_cons] at hnodup
      have hadd : entries.add? (line.pair pos).key (line.pair pos).value =
          some (entries ++ [((line.pair pos).key, (line.pair pos).value)]) :=
        Entries.add?_eq_some_iff.mpr ⟨hnew line List.mem_cons_self, rfl⟩
      have hrest : ∀ other ∈ lines, String.ofList other.key ∉
          (entries ++ [((line.pair pos).key, (line.pair pos).value)]).names := by
        intro other hother
        have hkey : String.ofList other.key ≠ String.ofList line.key := by
          intro heq
          exact hnodup.1 (String.ofList_inj.mp heq ▸ List.mem_map_of_mem hother)
        have hold := hnew other (List.mem_cons_of_mem _ hother)
        simpa [Entries.names, Line.pair, hkey] using hold
      have hih := ih hnodup.2 hrest (pos + line.text.length + 1)
      rw [Entries.insertAll?] at hih ⊢
      rw [Line.pairs, List.foldlM_cons]
      show (entries.add? (line.pair pos).key (line.pair pos).value).bind _ = _
      rw [hadd, Option.bind_some, hih, List.append_assoc]
      rfl

/-- **A text of lines with different keys is the table of their pairs**, in their order. -/
theorem document?_join {last : List Char} (hlast : last = [] ∨ last = ['\n']) {lines : List Line}
    (hnodup : (lines.map Line.key).Nodup) {text : String}
    (htext : text.toList = Line.join lines ++ last) :
    document? text = some (Line.entries 0 lines) := by
  have hpairs : Entries.insertAll? (Line.pairs 0 lines) [] = some ([] ++ Line.entries 0 lines) :=
    Entries.insertAll?_pairs hnodup (by simp [Entries.names]) 0
  simp [document?, htext, statements?_join hlast, Entries.ofStatements?, sections_pairs, hpairs]

namespace Line

lemma entries_cons (pos : Nat) (line : Line) (lines : List Line) :
    entries pos (line :: lines) =
      ((line.pair pos).key, (line.pair pos).value) :: entries (pos + line.text.length + 1) lines :=
  rfl

lemma exists_entries_append (pos : Nat) (before after : List Line) :
    ∃ pos', entries pos (before ++ after) = entries pos before ++ entries pos' after := by
  induction before generalizing pos with
  | nil => exact ⟨pos, rfl⟩
  | cons line before ih =>
      obtain ⟨pos', hpos'⟩ := ih (pos + line.text.length + 1)
      exact ⟨pos', by simp [entries_cons, hpos']⟩

lemma mem_entries {pos : Nat} {lines : List Line} {e : Key × Node} (h : e ∈ entries pos lines) :
    ∃ line ∈ lines, ∃ pos', e = ((line.pair pos').key, (line.pair pos').value) := by
  induction lines generalizing pos with
  | nil => simp [entries, pairs] at h
  | cons line lines ih =>
      rcases List.mem_cons.mp h with rfl | h
      · exact ⟨line, List.mem_cons_self, pos, rfl⟩
      · obtain ⟨other, hother, hpair⟩ := ih h
        exact ⟨other, List.mem_cons_of_mem _ hother, hpair⟩

lemma exists_mem_entries {line : Line} {lines : List Line} (h : line ∈ lines) (pos : Nat) :
    ∃ pos', ((line.pair pos').key, (line.pair pos').value) ∈ entries pos lines := by
  induction lines generalizing pos with
  | nil => simp at h
  | cons other lines ih =>
      rcases List.mem_cons.mp h with rfl | h
      · exact ⟨pos, List.mem_cons_self⟩
      · obtain ⟨pos', hmem⟩ := ih h (pos + other.text.length + 1)
        exact ⟨pos', List.mem_cons_of_mem _ hmem⟩

/-- Lines of a file, with or without a line end after the last, and their characters. -/
lemma toList_intercalate {texts : List String} {lines : List Line}
    (h : texts.map String.toList = lines.map text) (last : String) :
    ("\n".intercalate texts ++ last).toList = join lines ++ last.toList := by
  rw [String.toList_append, String.toList_intercalate, h]
  rfl

end Line

end ThreeBucket.Toml
