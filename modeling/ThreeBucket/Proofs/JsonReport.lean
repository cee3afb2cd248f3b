import Mathlib.Tactic.IntervalCases
import ThreeBucket.Proofs.CsvReport
import ThreeBucket.Toml.Quoted

/-!
# JSON reports that lose nothing

A JSON report is an object with one member on a line.  The name in it may be any text, also one full
of quotes, backslashes, line feeds and things that look like other members.  It cannot spill over,
because **every line feed in a value is escaped**: the lines of the report are the lines of the
layout, and a value is what stands on its line after the key.

* `Text.unescape?`, `Text.unescape?_jsonChar` — a character is read back from its escape, whatever
  follows, and so `Text.jsonQuoted_injective`.
* `Text.newline_not_mem_jsonQuoted` — a JSON string is on one line.
* `Report.memberLines`, `Report.Cells.splitOn_jsonObject` — **the lines of an object**.
* `Report.Cells.jsonObject_injective` — an object gives back the text of each value.
* `Report.json_injective` — a report has eleven lines, and they tell all but its times.
-/

namespace ThreeBucket

/-! ## Strings -/

namespace Text

/-- Reads a character of a JSON string, and gives what follows it.  The escapes of JSON are also
escapes of a document. -/
def unescape? : List Char → Option (Char × List Char)
  | [] => none
  | '\\' :: rest => Toml.escape? rest
  | c :: rest => some (c, rest)

lemma hexValue?_digitChar {d : Nat} (h : d < 16) : Toml.hexValue? d.digitChar = some d := by
  interval_cases d <;> rfl

lemma digitChar_ne_newline {d : Nat} (h : d < 16) : d.digitChar ≠ '\n' := by
  intro hd
  have hvalue := hexValue?_digitChar h
  rw [hd] at hvalue
  cases hvalue

/-- A control character is escaped by two hexadecimal digits after two zeros. -/
lemma padded_hexDigits {c : Char} (h : c.toNat < 0x20) :
    (if c.toNat < 0x10 then ['0'] else []) ++ hexDigits c =
      [(c.toNat / 16).digitChar, (c.toNat % 16).digitChar] := by
  unfold hexDigits
  split_ifs with hsmall
  · have hhigh : c.toNat / 16 = 0 := by omega
    rw [Nat.toDigits_of_lt_base hsmall, hhigh, Nat.mod_eq_of_lt hsmall]
    rfl
  · have hhigh : c.toNat / 16 < 16 := by omega
    rw [Nat.toDigits_of_base_le (by omega) (by omega), Nat.toDigits_of_lt_base hhigh]
    rfl

lemma codePoint?_digits {c : Char} (h : c.toNat < 0x20) (rest : List Char) :
    Toml.codePoint? 4
      ('0' :: '0' :: (c.toNat / 16).digitChar :: (c.toNat % 16).digitChar :: rest) =
      some (c, rest) := by
  have hzero : Toml.hexValue? '0' = some 0 := rfl
  have hvalue : 16 * (c.toNat / 16) + c.toNat % 16 = c.toNat := Nat.div_add_mod ..
  have hvalid : c.toNat.isValidChar := .inl (by omega)
  have hhigh := hexValue?_digitChar (show c.toNat / 16 < 16 by omega)
  have hlow := hexValue?_digitChar (Nat.mod_lt c.toNat (by omega : 0 < 16))
  simp [Toml.codePoint?, Toml.hexDigits?, hzero, hhigh, hlow, hvalue, Toml.scalarValue?, hvalid]

/-- The characters that are escaped by a letter, each with its letter. -/
def letterEscapes : List (Char × Char) :=
  [('"', '"'), ('\\', '\\'), ('\x08', 'b'), ('\x0c', 'f'), ('\n', 'n'), ('\r', 'r'), ('\t', 't')]

lemma of_mem_letterEscapes {c d : Char} (h : (c, d) ∈ letterEscapes) :
    jsonChar c = ['\\', d] ∧ d ≠ '\n' ∧ ∀ rest, Toml.escape? (d :: rest) = some (c, rest) := by
  simp only [letterEscapes, List.mem_cons, Prod.mk.injEq, List.not_mem_nil, or_false] at h
  rcases h with
    ⟨rfl, rfl⟩ | ⟨rfl, rfl⟩ | ⟨rfl, rfl⟩ | ⟨rfl, rfl⟩ | ⟨rfl, rfl⟩ | ⟨rfl, rfl⟩ | ⟨rfl, rfl⟩
  all_goals exact ⟨rfl, by decide, fun _ => rfl⟩

/-- How a character is written: by a letter after a backslash, by its code point, or as it is. -/
lemma jsonChar_cases (c : Char) :
    (∃ d, jsonChar c = ['\\', d] ∧ d ≠ '\n' ∧ ∀ rest, Toml.escape? (d :: rest) = some (c, rest)) ∨
    (c.toNat < 0x20 ∧ jsonChar c =
      ['\\', 'u', '0', '0', (c.toNat / 16).digitChar, (c.toNat % 16).digitChar]) ∨
    ((c ≠ '\\' ∧ c ≠ '\n') ∧ jsonChar c = [c]) := by
  by_cases hletter : ∃ d, (c, d) ∈ letterEscapes
  · obtain ⟨d, hd⟩ := hletter
    exact .inl ⟨d, of_mem_letterEscapes hd⟩
  · right
    simp only [letterEscapes, List.mem_cons, Prod.mk.injEq, List.not_mem_nil, or_false, exists_or,
      exists_and_left, exists_eq, and_true, not_or] at hletter
    obtain ⟨hquote, hbackslash, hb, hf, hn, hr, ht⟩ := hletter
    simp only [jsonChar, hquote, hbackslash, hb, hf, hn, hr, ht, if_false]
    by_cases hcontrol : c.toNat < 0x20
    · left
      rw [if_pos hcontrol, List.append_assoc, padded_hexDigits hcontrol]
      exact ⟨hcontrol, rfl⟩
    · right
      rw [if_neg hcontrol]
      exact ⟨⟨hbackslash, hn⟩, rfl⟩

/-- **A character is read back from its escape**, whatever follows. -/
lemma unescape?_jsonChar (c : Char) (rest : List Char) :
    unescape? (jsonChar c ++ rest) = some (c, rest) := by
  rcases jsonChar_cases c with ⟨d, hd, -, hread⟩ | ⟨hcontrol, hd⟩ | ⟨⟨hbackslash, -⟩, hd⟩
  · rw [hd]
    exact hread rest
  · rw [hd]
    exact codePoint?_digits hcontrol rest
  · rw [hd, List.singleton_append, unescape?]
    exact hbackslash

lemma flatMap_jsonChar_injective {a b : List Char} (h : a.flatMap jsonChar = b.flatMap jsonChar) :
    a = b := by
  induction a generalizing b with
  | nil =>
      cases b with
      | nil => rfl
      | cons d b =>
          have hread := unescape?_jsonChar d (b.flatMap jsonChar)
          rw [← List.flatMap_cons, ← h] at hread
          cases hread
  | cons c a ih =>
      have hread := unescape?_jsonChar c (a.flatMap jsonChar)
      rw [← List.flatMap_cons, h] at hread
      cases b with
      | nil => cases hread
      | cons d b =>
          rw [List.flatMap_cons, unescape?_jsonChar, Option.some.injEq, Prod.mk.injEq] at hread
          rw [hread.1, ih hread.2.symm]

/-- **A JSON string gives back its text.** -/
theorem jsonQuoted_injective {a b : String} (h : jsonQuoted a = jsonQuoted b) : a = b := by
  have hlist := String.ofList_injective h
  simp only [List.cons_append, List.cons.injEq, true_and] at hlist
  exact String.toList_inj.mp (flatMap_jsonChar_injective (List.append_cancel_right hlist))

lemma newline_not_mem_jsonChar (c : Char) : '\n' ∉ jsonChar c := by
  rcases jsonChar_cases c with ⟨d, hd, hne, -⟩ | ⟨hcontrol, hd⟩ | ⟨⟨-, hne⟩, hd⟩
  · simp [hd, hne.symm]
  · have hhigh := digitChar_ne_newline (show c.toNat / 16 < 16 by omega)
    have hlow := digitChar_ne_newline (Nat.mod_lt c.toNat (by omega : 0 < 16))
    simp [hd, hhigh.symm, hlow.symm]
  · simp [hd, hne.symm]

/-- **A JSON string is on one line.** -/
lemma newline_not_mem_jsonQuoted (text : String) : '\n' ∉ (jsonQuoted text).toList := by
  rw [jsonQuoted, String.toList_ofList]
  simp [newline_not_mem_jsonChar]

end Text

/-! ## Numbers -/

lemma isCell_toDigits (n : Nat) : IsCell (Nat.toDigits 10 n) :=
  isCell_of_isDigit isDigit_of_mem_toDigits

lemma IsCell.sublist {a b : List Char} (hb : IsCell b) (h : a.Sublist b) : IsCell a :=
  ⟨fun hmem => hb.1 (h.mem hmem), fun hmem => hb.2 (h.mem hmem)⟩

namespace Decimal

lemma isCell_positional (d : Decimal) : IsCell d.positional := by
  have hzeros : ∀ n, IsCell (List.replicate n '0') := by
    intro n
    refine isCell_of_isDigit fun c hc => ?_
    rw [List.eq_of_mem_replicate hc]
    rfl
  have hdigits : IsCell d.digitChars := isCell_toDigits d.digits
  unfold positional
  split
  · exact isCell_append.mpr ⟨hdigits, hzeros _⟩
  · have hpadded := isCell_append.mpr
      ⟨hzeros ((-d.exponent).toNat + 1 - d.digitChars.length), hdigits⟩
    rw [isCell_append, isCell_cons]
    exact ⟨hpadded.sublist (List.take_sublist ..), by decide,
      hpadded.sublist (List.drop_sublist ..)⟩

lemma isCell_scientific (d : Decimal) (plus : Bool) : IsCell (d.scientific plus) := by
  have hdigits : IsCell d.digitChars := isCell_toDigits d.digits
  have htail : IsCell d.digitChars.tail := hdigits.sublist (List.tail_sublist _)
  unfold scientific
  simp only [isCell_append]
  refine ⟨⟨⟨hdigits.sublist (List.take_sublist ..), ?_⟩, ?_⟩, isCell_toDigits _⟩
  · split
    · exact isCell_nil
    · exact isCell_cons.mpr ⟨by decide, htail⟩
  · split_ifs <;> simp

end Decimal

/-- **A number has no separators**, unless its style puts them in. -/
lemma Binary64.isCell_write (x : Binary64) {style : NumberStyle} (hnan : IsCell style.nan.toList)
    (hinfinity : ∀ negative, IsCell (style.infinity negative).toList) :
    IsCell (x.write style).toList := by
  unfold write
  generalize x.shortest style.tie = d
  have hend : IsCell (if style.pointZero && 0 ≤ d.exponent then ['.', '0'] else []) := by
    split <;> simp
  have hbody : IsCell (if style.positional d.leadingPower then
      d.positional ++ (if style.pointZero && 0 ≤ d.exponent then ['.', '0'] else [])
      else d.scientific style.exponentPlus) := by
    split
    · exact isCell_append.mpr ⟨d.isCell_positional, hend⟩
    · exact d.isCell_scientific _
  split
  · exact hnan
  · split
    · exact hinfinity _
    · rw [String.toList_ofList]
      split
      · exact isCell_cons.mpr ⟨by decide, hbody⟩
      · exact hbody

/-! ## The lines of an object -/

namespace Text

/-- Lines without line feeds are that many lines, if the last one is not empty. -/
lemma length_lines_intercalate {ls : List (List Char)} (hlines : ∀ line ∈ ls, '\n' ∉ line)
    (hlast : ls.getLast? ≠ some []) : (lines (['\n'].intercalate ls)).length = ls.length := by
  induction ls with
  | nil => simp [lines, linesFrom]
  | cons line rest ih =>
      have hline := hlines line List.mem_cons_self
      cases rest with
      | nil =>
          have hne : line ≠ [] := by simpa using hlast
          rw [List.intercalate_singleton, lines_singleton hline hne]
      | cons next rest =>
          have hrest := ih (fun other hother => hlines other (List.mem_cons_of_mem _ hother))
            (by rwa [List.getLast?_cons_cons] at hlast)
          rw [List.intercalate_cons_cons, List.append_assoc, List.singleton_append,
            lines_append_newline hline, List.length_cons, hrest]
          rfl

lemma intercalate_concat {ls : List (List Char)} (hne : ls ≠ []) (last : List Char) :
    ['\n'].intercalate (ls ++ [last]) = ['\n'].intercalate ls ++ '\n' :: last := by
  induction ls with
  | nil => exact absurd rfl hne
  | cons line rest ih =>
      cases rest with
      | nil => simp
      | cons next rest =>
          rw [List.cons_append, List.intercalate_cons_of_ne_nil (by simp), ih (by simp),
            List.intercalate_cons_cons, List.append_assoc _ _ ('\n' :: last)]

end Text

namespace Report

/-- A member of an object, with its indentation. -/
def memberText (m : String × String) : List Char :=
  ("  " ++ Text.jsonQuoted m.1 ++ ": " ++ m.2).toList

lemma memberText_eq (key value : String) :
    memberText (key, value) = ("  " ++ Text.jsonQuoted key ++ ": ").toList ++ value.toList := by
  rw [memberText, String.toList_append]

@[simp] lemma memberText_inj {key a b : String} :
    memberText (key, a) = memberText (key, b) ↔ a = b := by
  rw [memberText_eq, memberText_eq, List.append_cancel_left_eq, String.toList_inj]

lemma newline_not_mem_memberText {m : String × String} (h : '\n' ∉ m.2.toList) :
    '\n' ∉ memberText m := by
  simp [memberText, Text.newline_not_mem_jsonQuoted, h]

/-- The lines of the members of an object, all but the last with a comma. -/
def memberLines : List (String × String) → List (List Char)
  | [] => []
  | [m] => [memberText m]
  | m :: m' :: ms => (memberText m ++ [',']) :: memberLines (m' :: ms)

@[simp] lemma length_memberLines (ms : List (String × String)) :
    (memberLines ms).length = ms.length := by
  fun_induction memberLines ms with
  | case1 => rw [List.length_nil, List.length_nil]
  | case2 m => rw [List.length_singleton, List.length_singleton]
  | case3 m m' ms ih => rw [List.length_cons, ih, ← List.length_cons]

/-- **Members with a comma and a line feed between them are these lines.** -/
lemma intercalate_memberLines (ms : List (String × String)) :
    [',', '\n'].intercalate (ms.map memberText) = ['\n'].intercalate (memberLines ms) := by
  fun_induction memberLines ms with
  | case1 => simp
  | case2 m => simp
  | case3 m m' ms ih =>
      have hne : memberLines (m' :: ms) ≠ [] := by simp [← List.length_pos_iff]
      rw [List.intercalate_cons_of_ne_nil hne, List.map_cons,
        List.intercalate_cons_of_ne_nil (by simp), ih]
      simp

lemma newline_not_mem_memberLines {ms : List (String × String)} (h : ∀ m ∈ ms, '\n' ∉ m.2.toList) :
    ∀ line ∈ memberLines ms, '\n' ∉ line := by
  fun_induction memberLines ms with
  | case1 => simp
  | case2 m => simpa using newline_not_mem_memberText (h m List.mem_cons_self)
  | case3 m m' ms ih =>
      have hm := newline_not_mem_memberText (h m List.mem_cons_self)
      rw [List.forall_mem_cons]
      exact ⟨by simp [hm], ih fun other hother => h other (List.mem_cons_of_mem m hother)⟩

/-- The comma at the end of a line tells only that more members follow. -/
lemma map_memberText_of_memberLines {ms ms' : List (String × String)}
    (h : memberLines ms = memberLines ms') : ms.map memberText = ms'.map memberText := by
  have hlength : ms.length = ms'.length := by
    rw [← length_memberLines, h, length_memberLines]
  fun_induction memberLines ms generalizing ms' with
  | case1 => rw [List.eq_nil_of_length_eq_zero hlength.symm]
  | case2 m =>
      obtain ⟨n, rfl⟩ := List.length_eq_one_iff.mp hlength.symm
      simpa [memberLines] using h
  | case3 m m' ms ih =>
      match ms', hlength with
      | n :: n' :: ns, hlength =>
          rw [memberLines, List.cons.injEq] at h
          rw [List.map_cons, List.map_cons (l := n' :: ns), ih h.2 (by simpa using hlength),
            List.append_cancel_right h.1]

namespace Cells

/-- No value of an object has a line feed in it. -/
def OnLines (c : Cells) : Prop :=
  ∀ m ∈ c.jsonMembers, '\n' ∉ m.2.toList

/-- The lines of an object: its members between its braces. -/
def jsonLines (c : Cells) : List (List Char) :=
  ['\x7b'] :: memberLines c.jsonMembers ++ [['\x7d']]

@[simp] lemma length_jsonLines (c : Cells) : c.jsonLines.length = 11 := by
  simp [jsonLines, jsonMembers]

lemma toList_jsonObject (c : Cells) : c.jsonObject.toList = ['\n'].intercalate c.jsonLines := by
  have hne : memberLines c.jsonMembers ≠ [] := by simp [← List.length_pos_iff, jsonMembers]
  have hmember : String.toList ∘ (fun m : String × String =>
      "  " ++ Text.jsonQuoted m.1 ++ ": " ++ m.2) = memberText := rfl
  have hseparator : ",\n".toList = [',', '\n'] := by simp
  rw [jsonObject, String.toList_append, String.toList_append, String.toList_intercalate,
    List.map_map, hmember, hseparator, intercalate_memberLines, jsonLines,
    Text.intercalate_concat (by simp), List.intercalate_cons_of_ne_nil hne]
  simp

section
variable {c : Cells} (hc : c.OnLines)
include hc

lemma newline_not_mem_jsonLines : ∀ line ∈ c.jsonLines, '\n' ∉ line := by
  simp only [jsonLines, List.mem_append, List.mem_cons, List.not_mem_nil, or_false]
  rintro line ((rfl | hline) | rfl)
  · decide
  · exact newline_not_mem_memberLines hc line hline
  · decide

/-- **An object is cut into its lines.** -/
lemma splitOn_jsonObject : c.jsonObject.toList.splitOn '\n' = c.jsonLines := by
  rw [toList_jsonObject]
  exact List.splitOn_intercalate '\n' (newline_not_mem_jsonLines hc) (by simp [jsonLines])

lemma length_lines_jsonObject : (Text.lines c.jsonObject.toList).length = 11 := by
  have hlast : c.jsonLines.getLast? = some ['\x7d'] := List.getLast?_concat
  have hlength := Text.length_lines_intercalate (newline_not_mem_jsonLines hc) (by simp [hlast])
  rw [toList_jsonObject, hlength, length_jsonLines]

/-- **An object gives back the text of every value.** -/
lemma jsonObject_injective {c' : Cells} (hc' : c'.OnLines) (h : c.jsonObject = c'.jsonObject) :
    c = c' := by
  have hlines : c.jsonLines = c'.jsonLines := by
    rw [← splitOn_jsonObject hc, ← splitOn_jsonObject hc', h]
  have hmembers : memberLines c.jsonMembers = memberLines c'.jsonMembers := by
    simpa [jsonLines] using hlines
  have hvalues := map_memberText_of_memberLines hmembers
  simp only [jsonMembers, List.map_cons, List.map_nil, List.cons.injEq, memberText_inj] at hvalues
  cases c
  cases c'
  simp_all

end

end Cells

/-! ## What a report tells -/

lemma digits_injective {a b : Nat} (h : toString a = toString b) : a = b := by
  have hdigits := congrArg String.toList h
  rw [toList_toString, toList_toString] at hdigits
  rw [← Nat.ofDigitChars_ten_toDigits (n := a), hdigits, Nat.ofDigitChars_ten_toDigits]

lemma isDigit_of_mem_toString (n : Nat) : ∀ c ∈ (toString n).toList, c.isDigit = true := by
  rw [toList_toString]
  exact isDigit_of_mem_toDigits

lemma digits_ne_null (n : Nat) : toString n ≠ "null" := by
  intro hnull
  have hdigits := isDigit_of_mem_toString n
  rw [hnull] at hdigits
  simp at hdigits

/-- The memory is a number or `null`, never both. -/
lemma memory_injective {a b : Option UInt64}
    (h : (a.map fun kb => toString kb.toNat).getD "null" =
      (b.map fun kb => toString kb.toNat).getD "null") : a = b := by
  match a, b with
  | none, none => rfl
  | none, some kb => exact absurd h.symm (digits_ne_null kb.toNat)
  | some kb, none => exact absurd h (digits_ne_null kb.toNat)
  | some a, some b => rw [UInt64.toNat_inj.mp (digits_injective h)]

/-- **No value of a report has a line feed in it.** -/
lemma onLines_jsonCells (r : Report) : r.jsonCells.OnLines := by
  have hdigits : ∀ n : Nat, '\n' ∉ (toString n).toList := fun n =>
    (isCell_of_isDigit (isDigit_of_mem_toString n)).2
  have htime : ∀ x : Binary64, '\n' ∉ (x.write jsonStyle).toList := fun x =>
    (x.isCell_write (by simp [jsonStyle]) (by simp [jsonStyle])).2
  have hmemory : '\n' ∉ ((r.peakKb.map fun kb => toString kb.toNat).getD "null").toList := by
    cases r.peakKb with
    | none => simp
    | some kb => exact hdigits kb.toNat
  have hquoted := Text.newline_not_mem_jsonQuoted
  simp only [Cells.OnLines, Cells.jsonMembers, jsonCells, List.forall_mem_cons]
  exact ⟨hquoted _, hquoted _, hquoted _, hdigits _, hdigits _, htime _, htime _, hmemory,
    hquoted _, by simp⟩

/-- **A JSON report keeps its shape and loses nothing but times**: it has eleven lines, as they are
cut at the line feeds and as a reader of lines finds them, and two reports with the same text are of
the same run with the same memory. -/
theorem json_injective :
    (∀ r : Report, ((r.render .json).toList.splitOn '\n').length = 11 ∧
      (Text.lines (r.render .json).toList).length = 11) ∧
    ∀ r r' : Report, r.render .json = r'.render .json →
      r.name = r'.name ∧ r.shape = r'.shape ∧ r.strategy = r'.strategy ∧ r.size = r'.size ∧
        r.iterations = r'.iterations ∧ r.peakKb = r'.peakKb := by
  refine ⟨fun r => ⟨?_, ?_⟩, fun r r' h => ?_⟩
  · show (r.jsonCells.jsonObject.toList.splitOn '\n').length = 11
    rw [Cells.splitOn_jsonObject r.onLines_jsonCells, Cells.length_jsonLines]
  · exact Cells.length_lines_jsonObject r.onLines_jsonCells
  · have hcells : r.jsonCells = r'.jsonCells :=
      Cells.jsonObject_injective r.onLines_jsonCells r'.onLines_jsonCells h
    simp only [jsonCells, Cells.mk.injEq] at hcells
    obtain ⟨hname, hshape, hstrategy, hsize, hiterations, -, -, hmemory, -⟩ := hcells
    refine ⟨Text.jsonQuoted_injective hname, ?_, ?_, ?_, ?_, memory_injective hmemory⟩
    · exact Choice.eq_of_name_eq Shape.ofName?_name (Text.jsonQuoted_injective hshape)
    · exact Choice.eq_of_name_eq Strategy.ofName?_name (Text.jsonQuoted_injective hstrategy)
    · exact UInt64.toNat_inj.mp (digits_injective hsize)
    · exact UInt32.toNat_inj.mp (digits_injective hiterations)

/-- A name that looks like two more members stays a name.  Times that are not finite look alike. -/
theorem json_injective_not_finite :
    let r : Report :=
      { name := "a\",\n  \"size\": 7,\n  \"b\": \"\\", shape := .random, strategy := .workStack,
        size := 5, iterations := 3, elapsed := .nan, perIteration := .infinity false,
        peakKb := none, startedAt := ⟨1767323045, 0⟩ }
    let r' : Report := { r with elapsed := .infinity true }
    r ≠ r' ∧ ((r.render .json).toList.splitOn '\n').length = 11 ∧
      r.render .json = r'.render .json ∧ r.name = r'.name ∧ r.size = r'.size := by
  intro r r'
  have helapsed : Binary64.nan.write jsonStyle = (Binary64.infinity true).write jsonStyle := by
    decide
  have hsame : r.render .json = r'.render .json :=
    congrArg (fun elapsed => Cells.jsonObject { r.jsonCells with elapsed }) helapsed
  obtain ⟨hlines, hinjective⟩ := json_injective
  obtain ⟨hname, -, -, hsize, -⟩ := hinjective r r' hsame
  exact ⟨by decide, (hlines r).1, hsame, hname, hsize⟩

end Report

end ThreeBucket
