import Mathlib.Tactic.Lemma
import ThreeBucket.Explanation

/-!
# Explanations that can be taken apart

The text of an explanation is its messages with one separator between them, and no other layout is
involved: **whichever way it is put together, by cause or by label, it is the same text**.  Messages
may hold line feeds, also at their ends, and still the text can be cut again, because the separator
begins with its only line feed.  Where it is found, it has to begin inside a message or at the end
of one, and inside it cannot go on.

* `Explanation.ofCause_eq` — the messages of a failure and of those beneath it.
* `Explanation.render_eq`, `Explanation.withLabel_eq` — the text as messages between separators.
* `Text.split_intercalate` — **texts between separators are cut into these texts**, for a separator
  whose first character is nowhere else in it.
* `Explanation.render_reads_back` — all of it.
-/

namespace ThreeBucket

/-! ## Cutting a text at a separator -/

namespace Text

open String.Slice.Pattern.Model

/-- A separator cannot begin in front of the end of a text that does not hold it, if what follows
the text is nothing or begins as the separator does. -/
lemma not_isPrefix_append {c : Char} {tail text next : List Char} (hc : c ∉ tail)
    (hne : text ≠ []) (htext : ¬ c :: tail <:+: text) (hnext : ∀ d ∈ next.head?, d = c) :
    ¬ c :: tail <+: text ++ next := by
  rintro ⟨after, h⟩
  rcases List.append_eq_append_iff.mp h with ⟨rest, htext', -⟩ | ⟨rest, hsep, hnext'⟩
  · exact htext ⟨[], rest, by rw [htext', List.nil_append]⟩
  · cases rest with
    | nil => exact htext ⟨[], [], by rw [hsep]; simp⟩
    | cons d rest =>
        obtain rfl : d = c := hnext d (by simp [hnext'])
        cases text with
        | nil => exact hne rfl
        | cons a text =>
            rw [List.cons_append, List.cons.injEq] at hsep
            exact hc (by simp [hsep.2])

section
variable {separator : String} {c : Char} {tail : List Char}

/-- A text that stands at a position is what lies between it and the position after the text. -/
lemma copy_slice_of_splits {s : String.Slice} {start stop : s.Pos} {before text after : String}
    (hstart : start.Splits before (text ++ after)) (hstop : stop.Splits (before ++ text) after) :
    ∃ h : start ≤ stop, (s.slice start stop h).copy = text :=
  ForwardStringSearcher.isLongestMatchAt_iff.mp
    (ForwardStringSearcher.isLongestMatchAt_iff_splits.mpr ⟨before, after, hstart, hstop⟩)

/-- No separator begins inside a text that does not hold it. -/
lemma not_matchesAt (hsep : separator.toList = c :: tail) (hc : c ∉ tail) {s : String.Slice}
    {start stop pos : s.Pos} {before text after : String}
    (htext : ¬ separator.toList <:+: text.toList) (hafter : ∀ d ∈ after.toList.head?, d = c)
    (hstart : start.Splits before (text ++ after)) (hstop : stop.Splits (before ++ text) after)
    (hle : start ≤ pos) (hlt : pos < stop) : ¬ MatchesAt separator pos := by
  rw [ForwardStringSearcher.matchesAt_iff_splits]
  rintro ⟨front, back, hpos⟩
  obtain ⟨gone, rfl, hgone⟩ := (hstart.le_iff_exists_eq_append hpos).mp hle
  obtain ⟨left, hne, hfront, hleft⟩ := (hpos.lt_iff_exists_eq_append hstop).mp hlt
  have htext' : text = gone ++ left := by
    rw [String.append_assoc] at hfront
    exact String.append_right_inj before |>.mp hfront
  have hleftover : ¬ c :: tail <:+: left.toList := by
    intro hinfix
    refine htext ?_
    rw [hsep, htext', String.toList_append]
    exact hinfix.trans (List.suffix_append ..).isInfix
  refine not_isPrefix_append hc (by simpa using hne) hleftover hafter ⟨back.toList, ?_⟩
  rw [← hsep, ← String.toList_append, ← String.toList_append, hleft]

/-- **Texts between separators, cut from the first of them on.** -/
lemma split_from (hsep : separator.toList = c :: tail) (hc : c ∉ tail)
    [StrictPatternModel separator] {s : String.Slice} {parts : List String} (hne : parts ≠ [])
    (hparts : ∀ part ∈ parts, ¬ separator.toList <:+: part.toList) {before : String} {start : s.Pos}
    (hstart : start.Splits before (separator.intercalate parts)) :
    (String.Slice.Pattern.Model.split separator start start (Std.le_refl start)).map
      (String.Slice.copy ∘ String.Slice.Subslice.toSlice) = parts := by
  induction parts generalizing before start with
  | nil => exact absurd rfl hne
  | cons part parts ih =>
      have hpart := hparts part List.mem_cons_self
      cases parts with
      | nil =>
          rw [String.intercalate_singleton, ← String.append_empty (s := part)] at hstart
          have hstop := hstart.splits_rotateRight
          generalize hstart.rotateRight = stop at hstop
          obtain ⟨hle, hcopy⟩ := copy_slice_of_splits hstart hstop
          obtain rfl : stop = s.endPos := hstop.eq_endPos_iff.mpr rfl
          rw [split_eq_of_not_matchesAt s.endPos hle fun _ =>
            not_matchesAt hsep hc hpart (by simp) hstart hstop, split_endPos]
          simpa using hcopy
      | cons next parts =>
          rw [String.intercalate_cons_cons, String.append_assoc] at hstart
          have hstop := hstart.splits_rotateRight
          generalize hstart.rotateRight = stop at hstop
          have hnext := hstop.splits_rotateRight
          generalize hstop.rotateRight = restart at hnext
          obtain ⟨hle, hcopy⟩ := copy_slice_of_splits hstart hstop
          have hmatch : IsLongestMatchAt separator stop restart :=
            ForwardStringSearcher.isLongestMatchAt_iff_splits.mpr ⟨_, _, hstop, hnext⟩
          have hrest := ih (by simp) (fun other hother => hparts other (.tail part hother)) hnext
          rw [split_eq_of_not_matchesAt stop hle fun _ =>
            not_matchesAt hsep hc hpart (by simp [hsep]) hstart hstop,
            split_eq_of_isLongestMatchAt hmatch, List.map_cons, hrest]
          simpa using hcopy

/-- **Texts between separators are cut into these texts.** -/
theorem split_intercalate (hsep : separator.toList = c :: tail) (hc : c ∉ tail)
    {parts : List String} (hne : parts ≠ [])
    (hparts : ∀ part ∈ parts, ¬ separator.toList <:+: part.toList) :
    ((separator.intercalate parts).split separator).toList.map String.Slice.copy = parts := by
  have hseparator : separator ≠ "" := by
    rintro rfl
    simp at hsep
  have _ := ForwardStringSearcher.strictPatternModel hseparator
  have _ := ForwardStringSearcher.lawfulToForwardSearcherModel hseparator
  have hstart := (separator.intercalate parts).toSlice.splits_startPos
  rw [String.copy_toSlice] at hstart
  rw [String.split_eq_split_toSlice, String.Slice.toList_split_eq_splitToSubslice,
    String.Slice.Pattern.toList_splitToSubslice_eq_modelSplit, List.map_map]
  exact split_from hsep hc hne hparts hstart

end

end Text

/-! ## Collecting messages -/

namespace Cause

/-- The message of a failure alone. -/
def message : Cause → String
  | .root message => message
  | .wrapping message _ => message

/-- The failures beneath a failure, outermost first. -/
def sources : Cause → List Cause
  | .root _ => []
  | .wrapping _ source => source :: source.sources

end Cause

namespace Explanation

lemma collect_eq (e : Explanation) (cause : Cause) :
    e.collect cause =
      { e with causes := e.causes ++ cause.message :: cause.sources.map Cause.message } := by
  induction cause generalizing e with
  | root message => rfl
  | wrapping message source ih => simp [collect, ih, because, Cause.message, Cause.sources]

/-- **A failure is explained by its message, and by those of all failures beneath it.** -/
theorem ofCause_eq (cause : Cause) :
    ofCause cause = { primary := cause.message, causes := cause.sources.map Cause.message } := by
  cases cause with
  | root message => rfl
  | wrapping message source => rw [ofCause, collect_eq]; rfl

/-! ## The text -/

lemma foldl_separator (text : String) (causes : List String) :
    causes.foldl (fun text cause => text ++ separator ++ cause) text =
      separator.intercalate (text :: causes) := by
  induction causes generalizing text with
  | nil => simp
  | cons cause causes ih =>
      rw [List.foldl_cons, ih, String.intercalate_cons_append, String.intercalate_cons_cons]

/-- The separator begins with its only line feed. -/
lemma toList_separator : separator.toList =
    '\n' :: [' ', ' ', 'c', 'a', 'u', 's', 'e', 'd', ' ', 'b', 'y', ':', ' '] := by
  simp [separator]

/-- **The text is the messages with separators between them.** -/
lemma render_eq (e : Explanation) : e.render = separator.intercalate (e.primary :: e.causes) :=
  foldl_separator e.primary e.causes

lemma withLabel_eq (e : Explanation) (label : String) :
    e.withLabel label = label ++ " " ++ e.render := by
  rw [withLabel, foldl_separator, render_eq, String.intercalate_cons_append]

/-- An explanation without causes is its primary message. -/
lemma render_ofCause_toCause (e : Explanation) : (ofCause e.toCause).render = e.render := rfl

/-- **An explanation tells the messages of a failure, in one layout, and they can be read from its
text.**  It has the message of the failure and those of all failures beneath it, outermost first.
Every explanation has the same text with a label as without, but for the label and a blank, and so
has the explanation of an explanation.  And where no message holds the separator, cutting the text
at the separators gives the messages back, whatever line feeds are in them. -/
theorem render_reads_back :
    (∀ cause : Cause,
      ofCause cause = { primary := cause.message, causes := cause.sources.map Cause.message }) ∧
    (∀ (e : Explanation) (label : String), e.withLabel label = label ++ " " ++ e.render) ∧
    (∀ e : Explanation, (ofCause e.toCause).render = e.render ∧
      ∀ label : String, (ofCause e.toCause).withLabel label = e.withLabel label) ∧
    ∀ e : Explanation,
      (∀ message ∈ e.primary :: e.causes, ¬ separator.toList <:+: message.toList) →
      (e.render.split separator).toList.map String.Slice.copy = e.primary :: e.causes := by
  refine ⟨ofCause_eq, withLabel_eq, fun e => ⟨e.render_ofCause_toCause, fun label => ?_⟩, ?_⟩
  · rw [withLabel_eq, withLabel_eq, render_ofCause_toCause]
  · intro e hmessages
    rw [render_eq]
    exact Text.split_intercalate toList_separator (by decide) (by simp) hmessages

/-- Messages may end with a line feed, begin with one and look like a separator that is cut off. -/
theorem render_reads_back_line_feeds :
    let cause : Cause := .wrapping "invalid toml\n" (.wrapping "\n  caused by:" (.root "\n\n"))
    ofCause cause = { primary := "invalid toml\n", causes := ["\n  caused by:", "\n\n"] } ∧
    (∀ message ∈ ["invalid toml\n", "\n  caused by:", "\n\n"],
      ¬ separator.toList <:+: message.toList) ∧
    ((ofCause cause).render.split separator).toList.map String.Slice.copy =
      ["invalid toml\n", "\n  caused by:", "\n\n"] := by
  intro cause
  have hmessages : ∀ message ∈ ["invalid toml\n", "\n  caused by:", "\n\n"],
      ¬ separator.toList <:+: message.toList := by
    rw [toList_separator]
    simp only [List.forall_mem_cons, String.reduceToList]
    decide
  exact ⟨render_reads_back.1 cause, hmessages, render_reads_back.2.2.2 (ofCause cause) hmessages⟩

end Explanation

end ThreeBucket
