import ThreeBucket.Proofs.DocumentLines
import ThreeBucket.Proofs.SettingView

/-!
# Settings files that read back

Settings are written to a file one on a line, the key and a literal.  Which of them are written and
in which order is up to the writer; what is left out keeps its default when the file is read.

* `Setting.literal` — how a value stands in a file, and `Settings.line`, the line of a setting.
* `Setting.read_scalar` — **every value reads back**, for every setting and up to its limits.
* `Settings.document?_lines` — the document that such lines make.
* `Overrides.ofText_reads_back` — a file of such lines, and what one more line with a key that is no
  setting makes of it.
-/

namespace ThreeBucket

open Toml

/-! ## Values as they are written -/

namespace Setting

/-- Whether the values of a setting are names. -/
def isNamed : Setting → Bool
  | .shape | .strategy | .format => true
  | .iterations | .size | .seed | .warmup | .verify => false

/-- A value as it stands in a file, where names are quoted. -/
def literal (k : Setting) (v : k.Value) : String :=
  if k.isNamed then "\"" ++ k.text v ++ "\"" else k.text v

/-- A value as a document holds it. -/
def scalar : (k : Setting) → k.Value → Scalar
  | .iterations, v | .seed, v | .warmup, v => .integer v.toNat
  | .size, v => .integer v.toNat
  | .verify, v => .boolean v
  | .shape, v => .string v.name
  | .strategy, v => .string v.name
  | .format, v => .string v.name

lemma natural_of_lt {bound n : Nat} (h : n < bound) (expected : String) (span : Span) :
    natural bound expected (.scalar (.integer n) span) = .ok n := by
  simp [natural, h]

/-- **Every value reads back.** -/
lemma read_scalar (k : Setting) (v : k.Value) (span : Span) :
    k.read (.scalar (k.scalar v) span) = .ok v := by
  cases k with
  | iterations | seed | warmup =>
      have hlt : v.toNat < Nat.pow 2 32 := UInt32.toNat_lt v
      show (natural (Nat.pow 2 32) "u32" (.scalar (.integer v.toNat) span)).map UInt32.ofNat = .ok v
      rw [natural_of_lt hlt]
      exact congrArg Except.ok UInt32.ofNat_toNat
  | size =>
      have hlt : v.toNat < Nat.pow 2 64 := UInt64.toNat_lt v
      show (natural (Nat.pow 2 64) "usize" (.scalar (.integer v.toNat) span)).map UInt64.ofNat =
        .ok v
      rw [natural_of_lt hlt]
      exact congrArg Except.ok UInt64.ofNat_toNat
  | verify => rfl
  | shape | strategy | format => cases v <;> rfl

lemma isBare_of_mem_name (k : Setting) :
    k.name.toList ≠ [] ∧ ∀ c ∈ k.name.toList, isBare c = true := by
  rw [← List.all_eq_true]
  cases k <;> decide

/-- Names have no characters that mean something between quotes. -/
lemma visible_of_isNamed {k : Setting} (h : k.isNamed = true) (v : k.Value) :
    (k.text v).toList ≠ [] ∧
      ∀ c ∈ (k.text v).toList, isVisible c = true ∧ c ≠ '"' ∧ c ≠ '\\' := by
  have hall : (k.text v).toList ≠ [] ∧
      (k.text v).toList.all (fun c => isVisible c && c != '"' && c != '\\') = true := by
    cases k with
    | shape | strategy | format => cases v <;> decide
    | _ => cases h
  simpa [and_assoc] using hall

lemma literal_quoted_name {k : Setting} (h : k.isNamed = true) (v : k.Value) :
    Literal (k.literal v).toList (k.scalar v) := by
  have hscalar : k.scalar v = .string (String.ofList (k.text v).toList) := by
    rw [String.ofList_toList]
    cases k with
    | shape | strategy | format => rfl
    | _ => cases h
  obtain ⟨hne, hvisible⟩ := visible_of_isNamed h v
  simpa [literal, h, hscalar] using literal_quoted hne hvisible

end Setting

namespace Settings

/-- The line of a setting. -/
def line (s : Settings) (k : Setting) : String :=
  k.name ++ " = " ++ k.literal (s.get k)

/-- A setting is written so that a document reads it, if a signed word can hold it. -/
lemma literal_reads {s : Settings} (hsize : s.size.toNat < 2 ^ 63) (k : Setting) :
    Literal (k.literal (s.get k)).toList (k.scalar (s.get k)) := by
  have hnumber : ∀ n : Nat, n < 2 ^ 63 → Literal (toString n).toList (.integer n) := by
    intro n hn
    rw [toList_toString]
    exact literal_toDigits hn
  have hword : ∀ n : UInt32, n.toNat < 2 ^ 63 := by
    intro n
    have hlt := UInt32.toNat_lt n
    omega
  cases k with
  | iterations => exact hnumber _ (hword s.iterations)
  | seed => exact hnumber _ (hword s.seed)
  | warmup => exact hnumber _ (hword s.warmup)
  | size => exact hnumber _ hsize
  | verify => exact literal_boolean s.verify
  | shape | strategy | format => exact Setting.literal_quoted_name rfl _

/-- The line of a setting as a line of a document. -/
def documentLine (s : Settings) (hsize : s.size.toNat < 2 ^ 63) (k : Setting) : Line where
  key := k.name.toList
  literal := (k.literal (s.get k)).toList
  value := k.scalar (s.get k)
  key_ne_nil := k.isBare_of_mem_name.1
  isBare_key := k.isBare_of_mem_name.2
  reads := literal_reads hsize k

lemma map_text_documentLine (s : Settings) (hsize : s.size.toNat < 2 ^ 63) (fields : List Setting) :
    (fields.map (s.documentLine hsize)).map Line.text = (fields.map s.line).map String.toList := by
  simp [Line.text, documentLine, line]

/-- The entry of a document that a line gives. -/
lemma pair_documentLine (s : Settings) (hsize : s.size.toNat < 2 ^ 63) (k : Setting) (pos : Nat) :
    ((s.documentLine hsize k).pair pos).key.name = k.name ∧
      k.read ((s.documentLine hsize k).pair pos).value = .ok (s.get k) := by
  refine ⟨String.ofList_toList, ?_⟩
  exact Setting.read_scalar k (s.get k) _

lemma mem_entries_documentLine {s : Settings} {hsize : s.size.toNat < 2 ^ 63} {pos : Nat}
    {fields : List Setting} {e : Key × Node}
    (h : e ∈ Line.entries pos (fields.map (s.documentLine hsize))) :
    ∃ k ∈ fields, e.1.name = k.name ∧ k.read e.2 = .ok (s.get k) := by
  obtain ⟨_, hmem, pos', rfl⟩ := Line.mem_entries h
  obtain ⟨k, hk, rfl⟩ := List.mem_map.mp hmem
  exact ⟨k, hk, s.pair_documentLine hsize k pos'⟩

lemma exists_entry_of_mem (s : Settings) (hsize : s.size.toNat < 2 ^ 63) (pos : Nat)
    {fields : List Setting} {k : Setting} (h : k ∈ fields) :
    ∃ e ∈ Line.entries pos (fields.map (s.documentLine hsize)),
      e.1.name = k.name ∧ k.read e.2 = .ok (s.get k) := by
  obtain ⟨pos', hmem⟩ := Line.exists_mem_entries (List.mem_map_of_mem h) pos
  exact ⟨_, hmem, s.pair_documentLine hsize k pos'⟩

lemma fits_documentLine (s : Settings) (hsize : s.size.toNat < 2 ^ 63) (pos : Nat)
    (fields : List Setting) :
    ∀ e ∈ Line.entries pos (fields.map (s.documentLine hsize)), Setting.Fits e := by
  intro e he
  obtain ⟨k, -, hname, hread⟩ := mem_entries_documentLine he
  exact ⟨k, s.get k, hname, hread⟩

lemma nodup_keys_documentLine {s : Settings} {hsize : s.size.toNat < 2 ^ 63} {fields : List Setting}
    (h : fields.Nodup) : ((fields.map (s.documentLine hsize)).map Line.key).Nodup := by
  rw [List.map_map]
  refine h.map ?_
  intro j k hjk
  exact Setting.name_injective (String.toList_inj.mp hjk)

/-- The document that some settings make, each on its line. -/
lemma document?_lines (s : Settings) (hsize : s.size.toNat < 2 ^ 63) (fields : List Setting)
    (hnodup : fields.Nodup) (last : String) (hlast : last.toList = [] ∨ last.toList = ['\n']) :
    document? ("\n".intercalate (fields.map s.line) ++ last) =
      some (Line.entries 0 (fields.map (s.documentLine hsize))) :=
  document?_join hlast (nodup_keys_documentLine hnodup)
    (Line.toList_intercalate (s.map_text_documentLine hsize fields).symm last)

end Settings

namespace Overrides

/-- **A table of lines reads back**: the settings written have their values, the others none. -/
lemma ofEntries_documentLines (s : Settings) (hsize : s.size.toNat < 2 ^ 63) {fields : List Setting}
    (hnames : (Line.entries 0 (fields.map (s.documentLine hsize))).names.Nodup) :
    ∃ o, ofEntries (Line.entries 0 (fields.map (s.documentLine hsize))) = .ok o ∧
      ∀ k, o.get k = if k ∈ fields then some (s.get k) else none := by
  obtain ⟨o, ho⟩ := exists_foldlM_add_iff (o := {}).mpr (s.fits_documentLine hsize 0 fields)
  have hget := get_ofEntries_eq_some_iff hnames ho
  refine ⟨o, ho, fun k => ?_⟩
  split
  · rename_i hk
    exact (hget k _).mpr (s.exists_entry_of_mem hsize 0 hk)
  · rename_i hk
    refine Option.eq_none_iff_forall_ne_some.mpr fun v hv => ?_
    obtain ⟨e, he, hname, -⟩ := (hget k v).mp hv
    obtain ⟨j, hj, hname', -⟩ := Settings.mem_entries_documentLine he
    exact hk (Setting.name_injective (hname.symm.trans hname') ▸ hj)

/-- Some settings, each on its line, are read as they were written. -/
lemma ofText_lines (s : Settings) (hsize : s.size.toNat < 2 ^ 63) {fields : List Setting}
    (hnodup : fields.Nodup) {last : String} (hlast : last.toList = [] ∨ last.toList = ['\n']) :
    ∃ o, ofText ("\n".intercalate (fields.map s.line) ++ last) = .ok o ∧
      ∀ k, o.get k = if k ∈ fields then some (s.get k) else none := by
  have hdocument := s.document?_lines hsize fields hnodup last hlast
  obtain ⟨o, ho, hget⟩ := ofEntries_documentLines s hsize (nodup_names_of_document? hdocument)
  exact ⟨o, by simp [ofText, hdocument, ho, Except.mapError], hget⟩

/-- A line with a key that need not be a setting. -/
def otherLine (key : String) (hne : key ≠ "") (hbare : ∀ c ∈ key.toList, isBare c = true) :
    Line where
  key := key.toList
  literal := ['1']
  value := .integer 1
  key_ne_nil := by simpa using hne
  isBare_key := hbare
  reads := literal_toDigits (n := 1) (by decide)

-- The lines before the new one are read, and the new one is the first that does not fit.
lemma ofText_other_line (s : Settings) (hsize : s.size.toNat < 2 ^ 63) {before after : List Setting}
    (hnodup : (before ++ after).Nodup) {last : String}
    (hlast : last.toList = [] ∨ last.toList = ['\n']) {key : String} (hne : key ≠ "")
    (hbare : ∀ c ∈ key.toList, isBare c = true) (hother : ∀ k : Setting, k.name ≠ key) :
    ∃ diagnostic,
      ofText ("\n".intercalate
        (before.map s.line ++ (key ++ " = 1") :: after.map s.line) ++ last) =
          .error (.misfit diagnostic) ∧
      diagnostic.message = (Misfit.unknownSetting key).message := by
  have hkeys : ((before.map (s.documentLine hsize) ++
      otherLine key hne hbare :: after.map (s.documentLine hsize)).map Line.key).Nodup := by
    rw [List.map_append, List.map_cons, List.nodup_middle, ← List.map_append, ← List.map_append]
    refine List.nodup_cons.mpr ⟨?_, Settings.nodup_keys_documentLine hnodup⟩
    intro hmem
    obtain ⟨_, hline, hkey⟩ := List.mem_map.mp hmem
    obtain ⟨k, -, rfl⟩ := List.mem_map.mp hline
    exact hother k (String.toList_inj.mp hkey)
  have htexts : (before.map s.line ++ (key ++ " = 1") :: after.map s.line).map String.toList =
      (before.map (s.documentLine hsize) ++
        otherLine key hne hbare :: after.map (s.documentLine hsize)).map Line.text := by
    rw [List.map_append, List.map_cons, List.map_append, List.map_cons,
      s.map_text_documentLine hsize, s.map_text_documentLine hsize]
    simp [Line.text, otherLine]
  have hdocument := document?_join hlast hkeys (Line.toList_intercalate htexts last)
  obtain ⟨pos, hentries⟩ := Line.exists_entries_append 0 (before.map (s.documentLine hsize))
    (otherLine key hne hbare :: after.map (s.documentLine hsize))
  rw [Line.entries_cons] at hentries
  have hname : ((otherLine key hne hbare).pair pos).key.name = key := String.ofList_toList
  rw [ofText, hdocument, hentries]
  simp only [ofEntries_unknown (s.fits_documentLine hsize 0 before) (hname ▸ hother), hname]
  exact ⟨_, rfl, rfl⟩

/-- **A settings file reads back.**  It may hold any of the settings in any order, and what it does
not hold has its default.  One line with a key that is no setting spoils it, wherever it stands. -/
theorem ofText_reads_back (s : Settings) (hsize : s.size.toNat < 2 ^ 63) (fields : List Setting)
    (hnodup : fields.Nodup) (last : String) (hlast : last = "" ∨ last = "\n") :
    (∃ o, ofText ("\n".intercalate (fields.map s.line) ++ last) = .ok o ∧
      ∀ k, (({} : Settings).override o).get k =
        if k ∈ fields then s.get k else ({} : Settings).get k) ∧
    ∀ (key : String) (before after : List Setting), fields = before ++ after →
      key ≠ "" → (∀ c ∈ key.toList, isBare c = true) → (∀ k : Setting, k.name ≠ key) →
      ∃ diagnostic,
        ofText ("\n".intercalate
          (before.map s.line ++ (key ++ " = 1") :: after.map s.line) ++ last) =
            .error (.misfit diagnostic) ∧
        diagnostic.message = (Misfit.unknownSetting key).message := by
  have hlast' : last.toList = [] ∨ last.toList = ['\n'] := by
    rcases hlast with rfl | rfl
    · exact .inl rfl
    · exact .inr rfl
  constructor
  · obtain ⟨o, ho, hget⟩ := ofText_lines s hsize hnodup hlast'
    refine ⟨o, ho, fun k => ?_⟩
    rw [Settings.get_override, hget]
    split <;> rfl
  · rintro key before after rfl hne hbare hother
    exact ofText_other_line s hsize hnodup hlast' hne hbare hother

theorem ofText_reads_back_two_fields :
    let s : Settings := { size := 5, strategy := .workStack }
    s.size.toNat < 2 ^ 63 ∧
    (∃ o, ofText "strategy = \"work-stack\"\nsize = 5\n" = .ok o ∧
      ∀ k, (({} : Settings).override o).get k = s.get k) ∧
    ∃ diagnostic,
      ofText "strategy = \"work-stack\"\nthreads = 1\nsize = 5\n" =
        .error (.misfit diagnostic) := by
  have h := ofText_reads_back { size := 5, strategy := .workStack } (by decide) [.strategy, .size]
    (by decide) "\n" (.inr rfl)
  refine ⟨by decide, ?_, ?_⟩
  · obtain ⟨o, ho, hget⟩ := h.1
    refine ⟨o, ho, fun k => ?_⟩
    rw [hget]
    cases k <;> rfl
  · obtain ⟨diagnostic, hdiagnostic, -⟩ := h.2 "threads" [.strategy] [.size] rfl (by decide)
      (List.all_eq_true.mp (by decide)) (by rintro (_ | _) <;> decide)
    exact ⟨diagnostic, hdiagnostic⟩

end Overrides

end ThreeBucket
