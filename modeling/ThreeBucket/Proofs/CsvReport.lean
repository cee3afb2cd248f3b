import ThreeBucket.Proofs.Lines
import ThreeBucket.Proofs.Numerals
import ThreeBucket.Proofs.Rounding
import ThreeBucket.Proofs.TimestampText
import ThreeBucket.Report

/-!
# CSV reports that read back

A CSV report is a line of column names and a line of values.  Nothing is quoted, so the values can
be told apart only because none of them has a comma or a line feed in it, whatever was measured.

* `IsCell` — a text without separators; numbers, names and times are cells.
* `Binary64.ReadsAs` — a decimal with a fixed number of places that is as near to a number as these
  places allow.  `Binary64.readsAs_writeFixed`: **numbers that are finite and not negative are
  written so**.
* `Duration.atMost_toSeconds`, `Report.atMost_perIteration` — every measured time is such a number.
* `Report.Cells.Describes`, `Report.Cells.Describes.unique` — what the columns tell, and that they
  tell it of nothing else.
* `Report.csv_reads_back` — **every column gives back the value under its name**.
-/

namespace ThreeBucket

/-! ## Texts without separators -/

/-- A text that can stand between commas on a line. -/
def IsCell (text : List Char) : Prop :=
  ',' ∉ text ∧ '\n' ∉ text

@[simp] lemma isCell_nil : IsCell [] := by
  simp [IsCell]

@[simp] lemma isCell_cons {c : Char} {text : List Char} :
    IsCell (c :: text) ↔ (c ≠ ',' ∧ c ≠ '\n') ∧ IsCell text := by
  simp only [IsCell, List.mem_cons, not_or, ne_comm]
  tauto

@[simp] lemma isCell_append {a b : List Char} : IsCell (a ++ b) ↔ IsCell a ∧ IsCell b := by
  simp only [IsCell, List.mem_append]
  tauto

lemma isCell_of_isDigit {text : List Char} (h : ∀ c ∈ text, c.isDigit = true) : IsCell text := by
  constructor <;> intro hmem <;> simpa using h _ hmem

lemma not_mem_intercalate {c separator : Char} (hc : c ≠ separator) {cells : List (List Char)}
    (h : ∀ cell ∈ cells, c ∉ cell) : c ∉ [separator].intercalate cells := by
  induction cells with
  | nil => simp
  | cons cell cells ih =>
      cases cells with
      | nil => simpa using h
      | cons next cells =>
          have hcell := h cell List.mem_cons_self
          have hrest := ih fun other hother => h other (List.mem_cons_of_mem _ hother)
          simp [hc, hcell, hrest]

section
variable {cells : List (List Char)} (hcells : ∀ cell ∈ cells, IsCell cell)
include hcells

lemma newline_not_mem_cells : '\n' ∉ [','].intercalate cells :=
  not_mem_intercalate (by decide) fun cell hcell => (hcells cell hcell).2

/-- **A row of cells is cut into these cells.** -/
lemma splitOn_cells (hne : cells ≠ []) : ([','].intercalate cells).splitOn ',' = cells :=
  List.splitOn_intercalate ',' (fun cell hcell => (hcells cell hcell).1) hne

end

namespace Timestamp

lemma isCell_padded (width n : Nat) : IsCell (padded width n).toList :=
  isCell_of_isDigit (isDigit_padded width n)

lemma isCell_writeYear (year : Int) : IsCell (writeYear year).toList := by
  rw [writeYear]
  split
  · exact isCell_padded 4 _
  · split <;> simp [isCell_padded]

lemma isCell_writeFraction (nanos : Nat) : IsCell (writeFraction nanos).toList := by
  rw [writeFraction]
  split_ifs <;> simp [isCell_padded]

/-- **A time has no separators.** -/
lemma isCell_write (t : Timestamp) {zone : String} (hzone : IsCell zone.toList) :
    IsCell (t.write zone).toList := by
  simp [write, isCell_writeYear, isCell_padded, isCell_writeFraction, hzone]

end Timestamp

/-! ## Two lines -/

namespace Text

lemma splitOn_pair {first second : List Char} (hfirst : '\n' ∉ first) (hsecond : '\n' ∉ second) :
    (first ++ '\n' :: second).splitOn '\n' = [first, second] := by
  have hsplit : (['\n'].intercalate [first, second]).splitOn '\n' = [first, second] :=
    List.splitOn_intercalate '\n' (by simp [hfirst, hsecond]) (by simp)
  simpa using hsplit

end Text

/-! ## Decimals with fixed places -/

/-- The digits of a number, with enough zeros in front for the places after the point. -/
lemma Decimal.positional_eq {places : Nat} (hplaces : 0 < places) (n : Nat) :
    ∃ whole fraction, positional ⟨n, -(places : Int)⟩ = whole ++ '.' :: fraction ∧
      whole ≠ [] ∧ fraction.length = places ∧ (∀ c ∈ whole ++ fraction, c.isDigit = true) ∧
      Nat.ofDigitChars 10 (whole ++ fraction) 0 = n := by
  have hexponent : ¬(0 : Int) ≤ -(places : Int) := by omega
  have hneg : (-(-(places : Int))).toNat = places := by omega
  simp only [positional, digitChars, hexponent, if_false, hneg]
  generalize hzeros : List.replicate (places + 1 - (Nat.toDigits 10 n).length) '0' = zeros
  have hlength : places + 1 ≤ (zeros ++ Nat.toDigits 10 n).length := by
    rw [← hzeros, List.length_append, List.length_replicate]
    omega
  refine ⟨_, _, rfl, ?_, ?_, ?_, ?_⟩
  · intro hnil
    have hlen := congrArg List.length hnil
    rw [List.length_take, List.length_nil] at hlen
    omega
  · rw [List.length_drop]
    omega
  · rw [List.take_append_drop, ← hzeros]
    exact isDigit_of_mem_padded _ n
  · rw [List.take_append_drop, ← hzeros, Nat.ofDigitChars_append, Nat.ofDigitChars_replicate_zero,
      Nat.mul_zero, Nat.ofDigitChars_ten_toDigits]

/-- A decimal with `places` digits after the point which is nearest to a number. -/
def Binary64.ReadsAs (x : Binary64) (places : Nat) (text : List Char) : Prop :=
  ∃ whole fraction, text = whole ++ '.' :: fraction ∧ whole ≠ [] ∧ fraction.length = places ∧
    (∀ c ∈ whole ++ fraction, c.isDigit = true) ∧
    |(Nat.ofDigitChars 10 (whole ++ fraction) 0 : ℚ) / 10 ^ places - x.value| ≤ 1 / 2 / 10 ^ places

namespace Binary64

/-- **A number is written to the nearest decimal with so many places.** -/
lemma readsAs_writeFixed {x : Binary64} (hnegative : x.isNegative = false)
    (hfinite : x.isFinite = true) {places : Nat} (hplaces : 0 < places) :
    x.ReadsAs places (x.writeFixed places).toList := by
  have hnan : x.isNaN = false := isNaN_of_isFinite hfinite
  obtain ⟨whole, fraction, htext, hwhole, hlength, hdigits, hvalue⟩ :=
    Decimal.positional_eq hplaces (roundDiv (x.ratio.1 * 10 ^ places) x.ratio.2)
  refine ⟨whole, fraction, ?_, hwhole, hlength, hdigits, ?_⟩
  · simp only [writeFixed, hnan, hfinite, hnegative, Bool.not_true, if_false, String.toList_ofList,
      Bool.false_eq_true]
    exact htext
  · have hnear := roundDiv_near (x.ratio.1 * 10 ^ places) x.ratio_snd_pos
    have hpow : (0 : ℚ) < 10 ^ places := by positivity
    have hexact : ((x.ratio.1 * 10 ^ places : ℕ) : ℚ) / x.ratio.2 = x.value * 10 ^ places := by
      rw [← ratio_eq_value]
      push_cast
      ring
    rw [hexact] at hnear
    rw [hvalue, le_div_iff₀ hpow, ← abs_of_pos hpow, ← abs_mul, abs_of_pos hpow, sub_mul,
      div_mul_cancel₀ _ hpow.ne']
    exact hnear

lemma ReadsAs.isCell {places : Nat} {text : List Char} {x : Binary64} (h : x.ReadsAs places text) :
    IsCell text := by
  obtain ⟨whole, fraction, rfl, -, -, hdigits, -⟩ := h
  simpa using isCell_of_isDigit hdigits

end Binary64

/-! ## Measured times -/

/-- **The length of every duration is finite.** -/
lemma Duration.atMost_toSeconds (d : Duration) : d.toSeconds.AtMost 65 := by
  have hseconds : d.seconds.toNat < 2 ^ 64 := UInt64.toNat_lt d.seconds
  have hlt : (d.nanos : Nat) < 1000000000 := d.nanos.isLt
  have hbillion : 1 ≤ (Binary64.ofNat 1000000000).value :=
    Binary64.one_le_value_ofNat (k := 30) (by omega) (by omega) (by omega)
  have hnanos : (Binary64.ofNat d.nanos).AtMost 30 := Binary64.atMost_ofNat (by omega) (by omega)
  -- Every operation may round up to the next power of two, so each costs one bit of the bound.
  exact (Binary64.atMost_ofNat (by omega) hseconds).add (hnanos.div hbillion (by omega)) (by omega)
    (by omega)

lemma Choice.name_of_ofName? {α : Type} [Choice α] {text : String} {a : α}
    (h : ofName? text = some a) : name a = text := by
  simpa using List.find?_some h

lemma Choice.eq_of_name_eq {α : Type} [Choice α] (hreads : ∀ a : α, ofName? (name a) = some a)
    {a b : α} (h : name a = name b) : a = b := by
  have hread := hreads a
  rw [h, hreads b] at hread
  exact (Option.some.inj hread).symm

lemma Shape.ofName?_name (shape : Shape) : Choice.ofName? shape.name = some shape := by
  cases shape <;> decide

lemma Strategy.ofName?_name (strategy : Strategy) :
    Choice.ofName? strategy.name = some strategy := by
  cases strategy <;> decide

namespace Report

/-- **The time of one sort is finite**, also where nothing was timed. -/
lemma atMost_perIteration (s : Settings) (m : Measurement) :
    (ofMeasurement s m).perIteration.AtMost 87 := by
  have hiterations : s.iterations.toNat < 2 ^ 32 := UInt32.toNat_lt s.iterations
  have hmillion : (Binary64.ofNat 1000000).AtMost 20 := Binary64.atMost_ofNat (by omega) (by omega)
  have hdivisor : 1 ≤ (Binary64.ofNat (max s.iterations.toNat 1)).value :=
    Binary64.one_le_value_ofNat (k := 32) (by omega) (by omega) (by omega)
  exact (m.elapsed.atMost_toSeconds.mul hmillion (by omega)).div hdivisor (by omega)

/-! ## What the columns say -/

/-- The decimal digits of a whole number, which read back. -/
structure IsWhole (limit n : Nat) (text : List Char) : Prop where
  digits : text = Nat.toDigits 10 n
  reads : Text.readUnsigned limit text = .ok n

lemma isWhole_toString {limit n : Nat} (h : n ≤ limit) : IsWhole limit n (toString n).toList := by
  rw [toList_toString]
  exact ⟨rfl, Text.readUnsigned_toDigits h⟩

lemma IsWhole.unique {limit n n' : Nat} {text : List Char} (h : IsWhole limit n text)
    (h' : IsWhole limit n' text) : n = n' :=
  Except.ok.inj (h.reads.symm.trans h'.reads)

lemma IsWhole.isDigit {limit n : Nat} {text : List Char} (h : IsWhole limit n text) :
    ∀ c ∈ text, c.isDigit = true := by
  rw [h.digits]
  exact isDigit_of_mem_toDigits

namespace Cells

/-- The columns of a CSV table, each with its name. -/
def columns (c : Cells) : List (String × String) :=
  [("name", c.name), ("strategy", c.strategy), ("shape", c.shape), ("size", c.size),
    ("iterations", c.iterations), ("elapsed_secs", c.elapsed),
    ("per_iteration_us", c.perIteration), ("peak_rss_kb", c.memory), ("started_at", c.startedAt)]

/-- The values that were run and measured can be read from the columns. -/
structure Describes (c : Cells) (s : Settings) (m : Measurement) : Prop where
  name : c.name = benchmarkName
  strategy : Choice.ofName? c.strategy = some s.strategy
  shape : Choice.ofName? c.shape = some s.shape
  size : IsWhole (2 ^ 64 - 1) s.size.toNat c.size.toList
  iterations : IsWhole (2 ^ 32 - 1) s.iterations.toNat c.iterations.toList
  elapsed : m.elapsed.toSeconds.ReadsAs 9 c.elapsed.toList
  perIteration : (ofMeasurement s m).perIteration.ReadsAs 3 c.perIteration.toList
  unknown : c.memory = "N/A" ↔ m.peakKb = none
  memory : ∀ kb, m.peakKb = some kb → IsWhole (2 ^ 64 - 1) kb.toNat c.memory.toList
  /-- No other time has this text, by `Timestamp.write_injective`. -/
  startedAt : c.startedAt = m.startedAt.write "+00:00"

lemma isCell_strategy (strategy : Strategy) : IsCell strategy.name.toList := by
  cases strategy <;> simp [Strategy.name]

lemma isCell_shape (shape : Shape) : IsCell shape.name.toList := by
  cases shape <;> simp [Shape.name]

/-- **What can be read has no separators.** -/
lemma Describes.isCell {c : Cells} {s : Settings} {m : Measurement} (h : c.Describes s m) :
    ∀ column ∈ c.columns, IsCell column.2.toList := by
  have hstrategy : s.strategy.name = c.strategy := Choice.name_of_ofName? h.strategy
  have hshape : s.shape.name = c.shape := Choice.name_of_ofName? h.shape
  have hmemory : IsCell c.memory.toList := by
    cases hpeak : m.peakKb with
    | none => simp [h.unknown.mpr hpeak]
    | some kb => exact isCell_of_isDigit (h.memory kb hpeak).isDigit
  simp only [columns, List.forall_mem_cons]
  refine ⟨?_, ?_, ?_, ?_, ?_, ?_, ?_, ?_, ?_, ?_⟩
  · rw [h.name]
    simp [benchmarkName]
  · rw [← hstrategy]
    exact isCell_strategy s.strategy
  · rw [← hshape]
    exact isCell_shape s.shape
  · exact isCell_of_isDigit h.size.isDigit
  · exact isCell_of_isDigit h.iterations.isDigit
  · exact h.elapsed.isCell
  · exact h.perIteration.isCell
  · exact hmemory
  · rw [h.startedAt]
    exact Timestamp.isCell_write _ (by simp)
  · simp

/-- **The columns of a report tell what they describe**: everything but the exact durations. -/
theorem Describes.unique {c : Cells} {s s' : Settings} {m m' : Measurement}
    (h : c.Describes s m) (h' : c.Describes s' m') (hm : m.startedAt.IsValid)
    (hm' : m'.startedAt.IsValid) :
    s.strategy = s'.strategy ∧ s.shape = s'.shape ∧ s.size = s'.size ∧
      s.iterations = s'.iterations ∧ m.peakKb = m'.peakKb ∧ m.startedAt = m'.startedAt := by
  refine ⟨Option.some.inj (h.strategy.symm.trans h'.strategy),
    Option.some.inj (h.shape.symm.trans h'.shape), UInt64.toNat_inj.mp (h.size.unique h'.size),
    UInt32.toNat_inj.mp (h.iterations.unique h'.iterations), ?_,
    Timestamp.write_injective hm hm' (h.startedAt.symm.trans h'.startedAt)⟩
  cases hpeak : m.peakKb with
  | none => exact (h'.unknown.mp (h.unknown.mpr hpeak)).symm
  | some kb =>
      cases hpeak' : m'.peakKb with
      | none =>
          have hnone := h.unknown.mp (h'.unknown.mpr hpeak')
          rw [hpeak] at hnone
          cases hnone
      | some kb' =>
          have hsame := UInt64.toNat_inj.mp ((h.memory kb hpeak).unique (h'.memory kb' hpeak'))
          rw [hsame]

lemma toList_csvRow (c : Cells) :
    c.csvRow.toList = [','].intercalate (c.columns.map fun column => column.2.toList) := by
  rw [csvRow, String.toList_intercalate]
  rfl

lemma toList_csvHeader (c : Cells) :
    csvHeader.toList = [','].intercalate (c.columns.map fun column => column.1.toList) := by
  rw [csvHeader, String.toList_intercalate]
  rfl

end Cells

lemma describes_csvCells (s : Settings) (m : Measurement) :
    (ofMeasurement s m).csvCells.Describes s m := by
  have hwide : ∀ n : UInt64, IsWhole (2 ^ 64 - 1) n.toNat (toString n.toNat).toList := by
    intro n
    have hlt := UInt64.toNat_lt n
    exact isWhole_toString (by omega)
  have hiterations := UInt32.toNat_lt s.iterations
  have helapsed := m.elapsed.atMost_toSeconds
  have hperIteration := atMost_perIteration s m
  have hmemory : (ofMeasurement s m).csvCells.memory =
      (m.peakKb.map fun kb => toString kb.toNat).getD "N/A" := rfl
  constructor
  case name => rfl
  case strategy => exact Strategy.ofName?_name s.strategy
  case shape => exact Shape.ofName?_name s.shape
  case size => exact hwide s.size
  case iterations => exact isWhole_toString (by omega)
  case elapsed =>
    exact Binary64.readsAs_writeFixed helapsed.isNegative helapsed.isFinite (by omega)
  case perIteration =>
    exact Binary64.readsAs_writeFixed hperIteration.isNegative hperIteration.isFinite (by omega)
  case unknown =>
    rw [hmemory]
    cases m.peakKb with
    | none => simp
    | some kb =>
        refine iff_of_false ?_ (by simp)
        intro hna
        have hdigits := (hwide kb).isDigit
        rw [Option.map_some, Option.getD_some] at hna
        rw [hna] at hdigits
        simp at hdigits
  case memory =>
    intro kb hkb
    rw [hmemory, hkb]
    exact hwide kb
  case startedAt => rfl

/-- **A CSV report reads back**: it has two lines, and where they are cut at the commas stand the
names of the columns and, in the same order, values from which everything that was run and measured
can be read. -/
theorem csv_reads_back (s : Settings) (m : Measurement) :
    ∃ (header row : List Char) (c : Cells),
      Text.lines ((ofMeasurement s m).render .csv).toList = [header, row] ∧
      ((ofMeasurement s m).render .csv).toList.splitOn '\n' = [header, row] ∧
      header.splitOn ',' = c.columns.map (fun column => column.1.toList) ∧
      row.splitOn ',' = c.columns.map (fun column => column.2.toList) ∧
      c.Describes s m := by
  have hdescribes := describes_csvCells s m
  generalize hc : (ofMeasurement s m).csvCells = c at hdescribes
  have htext : ((ofMeasurement s m).render .csv).toList =
      Cells.csvHeader.toList ++ '\n' :: c.csvRow.toList := by
    show (Cells.csvHeader ++ "\n" ++ (ofMeasurement s m).csvCells.csvRow).toList = _
    rw [hc]
    simp
  have hheader : ∀ cell ∈ c.columns.map (fun column => column.1.toList), IsCell cell := by
    simp [Cells.columns]
  have hrow : ∀ cell ∈ c.columns.map (fun column => column.2.toList), IsCell cell := by
    intro cell hcell
    obtain ⟨column, hcolumn, rfl⟩ := List.mem_map.mp hcell
    exact hdescribes.isCell column hcolumn
  have hheaderLine : '\n' ∉ Cells.csvHeader.toList := by
    rw [c.toList_csvHeader]
    exact newline_not_mem_cells hheader
  have hrowLine : '\n' ∉ c.csvRow.toList := by
    rw [c.toList_csvRow]
    exact newline_not_mem_cells hrow
  refine ⟨Cells.csvHeader.toList, c.csvRow.toList, c, ?_, ?_, ?_, ?_, hdescribes⟩
  · rw [htext]
    refine Text.lines_eq_pair hheaderLine hrowLine (by decide) ?_
    rw [c.toList_csvRow]
    simp [Cells.columns]
  · rw [htext]
    exact Text.splitOn_pair hheaderLine hrowLine
  · rw [c.toList_csvHeader]
    exact splitOn_cells hheader (by simp [Cells.columns])
  · rw [c.toList_csvRow]
    exact splitOn_cells hrow (by simp [Cells.columns])

theorem csv_reads_back_without_memory :
    let s : Settings := { iterations := 3, size := 5, shape := .random, strategy := .workStack }
    let m : Measurement := ⟨⟨0, 120⟩, ⟨1767323045, 0⟩, none⟩
    ∃ (header row : List Char) (c : Cells),
      Text.lines ((ofMeasurement s m).render .csv).toList = [header, row] ∧
      row.splitOn ',' = c.columns.map (fun column => column.2.toList) ∧ c.Describes s m ∧
      c.memory = "N/A" := by
  intro s m
  obtain ⟨header, row, c, hlines, -, -, hrow, hdescribes⟩ := csv_reads_back s m
  exact ⟨header, row, c, hlines, hrow, hdescribes, hdescribes.unknown.mpr rfl⟩

end Report

end ThreeBucket
