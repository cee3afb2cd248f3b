import ThreeBucket.Binary64.Text
import ThreeBucket.Settings
import ThreeBucket.Text.Quoted
import ThreeBucket.Timestamp

/-!
# Reports

The result of a run and the forms in which it is written.

* `Duration` — a span of time; `Duration.seconds` is its length as a number.
* `Report` — the settings that were run and what was measured.
* `Cells` — the values of a report, each written as one format writes it.
* `Format.cells`, `Format.layout` — the cells of a format, and the text around them.
  **`Report.render` is one after the other**, so where a value stands does not depend on what it
  is.
-/

namespace ThreeBucket

/-- A span of time. -/
structure Duration where
  seconds : UInt64
  nanos : Fin 1000000000
  deriving Repr, DecidableEq

namespace Duration

/-- The duration of seconds and any number of nanoseconds. -/
def ofParts (seconds nanos : Nat) : Duration :=
  ⟨UInt64.ofNat (seconds + nanos / 1000000000), Fin.ofNat 1000000000 nanos⟩

/-- The length in seconds: the seconds and the fraction are rounded on their own and then
added. -/
def toSeconds (d : Duration) : Binary64 :=
  (Binary64.ofNat d.seconds.toNat).add ((Binary64.ofNat d.nanos).div (Binary64.ofNat 1000000000))

end Duration

/-- The result of a run. -/
structure Report where
  name : String
  shape : Shape
  strategy : Strategy
  size : UInt64
  iterations : UInt32
  /-- Seconds that all timed sorts took together. -/
  elapsed : Binary64
  /-- Microseconds that one timed sort took. -/
  perIteration : Binary64
  /-- The largest memory in use, in units of 1024 bytes, if the system tells. -/
  peakKb : Option UInt64
  startedAt : Timestamp
  deriving Repr, DecidableEq

/-- What is measured while a benchmark runs. -/
structure Measurement where
  elapsed : Duration
  startedAt : Timestamp
  peakKb : Option UInt64
  deriving Repr, DecidableEq

namespace Report

/-- The name of the benchmark. -/
def benchmarkName : String :=
  "quicksort"

/-- The report of a measured run. -/
def ofMeasurement (s : Settings) (m : Measurement) : Report :=
  let elapsed := m.elapsed.toSeconds
  { name := benchmarkName
    shape := s.shape
    strategy := s.strategy
    size := s.size
    iterations := s.iterations
    elapsed
    perIteration :=
      (elapsed.mul (Binary64.ofNat 1000000)).div (Binary64.ofNat (max s.iterations.toNat 1))
    peakKb := m.peakKb
    startedAt := m.startedAt }

/-! ## How values are written -/

/-- Elapsed seconds alone have no exponent.  The point is added to the text, see `secondsText`. -/
def plainStyle : NumberStyle where
  positional _ := true
  pointZero := false
  exponentPlus := false
  tie := .up
  infinity := Binary64.infText
  nan := "NaN"

/-- JSON has an exponent below `10 ^ -5` and from `10 ^ 16` on, always with a sign.  What is not
finite is `null`. -/
def jsonStyle : NumberStyle where
  positional power := -5 ≤ power && power ≤ 15
  pointZero := true
  exponentPlus := true
  tie := .even
  infinity _ := "null"
  nan := "null"

/-- Elapsed seconds with a point, which is appended to a text that has none. -/
def secondsText (x : Binary64) : String :=
  let text := x.write plainStyle
  if text.toList.contains '.' then text else text ++ ".0"

/-- What stands for memory that the system does not tell. -/
def unknownMemory : String :=
  "N/A"

/-- The values of a report as one format writes them. -/
structure Cells where
  name : String
  shape : String
  strategy : String
  size : String
  iterations : String
  elapsed : String
  perIteration : String
  memory : String
  startedAt : String
  deriving Repr, DecidableEq

/-- The values for a reader, on the seconds line and on the summary line. -/
def plainCells (r : Report) (elapsed : String) : Cells where
  name := r.name
  shape := r.shape.name
  strategy := r.strategy.name
  size := toString r.size.toNat
  iterations := toString r.iterations.toNat
  elapsed := elapsed
  perIteration := r.perIteration.writeFixed 3
  memory := (r.peakKb.map fun kb => toString kb.toNat ++ "kB").getD unknownMemory
  startedAt := r.startedAt.write "+00:00"

/-- The values of a CSV row. -/
def csvCells (r : Report) : Cells :=
  { r.plainCells (r.elapsed.writeFixed 9) with
    memory := (r.peakKb.map fun kb => toString kb.toNat).getD unknownMemory }

/-- The values of a JSON object. -/
def jsonCells (r : Report) : Cells where
  name := Text.jsonQuoted r.name
  shape := Text.jsonQuoted r.shape.name
  strategy := Text.jsonQuoted r.strategy.name
  size := toString r.size.toNat
  iterations := toString r.iterations.toNat
  elapsed := r.elapsed.write jsonStyle
  perIteration := r.perIteration.write jsonStyle
  memory := (r.peakKb.map fun kb => toString kb.toNat).getD "null"
  startedAt := Text.jsonQuoted (r.startedAt.write "Z")

/-! ## The text around the values -/

namespace Cells

/-- The summary line. -/
def textLine (c : Cells) : String :=
  "[" ++ c.name ++ "/" ++ c.strategy ++ "] " ++ c.shape ++ " x" ++ c.size ++ " | " ++
    c.iterations ++ " iters | " ++ c.elapsed ++ "s total | " ++ c.perIteration ++
    "us/iter | RSS: " ++ c.memory

/-- The row of a CSV table. -/
def csvRow (c : Cells) : String :=
  ",".intercalate [c.name, c.strategy, c.shape, c.size, c.iterations, c.elapsed, c.perIteration,
    c.memory, c.startedAt]

/-- The names of the columns of a CSV table. -/
def csvHeader : String :=
  ",".intercalate ["name", "strategy", "shape", "size", "iterations", "elapsed_secs",
    "per_iteration_us", "peak_rss_kb", "started_at"]

/-- The members of a JSON object, in order. -/
def jsonMembers (c : Cells) : List (String × String) :=
  [("name", c.name), ("shape", c.shape), ("strategy", c.strategy), ("size", c.size),
    ("iterations", c.iterations), ("elapsed_secs", c.elapsed),
    ("per_iteration_us", c.perIteration), ("peak_rss_kb", c.memory), ("started_at", c.startedAt)]

/-- The JSON object, one member on a line. -/
def jsonObject (c : Cells) : String :=
  "\x7b\n" ++
    ",\n".intercalate (c.jsonMembers.map fun m => "  " ++ Text.jsonQuoted m.1 ++ ": " ++ m.2) ++
    "\n\x7d"

end Cells

namespace Format

/-- The values of a report as a format writes them. -/
def cells (format : Format) (r : Report) : Cells :=
  match format with
  | .seconds => r.plainCells (secondsText r.elapsed)
  | .text => r.plainCells (r.elapsed.writeFixed 6)
  | .json => r.jsonCells
  | .csv => r.csvCells

/-- The text of a report with these values. -/
def layout (format : Format) (c : Cells) : String :=
  match format with
  | .seconds => c.elapsed
  | .text => c.textLine
  | .json => c.jsonObject
  | .csv => Cells.csvHeader ++ "\n" ++ c.csvRow

end Format

/-- The report in a format.  No format refuses a report.  The members of an object have texts for
names, a number that is not finite is written as `null`, and the text is made in memory. -/
def render (r : Report) (format : Format) : String :=
  format.layout (format.cells r)

end Report

end ThreeBucket
