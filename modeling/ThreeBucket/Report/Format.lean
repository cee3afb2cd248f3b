import ThreeBucket.Choice

/-!
# Report formats

The forms in which a result is reported: the elapsed seconds alone, one line for a reader, a JSON
object, or a CSV table of one row.
-/

namespace ThreeBucket.Report

/-- The form of a report. -/
inductive Format where
  | seconds
  | text
  | json
  | csv
  deriving Repr, DecidableEq

namespace Format

/-- The name of a format. -/
def name : Format → String
  | .seconds => "seconds"
  | .text => "text"
  | .json => "json"
  | .csv => "csv"

instance : Choice Format where
  all := [.seconds, .text, .json, .csv]
  name := name
  default := .seconds

end Format

end ThreeBucket.Report
