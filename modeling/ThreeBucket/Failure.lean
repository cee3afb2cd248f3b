import ThreeBucket.Explanation
import ThreeBucket.Settings.File
import ThreeBucket.Workdir

/-!
# Failures of the program

Everything that can keep the program from giving a report, once its command line is understood.

* `Failure` — what went wrong.
* `Failure.message` — the sentence for a user; `Failure.toCause` adds what lies beneath it.
-/

namespace ThreeBucket

/-- What keeps the program from giving a report. -/
inductive Failure where
  /-- The settings file cannot be read. -/
  | unreadable (path : String) (fault : ReadFault)
  /-- The settings file does not hold settings. -/
  | malformed (path : String) (fault : FileFault)
  /-- The settings cannot be run. -/
  | invalid (reason : String)
  /-- A strategy did not sort its input. -/
  | unverified (strategy : Strategy) (reason : String)
  /-- The report cannot be written.  That does not happen to a `Report`, see `Report.render`. -/
  | unwritable (cause : String)
  deriving Repr

namespace Failure

/-- The sentence that tells a user what went wrong. -/
def message : Failure → String
  | .unreadable path _ => "cannot read config '" ++ path ++ "'"
  | .malformed path _ => "invalid toml in config '" ++ path ++ "'"
  | .invalid reason => "invalid configuration: " ++ reason
  | .unverified strategy reason =>
    "verification of the " ++ strategy.name ++ " strategy failed: " ++ reason
  | .unwritable _ => "cannot serialize report"

/-- What lies beneath a failure, if anything does. -/
def source? : Failure → Option String
  | .unreadable _ fault => some fault.message
  | .malformed _ fault => some fault.render
  | .invalid _ | .unverified _ _ => none
  | .unwritable cause => some cause

/-- The failure with what lies beneath it. -/
def toCause (f : Failure) : Cause :=
  match f.source? with
  | none => .root f.message
  | some source => .wrapping f.message (.root source)

/-- The failure laid out for a user. -/
def explain (f : Failure) : Explanation :=
  Explanation.ofCause f.toCause

end Failure

end ThreeBucket
