import ThreeBucket.CommandLine
import ThreeBucket.Failure

/-!
# From the command line to settings

The settings of a run come in three layers: the defaults, the settings file if one is named, and
the options.  **Each layer overrides the ones before it, field by field**, and only the outcome
must be valid: a file may hold what only an option makes right.
-/

namespace ThreeBucket

namespace Overrides

/-- The settings in the file at a path, given what reading it gave. -/
def load (path : String) (content : Except ReadFault String) : Except Failure Overrides := do
  let text ← content.mapError (.unreadable path)
  (ofText text).mapError (.malformed path)

end Overrides

namespace Settings

/-- Lets only settings pass that can be run. -/
def check (s : Settings) : Except Failure Settings :=
  match s.invalid? with
  | some reason => .error (.invalid reason)
  | none => .ok s

end Settings

namespace CommandLine

/-- The settings that a command line asks for. -/
def resolve (line : CommandLine) (read : String → Except ReadFault String) :
    Except Failure Settings := do
  let file ← match line.config with
    | some path => Overrides.load path (read path)
    | none => pure {}
  ((({} : Settings).override file).override line.overrides).check

end CommandLine

end ThreeBucket
