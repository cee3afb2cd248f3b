import ThreeBucket.Binary64.Text
import ThreeBucket.Shape
import ThreeBucket.Sort.Profile
import ThreeBucket.Strategy

/-!
# The log of a run

A run tells of its phases in events.  Each has a level and is written as one line: the level, the
part of the program that speaks, a message, and named values.

* `Level` — how much an event matters.
* `Event` — what a run tells.
* `Record` — an event laid out, and its line.
-/

namespace ThreeBucket.Log

/-- How much an event matters, from the most severe on. -/
inductive Level where
  | error
  | warn
  | info
  | debug
  | trace
  deriving Repr, DecidableEq

namespace Level

/-- The place among the levels, from the most severe on. -/
def rank : Level → Nat
  | .error => 1
  | .warn => 2
  | .info => 3
  | .debug => 4
  | .trace => 5

/-- The name of a level. -/
def name : Level → String
  | .error => "error"
  | .warn => "warn"
  | .info => "info"
  | .debug => "debug"
  | .trace => "trace"

/-- All levels, from the most severe on. -/
def all : List Level :=
  [.error, .warn, .info, .debug, .trace]

/-- The name in capitals, with blanks in front up to five letters. -/
def label (level : Level) : String :=
  let name := level.name.toList.map Char.toUpper
  String.ofList (List.replicate (5 - name.length) ' ' ++ name)

end Level

/-- What a run tells of its phases. -/
inductive Event where
  | inputBuilt (shape : Shape) (size : Nat) (strategy : Strategy) (iterations : UInt32)
  /-- The recursion may be as deep as the input is long. -/
  | deepRecursion (shape : Shape) (size : UInt64)
  | warmupFinished (warmup : UInt32)
  | timedLoopFinished (elapsed : Binary64)
  | outputVerified
  | partitionProfile (profile : Profile.Words)
  deriving Repr, DecidableEq

/-- An event laid out. -/
structure Record where
  level : Level
  message : String
  /-- Named values, in order. -/
  fields : List (String × String)
  deriving Repr, DecidableEq

/-- The part of the program that speaks. -/
def target : String :=
  "qsort_bench::runner"

namespace Record

/-- The line of a record. -/
def line (r : Record) : String :=
  r.level.label ++ " " ++ target ++ ": " ++ r.message ++
    String.join (r.fields.map fun field => " " ++ field.1 ++ "=" ++ field.2)

end Record

namespace Event

/-- In the log, very small and very large numbers have an exponent. -/
def numberStyle : NumberStyle where
  positional power := -4 ≤ power && power ≤ 15
  pointZero := true
  exponentPlus := false
  tie := .up
  infinity := Binary64.infText
  nan := "NaN"

/-- How much an event matters. -/
def level : Event → Level
  | .deepRecursion _ _ => .warn
  | _ => .debug

/-- The sentence of an event. -/
def message : Event → String
  | .inputBuilt _ _ _ _ => "input built"
  | .deepRecursion shape _ =>
    "recursive strategy on " ++ shape.name ++
      " input recurses once per element; consider --strategy work-stack"
  | .warmupFinished _ => "warmup finished"
  | .timedLoopFinished _ => "timed loop finished"
  | .outputVerified => "output verified"
  | .partitionProfile _ => "partition profile"

/-- The name under which the elapsed time is logged. -/
def elapsedField : String :=
  "elapsed_secs"

/-- The named values of an event. -/
def fields : Event → List (String × String)
  | .inputBuilt shape size strategy iterations =>
    [("shape", shape.name), ("size", toString size), ("strategy", strategy.name),
      ("iterations", toString iterations.toNat)]
  | .deepRecursion _ size => [("size", toString size.toNat)]
  | .warmupFinished warmup => [("warmup", toString warmup.toNat)]
  | .timedLoopFinished elapsed => [(elapsedField, elapsed.write numberStyle)]
  | .outputVerified => []
  | .partitionProfile profile =>
    [("partitions", toString profile.partitions.toNat),
      ("comparisons", toString profile.comparisons.toNat),
      ("max_depth", toString profile.maxDepth.toNat)]

/-- The event laid out. -/
def record (e : Event) : Record :=
  { level := e.level, message := e.message, fields := e.fields }

end Event

end ThreeBucket.Log
