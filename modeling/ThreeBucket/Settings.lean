import ThreeBucket.Report.Format
import ThreeBucket.Shape
import ThreeBucket.Strategy

/-!
# Settings of a benchmark

A benchmark is described by eight settings.  Each has a default; a file may override any of them,
and the command line may override both.

* `Settings` — a value for every setting.
* `Overrides` — a value for some of them.
* `Settings.override` — the settings with the given values replaced.  **Layers are applied one
  after the other**, so the later one wins field by field.
* `Settings.invalid?` — why settings cannot be run.
-/

namespace ThreeBucket

/-- A value for every setting. -/
structure Settings where
  /-- How many sorts are timed. -/
  iterations : UInt32 := 1000
  /-- How long the input is. -/
  size : UInt64 := 100
  shape : Shape := Choice.default
  /-- Where the random shape starts. -/
  seed : UInt32 := 42
  strategy : Strategy := Choice.default
  /-- How many sorts are run before the timed ones. -/
  warmup : UInt32 := 0
  /-- Whether the output is checked after timing. -/
  verify : Bool := false
  format : Report.Format := Choice.default
  deriving Repr, DecidableEq

/-- A value for some of the settings. -/
structure Overrides where
  iterations : Option UInt32 := none
  size : Option UInt64 := none
  shape : Option Shape := none
  seed : Option UInt32 := none
  strategy : Option Strategy := none
  warmup : Option UInt32 := none
  verify : Option Bool := none
  format : Option Report.Format := none
  deriving Repr, DecidableEq

namespace Settings

/-- The settings with the given values replaced. -/
def override (s : Settings) (o : Overrides) : Settings where
  iterations := o.iterations.getD s.iterations
  size := o.size.getD s.size
  shape := o.shape.getD s.shape
  seed := o.seed.getD s.seed
  strategy := o.strategy.getD s.strategy
  warmup := o.warmup.getD s.warmup
  verify := o.verify.getD s.verify
  format := o.format.getD s.format

/-- Why the settings cannot be run, if they cannot. -/
def invalid? (s : Settings) : Option String :=
  if s.iterations = 0 then some "iterations must be at least 1" else none

end Settings

end ThreeBucket
