import ThreeBucket.Check
import ThreeBucket.CommandLine.Resolve
import ThreeBucket.Log
import ThreeBucket.Report

/-!
# Running a benchmark

A run builds its input, sorts it again and again while the clock runs, checks the outcome if asked
to, and reports.  How long the sorts take comes from outside, as a `Measurement`; everything else
about a run is determined by its settings.

* `examine`, `verify` — checks a list that should be a sorted one, and one more output of a
  strategy.
* `Bench.input?` — the input of a run, if a list can be that long.
* `Bench.sortRepeatedly` — the sorts of a run, whatever they do besides.
* `Bench.opening`, `Bench.closing` — what a run tells before and after its timed sorts.
* `Bench.run` — the events of a run, and how it ends.
-/

namespace ThreeBucket

/-- Checks a list that a strategy is said to have made of an input: it must be in order, hold the
same elements, and be what the standard sort gives. -/
def examine (strategy : Strategy) (input candidate : List Int) : Except Failure Unit :=
  if !isSorted candidate then
    .error (.unverified strategy "output is not in non-decreasing order")
  else if !isPermutationOf candidate input then
    .error (.unverified strategy "output is not a permutation of the input")
  else if strategy != .std && candidate != Strategy.std.sort input then
    .error (.unverified strategy "output differs from the reference sort")
  else .ok ()

/-- Checks what a strategy makes of an input. -/
def verify (strategy : Strategy) (input : List Int) : Except Failure Unit :=
  examine strategy input (strategy.sort input)

namespace Bench

/-- The longest one-sided input on which deep recursion is not worth a warning. -/
def quietDepth : Nat := 10000

/-- The elements of the input that settings describe. -/
def input (s : Settings) : List Int :=
  s.shape.build s.size s.seed

/-- The input that settings describe, unless it is longer than a list can be. -/
def input? (s : Settings) : Option (List Int) :=
  s.shape.build? s.size s.seed

/-- Sorts an input over and over, and adds the number of elements sorted to `count`.  Every sort is
given the input itself, so none sees what another one made of it. -/
@[specialize]
def sortRepeatedly {m : Type → Type} [Monad m] (sort : List Int → m (List Int)) (input : List Int)
    (count : Nat) : Nat → m Nat
  | 0 => pure count
  | times + 1 => do
    let sorted ← sort input
    sortRepeatedly sort input (count + sorted.length) times

/-- Whether a run may recurse once for every element of a long input. -/
def recursesDeeply (s : Settings) : Bool :=
  s.strategy.recurses && s.shape.isMonotonic && quietDepth < s.size.toNat

/-- What a run tells before its timed sorts. -/
def opening (s : Settings) (input : List Int) : List Log.Event :=
  [.inputBuilt s.shape input.length s.strategy s.iterations] ++
    (if recursesDeeply s then [.deepRecursion s.shape s.size] else []) ++
    (if 0 < s.warmup then [.warmupFinished s.warmup] else [])

/-- The profile of the recursive sort, if the run is profiled. -/
def profileEvents (s : Settings) (input : List Int) (profiled : Bool) : List Log.Event :=
  if s.strategy.recurses && profiled then [.partitionProfile (sortProfiled input).1.words] else []

/-- What a run tells after its timed sorts, and whether its output stood the check. -/
def closing (s : Settings) (input : List Int) (elapsed : Duration) (profiled : Bool) :
    List Log.Event × Except Failure Unit :=
  let timed : Log.Event := .timedLoopFinished elapsed.toSeconds
  if s.verify then
    match verify s.strategy input with
    | .error failure => ([timed], .error failure)
    | .ok () => ([timed, .outputVerified] ++ profileEvents s input profiled, .ok ())
  else (timed :: profileEvents s input profiled, .ok ())

/-- How a run ends. -/
inductive Ending where
  | reported (report : Report)
  | failed (failure : Failure)
  /-- The run breaks off, since its input is longer than a list can be. -/
  | brokenOff
  deriving Repr

/-- The events of a run and its end.  It is profiled only if someone reads the profile. -/
def run (s : Settings) (profiled : Bool) (m : Measurement) : List Log.Event × Ending :=
  match s.check with
  | .error failure => ([], .failed failure)
  | .ok s =>
    match input? s with
    | none => ([], .brokenOff)
    | some input =>
      let (events, outcome) := closing s input m.elapsed profiled
      (opening s input ++ events,
        match outcome with
        | .error failure => .failed failure
        | .ok () => .reported (Report.ofMeasurement s m))

end Bench

end ThreeBucket
