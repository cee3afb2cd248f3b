import ThreeBucket.Memory
import ThreeBucket.Program
import Std.Time.DateTime.Timestamp

/-!
# The executable

Reads the settings file, the clock and the memory status, runs the timed sorts, and prints what
`Program.run` determines.
-/

namespace ThreeBucket.Executable

/-- The current time. -/
def now : IO Timestamp := do
  let nanos := (← Std.Time.Timestamp.now).toNanosecondsSinceUnixEpoch.val
  return { seconds := nanos.fdiv 1000000000, nanos := (nanos.fmod 1000000000).toNat }

/-- Reads a file whole. -/
def readFile (path : String) : IO (Except ReadFault String) := do
  if path.toList.contains '\x00' then return .error .nulInName
  try
    let bytes ← IO.FS.readBinFile path
    return match String.fromUTF8? bytes with
      | some text => .ok text
      | none => .error .notUtf8
  catch fault =>
    return .error <| match fault with
      | .noFileOrDirectory .. | .noSuchThing .. => .notFound
      | .inappropriateType _ 21 _ => .isDirectory
      | .inappropriateType _ 20 _ => .notDirectory
      | .resourceExhausted _ 36 _ | .invalidArgument _ 36 _ => .nameTooLong
      | other => .other (toString other)

/-- The largest memory in use so far. -/
def peakKb : IO (Option UInt64) := do
  match ← readFile "/proc/self/status" with
  | .ok status => return Memory.statusValue? status Memory.peakKey
  | .error _ => return none

/-- Runs the sorts that settings ask for and measures the timed ones.  If there is no input, there
is nothing to measure. -/
def measure (s : Settings) : IO Measurement := do
  let input := (Bench.input? s).getD []
  let sort (items : List Int) : IO (List Int) := IO.lazyPure fun _ => s.strategy.sort items
  let warm ← Bench.sortRepeatedly sort input 0 s.warmup.toNat
  let startedAt ← now
  let start ← IO.monoNanosNow
  let count ← Bench.sortRepeatedly sort input 0 s.iterations.toNat
  let stop ← IO.monoNanosNow
  -- the counts are used, so that no sort can be left out
  let elapsed := if warm + count < input.length then 0 else stop - start
  return { elapsed := Duration.ofParts 0 elapsed, startedAt, peakKb := ← peakKb }

/-- Prints an outcome and gives its status. -/
def finish (outcome : Outcome) : IO UInt32 := do
  let stderr ← IO.getStderr
  for record in outcome.log do
    stderr.putStrLn ((← now).write "Z" ++ " " ++ record.line)
  IO.print outcome.output
  stderr.putStr (outcome.complaint (← stderr.isTty))
  return outcome.exitCode

/-- Runs the program on the words of its command line. -/
def run (words : List String) : IO UInt32 := do
  match CommandLine.ofWords words with
  | .error stop => finish (.ofStop stop)
  | .ok line =>
    let filter := Log.Filter.choose line.verbose (← IO.getEnv "RUST_LOG")
    let content ← match line.config with
      | some path => readFile path
      | none => pure (.error .notFound)
    match line.resolve fun _ => content with
    | .error failure => finish (.failed [] failure)
    | .ok settings => finish (Program.bench settings filter (← measure settings))

end ThreeBucket.Executable

/-- Runs the program. -/
def main (words : List String) : IO UInt32 :=
  ThreeBucket.Executable.run words
