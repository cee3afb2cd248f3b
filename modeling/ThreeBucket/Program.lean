import ThreeBucket.Bench
import ThreeBucket.CommandLine.Help
import ThreeBucket.CommandLine.Reader
import ThreeBucket.Log.Filter
import ThreeBucket.Text.Blank

/-!
# The program as a whole

What the program does is determined by its command line, the log directives of its environment,
the settings file and what is measured.

* `Outcome` — how the program ends, with the log lines it has written by then.
* `Outcome.exitCode`, `Outcome.output`, `Outcome.complaint` — what the caller sees of it.
* `Program.run` — the outcome.

**Standard output holds the report and nothing else**, or a text that was asked for; the log and
all complaints go to standard error.
-/

namespace ThreeBucket

/-- How the program ends. -/
inductive Outcome where
  /-- A text about the program was asked for. -/
  | information (text : String)
  /-- The command line is wrong. -/
  | misused (fault : UsageFault)
  /-- There is no report. -/
  | failed (log : List Log.Record) (failure : Failure)
  /-- There is a report. -/
  | reported (log : List Log.Record) (report : Report) (format : Report.Format)
  /-- The run broke off, since its input is longer than a list can be. -/
  | brokenOff (log : List Log.Record)

namespace Outcome

/-- The outcome of a command line that is not read to its end. -/
def ofStop : Stop → Outcome
  | .help => .information CommandLine.helpText
  | .version => .information CommandLine.versionText
  | .fault fault => .misused fault

/-- The status with which the program ends. -/
def exitCode : Outcome → UInt32
  | .information _ | .reported _ _ _ => 0
  | .failed _ _ => 1
  | .misused _ => 2
  | .brokenOff _ => 101

/-- What is written to standard output. -/
def output : Outcome → String
  | .information text => text
  | .reported _ report format => report.render format ++ "\n"
  | .misused _ | .failed _ _ | .brokenOff _ => ""

/-- The records of the log. -/
def log : Outcome → List Log.Record
  | .information _ | .misused _ => []
  | .failed log _ | .reported log _ _ | .brokenOff log => log

/-- What is written to standard error after the log. -/
def complaint (terminal : Bool) : Outcome → String
  | .information _ | .reported _ _ _ => ""
  | .misused fault => fault.written ++ "\n\nFor more information, try '--help'.\n"
  | .failed _ failure => failure.explain.withLabel (errorLabel terminal) ++ "\n"
  -- Where in the program that was is left out.
  | .brokenOff _ => "capacity overflow\n"

end Outcome

namespace Log.Filter

/-- The records of the events that are let through. -/
def records (f : Filter) (events : List Event) : List Record :=
  (events.map Event.record).filter fun r => f.lets r.level

end Log.Filter

namespace Program

/-- The outcome of a run with these settings. -/
def bench (s : Settings) (f : Log.Filter) (m : Measurement) : Outcome :=
  let (events, ending) := Bench.run s (f.lets .debug) m
  match ending with
  | .failed failure => .failed (f.records events) failure
  | .reported report => .reported (f.records events) report s.format
  | .brokenOff => .brokenOff (f.records events)

/-- The outcome of a command line that was understood. -/
def runLine (line : CommandLine) (f : Log.Filter) (read : String → Except ReadFault String)
    (m : Measurement) : Outcome :=
  match line.resolve read with
  | .error failure => .failed [] failure
  | .ok s => bench s f m

/-- The outcome of the program. -/
def run (words : List String) (directives : Option String)
    (read : String → Except ReadFault String) (m : Measurement) : Outcome :=
  match CommandLine.ofWords words with
  | .error stop => .ofStop stop
  | .ok line => runLine line (Log.Filter.choose line.verbose directives) read m

end Program

end ThreeBucket
