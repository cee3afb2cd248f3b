import ThreeBucket.Settings
import ThreeBucket.Text.Numeral
import ThreeBucket.Text.Plain

/-!
# The command line

The program takes options only: some with a value, some without.

* `Valued`, `Switch` — the options with and without a value.
* `CommandLine` — what a command line asks for.
* `UsageFault` — what is wrong with a command line, and its wording.
* `CommandLine.assign` — takes the value of an option.  **An option given twice is a fault
  whatever its values are**; only then is the value read.
-/

namespace ThreeBucket

/-- An option that takes a value. -/
inductive Valued where
  | config
  | iterations
  | size
  | shape
  | seed
  | strategy
  | warmup
  | format
  deriving Repr, DecidableEq

/-- An option that takes none. -/
inductive Switch where
  | verify
  | verbose
  | help
  | version
  deriving Repr, DecidableEq

namespace Valued

/-- The long name of an option. -/
def name : Valued → String
  | .config => "config"
  | .iterations => "iterations"
  | .size => "size"
  | .shape => "shape"
  | .seed => "seed"
  | .strategy => "strategy"
  | .warmup => "warmup"
  | .format => "format"

/-- The one-letter name of an option, if it has one. -/
def letter? : Valued → Option Char
  | .iterations => some 'n'
  | _ => none

/-- All options with a value. -/
def all : List Valued :=
  [.config, .iterations, .size, .shape, .seed, .strategy, .warmup, .format]

/-- How an option is called in messages: its name and a placeholder for the value. -/
def label (option : Valued) : String :=
  "--" ++ option.name ++ " <" ++ String.ofList (option.name.toList.map Char.toUpper) ++ ">"

end Valued

namespace Switch

/-- The long name of a switch. -/
def name : Switch → String
  | .verify => "verify"
  | .verbose => "verbose"
  | .help => "help"
  | .version => "version"

/-- The one-letter name of a switch, if it has one. -/
def letter? : Switch → Option Char
  | .verify => none
  | .verbose => some 'v'
  | .help => some 'h'
  | .version => some 'V'

/-- All switches. -/
def all : List Switch :=
  [.verify, .verbose, .help, .version]

/-- How a switch is called in messages. -/
def label (switch : Switch) : String :=
  "--" ++ switch.name

end Switch

/-- What a command line asks for. -/
structure CommandLine where
  /-- The settings file. -/
  config : Option String := none
  /-- The settings given as options. -/
  overrides : Overrides := {}
  /-- Whether the phases of the run are logged. -/
  verbose : Bool := false
  deriving Repr, DecidableEq

/-! ## Faults -/

/-- What is wrong with a command line. -/
inductive UsageFault where
  /-- The value of an option cannot be read. -/
  | invalidValue (option : Valued) (value reason : String)
  /-- An option has no value, or an empty one where that is no value. -/
  | missingValue (option : Valued)
  /-- A word is no option and no option's value. -/
  | unexpectedWord (word : String)
  /-- An option or a switch was given twice. -/
  | repeated (label : String)
  /-- A switch was given a value. -/
  | excessValue (switch : Switch) (value : String)
  deriving Repr, DecidableEq

namespace UsageFault

/-- The sentence that tells a user what is wrong.  It repeats what the user wrote without any
terminal commands. -/
def sentence (i : Text.Interruption) : UsageFault → String
  | .invalidValue option value reason =>
    "error: invalid value '" ++ Text.plain i value ++ "' for '" ++ option.label ++ "': " ++ reason
  | .missingValue option =>
    "error: a value is required for '" ++ option.label ++ "' but none was supplied"
  | .unexpectedWord word => "error: unexpected argument '" ++ Text.plain i word ++ "' found"
  | .repeated label => "error: the argument '" ++ label ++ "' cannot be used multiple times"
  | .excessValue switch value =>
    "error: unexpected value '" ++ Text.plain i value ++ "' for '" ++ switch.label ++
      "' found; no more were expected"

/-- The sentence as a text. -/
def message (fault : UsageFault) : String :=
  fault.sentence .ends

/-- The sentence as it is written to a stream, where a command that was interrupted may go on. -/
def written (fault : UsageFault) : String :=
  fault.sentence .suspends

end UsageFault

/-! ## Values of options -/

namespace Valued

/-- Why no value has the name that was given. -/
def unknownName : String := "Matching variant not found"

/-- Reads a number of 32 bits.  It is read as a signed number of 64 bits first, so that a sign is
understood and the range is named. -/
def readWord32 (value : String) : Except String UInt32 :=
  match Text.readSigned 64 value.toList with
  | .error fault => .error fault.message
  | .ok n =>
    if 0 ≤ n ∧ n < Int.pow 2 32 then .ok (UInt32.ofNat n.toNat)
    else .error s!"{n} is not in 0..=4294967295"

/-- Reads a number of 64 bits. -/
def readWord64 (value : String) : Except String UInt64 :=
  match Text.readUnsigned (Nat.pow 2 64 - 1) value.toList with
  | .error fault => .error fault.message
  | .ok n => .ok (UInt64.ofNat n)

/-- Reads the name of a value. -/
def readName {α : Type} [Choice α] (value : String) : Except String α :=
  match Choice.ofName? value with
  | some a => .ok a
  | none => .error unknownName

end Valued

namespace CommandLine

/-- Whether the option was given a value. -/
def has (line : CommandLine) : Valued → Bool
  | .config => line.config.isSome
  | .iterations => line.overrides.iterations.isSome
  | .size => line.overrides.size.isSome
  | .shape => line.overrides.shape.isSome
  | .seed => line.overrides.seed.isSome
  | .strategy => line.overrides.strategy.isSome
  | .warmup => line.overrides.warmup.isSome
  | .format => line.overrides.format.isSome

/-- The command line with the value of a setting read from text. -/
def withSetting (line : CommandLine) (option : Valued) (value : String) :
    Except String CommandLine :=
  let o := line.overrides
  match option with
  | .config => .ok { line with config := some value }
  | .iterations => do
    return { line with overrides := { o with iterations := some (← Valued.readWord32 value) } }
  | .size => do
    return { line with overrides := { o with size := some (← Valued.readWord64 value) } }
  | .shape => do
    return { line with overrides := { o with shape := some (← Valued.readName value) } }
  | .seed => do
    return { line with overrides := { o with seed := some (← Valued.readWord32 value) } }
  | .strategy => do
    return { line with overrides := { o with strategy := some (← Valued.readName value) } }
  | .warmup => do
    return { line with overrides := { o with warmup := some (← Valued.readWord32 value) } }
  | .format => do
    return { line with overrides := { o with format := some (← Valued.readName value) } }

/-- Takes the value of an option.  The empty text is no path. -/
def assign (line : CommandLine) (option : Valued) (value : String) :
    Except UsageFault CommandLine :=
  if line.has option then .error (.repeated option.label)
  else if option = .config ∧ value = "" then .error (.missingValue option)
  else (line.withSetting option value).mapError (.invalidValue option value)

end CommandLine

end ThreeBucket
