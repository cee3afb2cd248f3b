import ThreeBucket.CommandLine

/-!
# Reading a command line

The words are read from left to right.

* An option may have its value attached, as in `--size=5`, `-n5` and `-n=5`, or as the next word.
  A word that starts with a hyphen is never taken as a value, a lone hyphen apart.
* One-letter names may share a word, as in `-vn5`.
* The word `--` ends the options, and no word may follow it.

An option that waits for the next word, or has just got it, is *pending*: **its value is looked at
only when the next known option starts or the words end**.  A word that is not understood is
reported before a fault of the pending option.

* `Reading` — what was understood so far, and the pending option.
* `Stop` — why reading ends early: a fault, or a request for help or for the version.
* `CommandLine.ofWords` — what the words ask for.
-/

namespace ThreeBucket

/-- Why the words are not read to their end. -/
inductive Stop where
  | help
  | version
  | fault (fault : UsageFault)
  deriving Repr, DecidableEq

/-- What was understood so far. -/
structure Reading where
  line : CommandLine := {}
  /-- The last option, if its value was not attached to it, and its value if that was met. -/
  pending : Option (Valued × Option String) := none
  deriving Repr, DecidableEq

namespace Reading

/-- Takes the value of the pending option. -/
def settle (r : Reading) : Except UsageFault CommandLine :=
  match r.pending with
  | none => .ok r.line
  | some (option, none) => .error (.missingValue option)
  | some (option, some value) => r.line.assign option value

/-- Meets an option, with its value if that is attached. -/
def option (r : Reading) (option : Valued) (attached : Option String) :
    Except UsageFault Reading := do
  let line ← r.settle
  match attached with
  | none => return { line, pending := some (option, none) }
  | some value => return { line := ← line.assign option value }

/-- Turns a switch on. -/
def turnOn (line : CommandLine) : Switch → Except Stop CommandLine
  | .verify =>
    if line.overrides.verify.isSome then .error (.fault (.repeated Switch.verify.label))
    else .ok { line with overrides := { line.overrides with verify := some true } }
  | .verbose =>
    if line.verbose then .error (.fault (.repeated Switch.verbose.label))
    else .ok { line with verbose := true }
  | .help => .error .help
  | .version => .error .version

/-- Meets a switch. -/
def switch (r : Reading) (switch : Switch) : Except Stop Reading := do
  let line ← r.settle.mapError .fault
  return { line := ← turnOn line switch }

/-- The name before the first equals sign, and the value after it if there is one. -/
def splitName (text : List Char) : String × Option String :=
  let name := String.ofList (text.takeWhile (· != '='))
  match text.dropWhile (· != '=') with
  | [] => (name, none)
  | _ :: value => (name, some (String.ofList value))

/-- Meets a long name; the text is what follows the two hyphens. -/
def long (r : Reading) (text : List Char) : Except Stop Reading :=
  let (name, attached) := splitName text
  match Valued.all.find? (·.name == name), Switch.all.find? (·.name == name), attached with
  | some option, _, _ => (r.option option attached).mapError .fault
  | none, some switch, none => r.switch switch
  | none, some switch, some value => .error (.fault (.excessValue switch value))
  | none, none, _ => .error (.fault (.unexpectedWord ("--" ++ name)))

/-- The value attached to a one-letter name. -/
def attachedValue : List Char → Option String
  | [] => none
  | '=' :: value => some (String.ofList value)
  | value => some (String.ofList value)

/-- Meets one-letter names; the text is what follows the hyphen. -/
def letters (r : Reading) : List Char → Except Stop Reading
  | [] => .ok r
  | c :: rest =>
    match Valued.all.find? (·.letter? == some c), Switch.all.find? (·.letter? == some c) with
    | some option, _ => (r.option option (attachedValue rest)).mapError .fault
    | none, some switch => do letters (← r.switch switch) rest
    | none, none => .error (.fault (.unexpectedWord (String.ofList ['-', c])))

/-- Meets a word that is no option. -/
def plain (r : Reading) (word : String) : Except Stop Reading :=
  match r.pending with
  | some (option, none) => .ok { r with pending := some (option, some word) }
  | _ => .error (.fault (.unexpectedWord word))

/-- Reads the words after those understood so far. -/
def words (r : Reading) : List String → Except Stop CommandLine
  | [] => r.settle.mapError .fault
  | word :: rest =>
    match word.toList with
    | ['-', '-'] =>
      match rest with
      | [] => r.settle.mapError .fault
      | extra :: _ => .error (.fault (.unexpectedWord extra))
    | '-' :: '-' :: text => do words (← r.long text) rest
    | '-' :: c :: text => do words (← r.letters (c :: text)) rest
    | _ => do words (← r.plain word) rest

end Reading

namespace CommandLine

/-- What the words ask for.  The program's own name is not among them. -/
def ofWords (words : List String) : Except Stop CommandLine :=
  ({} : Reading).words words

end CommandLine

end ThreeBucket
