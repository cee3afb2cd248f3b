/-!
# Text without terminal commands

A terminal takes some characters as commands and not as text.  When a message repeats what a user
wrote, the commands in it are left out.

A command starts at an escape character.  Most consist of that and one more character, perhaps
with marks between them.  An opening bracket starts a *sequence*, which goes on up to a letter.  A
few characters start a *string*, which has an end of its own.  Everywhere another escape starts
over, and a cancel or a substitute character ends the command.

* `Command` — how far a terminal has read a command.
* `Mode` — what a terminal takes the next character for.
* `Mode.step` — the mode after a character, and whether the character shows.
* `plain` — a text without commands and control characters.  **Tabs and line ends are kept**, and
  one that stands in a command interrupts it, unless the command is a string.  An `Interruption`
  says what becomes of the command.

A command is made of ASCII.  **Other characters within it are dropped and change nothing**, except
that a terminal reads bytes: a string may end at the byte `0x9c`, wherever it stands in the
encoding of a character.
-/

namespace ThreeBucket.Text

/-- How far the parameters before a string have been read. -/
inductive Preamble where
  /-- None was met. -/
  | start
  /-- A parameter was met. -/
  | parameters
  /-- A mark from the space to the slash was met. -/
  | marks
  deriving Repr, DecidableEq

/-- How far a terminal has read a command. -/
inductive Command where
  /-- The escape was met. -/
  | escape
  /-- After the escape, a mark from the space to the slash was met. -/
  | marked
  /-- A sequence was begun. -/
  | sequence
  /-- The parameters before a string were begun. -/
  | preamble (stage : Preamble)
  /-- A string was begun that a bell ends. -/
  | titled
  /-- A string was begun that the byte `0x9c` ends. -/
  | string
  deriving Repr, DecidableEq

/-- What a terminal takes the next character for. -/
inductive Mode where
  /-- For text.  The command, if there is one, was interrupted and goes on at the next control
  character. -/
  | text (suspended : Option Command)
  /-- For a part of a command. -/
  | command (state : Command)
  deriving Repr, DecidableEq

/-- What becomes of a command that a tab or a line end interrupts. -/
inductive Interruption where
  /-- It ends. -/
  | ends
  /-- It goes on at the next control character, if only ASCII stands between. -/
  | suspends
  deriving Repr, DecidableEq

/-! ## Classes of characters -/

/-- Whether a character controls the terminal. -/
def isControl (c : Char) : Bool :=
  c.toNat < 0x20 || c.toNat == 0x7f

/-- Whether a character is of ASCII and shows. -/
def isPrinting (c : Char) : Bool :=
  0x20 ≤ c.toNat && c.toNat < 0x7f

/-- Whether a control character moves on in the text. -/
def isLayout (c : Char) : Bool :=
  c == '\t' || c == '\n' || c == '\x0c' || c == '\r'

/-- Whether the encoding of a character holds the byte that ends a string. -/
def endsString (c : Char) : Bool :=
  (String.utf8EncodeChar c).contains 0x9c

/-! ## Reading commands -/

namespace Command

/-- Whether tabs and line ends interrupt the command. -/
def isInterruptible : Command → Bool
  | .escape | .marked | .sequence => true
  | .preamble _ | .titled | .string => false

/-- The command after one more parameter or mark before a string.  Parameters that are out of
order belong to the string already. -/
def afterPreamble (stage : Preamble) (c : Char) : Command :=
  if c.toNat < 0x30 then .preamble .marks
  else
    match stage with
    | .start => if c.toNat < 0x40 then .preamble .parameters else .string
    | .parameters => if c.toNat < 0x3c then .preamble .parameters else .string
    | .marks => .string

/-- The command after a printable ASCII character that follows the escape, or `none` if it is
complete. -/
def afterEscape? (c : Char) : Option Command :=
  if c.toNat < 0x30 then some .marked
  else if c = '[' then some .sequence
  else if c = ']' then some .titled
  else if c = 'P' then some (.preamble .start)
  else if c = 'X' ∨ c = '^' ∨ c = '_' then some .string
  else none

/-- The command after a character that neither starts another one nor interrupts it, or `none` if
it is complete. -/
def next? (k : Command) (c : Char) : Option Command :=
  match k with
  | .titled => if c = '\x07' then none else some .titled
  | .string => if endsString c then none else some .string
  | .escape => if isPrinting c then afterEscape? c else some .escape
  | .marked => if isPrinting c && 0x30 ≤ c.toNat then none else some .marked
  | .sequence => if isPrinting c && 0x40 ≤ c.toNat then none else some .sequence
  | .preamble stage => some (if isPrinting c then afterPreamble stage c else .preamble stage)

end Command

namespace Mode

/-- The mode in which a command goes on, or in which text follows a complete one. -/
def resume : Option Command → Mode
  | some k => .command k
  | none => .text none

/-- The mode after a character, and whether the character shows. -/
def step (i : Interruption) (m : Mode) (c : Char) : Mode × Bool :=
  if c = '\x1b' then (.command .escape, false)
  else if c = '\x18' ∨ c = '\x1a' then (.text none, false)
  else
    match m with
    | .text suspended =>
      if isControl c && !isLayout c then (resume suspended, false)
      else (.text (if c.toNat < 0x80 then suspended else none), true)
    | .command k =>
      if k.isInterruptible && isLayout c then
        match i with
        | .ends => (.text none, true)
        | .suspends => (.text (some k), true)
      else (resume (k.next? c), false)

end Mode

/-- The characters that show, from a mode on. -/
def plainFrom (i : Interruption) : Mode → List Char → List Char
  | _, [] => []
  | m, c :: rest =>
    if (m.step i c).2 then c :: plainFrom i (m.step i c).1 rest
    else plainFrom i (m.step i c).1 rest

/-- A text without commands and control characters. -/
def plain (i : Interruption) (text : String) : String :=
  String.ofList (plainFrom i (.text none) text.toList)

end ThreeBucket.Text
