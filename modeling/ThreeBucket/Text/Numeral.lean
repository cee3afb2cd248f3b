/-!
# Reading whole numbers

A numeral is an optional sign and at least one decimal digit; leading zeros do not matter.  It is
read from left to right, and the first thing wrong decides the fault: a character that is no
digit, or a value that has left the range.

* `NumeralFault` — what is wrong with a numeral.
* `readDigits` — reads digits onto a value that must not exceed a limit.
* `readUnsigned` — numbers from 0 to a limit.  A minus sign is no digit.
* `readSigned` — numbers of a two's complement width.
-/

namespace ThreeBucket.Text

/-- What is wrong with a numeral. -/
inductive NumeralFault where
  | empty
  | invalidDigit
  | tooLarge
  | tooSmall
  deriving Repr, DecidableEq

namespace NumeralFault

/-- The words for a fault. -/
def message : NumeralFault → String
  | .empty => "cannot parse integer from empty string"
  | .invalidDigit => "invalid digit found in string"
  | .tooLarge => "number too large to fit in target type"
  | .tooSmall => "number too small to fit in target type"

end NumeralFault

/-- The value of an ASCII decimal digit. -/
def digit? (c : Char) : Option Nat :=
  if c.isDigit then some (c.toNat - '0'.toNat) else none

/-- Appends digits to a value.  Passing the limit is the fault `excess`. -/
def readDigits (limit : Nat) (excess : NumeralFault) :
    Nat → List Char → Except NumeralFault Nat
  | value, [] => .ok value
  | value, c :: rest =>
    match digit? c with
    | none => .error .invalidDigit
    | some d =>
      if 10 * value + d ≤ limit then readDigits limit excess (10 * value + d) rest
      else .error excess

/-- Reads a number from 0 to `limit`. -/
def readUnsigned (limit : Nat) : List Char → Except NumeralFault Nat
  | [] => .error .empty
  | ['+'] => .error .invalidDigit
  | '+' :: digits => readDigits limit .tooLarge 0 digits
  | digits => readDigits limit .tooLarge 0 digits

/-- Reads a number from `-2 ^ (width - 1)` to `2 ^ (width - 1) - 1`. -/
def readSigned (width : Nat) : List Char → Except NumeralFault Int
  | [] => .error .empty
  | ['+'] | ['-'] => .error .invalidDigit
  | '-' :: digits => (readDigits (Nat.pow 2 (width - 1)) .tooSmall 0 digits).map fun n => -(n : Int)
  | '+' :: digits => (readDigits (Nat.pow 2 (width - 1) - 1) .tooLarge 0 digits).map fun n => (n : Int)
  | digits => (readDigits (Nat.pow 2 (width - 1) - 1) .tooLarge 0 digits).map fun n => (n : Int)

end ThreeBucket.Text
