import ThreeBucket.Toml.Node
import ThreeBucket.Toml.Quoted

/-!
# Numbers, booleans and dates of a document

Every value that is neither quoted nor bracketed is a word: a run of letters, digits and a few
marks, after which only blanks, a comment, a bracket or a comma may follow.  The whole word must
be a value.

* `ungroup?` — digits with single underscores between them, without the underscores.
* `integer?` — decimal with an optional sign, or with a prefix for base 16, 8 or 2.  **It must fit
  a signed word of 64 bits.**
* `float?` — with a fraction, an exponent or both, rounded to the nearest number.  A positive one
  that is too large is no value.
* `isMoment` — dates, times, and both.
* `Scalar.ofWord?` — the value of a word.
-/

namespace ThreeBucket.Toml

/-- Whether a character may stand in a word. -/
def isWordChar (c : Char) : Bool :=
  c.isAlphanum || c == '+' || c == '-' || c == '.' || c == '_' || c == ':'

/-! ## Numbers -/

/-- The digits of a class, at least one, without the single underscores between them. -/
def ungroup? (p : Char → Bool) : List Char → Option (List Char)
  | [] => none
  | [c] => if p c then some [c] else none
  | c :: '_' :: rest => if p c then (ungroup? p rest).map (c :: ·) else none
  | c :: rest => if p c then (ungroup? p rest).map (c :: ·) else none

/-- The value of a string of digits in a base. -/
def digitsValue (base : Nat) (digits : List Char) : Nat :=
  digits.foldl (fun value c => base * value + (hexValue? c).getD 0) 0

/-- Whether a character is a digit of the base. -/
def isDigitOf (base : Nat) (c : Char) : Bool :=
  match hexValue? c with
  | some d => d < base
  | none => false

/-- Whether there is a minus sign, and what follows the sign. -/
def splitSign : List Char → Bool × List Char
  | '-' :: rest => (true, rest)
  | '+' :: rest => (false, rest)
  | word => (false, word)

/-- The decimal digits of a whole number, which begin with zero only if that is all. -/
def wholeDigits? (word : List Char) : Option (List Char) :=
  match word with
  | '0' :: _ :: _ => none
  | _ => ungroup? Char.isDigit word

/-- The natural number of a word with a prefix for its base. -/
def prefixed? : List Char → Option Nat
  | '0' :: 'x' :: rest => (ungroup? (isDigitOf 16) rest).map (digitsValue 16)
  | '0' :: 'o' :: rest => (ungroup? (isDigitOf 8) rest).map (digitsValue 8)
  | '0' :: 'b' :: rest => (ungroup? (isDigitOf 2) rest).map (digitsValue 2)
  | _ => none

/-- The whole number of a word, whatever its size. -/
def unbounded? (word : List Char) : Option Int :=
  match prefixed? word with
  | some n => some n
  | none =>
    let (negative, rest) := splitSign word
    (wholeDigits? rest).map fun digits =>
      let n : Int := digitsValue 10 digits
      if negative then -n else n

/-- The whole number of a word, if it fits a signed word of 64 bits. -/
def integer? (word : List Char) : Option Int :=
  (unbounded? word).filter fun n => -Int.pow 2 63 ≤ n && n < Int.pow 2 63

/-- Whether a character belongs to a run of digits. -/
def isGrouped (c : Char) : Bool :=
  c.isDigit || c == '_'

/-- The fraction at the start of a text, empty if there is none, and what follows. -/
def fraction? : List Char → Option (List Char × List Char)
  | '.' :: rest => do
    let digits ← ungroup? Char.isDigit (rest.takeWhile isGrouped)
    return (digits, rest.dropWhile isGrouped)
  | text => some ([], text)

/-- The exponent that a text is. -/
def exponent? : List Char → Option Int
  | [] => some 0
  | mark :: rest =>
    if mark == 'e' || mark == 'E' then
      let (negative, digits) := splitSign rest
      (ungroup? Char.isDigit digits).map fun digits =>
        let n : Int := digitsValue 10 digits
        if negative then -n else n
    else none

/-- The number of a word with a fraction or an exponent. -/
def decimal? (word : List Char) : Option Binary64 := do
  let (negative, rest) := splitSign word
  let whole ← wholeDigits? (rest.takeWhile isGrouped)
  let tail := rest.dropWhile isGrouped
  if tail.isEmpty then none
  let (fraction, rest) ← fraction? tail
  let exponent ← exponent? rest
  let digits := digitsValue 10 (whole ++ fraction)
  let x := Binary64.ofDecimal negative digits (exponent - fraction.length)
  if x = Binary64.infinity false then none
  return x

/-- The floating-point number of a word. -/
def float? (word : List Char) : Option Binary64 :=
  let (negative, rest) := splitSign word
  if rest = ['i', 'n', 'f'] then some (Binary64.infinity negative)
  else if rest = ['n', 'a', 'n'] then some Binary64.nan
  else decimal? word

/-! ## Dates and times -/

/-- The value of two decimal digits. -/
def twoDigits? (a b : Char) : Option Nat :=
  if a.isDigit && b.isDigit then some (digitsValue 10 [a, b]) else none

/-- The number of days of a month. -/
def daysInMonth (year month : Nat) : Nat :=
  if month = 2 then
    if year % 4 = 0 ∧ (year % 100 ≠ 0 ∨ year % 400 = 0) then 29 else 28
  else if month = 4 ∨ month = 6 ∨ month = 9 ∨ month = 11 then 30
  else 31

/-- What follows a date. -/
def afterDate? : List Char → Option (List Char)
  | y₁ :: y₂ :: y₃ :: y₄ :: '-' :: m₁ :: m₂ :: '-' :: d₁ :: d₂ :: rest => do
    let century ← twoDigits? y₁ y₂
    let year ← twoDigits? y₃ y₄
    let month ← twoDigits? m₁ m₂
    let day ← twoDigits? d₁ d₂
    if 1 ≤ month ∧ month ≤ 12 ∧ 1 ≤ day ∧ day ≤ daysInMonth (100 * century + year) month then
      some rest
    else none
  | _ => none

/-- What follows a time of day, which may have a fraction of a second. -/
def afterTime? : List Char → Option (List Char)
  | h₁ :: h₂ :: ':' :: m₁ :: m₂ :: ':' :: s₁ :: s₂ :: rest => do
    let hour ← twoDigits? h₁ h₂
    let minute ← twoDigits? m₁ m₂
    let second ← twoDigits? s₁ s₂
    if hour ≤ 23 ∧ minute ≤ 59 ∧ second ≤ 60 then
      match rest with
      | '.' :: d :: rest => if d.isDigit then some (rest.dropWhile Char.isDigit) else none
      | _ => some rest
    else none
  | _ => none

/-- Whether a text is an offset from UTC, or empty. -/
def isOffset : List Char → Bool
  | [] | ['Z'] | ['z'] => true
  | [sign, h₁, h₂, ':', m₁, m₂] =>
    (sign == '+' || sign == '-') &&
      (match twoDigits? h₁ h₂, twoDigits? m₁ m₂ with
      | some hour, some minute => hour ≤ 23 && minute ≤ 59
      | _, _ => false)
  | _ => false

/-- Whether a text is a time of day with an optional offset. -/
def isTimed (text : List Char) : Bool :=
  match afterTime? text with
  | some rest => isOffset rest
  | none => false

/-- Whether a text is a date and nothing else. -/
def isDate (text : List Char) : Bool :=
  afterDate? text == some []

/-- Whether a word is a date, a time of day, or both with a `T` between them. -/
def isMoment (word : List Char) : Bool :=
  match afterDate? word with
  | some [] => true
  | some (mark :: rest) => (mark == 'T' || mark == 't') && isTimed rest
  | none => afterTime? word == some []

/-! ## The value of a word -/

/-- The value that a whole word stands for. -/
def Scalar.ofWord? (word : List Char) : Option Scalar :=
  if word = ['t', 'r', 'u', 'e'] then some (.boolean true)
  else if word = ['f', 'a', 'l', 's', 'e'] then some (.boolean false)
  else
    match integer? word with
    | some n => some (.integer n)
    | none =>
      match float? word with
      | some x => some (.float x)
      | none => if isMoment word then some (.moment (String.ofList word)) else none

/-- The time of day that follows a date after one space. -/
def spacedTime? (c : Cursor) : Option (List Char × Cursor) := do
  let space ← c.char? ' '
  let (word, rest) := space.takeWhile isWordChar
  if word.isEmpty then none
  return (word, rest)

/-- A value that is a word, or a date and a time with a space between them. -/
def word? (c : Cursor) : Option (Scalar × Cursor) :=
  let (word, after) := c.takeWhile isWordChar
  match (if isDate word then spacedTime? after else none) with
  | some (time, after) =>
    if isTimed time then some (.moment (String.ofList (word ++ ' ' :: time)), after) else none
  | none => (Scalar.ofWord? word).map fun value => (value, after)

end ThreeBucket.Toml
