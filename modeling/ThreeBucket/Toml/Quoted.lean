import ThreeBucket.Toml.Cursor

/-!
# Strings of a document

There are four forms: basic strings with escapes and literal strings without, each on one line or
over several.

* `escape?` — the character that an escape stands for.
* `basic?`, `literal?` — the rest of a string on one line, after its opening quote.
* `multilineBasic?`, `multilineLiteral?` — the rest of a string over several lines, after its
  three opening quotes.  A line end right after them is dropped, every other one is a line feed,
  and up to two quotes may stand right before the closing three.
* `string?` — a string in any form.

**A backslash at the end of a line drops all blanks and line ends up to the next character.**
-/

namespace ThreeBucket.Toml

/-! ## Escapes -/

/-- The value of a hexadecimal digit of either case. -/
def hexValue? (c : Char) : Option Nat :=
  if c.isDigit then some (c.toNat - '0'.toNat)
  else if 'a' ≤ c ∧ c ≤ 'f' then some (c.toNat - 'a'.toNat + 10)
  else if 'A' ≤ c ∧ c ≤ 'F' then some (c.toNat - 'A'.toNat + 10)
  else none

/-- Reads exactly `n` hexadecimal digits onto a value, and gives what follows them. -/
def hexDigits? : Nat → Nat → List Char → Option (Nat × List Char)
  | 0, value, rest => some (value, rest)
  | _ + 1, _, [] => none
  | n + 1, value, c :: rest =>
    match hexValue? c with
    | some d => hexDigits? n (16 * value + d) rest
    | none => none

/-- The character of a code point, unless it is a surrogate or too large. -/
def scalarValue? (n : Nat) : Option Char :=
  if n.isValidChar then some (Char.ofNat n) else none

/-- The character of an escape by code point with `n` digits, and what follows. -/
def codePoint? (n : Nat) (text : List Char) : Option (Char × List Char) := do
  let (value, rest) ← hexDigits? n 0 text
  return (← scalarValue? value, rest)

/-- The character that an escape stands for, and what follows the escape.  The text begins after
the backslash. -/
def escape? : List Char → Option (Char × List Char)
  | 'b' :: rest => some ('\x08', rest)
  | 't' :: rest => some ('\t', rest)
  | 'n' :: rest => some ('\n', rest)
  | 'f' :: rest => some ('\x0c', rest)
  | 'r' :: rest => some ('\r', rest)
  | '"' :: rest => some ('"', rest)
  | '\\' :: rest => some ('\\', rest)
  | 'u' :: rest => codePoint? 4 rest
  | 'U' :: rest => codePoint? 8 rest
  | _ => none

theorem length_hexDigits? {n value : Nat} {text : List Char} {r : Nat × List Char}
    (h : hexDigits? n value text = some r) : r.2.length ≤ text.length := by
  induction n generalizing value text with
  | zero => simp only [hexDigits?, Option.some.injEq] at h; simp [← h]
  | succ n ih =>
    cases text with
    | nil => simp [hexDigits?] at h
    | cons c rest =>
      rw [hexDigits?] at h
      split at h
      · exact Nat.le_succ_of_le (ih h)
      · simp at h

theorem length_codePoint? {n : Nat} {text : List Char} {r : Char × List Char}
    (h : codePoint? n text = some r) : r.2.length ≤ text.length := by
  simp only [codePoint?, Option.bind_eq_bind, Option.bind_eq_some_iff, Option.pure_def,
    Option.some.injEq] at h
  obtain ⟨⟨value, rest⟩, hex, c, _, rfl⟩ := h
  exact length_hexDigits? hex

theorem length_escape? {text : List Char} {r : Char × List Char} (h : escape? text = some r) :
    r.2.length ≤ text.length := by
  unfold escape? at h
  split at h
  case h_8 | h_9 => exact Nat.le_succ_of_le (length_codePoint? h)
  case h_10 => simp at h
  all_goals
    simp only [Option.some.injEq] at h
    simp [← h]

/-! ## Strings on one line -/

/-- The rest of a basic string and the position after its closing quote.  `begun` holds the
characters read, last first. -/
def basic? (pos : Nat) (begun : List Char) : List Char → Option (String × Cursor)
  | [] => none
  | '"' :: rest => some (String.ofList begun.reverse, ⟨pos + 1, rest⟩)
  | '\\' :: text =>
    match h : escape? text with
    | some (c, rest) =>
      have : rest.length ≤ text.length := length_escape? h
      basic? (pos + 1 + (text.length - rest.length)) (c :: begun) rest
    | none => none
  | c :: rest => if isVisible c then basic? (pos + 1) (c :: begun) rest else none
termination_by text => text.length

/-- The rest of a literal string and the position after its closing quote. -/
def literal? (pos : Nat) (begun : List Char) : List Char → Option (String × Cursor)
  | [] => none
  | '\'' :: rest => some (String.ofList begun.reverse, ⟨pos + 1, rest⟩)
  | c :: rest => if isVisible c then literal? (pos + 1) (c :: begun) rest else none

/-! ## Strings over several lines -/

/-- Whether only blanks stand before the end of the line. -/
def endsLine : List Char → Bool
  | '\n' :: _ => true
  | '\r' :: '\n' :: _ => true
  | c :: rest => isSpace c && endsLine rest
  | [] => false

/-- The rest of a basic string over several lines.  While `trim` holds, blanks and line ends are
dropped. -/
def multilineBasic? (trim : Bool) (pos : Nat) (begun : List Char) :
    List Char → Option (String × Cursor)
  | [] => none
  | '"' :: '"' :: '"' :: '"' :: '"' :: rest =>
    some (String.ofList ('"' :: '"' :: begun).reverse, ⟨pos + 5, rest⟩)
  | '"' :: '"' :: '"' :: '"' :: rest =>
    some (String.ofList ('"' :: begun).reverse, ⟨pos + 4, rest⟩)
  | '"' :: '"' :: '"' :: rest => some (String.ofList begun.reverse, ⟨pos + 3, rest⟩)
  | '\n' :: rest => multilineBasic? trim (pos + 1) (if trim then begun else '\n' :: begun) rest
  | '\r' :: '\n' :: rest =>
    multilineBasic? trim (pos + 2) (if trim then begun else '\n' :: begun) rest
  | '\\' :: text =>
    match h : escape? text with
    | some (c, rest) =>
      have : rest.length ≤ text.length := length_escape? h
      multilineBasic? false (pos + 1 + (text.length - rest.length)) (c :: begun) rest
    | none => if endsLine text then multilineBasic? true (pos + 1) begun text else none
  | c :: rest =>
    if trim && isSpace c then multilineBasic? true (pos + 1) begun rest
    else if isVisible c then multilineBasic? false (pos + 1) (c :: begun) rest
    else none
termination_by text => text.length

/-- The rest of a literal string over several lines. -/
def multilineLiteral? (pos : Nat) (begun : List Char) : List Char → Option (String × Cursor)
  | [] => none
  | '\'' :: '\'' :: '\'' :: '\'' :: '\'' :: rest =>
    some (String.ofList ('\'' :: '\'' :: begun).reverse, ⟨pos + 5, rest⟩)
  | '\'' :: '\'' :: '\'' :: '\'' :: rest =>
    some (String.ofList ('\'' :: begun).reverse, ⟨pos + 4, rest⟩)
  | '\'' :: '\'' :: '\'' :: rest => some (String.ofList begun.reverse, ⟨pos + 3, rest⟩)
  | '\n' :: rest => multilineLiteral? (pos + 1) ('\n' :: begun) rest
  | '\r' :: '\n' :: rest => multilineLiteral? (pos + 2) ('\n' :: begun) rest
  | c :: rest => if isVisible c then multilineLiteral? (pos + 1) (c :: begun) rest else none

/-- The position after a line end, if one comes next. -/
def skipNewline : Cursor → Cursor
  | ⟨pos, '\n' :: rest⟩ => ⟨pos + 1, rest⟩
  | ⟨pos, '\r' :: '\n' :: rest⟩ => ⟨pos + 2, rest⟩
  | c => c

/-! ## Strings in any form -/

/-- A string on one line, which may also be a key. -/
def lineString? (c : Cursor) : Option (String × Cursor) :=
  match c.rest with
  | '"' :: rest => basic? (c.pos + 1) [] rest
  | '\'' :: rest => literal? (c.pos + 1) [] rest
  | _ => none

/-- A string in any form. -/
def string? (c : Cursor) : Option (String × Cursor) :=
  match c.rest with
  | '"' :: '"' :: '"' :: rest =>
    let start := skipNewline ⟨c.pos + 3, rest⟩
    multilineBasic? false start.pos [] start.rest
  | '\'' :: '\'' :: '\'' :: rest =>
    let start := skipNewline ⟨c.pos + 3, rest⟩
    multilineLiteral? start.pos [] start.rest
  | _ => lineString? c

end ThreeBucket.Toml
