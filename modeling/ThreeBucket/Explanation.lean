/-!
# Explaining a failure

A failure has a message, and often one beneath it that caused it.  For a user the whole chain is
written out, one indented line for every cause.

* `Cause` — a failure as it arises: a message around another failure, if there is one.
* `Explanation` — the same laid out flat: the primary message and the causes, outermost first.
* `Explanation.ofCause` — collects the messages of a failure, going down from one to the next.
* `Explanation.render`, `Explanation.withLabel` — the text shown, without and with a label in
  front.
-/

namespace ThreeBucket

/-- A failure, and the failure that caused it if there is one. -/
inductive Cause where
  | root (message : String)
  | wrapping (message : String) (source : Cause)
  deriving Repr, DecidableEq

/-- A primary message with the causes beneath it. -/
structure Explanation where
  primary : String
  /-- The causes, outermost first. -/
  causes : List String := []
  deriving Repr, DecidableEq

namespace Explanation

/-- Adds a cause beneath all others. -/
def because (e : Explanation) (cause : String) : Explanation :=
  { e with causes := e.causes ++ [cause] }

/-- Adds the message of a failure and of everything beneath it, one after the other. -/
def collect (e : Explanation) : Cause → Explanation
  | .root message => e.because message
  | .wrapping message source => (e.because message).collect source

/-- Collects the messages of a failure. -/
def ofCause : Cause → Explanation
  | .root message => { primary := message }
  | .wrapping message source => collect { primary := message } source

/-- What stands before every cause. -/
def separator : String :=
  "\n  caused by: "

/-- The primary message, and every cause on a line of its own. -/
def render (e : Explanation) : String :=
  e.causes.foldl (fun text cause => text ++ separator ++ cause) e.primary

/-- The explanation with a label in front of the primary message. -/
def withLabel (e : Explanation) (label : String) : String :=
  e.causes.foldl (fun text cause => text ++ separator ++ cause) (label ++ " " ++ e.primary)

/-- An explanation taken as a failure: its text is one message. -/
def toCause (e : Explanation) : Cause :=
  .root e.render

end Explanation

/-! ## Labels -/

/-- The text between the codes that turn a terminal's writing red and back. -/
def red (text : String) : String :=
  "\x1b[31m" ++ text ++ "\x1b[0m"

/-- The label of an error, red on a terminal. -/
def errorLabel (terminal : Bool) : String :=
  if terminal then red "error:" else "error:"

end ThreeBucket
