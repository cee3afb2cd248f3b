import ThreeBucket.Text.Blank
import ThreeBucket.Text.Numeral

/-!
# Peak memory from a status text

The system describes a process in lines such as `VmHWM:     4096 kB`.  The value of a key is the
second word of the first line that starts with the key.  **Later lines are never consulted**: if
that word is missing or is no number of 64 bits, the key has no value.
-/

namespace ThreeBucket.Memory

/-- The key of the largest resident set so far. -/
def peakKey : String := "VmHWM:"

/-- The value of `key` in a status text. -/
def statusValue? (status key : String) : Option UInt64 := do
  let line ← (Text.lines status.toList).find? fun line => key.toList.isPrefixOf line
  let word ← (Text.words line)[1]?
  let value ← (Text.readUnsigned (Nat.pow 2 64 - 1) word).toOption
  return UInt64.ofNat value

end ThreeBucket.Memory
