import Mathlib.Data.List.TakeWhile
import ThreeBucket.CommandLine.Reader
import ThreeBucket.Proofs.Numerals
import ThreeBucket.Proofs.Outcome
import ThreeBucket.Proofs.SettingView

/-!
# Command lines that read back

Every setting but one is given by an option of its own, and the check of the output by a switch.
The words that ask for all of them can be put in any order, and the value of an option can be joined
to it or stand apart.

* `Settings.argument` — the words that ask for one setting.
* `CommandLine.assign_text` — **every value reads back**, for every option and up to its limits.
* `Reading.words_argument` — one argument is read, whatever was read before it and whatever follows:
  the option may be left pending, but it settles to the value that was written.
* `Reading.words_arguments` — several arguments are read, each setting once.
* `CommandLine.ofWords_reads_back` — **the words for some settings lead to these settings**.
-/

namespace ThreeBucket

/-! ## Values as they are written -/

lemma Valued.readWord32_text (n : UInt32) : readWord32 (toString n.toNat) = .ok n := by
  have hlt : n.toNat < 2 ^ 32 := UInt32.toNat_lt n
  have hread : Text.readSigned 64 (toString n.toNat).toList = .ok (n.toNat : Int) := by
    rw [toList_toString]
    exact Text.readSigned_toDigits (by omega)
  have hrange : 0 ≤ (n.toNat : Int) ∧ (n.toNat : Int) < 2 ^ 32 := by
    omega
  have hpow : Int.pow 2 32 = 2 ^ 32 := rfl
  rw [readWord32, hread, hpow]
  exact (if_pos hrange).trans (congrArg Except.ok UInt32.ofNat_toNat)

lemma Valued.readWord64_text (n : UInt64) : readWord64 (toString n.toNat) = .ok n := by
  have hlt : n.toNat < 2 ^ 64 := UInt64.toNat_lt n
  have hread : Text.readUnsigned (Nat.pow 2 64 - 1) (toString n.toNat).toList = .ok n.toNat := by
    rw [toList_toString]
    refine Text.readUnsigned_toDigits ?_
    show n.toNat ≤ 2 ^ 64 - 1
    omega
  rw [readWord64, hread]
  exact congrArg Except.ok UInt64.ofNat_toNat

/-- The option for a setting, if it is given by one. -/
def Setting.option? : Setting → Option Valued
  | .iterations => some .iterations
  | .size => some .size
  | .shape => some .shape
  | .seed => some .seed
  | .strategy => some .strategy
  | .warmup => some .warmup
  | .verify => none
  | .format => some .format

namespace CommandLine

variable {line : CommandLine} {k : Setting} {option : Valued}

/-- A command line with the value of one more setting. -/
def put (line : CommandLine) (k : Setting) (v : k.Value) : CommandLine :=
  { line with overrides := line.overrides.put k v }

lemma has_option (h : k.option? = some option) :
    line.has option = (line.overrides.get k).isSome := by
  cases k <;> cases h <;> rfl

lemma withSetting_text (h : k.option? = some option) (v : k.Value) :
    line.withSetting option (k.text v) = .ok (line.put k v) := by
  cases k with
  | verify => cases h
  | iterations | seed | warmup =>
      cases h
      simp only [withSetting, Setting.text, Valued.readWord32_text]
      rfl
  | size =>
      cases h
      simp only [withSetting, Setting.text, Valued.readWord64_text]
      rfl
  | shape | strategy | format =>
      cases h
      cases v <;> rfl

/-- **Every value reads back**, if the option was not given before. -/
lemma assign_text (h : k.option? = some option) (hnew : line.overrides.get k = none) (v : k.Value) :
    line.assign option (k.text v) = .ok (line.put k v) := by
  have hconfig : option ≠ .config := by
    cases k <;> cases h <;> decide
  simp [assign, has_option h, hnew, hconfig, withSetting_text h, Except.mapError]

end CommandLine

/-! ## The words for a setting -/

/-- Where the value of an option stands: joined to it by an equals sign, or in the next word. -/
inductive Spelling where
  | joined
  | apart
  deriving Repr, DecidableEq

namespace Settings

/-- The words that ask for the value of a setting. -/
def argument (s : Settings) (k : Setting) (spelling : Spelling) : List String :=
  match k.option?, spelling with
  | none, _ => ["--" ++ k.name]
  | some _, .joined => ["--" ++ k.name ++ "=" ++ k.text (s.get k)]
  | some _, .apart => ["--" ++ k.name, k.text (s.get k)]

/-- The settings to ask for.  The check of the output is not done unless it is asked for. -/
def asked (s : Settings) : List Setting :=
  [.iterations, .size, .shape, .seed, .strategy, .warmup, .format] ++
    if s.verify then [.verify] else []

end Settings

namespace Setting

lemma name_option? {k : Setting} {option : Valued} (h : k.option? = some option) :
    Valued.all.find? (·.name == k.name) = some option := by
  cases k <;> cases h <;> decide

lemma equals_not_mem_name (k : Setting) : '=' ∉ k.name.toList := by
  cases k <;> decide

/-- No value looks like an option. -/
lemma head?_text_ne_hyphen (k : Setting) (v : k.Value) : (k.text v).toList.head? ≠ some '-' := by
  have hnumber : ∀ n : Nat, (toString n).toList.head? ≠ some '-' := by
    intro n hn
    rw [toList_toString] at hn
    have hdigit := isDigit_of_mem_toDigits _ (List.mem_of_mem_head? hn)
    simp at hdigit
  cases k with
  | iterations | seed | warmup | size => exact hnumber _
  | shape | strategy | format | verify => cases v <;> decide

end Setting

namespace Reading

lemma splitName_joined {name : List Char} (h : '=' ∉ name) (value : List Char) :
    splitName (name ++ '=' :: value) = (String.ofList name, some (String.ofList value)) := by
  have hname : ∀ c ∈ name, (c != '=') = true := by
    intro c hc
    simpa using ne_of_mem_of_not_mem hc h
  simp [splitName, List.takeWhile_append_of_pos hname, List.dropWhile_append_of_pos hname]

lemma splitName_apart {name : List Char} (h : '=' ∉ name) :
    splitName name = (String.ofList name, none) := by
  have hname : ∀ c ∈ name, (c != '=') = true := by
    intro c hc
    simpa using ne_of_mem_of_not_mem hc h
  simp [splitName, List.takeWhile_eq_self_iff.mpr hname, List.dropWhile_eq_nil_iff.mpr hname]

lemma words_long (r : Reading) (text : List Char) {word : String}
    (hword : word.toList = '-' :: '-' :: text) (hne : text ≠ []) (rest : List String) :
    r.words (word :: rest) = (r.long text) >>= fun r' => r'.words rest := by
  cases text with
  | nil => exact absurd rfl hne
  | cons c text => simp [words, hword]

lemma words_plain (r : Reading) {word : String} (hword : word.toList.head? ≠ some '-')
    (rest : List String) :
    r.words (word :: rest) = (r.plain word) >>= fun r' => r'.words rest := by
  conv_lhs => unfold words
  split
  · simp_all
  · simp_all
  · simp_all
  · rfl

variable {r : Reading} {line : CommandLine}

lemma long_joined (hr : r.settle = .ok line) {k : Setting} {option : Valued}
    (h : k.option? = some option) (hnew : line.overrides.get k = none) (v : k.Value) :
    r.long (k.name.toList ++ '=' :: (k.text v).toList) = .ok { line := line.put k v } := by
  simp [long, splitName_joined k.equals_not_mem_name, Setting.name_option? h, Reading.option, hr,
    CommandLine.assign_text h hnew, bind, Except.bind, pure, Except.pure, Except.mapError]

lemma long_apart (hr : r.settle = .ok line) {k : Setting} {option : Valued}
    (h : k.option? = some option) :
    r.long k.name.toList = .ok { line, pending := some (option, none) } := by
  simp [long, splitName_apart k.equals_not_mem_name, Setting.name_option? h, Reading.option, hr,
    bind, Except.bind, pure, Except.pure, Except.mapError]

lemma long_verify (hr : r.settle = .ok line) (hnew : line.overrides.get .verify = none) :
    r.long Setting.verify.name.toList = .ok { line := line.put .verify true } := by
  have hsplit : splitName Setting.verify.name.toList = ("verify", none) :=
    splitName_apart (Setting.equals_not_mem_name .verify)
  have hnot : Valued.all.find? (·.name == "verify") = none := by decide
  have hfind : Switch.all.find? (·.name == "verify") = some .verify := by decide
  have hnew' : line.overrides.verify = none := hnew
  simp only [long, hsplit, hnot, hfind]
  simp [switch, turnOn, hr, hnew', bind, Except.bind, pure, Except.pure, Except.mapError,
    CommandLine.put, Overrides.put]

/-- **One argument is read**, whatever follows it.  The option may be left pending, but it settles
to the value that was written. -/
lemma words_argument {s : Settings} {k : Setting} (hr : r.settle = .ok line)
    (hnew : line.overrides.get k = none) (hasked : k = .verify → s.verify = true)
    (spelling : Spelling) (rest : List String) :
    ∃ r' : Reading, r.words (s.argument k spelling ++ rest) = r'.words rest ∧
      r'.settle = .ok (line.put k (s.get k)) := by
  have hname : k.name.toList ≠ [] := by
    cases k <;> decide
  cases hoption : k.option? with
  | none =>
      obtain rfl : k = .verify := by
        cases k <;> first | rfl | cases hoption
      have hvalue : s.get .verify = true := hasked rfl
      refine ⟨{ line := line.put .verify true }, ?_, by rw [hvalue]; rfl⟩
      simp only [Settings.argument, hoption, List.cons_append, List.nil_append]
      rw [words_long r Setting.verify.name.toList (by simp) hname, long_verify hr hnew]
      rfl
  | some option =>
      cases spelling with
      | joined =>
          refine ⟨{ line := line.put k (s.get k) }, ?_, rfl⟩
          simp only [Settings.argument, hoption, List.cons_append, List.nil_append]
          rw [words_long r (k.name.toList ++ '=' :: (k.text (s.get k)).toList) (by simp)
            (by simp), long_joined hr hoption hnew]
          rfl
      | apart =>
          refine ⟨{ line, pending := some (option, some (k.text (s.get k))) }, ?_,
            CommandLine.assign_text hoption hnew _⟩
          simp only [Settings.argument, hoption, List.cons_append, List.nil_append]
          rw [words_long r k.name.toList (by simp) hname, long_apart hr hoption]
          show Reading.words _ (_ :: rest) = _
          rw [words_plain _ (k.head?_text_ne_hyphen _)]
          rfl

-- The induction is over the arguments.  What carries it is that no setting asked for later has a
-- value yet, for an option given twice is a fault.
lemma words_arguments {s : Settings} {args : List (Setting × Spelling)} (hr : r.settle = .ok line)
    (hnodup : (args.map Prod.fst).Nodup)
    (hnew : ∀ k ∈ args.map Prod.fst, line.overrides.get k = none)
    (hasked : .verify ∈ args.map Prod.fst → s.verify = true) :
    ∃ line', r.words (args.flatMap fun a => s.argument a.1 a.2) = .ok line' ∧
      line'.config = line.config ∧
      ∀ k, line'.overrides.get k =
        if k ∈ args.map Prod.fst then some (s.get k) else line.overrides.get k := by
  induction args generalizing r line with
  | nil => exact ⟨line, by simp [words, hr, Except.mapError], rfl, by simp⟩
  | cons a args ih =>
      obtain ⟨k, spelling⟩ := a
      simp only [List.map_cons, List.nodup_cons, List.mem_cons] at hnodup hnew hasked
      obtain ⟨r', hwords, hr'⟩ := words_argument hr (hnew k (.inl rfl))
        (fun hk => hasked (.inl hk.symm)) spelling (args.flatMap fun a => s.argument a.1 a.2)
      have hnew' : ∀ j ∈ args.map Prod.fst, (line.put k (s.get k)).overrides.get j = none := by
        intro j hj
        have hjk : j ≠ k := by
          rintro rfl
          exact hnodup.1 hj
        rw [CommandLine.put, Overrides.get_put_of_ne _ hjk, hnew j (.inr hj)]
      obtain ⟨line', hline', hconfig, hget⟩ :=
        ih hr' hnodup.2 hnew' (fun hmem => hasked (.inr hmem))
      refine ⟨line', ?_, hconfig, fun j => ?_⟩
      · rw [List.flatMap_cons, hwords, hline']
      · rw [hget]
        simp only [List.map_cons, List.mem_cons]
        by_cases hjk : j = k
        · subst hjk
          simp [hnodup.1, CommandLine.put]
        · simp only [hjk, false_or, CommandLine.put, Overrides.get_put_of_ne _ hjk]

end Reading

namespace CommandLine

lemma resolve_of_get_eq {line : CommandLine} (hconfig : line.config = none) {s : Settings}
    (hiterations : s.iterations ≠ 0)
    (hget : ∀ k, (line.overrides.get k).getD (({} : Settings).get k) = s.get k)
    (read : String → Except ReadFault String) : line.resolve read = .ok s := by
  have hlayered : line.layered {} = s := by
    refine Settings.ext_get fun k => ?_
    rw [layered, Settings.get_override, Settings.get_override, Overrides.get_empty]
    exact hget k
  have hfile : line.fromFile read = .ok {} := by
    rw [fromFile, hconfig]
  simp [resolve_eq, hfile, hlayered, Settings.check_of_iterations_ne_zero hiterations]

/-- **The words for some settings lead to these settings**, in any order and with each value joined
to its option or apart from it. -/
theorem ofWords_reads_back (s : Settings) (hiterations : 1 ≤ s.iterations.toNat)
    (args : List (Setting × Spelling)) (hargs : (args.map Prod.fst).Perm s.asked)
    (read : String → Except ReadFault String) :
    ∃ line, ofWords (args.flatMap fun a => s.argument a.1 a.2) = .ok line ∧
      line.resolve read = .ok s := by
  have hmem : ∀ k, k ∈ args.map Prod.fst ↔ k ≠ .verify ∨ s.verify = true := by
    intro k
    rw [hargs.mem_iff, Settings.asked]
    cases k <;> cases s.verify <;> decide
  have hnodup : (args.map Prod.fst).Nodup := by
    rw [hargs.nodup_iff, Settings.asked]
    cases s.verify <;> decide
  have hnew : ∀ k ∈ args.map Prod.fst, ({} : CommandLine).overrides.get k = none := by
    intro k _
    exact Overrides.get_empty k
  have hasked : .verify ∈ args.map Prod.fst → s.verify = true := by
    simp [hmem]
  have hempty : ({} : Reading).settle = .ok {} := rfl
  obtain ⟨line, hline, hconfig, hget⟩ := Reading.words_arguments hempty hnodup hnew hasked
  refine ⟨line, hline, resolve_of_get_eq hconfig ?_ ?_ read⟩
  · rintro hzero
    simp [hzero] at hiterations
  · intro k
    rw [hget]
    split
    · rfl
    · rename_i hk
      obtain ⟨rfl, hverify⟩ : k = .verify ∧ s.verify = false := by simpa [hmem] using hk
      exact hverify.symm

theorem ofWords_reads_back_mixed :
    let s : Settings := { iterations := 3, size := 5, strategy := .workStack, verify := true }
    1 ≤ s.iterations.toNat ∧
    ∃ line, ofWords ["--verify", "--strategy", "work-stack", "--size=5", "--format=seconds",
        "--warmup", "0", "--seed=42", "--shape", "ascending", "--iterations=3"] = .ok line ∧
      line.resolve (fun _ => .ok "") = .ok s := by
  intro s
  have h := ofWords_reads_back s (by decide)
    [(.verify, .joined), (.strategy, .apart), (.size, .joined), (.format, .joined),
      (.warmup, .apart), (.seed, .joined), (.shape, .apart), (.iterations, .joined)] (by decide)
    (fun _ => .ok "")
  have hwords : ([(.verify, .joined), (.strategy, .apart), (.size, .joined), (.format, .joined),
      (.warmup, .apart), (.seed, .joined), (.shape, .apart), (.iterations, .joined)].flatMap
        fun a => s.argument a.1 a.2) =
      ["--verify", "--strategy", "work-stack", "--size=5", "--format=seconds", "--warmup", "0",
        "--seed=42", "--shape", "ascending", "--iterations=3"] := by decide
  exact ⟨by decide, hwords ▸ h⟩

end CommandLine

end ThreeBucket
