import ThreeBucket.CommandLine.Resolve
import ThreeBucket.Proofs.Table

/-!
# Settings by key

Eight settings of six types are read, layered and written, and every law about them says the same
of each.  Here a setting is looked up by its key, so that such a law is stated once.

* `Setting.Value` — the type of a setting's values; `Settings.get` and `Overrides.get` look one up,
  and `Overrides.put` gives one more.
* `Settings.ext_get`, `Overrides.ext_get` — **settings are equal if they are equal at every key**.
* `Settings.get_override` — what a layer does to a setting.
* `Setting.read` — the value that an entry of a document has for a setting.
* `Overrides.ofEntries_eq_ok_iff` — **what a table of entries holds**: each entry must fit, and then
  a setting has the value under its key, wherever that stands.
-/

namespace ThreeBucket

/-! ## Results that can be faults -/

section
variable {ε ε' α β : Type} {x : Except ε α}

lemma map_eq_ok_iff {f : α → β} {b : β} : x.map f = .ok b ↔ ∃ a, x = .ok a ∧ f a = b := by
  cases x <;> simp [Except.map]

lemma mapError_eq_ok_iff {f : ε → ε'} {a : α} : x.mapError f = .ok a ↔ x = .ok a := by
  cases x <;> simp [Except.mapError]

lemma bind_eq_ok_iff {f : α → Except ε β} {b : β} :
    x >>= f = .ok b ↔ ∃ a, x = .ok a ∧ f a = .ok b := by
  cases x <;> simp [bind, Except.bind]

end

/-! ## Values by key -/

namespace Setting

/-- The type of a setting's values. -/
abbrev Value : Setting → Type
  | .iterations | .seed | .warmup => UInt32
  | .size => UInt64
  | .shape => Shape
  | .strategy => Strategy
  | .verify => Bool
  | .format => Report.Format

lemma ofName?_eq_some_iff {key : String} {k : Setting} : ofName? key = some k ↔ k.name = key := by
  constructor
  · intro h
    simpa using List.find?_some h
  · rintro rfl
    cases k <;> decide

lemma name_injective {j k : Setting} (h : j.name = k.name) : j = k := by
  have hj := ofName?_eq_some_iff.mpr h
  rw [ofName?_eq_some_iff.mpr rfl] at hj
  exact (Option.some.inj hj).symm

end Setting

namespace Settings

/-- The value of a setting. -/
def get (s : Settings) : (k : Setting) → k.Value
  | .iterations => s.iterations
  | .size => s.size
  | .shape => s.shape
  | .seed => s.seed
  | .strategy => s.strategy
  | .warmup => s.warmup
  | .verify => s.verify
  | .format => s.format

lemma ext_get {s t : Settings} (h : ∀ k, s.get k = t.get k) : s = t := by
  cases s
  cases t
  simp only [mk.injEq]
  exact ⟨h .iterations, h .size, h .shape, h .seed, h .strategy, h .warmup, h .verify, h .format⟩

end Settings

namespace Overrides

/-- The value given for a setting, if one is. -/
def get (o : Overrides) : (k : Setting) → Option k.Value
  | .iterations => o.iterations
  | .size => o.size
  | .shape => o.shape
  | .seed => o.seed
  | .strategy => o.strategy
  | .warmup => o.warmup
  | .verify => o.verify
  | .format => o.format

/-- The overrides with the value of one more setting. -/
def put (o : Overrides) : (k : Setting) → k.Value → Overrides
  | .iterations, v => { o with iterations := some v }
  | .size, v => { o with size := some v }
  | .shape, v => { o with shape := some v }
  | .seed, v => { o with seed := some v }
  | .strategy, v => { o with strategy := some v }
  | .warmup, v => { o with warmup := some v }
  | .verify, v => { o with verify := some v }
  | .format, v => { o with format := some v }

@[simp] lemma get_empty (k : Setting) : ({} : Overrides).get k = none := by
  cases k <;> rfl

@[simp] lemma get_put_self (o : Overrides) (k : Setting) (v : k.Value) :
    (o.put k v).get k = some v := by
  cases k <;> rfl

lemma get_put_of_ne (o : Overrides) {j k : Setting} (h : j ≠ k) (v : k.Value) :
    (o.put k v).get j = o.get j := by
  cases k <;> cases j <;> first | rfl | exact absurd rfl h

lemma ext_get {o p : Overrides} (h : ∀ k, o.get k = p.get k) : o = p := by
  cases o
  cases p
  simp only [mk.injEq]
  exact ⟨h .iterations, h .size, h .shape, h .seed, h .strategy, h .warmup, h .verify, h .format⟩

end Overrides

lemma Settings.get_override (s : Settings) (o : Overrides) (k : Setting) :
    (s.override o).get k = (o.get k).getD (s.get k) := by
  cases k <;> rfl

/-- The text of a value: a number in decimal, a truth value, or a name. -/
def Setting.text : (k : Setting) → k.Value → String
  | .iterations, v | .seed, v | .warmup, v => toString v.toNat
  | .size, v => toString v.toNat
  | .shape, v => v.name
  | .strategy, v => v.name
  | .verify, v => toString v
  | .format, v => v.name

/-! ## Values in a document -/

open Toml

namespace Setting

/-- The value that a node has for a setting. -/
def read : (k : Setting) → Node → Except LocatedMisfit k.Value
  | .iterations | .seed | .warmup => word32
  | .size => word64
  | .shape | .strategy | .format => choice
  | .verify => boolean

/-- Whether an entry of a document is a setting with a value of its type. -/
def Fits (entry : Key × Node) : Prop :=
  ∃ (k : Setting) (v : k.Value), entry.1.name = k.name ∧ k.read entry.2 = .ok v

end Setting

namespace Overrides

lemma set_eq (o : Overrides) (node : Node) (k : Setting) :
    o.set node k = (k.read node).map (o.put k) := by
  cases k <;> rfl

/-- One entry gives the value of the setting that it names. -/
lemma add_eq_ok_iff {o o' : Overrides} {entry : Key × Node} :
    o.add entry = .ok o' ↔
      ∃ (k : Setting) (v : k.Value),
        entry.1.name = k.name ∧ k.read entry.2 = .ok v ∧ o' = o.put k v := by
  rw [add]
  cases hname : Setting.ofName? entry.1.name with
  | none =>
      simp only [reduceCtorEq, false_iff]
      rintro ⟨k, -, hk, -⟩
      simp [Setting.ofName?_eq_some_iff.mpr hk.symm] at hname
  | some k =>
      have hk : k.name = entry.1.name := Setting.ofName?_eq_some_iff.mp hname
      simp only [mapError_eq_ok_iff, set_eq, map_eq_ok_iff]
      constructor
      · rintro ⟨v, hread, rfl⟩
        exact ⟨k, v, hk.symm, hread, rfl⟩
      · rintro ⟨j, v, hj, hread, rfl⟩
        obtain rfl := Setting.name_injective (hk.trans hj)
        exact ⟨v, hread, rfl⟩

lemma foldlM_add_cons_eq_ok_iff {o o' : Overrides} {entry : Key × Node} {rest : Entries} :
    (entry :: rest).foldlM add o = .ok o' ↔
      ∃ (k : Setting) (v : k.Value), entry.1.name = k.name ∧ k.read entry.2 = .ok v ∧
        rest.foldlM add (o.put k v) = .ok o' := by
  rw [List.foldlM_cons, bind_eq_ok_iff]
  simp only [add_eq_ok_iff]
  constructor
  · rintro ⟨_, ⟨k, v, hname, hread, rfl⟩, h⟩
    exact ⟨k, v, hname, hread, h⟩
  · rintro ⟨k, v, hname, hread, h⟩
    exact ⟨_, ⟨k, v, hname, hread, rfl⟩, h⟩

/-- A table is read to its end exactly if every entry fits. -/
lemma exists_foldlM_add_iff {o : Overrides} {entries : Entries} :
    (∃ o', entries.foldlM add o = .ok o') ↔ ∀ e ∈ entries, Setting.Fits e := by
  induction entries generalizing o with
  | nil => exact iff_of_true ⟨o, rfl⟩ (by simp)
  | cons entry rest ih =>
      simp only [foldlM_add_cons_eq_ok_iff, List.forall_mem_cons]
      constructor
      · rintro ⟨o', k, v, hname, hread, hrest⟩
        exact ⟨⟨k, v, hname, hread⟩, ih.mp ⟨o', hrest⟩⟩
      · rintro ⟨⟨k, v, hname, hread⟩, hrest⟩
        obtain ⟨o', ho'⟩ := ih.mpr hrest
        exact ⟨o', k, v, hname, hread, ho'⟩

-- The induction is over what is left of the table.  An entry that is read changes its own setting
-- only, and no later entry has its name.
lemma get_foldlM_add {o o' : Overrides} {entries : Entries} (hnodup : entries.names.Nodup)
    (h : entries.foldlM add o = .ok o') (k : Setting) :
    (k.name ∉ entries.names ∧ o'.get k = o.get k) ∨
      ∃ e ∈ entries, ∃ v, e.1.name = k.name ∧ k.read e.2 = .ok v ∧ o'.get k = some v := by
  induction entries generalizing o with
  | nil =>
      cases h
      exact .inl ⟨by simp [Entries.names], rfl⟩
  | cons entry rest ih =>
      obtain ⟨j, w, hname, hread, hrest⟩ := foldlM_add_cons_eq_ok_iff.mp h
      simp only [Entries.names, List.map_cons, List.nodup_cons] at hnodup
      obtain ⟨hnotMem, hget⟩ | ⟨e, he, v, hkey, hval, hget⟩ := ih hnodup.2 hrest
      · by_cases hjk : k = j
        · subst hjk
          exact .inr ⟨entry, List.mem_cons_self, w, hname, hread, by rw [hget, get_put_self]⟩
        · refine .inl ⟨?_, by rw [hget, get_put_of_ne _ hjk]⟩
          have hne : k.name ≠ entry.1.name := by
            intro heq
            exact hjk (Setting.name_injective (heq.trans hname))
          simpa [Entries.names, hne] using hnotMem
      · exact .inr ⟨e, List.mem_cons_of_mem _ he, v, hkey, hval, hget⟩

lemma get_ofEntries_eq_some_iff {entries : Entries} (hnodup : entries.names.Nodup) {o : Overrides}
    (h : ofEntries entries = .ok o) (k : Setting) (v : k.Value) :
    o.get k = some v ↔ ∃ e ∈ entries, e.1.name = k.name ∧ k.read e.2 = .ok v := by
  obtain ⟨hnotMem, hget⟩ | ⟨e, he, w, hname, hread, hget⟩ := get_foldlM_add hnodup h k
  · rw [hget, get_empty]
    refine iff_of_false (by simp) ?_
    rintro ⟨e, he, hname, -⟩
    exact hnotMem (hname ▸ List.mem_map_of_mem he)
  · rw [hget, Option.some.injEq]
    constructor
    · rintro rfl
      exact ⟨e, he, hname, hread⟩
    · rintro ⟨f, hf, hname', hread'⟩
      have hfind := (Entries.find?_eq_some_iff hnodup).mpr ⟨e, he, hname, rfl⟩
      rw [(Entries.find?_eq_some_iff hnodup).mpr ⟨f, hf, hname', rfl⟩] at hfind
      rw [← Option.some.inj hfind, hread'] at hread
      exact (Except.ok.inj hread).symm

/-- The first entry that is no setting is reported, if those before it fit. -/
lemma ofEntries_unknown {before after : Entries} (hbefore : ∀ e ∈ before, Setting.Fits e)
    {key : Key} (hkey : ∀ k : Setting, k.name ≠ key.name) (node : Node) :
    ofEntries (before ++ (key, node) :: after) =
      .error ⟨.unknownSetting key.name, key.span⟩ := by
  obtain ⟨o, ho⟩ := exists_foldlM_add_iff (o := {}).mpr hbefore
  have hname : Setting.ofName? key.name = none :=
    Option.eq_none_iff_forall_ne_some.mpr fun k hk => hkey k (Setting.ofName?_eq_some_iff.mp hk)
  rw [ofEntries, List.foldlM_append, ho]
  simp [add, hname, bind, Except.bind]

end Overrides

end ThreeBucket
