import Mathlib.Data.List.Nodup
import ThreeBucket.Toml.Document

/-!
# Tables of a document

A table is a list of entries, and a name stands for at most one of them.  The type does not say so;
it holds because every way to add to a table looks for the name first.

* `Entries.names` — the names in use.
* `Entries.find?_eq_some_iff` — looking up a name, when no name is used twice.
* `Entries.nodup_insert?`, `Entries.nodup_enter?` — what one statement preserves.
* `nodup_names_of_document?` — **no two entries of a document have one name**.
* `Node.unplaced` — a node without the places where it and its parts were written, so that two
  documents can be compared by what they say.
-/

namespace ThreeBucket.Toml

namespace Entries

/-- The names of the entries. -/
def names (entries : Entries) : List String :=
  entries.map fun e => e.1.name

/-! ## Looking up a name -/

lemma find?_eq_none_iff {entries : Entries} {name : String} :
    entries.find? name = none ↔ name ∉ entries.names := by
  simp [find?, names]

lemma find?_eq_some_iff {entries : Entries} (hnodup : entries.names.Nodup) {name : String}
    {node : Node} :
    entries.find? name = some node ↔ ∃ e ∈ entries, e.1.name = name ∧ e.2 = node := by
  induction entries with
  | nil => simp [find?]
  | cons e rest ih =>
      simp only [names, List.map_cons, List.nodup_cons] at hnodup
      by_cases he : e.1.name = name
      · subst he
        have hrest : ∀ f ∈ rest, f.1.name ≠ e.1.name := by
          intro f hf heq
          exact hnodup.1 (heq ▸ List.mem_map_of_mem hf)
        simp only [find?, List.find?_cons, beq_self_eq_true, Option.map_some, Option.some.injEq,
          List.mem_cons, exists_eq_or_imp, true_and]
        exact ⟨Or.inl, fun h => h.elim id fun ⟨f, hf, heq, _⟩ => absurd heq (hrest f hf)⟩
      · have hfind : find? (e :: rest) name = find? rest name := by
          simp [find?, beq_false_of_ne he]
        simp [hfind, ih hnodup.2, he]

/-! ## No name is used twice -/

lemma add?_eq_some_iff {entries entries' : Entries} {key : Key} {node : Node} :
    entries.add? key node = some entries' ↔
      key.name ∉ entries.names ∧ entries' = entries ++ [(key, node)] := by
  rw [add?, ← find?_eq_none_iff]
  cases entries.find? key.name <;> simp [eq_comm]

@[simp] lemma names_append (entries entries' : Entries) :
    names (entries ++ entries') = entries.names ++ entries'.names :=
  List.map_append

@[simp] lemma names_replace (entries : Entries) (name : String) (node : Node) :
    (entries.replace name node).names = entries.names := by
  simp only [names, replace, List.map_map]
  refine List.map_congr_left ?_
  intro e _
  by_cases h : e.1.name = name <;> simp [h]

lemma nodup_add? {entries entries' : Entries} {key : Key} {node : Node}
    (h : entries.add? key node = some entries') (hnodup : entries.names.Nodup) :
    entries'.names.Nodup := by
  obtain ⟨hnew, rfl⟩ := add?_eq_some_iff.mp h
  rw [names_append]
  exact hnodup.append (List.nodup_singleton _) (List.disjoint_singleton.mpr hnew)

lemma nodup_erase {entries : Entries} (name : String) (hnodup : entries.names.Nodup) :
    (entries.erase name).names.Nodup :=
  hnodup.sublist (List.filter_sublist.map _)

-- Whatever is computed for the new node, the names are those of the table and of the new entry.
lemma nodup_bind_add? {α : Type} {x : Option α} {key : Key} {node : α → Node}
    {entries entries' : Entries}
    (h : (x.bind fun a => entries.add? key (node a)) = some entries')
    (hnodup : entries.names.Nodup) : entries'.names.Nodup := by
  obtain ⟨a, -, hadd⟩ := Option.bind_eq_some_iff.mp h
  exact nodup_add? hadd hnodup

lemma nodup_bind_replace {α : Type} {x : Option α} {name : String} {node : α → Node}
    {entries entries' : Entries}
    (h : (x.bind fun a => some (entries.replace name (node a))) = some entries')
    (hnodup : entries.names.Nodup) : entries'.names.Nodup := by
  obtain ⟨a, -, hreplace⟩ := Option.bind_eq_some_iff.mp h
  cases hreplace
  simpa using hnodup

-- Only the outermost table is looked at: what changes further inside leaves its names alone.
lemma nodup_insert? {key : Key} {value : Node} {path : List Key} {entries entries' : Entries}
    (h : entries.insert? key value path = some entries') (hnodup : entries.names.Nodup) :
    entries'.names.Nodup := by
  cases path with
  | nil => exact nodup_add? h hnodup
  | cons part path =>
      rw [insert?] at h
      split at h
      · exact nodup_bind_add? h hnodup
      · split at h
        · exact nodup_bind_replace h hnodup
        · cases h
      · split at h
        · cases h
        · exact nodup_bind_replace h hnodup
      · cases h

lemma nodup_modifyAt? {f : Entries → Option Entries}
    (hf : ∀ {e e'}, f e = some e' → e.names.Nodup → e'.names.Nodup) {path : List Key}
    {entries entries' : Entries} (h : modifyAt? f path entries = some entries')
    (hnodup : entries.names.Nodup) : entries'.names.Nodup := by
  cases path with
  | nil => exact hf h hnodup
  | cons part path =>
      rw [modifyAt?] at h
      split at h
      · exact nodup_bind_add? h hnodup
      · split at h
        · cases h
        · exact nodup_bind_replace h hnodup
      · exact nodup_bind_replace h hnodup
      · cases h

lemma nodup_addSection? {s : Section} {entries entries' : Entries}
    (h : addSection? s entries = some entries') (hnodup : entries.names.Nodup) :
    entries'.names.Nodup := by
  simp only [addSection?] at h
  split at h
  · exact nodup_bind_add? h hnodup
  · exact nodup_bind_add? h (nodup_erase _ hnodup)
  · exact nodup_bind_add? h hnodup
  · exact nodup_bind_replace h hnodup
  · cases h

lemma nodup_enter? {s : Section} {document document' : Entries}
    (h : document.enter? s = some document') (hnodup : document.names.Nodup) :
    document'.names.Nodup :=
  nodup_modifyAt? nodup_addSection? h hnodup

/-- What every step preserves, a run of steps that can fail preserves. -/
lemma nodup_foldlM {α : Type} {step : Entries → α → Option Entries}
    (hstep : ∀ {a e e'}, step e a = some e' → e.names.Nodup → e'.names.Nodup) {steps : List α}
    {entries entries' : Entries} (h : steps.foldlM step entries = some entries')
    (hnodup : entries.names.Nodup) : entries'.names.Nodup := by
  induction steps generalizing entries with
  | nil =>
      cases h
      exact hnodup
  | cons a rest ih =>
      rw [List.foldlM_cons] at h
      obtain ⟨next, hnext, hrest⟩ := Option.bind_eq_some_iff.mp h
      exact ih hrest (hstep hnext hnodup)

end Entries

/-- **No two entries of a document have one name.** -/
theorem nodup_names_of_document? {text : String} {entries : Entries}
    (h : document? text = some entries) : entries.names.Nodup := by
  obtain ⟨statements, -, h⟩ := Option.bind_eq_some_iff.mp h
  obtain ⟨top, htop, h⟩ := Option.bind_eq_some_iff.mp h
  have hnodup : top.names.Nodup := Entries.nodup_foldlM Entries.nodup_insert? htop List.nodup_nil
  exact Entries.nodup_foldlM Entries.nodup_enter? h hnodup

/-! ## Documents without places -/

mutual

/-- The node with all places left out. -/
def Node.unplaced : Node → Node
  | .scalar value _ => .scalar value ⟨0, 0⟩
  | .array items _ => .array (unplacedItems items) ⟨0, 0⟩
  | .table form _ entries => .table form none (unplacedEntries entries)
  | .tables members _ => .tables (unplacedMembers members) ⟨0, 0⟩

/-- The items with all places left out. -/
def unplacedItems : List Node → List Node
  | [] => []
  | node :: rest => node.unplaced :: unplacedItems rest

/-- The entries with all places left out. -/
def unplacedEntries : List (Key × Node) → List (Key × Node)
  | [] => []
  | (key, node) :: rest => (⟨key.name, ⟨0, 0⟩⟩, node.unplaced) :: unplacedEntries rest

/-- The tables with all places left out. -/
def unplacedMembers : List (List (Key × Node)) → List (List (Key × Node))
  | [] => []
  | member :: rest => unplacedEntries member :: unplacedMembers rest

end

/-- The table with all places left out. -/
def Entries.unplaced (entries : Entries) : Entries :=
  unplacedEntries entries

end ThreeBucket.Toml
