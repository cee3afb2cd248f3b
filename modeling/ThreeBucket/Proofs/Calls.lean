import ThreeBucket.Proofs.Simulation

/-!
# The calls of a run

A run is observed by sorting with a comparator that writes its calls down.  What such a run writes
does not depend on what was written before, so the calls of a sort can be put together from the
calls of its parts:

    calls of the partition ++ calls for the lesser items ++ calls for the greater items

* `partitionCalls`, `sortCalls` — the calls of a partition and of a sort, first to last.
* `sortBy_recorded_eq` — **a recorded sort appends its calls to the record** and is otherwise the
  plain sort.
* `sortCalls_cons` — the calls of a sort, one partition at a time.
* `tryPartitionCalls`, `trySortAtCalls`, `trySortAtCalls_cons` — the same for the fallible sort,
  which stops asking at the first missing answer.
* `sortBy_comap_recorded`, `trySortAt_comap_recorded` — asking about images is a run on the images,
  call for call.  With `Prod.fst` for the map, elements can carry their places in the list, so that
  **two equal elements are still two**, and the run stays the same.
-/

namespace ThreeBucket

universe u v w x y

variable {σ : Type u} {α : Type v} {β : Type w}

/-! ## Records -/

/-- The call about the images under `f`, with the image of the answer under `g`. -/
def Call.map {α' : Type x} {β' : Type y} (f : α → α') (g : β → β') (call : Call α β) :
    Call α' β' where
  item := f call.item
  pivot := f call.pivot
  answer := g call.answer

namespace Recorded

/-- The record with every call replaced by its image. -/
def map {α' : Type x} {β' : Type y} (f : α → α') (g : β → β') (r : Recorded σ α β) :
    Recorded σ α' β' where
  state := r.state
  calls := r.calls.map (Call.map f g)

/-- The record with earlier calls in front of its own. -/
def after (earlier : Array (Call α β)) (r : Recorded σ α β) : Recorded σ α β :=
  { r with calls := earlier ++ r.calls }

lemma after_calls (r : Recorded σ α β) :
    ({ state := r.state } : Recorded σ α β).after r.calls = r := by
  simp [after]

lemma after_eq (earlier : Array (Call α β)) (r : Recorded σ α β) :
    r.after earlier = { state := r.state, calls := earlier ++ r.calls.toList } := by
  rw [after, Recorded.mk.injEq]
  exact ⟨rfl, Array.ext' (by simp)⟩

end Recorded

/-! ## Runs that always get an answer -/

/-- The calls of a partition: every item is put to the pivot, in list order. -/
def partitionCalls (c : Comparator σ α) (pivot : α) : σ → List α → List (Call α Ordering)
  | _, [] => []
  | s, item :: rest =>
    ⟨item, pivot, (c s item pivot).2⟩ :: partitionCalls c pivot (c s item pivot).1 rest

/-- The calls of a sort. -/
def sortCalls (c : Comparator σ α) (s : σ) (items : List α) : List (Call α Ordering) :=
  (sortBy c.recorded { state := s } items).1.calls.toList

lemma partitionOnto_recorded (c : Comparator σ α) (pivot : α) (r : Recorded σ α Ordering)
    (b : Buckets α) (items : List α) :
    Buckets.partitionOnto c.recorded pivot r b items =
      ({ state := (Buckets.partitionOnto c pivot r.state b items).1
         calls := r.calls ++ partitionCalls c pivot r.state items },
        (Buckets.partitionOnto c pivot r.state b items).2) := by
  induction items generalizing r b with
  | nil => simp [Buckets.partitionOnto, partitionCalls]
  | cons item rest ih =>
      rw [Buckets.partitionOnto, ih]
      simp [Comparator.recorded, Buckets.partitionOnto, partitionCalls]

lemma Comparator.recorded_simulates_after (c : Comparator σ α)
    (earlier : Array (Call α Ordering)) :
    c.recorded.Simulates (Recorded.after earlier) id c.recorded := by
  intro r item pivot
  simp [Comparator.recorded, Recorded.after]

/-- **A recorded sort is the plain sort, and appends its calls.** -/
theorem sortBy_recorded_eq (c : Comparator σ α) (r : Recorded σ α Ordering) (items : List α) :
    sortBy c.recorded r items =
      ({ state := (sortBy c r.state items).1, calls := r.calls ++ sortCalls c r.state items },
        (sortBy c r.state items).2) := by
  have hafter := (c.recorded_simulates_after r.calls).sortBy_eq { state := r.state } items
  rw [Recorded.after_calls, List.map_id, List.map_id] at hafter
  rw [hafter, sortBy_recorded c { state := r.state } items, Recorded.after_eq, sortCalls]

@[simp] lemma sortCalls_nil (c : Comparator σ α) (s : σ) : sortCalls c s [] = [] := by
  simp [sortCalls]

/-- **The calls of a sort, one partition at a time.** -/
theorem sortCalls_cons (c : Comparator σ α) (s : σ) (pivot : α) (rest : List α) :
    sortCalls c s (pivot :: rest) =
      let r := Buckets.partition c s pivot rest
      let l := sortBy c r.1 r.2.less.toList
      partitionCalls c pivot s rest ++
        (sortCalls c r.1 r.2.less.toList ++ sortCalls c l.1 r.2.greater.toList) := by
  rw [sortCalls, sortBy_cons, Buckets.partition, partitionOnto_recorded]
  simp [sortBy_recorded_eq, Buckets.partition]

/-! ## Runs that may miss an answer -/

/-- The calls of a fallible partition: the items are put to the pivot up to the first that gets no
answer. -/
def tryPartitionCalls (c : PartialComparator σ α) (pivot : α) :
    σ → List α → List (Call α (Option Ordering))
  | _, [] => []
  | s, item :: rest =>
    match c s item pivot with
    | (_, none) => [⟨item, pivot, none⟩]
    | (s, some o) => ⟨item, pivot, some o⟩ :: tryPartitionCalls c pivot s rest

/-- The calls of a fallible sort that starts `depth` partitions below the top. -/
def trySortAtCalls (c : PartialComparator σ α) (depth : Nat) (s : σ) (items : List α) :
    List (Call α (Option Ordering)) :=
  (trySortAt c.recorded depth { state := s } items).1.calls.toList

/-- The calls of a fallible sort. -/
def trySortCalls (c : PartialComparator σ α) (s : σ) (items : List α) :
    List (Call α (Option Ordering)) :=
  (trySortBy c.recorded { state := s } items).1.calls.toList

lemma tryPartitionOnto_recorded (c : PartialComparator σ α) (pivot : α) (depth position : Nat)
    (r : Recorded σ α (Option Ordering)) (b : Buckets α) (items : List α) :
    Buckets.tryPartitionOnto c.recorded pivot depth position r b items =
      ({ state := (Buckets.tryPartitionOnto c pivot depth position r.state b items).1
         calls := r.calls ++ tryPartitionCalls c pivot r.state items },
        (Buckets.tryPartitionOnto c pivot depth position r.state b items).2) := by
  induction items generalizing position r b with
  | nil => simp [Buckets.tryPartitionOnto, tryPartitionCalls]
  | cons item rest ih =>
      simp only [Buckets.tryPartitionOnto, PartialComparator.recorded, tryPartitionCalls]
      rcases c r.state item pivot with ⟨s, _ | o⟩
      · simp
      · simp [ih]

lemma PartialComparator.recorded_simulates_after (c : PartialComparator σ α)
    (earlier : Array (Call α (Option Ordering))) :
    c.recorded.Simulates (Recorded.after earlier) id c.recorded := by
  intro r item pivot
  simp [PartialComparator.recorded, Recorded.after]

/-- **A recorded fallible sort is the plain one, and appends its calls**, also when it fails. -/
theorem trySortAt_recorded_eq (c : PartialComparator σ α) (depth : Nat)
    (r : Recorded σ α (Option Ordering)) (items : List α) :
    trySortAt c.recorded depth r items =
      ({ state := (trySortAt c depth r.state items).1
         calls := r.calls ++ trySortAtCalls c depth r.state items },
        (trySortAt c depth r.state items).2) := by
  have hafter := (c.recorded_simulates_after r.calls).trySortAt_eq depth { state := r.state } items
  rw [Recorded.after_calls, List.map_id, List.map_id_fun, Except.map_id] at hafter
  rw [hafter, trySortAt_recorded c depth { state := r.state } items, Recorded.after_eq,
    trySortAtCalls, id]

@[simp] lemma trySortAtCalls_nil (c : PartialComparator σ α) (depth : Nat) (s : σ) :
    trySortAtCalls c depth s [] = [] := by
  simp [trySortAtCalls]

/-- **The calls of a fallible sort, one partition at a time.**  Nothing is asked after a
failure. -/
theorem trySortAtCalls_cons (c : PartialComparator σ α) (depth : Nat) (s : σ) (pivot : α)
    (rest : List α) :
    trySortAtCalls c depth s (pivot :: rest) =
      tryPartitionCalls c pivot s rest ++
      match Buckets.tryPartition c depth s pivot rest with
      | (_, .error _) => []
      | (s, .ok b) =>
        trySortAtCalls c (depth + 1) s b.less.toList ++
        match trySortAt c (depth + 1) s b.less.toList with
        | (_, .error _) => []
        | (s, .ok _) => trySortAtCalls c (depth + 1) s b.greater.toList := by
  rw [trySortAtCalls, trySortAt_cons, Buckets.tryPartition, tryPartitionOnto_recorded,
    Buckets.tryPartition]
  rcases Buckets.tryPartitionOnto c pivot depth 1 s {} rest with ⟨s₁, e | b⟩
  · simp
  · simp only [trySortAt_recorded_eq]
    rcases trySortAt c (depth + 1) s₁ b.less.toList with ⟨s₂, e | less⟩
    · simp
    · rcases hg : trySortAt c (depth + 1) s₂ b.greater.toList with ⟨s₃, e | greater⟩ <;> simp [hg]

/-! ## Runs on images -/

section Images

variable {α' : Type x} (f : α → α')

/-- **A sort that asks about images is the sort of the images**, with the same calls. -/
theorem sortBy_comap_recorded (c : Comparator σ α') (s : σ) (items : List α) :
    sortBy c.recorded { state := s } (items.map f) =
      ((sortBy (c.comap f).recorded { state := s } items).1.map f id,
        (sortBy (c.comap f).recorded { state := s } items).2.map f) := by
  have hsim : (c.comap f).recorded.Simulates (Recorded.map f id) f c.recorded := by
    intro r item pivot
    simp [Comparator.recorded, Comparator.comap, Recorded.map, Call.map]
  have hempty : ({ state := s } : Recorded σ α Ordering).map f id = { state := s } := by
    simp [Recorded.map]
  rw [← hsim.sortBy_eq { state := s } items, hempty]

theorem trySortAt_comap_recorded (c : PartialComparator σ α') (depth : Nat) (s : σ)
    (items : List α) :
    trySortAt c.recorded depth { state := s } (items.map f) =
      ((trySortAt (c.comap f).recorded depth { state := s } items).1.map f id,
        (trySortAt (c.comap f).recorded depth { state := s } items).2.map (List.map f)) := by
  have hsim : (c.comap f).recorded.Simulates (Recorded.map f id) f c.recorded := by
    intro r item pivot
    simp [PartialComparator.recorded, PartialComparator.comap, Recorded.map, Call.map]
  have hempty : ({ state := s } : Recorded σ α (Option Ordering)).map f id = { state := s } := by
    simp [Recorded.map]
  rw [← hsim.trySortAt_eq depth { state := s } items, hempty]

end Images

end ThreeBucket
