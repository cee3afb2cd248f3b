import ThreeBucket.Proofs.CallTree

/-!
# Sorting images

A sort looks at its elements through the comparator and in no other way.  So it makes no difference
whether the elements are replaced by their images before they are sorted or each time they are
compared: the two runs put the same questions and distribute their elements alike.

* `sortBy_map`, `sortCalls_map`, `trySortBy_map` — **a run on the images is the image of a run**,
  for any comparator with memory, with its last state, its calls and its error.
* `extracting`, `sortByKey_extracting` — a sort by a key, with every extraction written down.  The
  key is extracted for each comparison, from the item and then from the pivot.
* `sortProfiledAt_map` — a function that keeps the order keeps the profile.
* `StrictlyMonotone` — such functions, `StrictlyMonotone.of_lt` being the test for a total order.
* `sorts_commute_with_map` — all of this for the sorts of the library.
-/

namespace ThreeBucket

universe u v w

variable {σ : Type u} {α : Type v} {β : Type w}

/-! ## Runs on images -/

section Runs

variable (f : α → β)

theorem sortBy_map (c : Comparator σ β) (s : σ) (xs : List α) :
    sortBy c s (xs.map f) =
      ((sortBy (c.comap f) s xs).1, (sortBy (c.comap f) s xs).2.map f) := by
  have hsim : (c.comap f).Simulates id f c := fun _ _ _ => rfl
  exact hsim.sortBy_eq s xs

theorem sortCalls_map (c : Comparator σ β) (s : σ) (xs : List α) :
    sortCalls c s (xs.map f) = (sortCalls (c.comap f) s xs).map (Call.map f id) := by
  rw [sortCalls, sortBy_comap_recorded, sortCalls]
  simp [Recorded.map]

theorem trySortBy_map (c : PartialComparator σ β) (s : σ) (xs : List α) :
    trySortBy c s (xs.map f) =
      ((trySortBy (c.comap f) s xs).1, (trySortBy (c.comap f) s xs).2.map (List.map f)) := by
  have hsim : (c.comap f).Simulates id f c := fun _ _ _ => rfl
  exact hsim.trySortAt_eq 0 s xs

end Runs

/-! ## Keys -/

/-- Gives the key of an element, and writes down whose key was asked for. -/
def extracting (key : α → β) : Array α → α → Array α × β :=
  fun asked a => (asked.push a, key a)

/-- The two elements of a call, in the order in which their keys are needed. -/
def Call.sides {γ : Type u} (call : Call α γ) : List α :=
  [call.item, call.pivot]

lemma length_flatMap_sides {γ : Type u} (calls : List (Call α γ)) :
    (calls.flatMap Call.sides).length = 2 * calls.length := by
  induction calls with
  | nil => rfl
  | cons call calls ih =>
      rw [List.flatMap_cons, List.length_append, ih, List.length_cons, Call.sides]
      simp only [List.length_cons, List.length_nil]
      omega

lemma map_flatMap_sides {γ : Type u} (f : α → β) (calls : List (Call α γ)) :
    (calls.flatMap Call.sides).map f = (calls.map (Call.map f id)).flatMap Call.sides := by
  induction calls with
  | nil => rfl
  | cons call calls ih =>
      rw [List.flatMap_cons, List.map_append, ih, List.map_cons, List.flatMap_cons]
      rfl

/-- **A sort by a key extracts it twice for each comparison**, first from the item. -/
theorem sortByKey_extracting [Ord β] (key : α → β) (xs : List α) :
    sortByKey (extracting key) #[] xs =
      (((sortCalls (Comparator.natural.comap key) () xs).flatMap Call.sides).toArray,
        (sortBy (Comparator.natural.comap key) () xs).2) := by
  -- The extractions can be read off the calls, at every moment of the run.
  have hsim : (Comparator.natural.comap key).recorded.Simulates
      (fun r => (r.calls.toList.flatMap Call.sides).toArray) id
      (Comparator.byKey (extracting key)) := by
    intro r item pivot
    simp [Comparator.recorded, Comparator.byKey, Comparator.comap, Comparator.natural,
      Comparator.ofFun, extracting, Call.sides]
  have hrun := hsim.sortBy_eq { state := () } xs
  rw [List.map_id, List.map_id] at hrun
  rw [sortByKey, sortCalls, sortBy_recorded (Comparator.natural.comap key) { state := () } xs]
  exact hrun

theorem map_sortByKey [Ord β] (key : α → β) (s : σ) (xs : List α) :
    (sortByKey (fun s a => (s, key a)) s xs).2.map key = sort (xs.map key) := by
  have hsim : (Comparator.byKey fun (s : σ) a => (s, key a)).Simulates (fun _ => ()) key
      Comparator.natural := fun _ _ _ => rfl
  rw [sort, hsim.sortBy_eq s xs, sortByKey]

/-! ## Functions that keep the order -/

section Profiles

variable [Ord α] [Ord β] {f : α → β}

lemma sortProfiledAt_map (h : ∀ a b, compare (f a) (f b) = compare a b) (depth : Nat) (p : Profile)
    (xs : List α) :
    sortProfiledAt depth p (xs.map f) =
      ((sortProfiledAt depth p xs).1, (sortProfiledAt depth p xs).2.map f) := by
  have hsim : (Comparator.natural (α := α)).Simulates id f Comparator.natural := by
    intro s item pivot
    simp [Comparator.natural, Comparator.ofFun, h]
  fun_induction sortProfiledAt depth p xs with
  | case1 depth p => rw [List.map_nil, sortProfiledAt]
  | case2 depth p item => rw [List.map_cons, List.map_nil, sortProfiledAt]
  | case3 depth p pivot item rest b l g ihl _ ihg =>
      have hb : (Buckets.partition Comparator.natural () (f pivot) ((item :: rest).map f)).2 =
          b.map f := congrArg Prod.snd (hsim.partition_eq () pivot (item :: rest))
      have hl : sortProfiledAt (depth + 1) ((p.visit depth).partition (rest.length + 2))
          (b.less.toList.map f) = (l.1, l.2.map f) := ihl
      have hg : sortProfiledAt (depth + 1) l.1 (b.greater.toList.map f) = (g.1, g.2.map f) := ihg
      rw [List.map_cons] at hb
      rw [List.map_cons, List.map_cons, sortProfiledAt, hb]
      simp only [Buckets.map, Array.toList_map, List.length_map, hl, hg, List.map_append,
        List.map_cons]

/-- The image grows with the element, and elements that tie have images that tie. -/
structure StrictlyMonotone (f : α → β) : Prop where
  lt : ∀ a b, compare a b = .lt → compare (f a) (f b) = .lt
  eq : ∀ a b, compare a b = .eq → compare (f a) (f b) = .eq

lemma StrictlyMonotone.compare_eq [Std.OrientedOrd α] [Std.OrientedOrd β] (h : StrictlyMonotone f)
    (a b : α) : compare (f a) (f b) = compare a b := by
  cases hab : compare a b with
  | lt => exact h.lt a b hab
  | eq => exact h.eq a b hab
  | gt =>
      have hba : compare b a = .lt := Std.OrientedCmp.gt_iff_lt.mp hab
      exact Std.OrientedCmp.gt_iff_lt.mpr (h.lt b a hba)

/-- In a total order only identical elements tie. -/
lemma StrictlyMonotone.of_lt [Std.LawfulEqOrd α] [Std.OrientedOrd β]
    (h : ∀ a b, compare a b = .lt → compare (f a) (f b) = .lt) : StrictlyMonotone f where
  lt := h
  eq a b hab := by
    obtain rfl : a = b := Std.LawfulEqCmp.eq_of_compare hab
    exact Std.ReflCmp.compare_self

end Profiles

/-! ## The sorts of the library -/

/-- **Sorting commutes with mapping.**  To sort with a comparator that looks at images and then take
the images is to sort the images: by recursion, on a work stack, or with a comparator that may not
answer.  State, calls and error are the same.  So the keys of a list sorted by a key are the sorted
keys, and the key is extracted twice for each comparison of the sort of the keys, from the item and
then from the pivot.  And a strictly monotone function changes no counter of the profile. -/
theorem sorts_commute_with_map (f : α → β) (xs : List α) :
    (∀ (c : Comparator σ β) (s : σ),
      sortBy c s (xs.map f) =
        ((sortBy (c.comap f) s xs).1, (sortBy (c.comap f) s xs).2.map f) ∧
      sortByStack c s (xs.map f) =
        ((sortByStack (c.comap f) s xs).1, (sortByStack (c.comap f) s xs).2.map f) ∧
      (sortBy c.recorded { state := s } (xs.map f)).1.calls.size =
        (sortBy (c.comap f).recorded { state := s } xs).1.calls.size ∧
      (sortByStack c.recorded { state := s } (xs.map f)).1.calls.size =
        (sortByStack (c.comap f).recorded { state := s } xs).1.calls.size) ∧
    (∀ (c : PartialComparator σ β) (s : σ),
      trySortBy c s (xs.map f) =
        ((trySortBy (c.comap f) s xs).1, (trySortBy (c.comap f) s xs).2.map (List.map f)) ∧
      (trySortBy c.recorded { state := s } (xs.map f)).1.calls.size =
        (trySortBy (c.comap f).recorded { state := s } xs).1.calls.size) ∧
    (∀ [Ord β],
      let run := sortByKey (extracting f) #[] xs
      (∀ s : σ, (sortByKey (fun s a => (s, f a)) s xs).2.map f = sort (xs.map f)) ∧
      run.2.map f = sort (xs.map f) ∧
      run.1.size = 2 * (sortProfiled (xs.map f)).1.comparisons ∧
      run.1.toList =
        (sortBy (Comparator.natural.comap f).recorded { state := () } xs).1.calls.toList.flatMap
          (fun call => [call.item, call.pivot]) ∧
      run.1.toList.map f =
        (sortBy Comparator.natural.recorded { state := () } (xs.map f)).1.calls.toList.flatMap
          (fun call => [call.item, call.pivot])) ∧
    (∀ [Ord α] [Ord β] [Std.OrientedOrd α] [Std.OrientedOrd β], StrictlyMonotone f →
      (sortProfiled (xs.map f)).1 = (sortProfiled xs).1) ∧
    ∀ [Ord α] [Ord β] [Std.LawfulEqOrd α] [Std.OrientedOrd β],
      (∀ a b, compare a b = .lt → compare (f a) (f b) = .lt) → StrictlyMonotone f := by
  refine ⟨fun c s => ⟨sortBy_map f c s xs, ?_, ?_, ?_⟩,
    fun c s => ⟨trySortBy_map f c s xs, ?_⟩, fun {_} => ?_, fun {_ _ _ _} hf => ?_,
    fun {_ _ _ _} => StrictlyMonotone.of_lt⟩
  · rw [sortByStack_eq_sortBy, sortByStack_eq_sortBy, sortBy_map]
  · rw [sortBy_comap_recorded, Recorded.map, Array.size_map]
  · rw [sortByStack_eq_sortBy, sortByStack_eq_sortBy, sortBy_comap_recorded, Recorded.map,
      Array.size_map]
  · rw [trySortBy, trySortAt_comap_recorded, Recorded.map, Array.size_map, trySortBy]
  · intro run
    have hrun : run = _ := sortByKey_extracting f xs
    have hcalls : sortCalls .natural () (xs.map f) = _ := sortCalls_map f .natural () xs
    refine ⟨fun s => map_sortByKey f s xs, ?_, ?_, ?_, ?_⟩
    · rw [hrun, sort, sortBy_map]
    · rw [hrun, sortProfiled_eq, hcalls, List.length_map]
      exact length_flatMap_sides _
    · rw [hrun]
      rfl
    · rw [hrun, map_flatMap_sides, ← hcalls]
      rfl
  · rw [sortProfiled, sortProfiledAt_map hf.compare_eq, sortProfiled]

/-- Doubling keeps the order, so nothing is counted differently.  Three comparisons ask for six
keys, each time for that of the item and then for that of the pivot. -/
theorem sorts_commute_with_map_doubled :
    StrictlyMonotone (fun n : Nat => 2 * n) ∧
    (sortProfiled [6, 2, 4]).1 = (sortProfiled [3, 1, 2]).1 ∧
    (sortByKey (extracting fun n : Nat => 2 * n) #[] [3, 1, 2]).1 = #[1, 3, 2, 3, 2, 1] ∧
    (sortByKey (extracting fun n : Nat => 2 * n) #[] [3, 1, 2]).1.size =
      2 * (sortProfiled [6, 2, 4]).1.comparisons := by
  have hmain := sorts_commute_with_map (σ := Unit) (fun n : Nat => 2 * n) [3, 1, 2]
  have hmono : StrictlyMonotone (fun n : Nat => 2 * n) := by
    refine hmain.2.2.2.2 fun a b hab => ?_
    have hlt : a < b := Nat.compare_eq_lt.mp hab
    exact Nat.compare_eq_lt.mpr (by omega)
  exact ⟨hmono, hmain.2.2.2.1 hmono, by decide +kernel, hmain.2.2.1.2.2.1⟩

end ThreeBucket
