import Mathlib.Control.Monad.Basic
import ThreeBucket.Proofs.Completion
import ThreeBucket.Proofs.PartitionRecord

/-!
# Cut at the first missing answer

A fallible run and the run of a completion ask the same questions as long as all of them are
answered.  The first missing answer ends the one, while the other goes on.  So the fallible run is
the completed one, **whole after a success and cut after a failure**.

* `CutOf` — one record is the other up to a call that it leaves without an answer.
* `PartialComparator.CompletedBy.exists_cut_of_tryPartitionOnto` — a failing partition is a cut
  one, and the place of the error counts the calls that were answered.
* `PartialComparator.CompletedBy.trySortAtCalls_eq`, `PartialComparator.CompletedBy.cutOf_of_error`
  — the same for whole sorts.
* `trySortBy_cuts_sortBy` — the fallible sort against every completion.
-/

namespace ThreeBucket

universe u v

variable {σ : Type u} {α : Type v}

/-! ## Records with missing answers -/

/-- The call, its answer given by a comparator that might have had none. -/
def Call.answered (call : Call α Ordering) : Call α (Option Ordering) :=
  call.map id some

/-- The call without its answer. -/
def Call.unanswered (call : Call α Ordering) : Call α (Option Ordering) :=
  call.map id fun _ => none

lemma itemsAnswered_map_answered (o : Ordering) (calls : List (Call α Ordering)) :
    itemsAnswered (some o) (calls.map Call.answered) = itemsAnswered o calls := by
  induction calls with
  | nil => rfl
  | cons call calls ih =>
      rw [List.map_cons, itemsAnswered_cons, itemsAnswered_cons, ih]
      simp [Call.answered, Call.map]

lemma answer_ne_none {calls : List (Call α Ordering)} {call : Call α (Option Ordering)}
    (h : call ∈ calls.map Call.answered) : call.answer ≠ none := by
  obtain ⟨call, -, rfl⟩ := List.mem_map.mp h
  exact Option.some_ne_none _

/-- `calls` is `full` up to a call that it leaves without an answer. -/
def CutOf (full : List (Call α Ordering)) (calls : List (Call α (Option Ordering))) : Prop :=
  ∃ before last after, full = before ++ last :: after ∧
    calls = before.map Call.answered ++ [last.unanswered]

namespace CutOf

variable {full : List (Call α Ordering)} {calls : List (Call α (Option Ordering))}

lemma append (h : CutOf full calls) (more : List (Call α Ordering)) :
    CutOf (full ++ more) calls := by
  obtain ⟨before, last, after, rfl, rfl⟩ := h
  exact ⟨before, last, after ++ more, by simp, rfl⟩

lemma prepend (h : CutOf full calls) (earlier : List (Call α Ordering)) :
    CutOf (earlier ++ full) (earlier.map Call.answered ++ calls) := by
  obtain ⟨before, last, after, rfl, rfl⟩ := h
  exact ⟨earlier ++ before, last, after, by simp, by simp⟩

lemma eq_nil_of_answer_eq_none (h : CutOf full calls)
    {before after : List (Call α (Option Ordering))} {call : Call α (Option Ordering)}
    (hsplit : calls = before ++ call :: after) (hnone : call.answer = none) : after = [] := by
  obtain ⟨answered, last, -, -, rfl⟩ := h
  rcases List.eq_nil_or_concat after with hnil | ⟨after, final, rfl⟩
  · exact hnil
  · -- If there were more, the call would be among the answered ones.
    exfalso
    have hsplit' : answered.map Call.answered ++ [last.unanswered]
        = (before ++ call :: after) ++ [final] := by
      simpa using hsplit
    have hmem : call ∈ answered.map Call.answered := by
      rw [(List.append_inj' hsplit' rfl).1]
      simp
    exact answer_ne_none hmem hnone

end CutOf

/-! ## Against a completion -/

namespace PartialComparator.CompletedBy

variable {c : PartialComparator σ α} {c' : Comparator σ α}

lemma tryPartitionCalls_eq (hc : c.CompletedBy c') {pivot : α} {depth position : Nat} {s t : σ}
    {b b' : Buckets α} {items : List α}
    (h : Buckets.tryPartitionOnto c pivot depth position s b items = (t, .ok b')) :
    tryPartitionCalls c pivot s items = (partitionCalls c' pivot s items).map Call.answered := by
  induction items generalizing position s b with
  | nil => rfl
  | cons item rest ih =>
      rw [Buckets.tryPartitionOnto] at h
      split at h
      · simp at h
      · rename_i s₁ o ho
        simp only [tryPartitionCalls, partitionCalls, ho, hc.apply_eq ho, ih h]
        rfl

/-- **A partition that fails is a cut one**, and its error counts the answered calls. -/
theorem exists_cut_of_tryPartitionOnto (hc : c.CompletedBy c') {pivot : α} {depth position : Nat}
    {s t : σ} {b : Buckets α} {items : List α} {e : Incomparable}
    (h : Buckets.tryPartitionOnto c pivot depth position s b items = (t, .error e)) :
    ∃ before last after, partitionCalls c' pivot s items = before ++ last :: after ∧
      tryPartitionCalls c pivot s items = before.map Call.answered ++ [last.unanswered] ∧
      e = { depth, position := position + before.length } := by
  induction items generalizing position s b with
  | nil => simp [Buckets.tryPartitionOnto] at h
  | cons item rest ih =>
      rw [Buckets.tryPartitionOnto] at h
      split at h
      · rename_i s₁ ho
        simp only [Prod.mk.injEq, Except.error.injEq] at h
        refine ⟨[], _, _, rfl, ?_, by simp [← h.2]⟩
        simp only [tryPartitionCalls, ho]
        rfl
      · rename_i s₁ o ho
        obtain ⟨before, last, after, hfull, hcut, rfl⟩ := ih h
        refine ⟨⟨item, pivot, o⟩ :: before, last, after, ?_, ?_, ?_⟩
        · simp only [partitionCalls, hc.apply_eq ho, hfull, List.cons_append]
        · simp only [tryPartitionCalls, ho, hcut, List.map_cons, List.cons_append]
          rfl
        · simp only [List.length_cons, Incomparable.mk.injEq, true_and]
          omega

/-- **A sort that succeeds makes the calls of every completion.** -/
theorem trySortAtCalls_eq (hc : c.CompletedBy c') {depth : Nat} {s t : σ}
    {items sorted : List α} (h : trySortAt c depth s items = (t, .ok sorted)) :
    trySortAtCalls c depth s items = (sortCalls c' s items).map Call.answered := by
  induction depth, s, items using trySortAt_induction c generalizing t sorted with
  | nil depth s => simp
  | cons depth s pivot rest ihl ihg =>
      obtain ⟨s₁, b, s₂, less, greater, hb, hl, hg, rfl⟩ := trySortAt_cons_eq_ok_iff.mp h
      rw [trySortAtCalls_cons, sortCalls_cons, hb, hc.partition_eq hb]
      simp only [hl, hc.sortBy_eq hl, hc.tryPartitionCalls_eq hb, ihl s₁ b hb hl,
        ihg s₁ b s₂ less hb hl hg, List.map_append]

/-- **A sort that fails makes the calls of every completion up to its own last one.** -/
theorem cutOf_of_error (hc : c.CompletedBy c') {depth : Nat} {s t : σ} {items : List α}
    {e : Incomparable} (h : trySortAt c depth s items = (t, .error e)) :
    CutOf (sortCalls c' s items) (trySortAtCalls c depth s items) := by
  induction depth, s, items using trySortAt_induction c generalizing t e with
  | nil depth s => simp at h
  | cons depth s pivot rest ihl ihg =>
      rw [trySortAtCalls_cons, sortCalls_cons]
      -- The run breaks off in the partition, in the lesser or in the greater items; what it had
      -- finished by then stands in front, what the completion goes on with comes after.
      rcases trySortAt_cons_eq_error_iff.mp h with hb | ⟨s₁, b, hb, hl | ⟨s₂, less, hl, hg⟩⟩
      · obtain ⟨before, last, after, hfull, hcut, -⟩ := hc.exists_cut_of_tryPartitionOnto hb
        have hpartition :
            CutOf (partitionCalls c' pivot s rest) (tryPartitionCalls c pivot s rest) :=
          ⟨before, last, after, hfull, hcut⟩
        simpa only [hb, List.append_nil] using hpartition.append _
      · simp only [hb, hl, hc.partition_eq hb, hc.tryPartitionCalls_eq hb, List.append_nil]
        exact ((ihl s₁ b hb hl).append _).prepend _
      · simp only [hb, hl, hc.partition_eq hb, hc.sortBy_eq hl, hc.tryPartitionCalls_eq hb,
          hc.trySortAtCalls_eq hl]
        exact ((ihg s₁ b s₂ less hb hl hg).prepend _).prepend _

end PartialComparator.CompletedBy

/-! ## The two sorts -/

/-- **The fallible sort is the sort, cut at the first missing answer.**  Take any completion of a
partial comparator.  A success has the list, the calls and the last state of the completed sort.  A
failure has its calls up to one that is left without an answer, and all calls before that one are
answered.  So the sort fails exactly if a call gets no answer, and then asks nothing more. -/
theorem trySortBy_cuts_sortBy {c : PartialComparator σ α} {c' : Comparator σ α}
    (hc : c.CompletedBy c') (s : σ) (items : List α) :
    (∀ sorted, (trySortBy c s items).2 = .ok sorted →
      sortBy c' s items = ((trySortBy c s items).1, sorted) ∧
      trySortCalls c s items = (sortCalls c' s items).map Call.answered) ∧
    (∀ e, (trySortBy c s items).2 = .error e →
      ∃ before last after, sortCalls c' s items = before ++ last :: after ∧
        trySortCalls c s items = before.map Call.answered ++ [last.unanswered]) ∧
    ((∃ e, (trySortBy c s items).2 = .error e) ↔
      ∃ call ∈ trySortCalls c s items, call.answer = none) ∧
    ∀ before call after, trySortCalls c s items = before ++ call :: after →
      call.answer = none → after = [] := by
  have hok : ∀ sorted, (trySortBy c s items).2 = .ok sorted →
      trySortCalls c s items = (sortCalls c' s items).map Call.answered :=
    fun sorted h => hc.trySortAtCalls_eq (Prod.ext rfl h)
  have hcut : ∀ e, (trySortBy c s items).2 = .error e →
      CutOf (sortCalls c' s items) (trySortCalls c s items) :=
    fun e h => hc.cutOf_of_error (Prod.ext rfl h)
  refine ⟨fun sorted h => ⟨hc.sortBy_eq (Prod.ext rfl h), hok sorted h⟩, hcut, ?_, ?_⟩
  · constructor
    · rintro ⟨e, h⟩
      obtain ⟨before, last, -, -, hcalls⟩ := hcut e h
      exact ⟨last.unanswered, by simp [hcalls], rfl⟩
    · rintro ⟨call, hmem, hnone⟩
      cases hresult : (trySortBy c s items).2 with
      | error e => exact ⟨e, rfl⟩
      | ok sorted =>
          rw [hok sorted hresult] at hmem
          exact absurd hnone (answer_ne_none hmem)
  · intro before call after hsplit hnone
    cases hresult : (trySortBy c s items).2 with
    | error e => exact (hcut e hresult).eq_nil_of_answer_eq_none hsplit hnone
    | ok sorted =>
        have hmem : call ∈ trySortCalls c s items := by simp [hsplit]
        rw [hok sorted hresult] at hmem
        exact absurd hnone (answer_ne_none hmem)

/-- The order of numbers, asked through somebody who gives up after `limit` answers. -/
def tiring (limit : Nat) : PartialComparator Nat Nat :=
  fun n item pivot => (n + 1, if n < limit then some (compare item pivot) else none)

/-- The same, who only counts the answers. -/
def tireless : Comparator Nat Nat :=
  fun n item pivot => (n + 1, compare item pivot)

lemma tiring_completedBy_tireless (limit : Nat) : (tiring limit).CompletedBy tireless := by
  intro n item pivot o h
  simp only [tiring, Option.ite_none_right_eq_some, Option.some.injEq] at h
  rw [tireless, h.2, tiring]

/-- Five answers do not suffice for five numbers, and six do. -/
theorem trySortBy_cuts_sortBy_tiring :
    (trySortBy (tiring 5) 0 [2, 1, 4, 3, 5]).2 = .error ⟨1, 2⟩ ∧
    (∃ before last after, sortCalls tireless 0 [2, 1, 4, 3, 5] = before ++ last :: after ∧
      trySortCalls (tiring 5) 0 [2, 1, 4, 3, 5] =
        before.map Call.answered ++ [last.unanswered]) ∧
    sortBy tireless 0 [2, 1, 4, 3, 5] = (6, [1, 2, 3, 4, 5]) := by
  have hfive : (trySortBy (tiring 5) 0 [2, 1, 4, 3, 5]).2 = .error ⟨1, 2⟩ := by decide +kernel
  have hsix : trySortBy (tiring 6) 0 [2, 1, 4, 3, 5] = (6, .ok [1, 2, 3, 4, 5]) := by
    decide +kernel
  refine ⟨hfive, (trySortBy_cuts_sortBy (tiring_completedBy_tireless 5) 0 _).2.1 _ hfive, ?_⟩
  have hrun := (trySortBy_cuts_sortBy (tiring_completedBy_tireless 6) 0 [2, 1, 4, 3, 5]).1
    [1, 2, 3, 4, 5] (by rw [hsix])
  rw [hrun.1, hsix]

end ThreeBucket
