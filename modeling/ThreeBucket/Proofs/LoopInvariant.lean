import ThreeBucket.Proofs.Conservation
import ThreeBucket.Proofs.Profile
import ThreeBucket.Proofs.StableSort

/-!
# The work-stack loop from turn to turn

In the middle of its work the loop has an output and a stack of frames, some waiting and some
finished.  **Read from left to right and from top to bottom they are the list, already in order as
far as it is divided**: no element is greater than one of a later part.  Each turn keeps this, because
a partition only cuts the top frame into three that are in order.

How long the loop goes on, and how high its stack gets, is told by the recursion that it replaces.  A
pending sequence is still good for three turns per partition and one more.  And the frames of its
whole life stand on those below it, two more for each level that the recursion goes down.

* `WorkStack.step?_natural_cases` — what one turn can do in a type's own order.
* `WorkStack.InOrder`, `WorkStack.inOrder_step?` — the order of the parts, and that a turn keeps it.
* `WorkStack.turnsLeft`, `WorkStack.turnsLeft_step?` — **each turn is one less to go**.
* `WorkStack.peak`, `WorkStack.peak_step?_le` — how high the stack can still get.
* `WorkStack.turns?_induction` — what turns preserve holds from the start on.
* `WorkStack.loop_invariant` — the whole loop.
-/

namespace ThreeBucket

open scoped List

universe u

variable {α : Type u} [Ord α]

/-! ## What is still to come -/

namespace Frame

/-- How many turns a frame is good for, its own and those of the frames that come out of it. -/
def turns : Frame α → Nat
  | .pending items => 3 * (sortProfiled items).1.partitions + 1
  | .settled _ => 1

/-- How many levels the recursion goes down in a frame. -/
def depth : Frame α → Nat
  | .pending items => (sortProfiled items).1.maxDepth
  | .settled _ => 0

lemma turns_of_moved {frame : Frame α}
    (h : (∃ run, frame = .settled run) ∨ ∃ items, frame = .pending items ∧ items.length ≤ 1) :
    frame.turns = 1 := by
  rcases h with ⟨run, rfl⟩ | ⟨items, rfl, hlength⟩
  · rfl
  · rw [turns, sortProfiled_of_length_le_one hlength, Nat.mul_zero]

end Frame

namespace WorkStack

variable {w w' : WorkStack Unit α}

/-- The turns of all frames. -/
def turnsLeft (w : WorkStack Unit α) : Nat :=
  (w.frames.map Frame.turns).sum

/-- How high a stack can get before it is empty: while a frame is worked on, those below it stay. -/
def peak : List (Frame α) → Nat
  | [] => 0
  | frame :: below => max (below.length + 2 * frame.depth + 1) (peak below)

lemma length_le_peak (frames : List (Frame α)) : frames.length ≤ peak frames := by
  cases frames with
  | nil => rfl
  | cons frame below =>
      rw [peak, List.length_cons]
      omega

/-! ## One turn -/

/-- **What a turn can do in a type's own order.**  A partition leaves the items on each side of the
pivot, and the pivot with its equals between them. -/
theorem step?_natural_cases (h : w.step? .natural = some w') :
    (∃ frame below, w.frames = frame :: below ∧
      ((∃ run, frame = .settled run) ∨ ∃ items, frame = .pending items ∧ items.length ≤ 1) ∧
      w' = { w with frames := below, sorted := w.sorted ++ frame.items }) ∨
    (∃ pivot item rest below, w.frames = .pending (pivot :: item :: rest) :: below ∧
      w' = { w with
        frames :=
          .pending (onSide .lt pivot (item :: rest)) ::
          .settled (pivot :: onSide .eq pivot (item :: rest)) ::
          .pending (onSide .gt pivot (item :: rest)) :: below }) := by
  rcases step?_cases h with hmoved | ⟨pivot, item, rest, below, hframes, rfl⟩
  · exact .inl hmoved
  · have hbucket := bucket_partition_ofFun (f := compare) pivot w.state (item :: rest)
    have hless : (Buckets.partition .natural w.state pivot (item :: rest)).2.less.toList =
      onSide .lt pivot (item :: rest) := hbucket .lt
    have hequal : (Buckets.partition .natural w.state pivot (item :: rest)).2.equal.toList =
      onSide .eq pivot (item :: rest) := hbucket .eq
    have hgreater : (Buckets.partition .natural w.state pivot (item :: rest)).2.greater.toList =
      onSide .gt pivot (item :: rest) := hbucket .gt
    exact .inr ⟨pivot, item, rest, below, hframes, by rw [hless, hequal, hgreater]⟩

/-- **Each turn is one less to go.** -/
theorem turnsLeft_step? (h : w.step? .natural = some w') : w.turnsLeft = w'.turnsLeft + 1 := by
  rcases step?_natural_cases h with
    ⟨frame, below, hframes, hmoved, rfl⟩ | ⟨pivot, item, rest, below, hframes, rfl⟩
  · rw [turnsLeft, hframes, List.map_cons, List.sum_cons, Frame.turns_of_moved hmoved, turnsLeft]
    exact Nat.add_comm 1 _
  · simp only [turnsLeft, hframes, List.map_cons, List.sum_cons, Frame.turns, sortProfiled_split]
    omega

/-- **A turn does not make the stack higher than it could get before.** -/
theorem peak_step?_le (h : w.step? .natural = some w') : peak w'.frames ≤ peak w.frames := by
  rcases step?_natural_cases h with
    ⟨frame, below, hframes, -, rfl⟩ | ⟨pivot, item, rest, below, hframes, rfl⟩
  · rw [hframes, peak]
    exact Nat.le_max_right _ _
  · simp only [hframes, peak, Frame.depth, List.length_cons, sortProfiled_split]
    omega

/-! ## The order of the parts -/

/-- No element of the first list is greater than one of the second. -/
def AllAtMost (upper lower : List α) : Prop :=
  ∀ a ∈ upper, ∀ b ∈ lower, (compare a b).isLE

/-- The parts of a loop's state are in order. -/
structure InOrder (w : WorkStack Unit α) : Prop where
  /-- The output is at most what waits in a frame. -/
  output : ∀ frame ∈ w.frames, AllAtMost w.sorted.toList frame.items
  /-- A frame is at most each one below it. -/
  frames : w.frames.Pairwise fun upper lower => AllAtMost upper.items lower.items
  /-- A finished run has elements, and they are all equal. -/
  settled : ∀ run, .settled run ∈ w.frames →
    run ≠ [] ∧ ∀ a ∈ run, ∀ b ∈ run, compare a b = .eq

lemma inOrder_start (items : List α) : (start () items).InOrder where
  output := by simp [start, AllAtMost]
  frames := List.pairwise_singleton _ _
  settled := by simp [start]

namespace InOrder

variable {frame : Frame α} {below : List (Frame α)}

/-- The top frame may go to the output. -/
lemma move_top (hw : w.InOrder) (hframes : w.frames = frame :: below) :
    InOrder { w with frames := below, sorted := w.sorted ++ frame.items } := by
  obtain ⟨houtput, hordered, hsettled⟩ := hw
  rw [hframes] at houtput hordered hsettled
  obtain ⟨htop, hbelow⟩ := List.pairwise_cons.mp hordered
  refine ⟨fun lower hlower a ha => ?_, hbelow, fun run hrun => hsettled run (.tail _ hrun)⟩
  rcases List.mem_append.mp (Array.toList_appendList ▸ ha) with ha | ha
  · exact houtput lower (.tail _ hlower) a ha
  · exact htop lower hlower a ha

/-- The top frame may be divided into parts that are in order. -/
lemma divide_top (hw : w.InOrder) (hframes : w.frames = frame :: below) {parts : List (Frame α)}
    (hitems : ∀ part ∈ parts, ∀ a ∈ part.items, a ∈ frame.items)
    (hparts : parts.Pairwise fun upper lower => AllAtMost upper.items lower.items)
    (hruns : ∀ run, .settled run ∈ parts → run ≠ [] ∧ ∀ a ∈ run, ∀ b ∈ run, compare a b = .eq) :
    InOrder { w with frames := parts ++ below } := by
  obtain ⟨houtput, hordered, hsettled⟩ := hw
  rw [hframes] at houtput hordered hsettled
  obtain ⟨htop, hbelow⟩ := List.pairwise_cons.mp hordered
  refine ⟨fun lower hlower a ha b hb => ?_, ?_, fun run hrun => ?_⟩
  · rcases List.mem_append.mp hlower with hlower | hlower
    · exact houtput frame (.head _) a ha b (hitems lower hlower b hb)
    · exact houtput lower (.tail _ hlower) a ha b hb
  · refine List.pairwise_append.mpr ⟨hparts, hbelow, fun part hpart lower hlower a ha => ?_⟩
    exact htop lower hlower a (hitems part hpart a ha)
  · rcases List.mem_append.mp hrun with hrun | hrun
    · exact hruns run hrun
    · exact hsettled run (.tail _ hrun)

end InOrder

section

variable [Std.TransOrd α]

/-- Two lists are in order if the pivot lies between them. -/
lemma allAtMost_of_pivot {pivot : α} {upper lower : List α}
    (hupper : ∀ a ∈ upper, (compare a pivot).isLE) (hlower : ∀ b ∈ lower, (compare pivot b).isLE) :
    AllAtMost upper lower :=
  fun a ha b hb => Std.TransCmp.isLE_trans (hupper a ha) (hlower b hb)

/-- The pivot and its equals are equal to each other. -/
lemma compare_eq_of_mem_run {pivot : α} {items : List α} {a b : α}
    (ha : a ∈ pivot :: onSide .eq pivot items) (hb : b ∈ pivot :: onSide .eq pivot items) :
    compare a b = .eq := by
  have hpivot : ∀ d ∈ pivot :: onSide .eq pivot items, compare d pivot = .eq := by
    intro d hd
    rcases List.mem_cons.mp hd with rfl | hd
    · exact Std.ReflCmp.compare_self
    · exact (mem_onSide.mp hd).2
  exact Std.TransCmp.eq_trans (hpivot a ha) (Std.OrientedCmp.eq_symm (hpivot b hb))

/-- The three parts of a partition are in order. -/
lemma pairwise_parts (pivot : α) (items : List α) :
    [Frame.pending (onSide .lt pivot items), .settled (pivot :: onSide .eq pivot items),
      .pending (onSide .gt pivot items)].Pairwise
      fun upper lower => AllAtMost upper.items lower.items := by
  have hless : ∀ a ∈ onSide .lt pivot items, (compare a pivot).isLE := by
    intro a ha
    rw [(mem_onSide.mp ha).2]
    rfl
  have hgreater : ∀ b ∈ onSide .gt pivot items, (compare pivot b).isLE := by
    intro b hb
    rw [Std.OrientedCmp.lt_of_gt (mem_onSide.mp hb).2]
    rfl
  have hrun : ∀ a ∈ pivot :: onSide .eq pivot items,
      (compare a pivot).isLE ∧ (compare pivot a).isLE := by
    intro a ha
    rw [compare_eq_of_mem_run ha (.head _), compare_eq_of_mem_run (.head _) ha]
    exact ⟨rfl, rfl⟩
  simp only [List.pairwise_cons, List.forall_mem_cons, List.not_mem_nil, Frame.items]
  refine ⟨⟨allAtMost_of_pivot hless fun b hb => (hrun b hb).2,
    allAtMost_of_pivot hless hgreater, by simp⟩,
    ⟨allAtMost_of_pivot (fun a ha => (hrun a ha).1) hgreater, by simp⟩, by simp⟩

/-- **A turn keeps the parts in order.** -/
theorem inOrder_step? (h : w.step? .natural = some w') (hw : w.InOrder) : w'.InOrder := by
  rcases step?_natural_cases h with
    ⟨frame, below, hframes, -, rfl⟩ | ⟨pivot, item, rest, below, hframes, rfl⟩
  · exact hw.move_top hframes
  · refine hw.divide_top hframes ?_ (pairwise_parts pivot (item :: rest)) ?_
    · have hside : ∀ o, ∀ a ∈ onSide o pivot (item :: rest), a ∈ pivot :: item :: rest :=
        fun o a ha => .tail _ (mem_onSide.mp ha).1
      simp only [List.forall_mem_cons, Frame.items]
      exact ⟨hside .lt, ⟨.head _, hside .eq⟩, hside .gt, by simp⟩
    · intro run hrun
      obtain rfl : run = pivot :: onSide .eq pivot (item :: rest) := by simpa using hrun
      exact ⟨by simp, fun a ha b hb => compare_eq_of_mem_run ha hb⟩

end

/-! ## The whole loop -/

/-- Turns that were taken are no longer to go. -/
lemma turnsLeft_turns? {n : Nat} (h : w.turns? .natural n = some w') :
    w.turnsLeft = w'.turnsLeft + n := by
  induction n generalizing w with
  | zero =>
      obtain rfl : w = w' := Option.some.inj h
      rfl
  | succ n ih =>
      obtain ⟨next, hnext, hrest⟩ := Option.bind_eq_some_iff.mp h
      rw [turnsLeft_step? hnext, ih hrest, Nat.add_assoc]

lemma turnsLeft_start (items : List α) :
    (start () items).turnsLeft = 3 * (sortProfiled items).1.partitions + 1 := by
  simp [turnsLeft, start, Frame.turns]

lemma peak_start (items : List α) :
    peak (start () items).frames = 2 * (sortProfiled items).1.maxDepth + 1 := by
  simp [peak, start, Frame.depth]

/-- The stack never gets higher than twice the depth of the recursion and one more. -/
theorem length_frames_le {items : List α} {n : Nat}
    (h : (start () items).turns? .natural n = some w) :
    w.frames.length ≤ 2 * (sortProfiled items).1.maxDepth + 1 := by
  have hpeak : peak w.frames ≤ peak (start () items).frames :=
    turns?_induction (motive := fun w => peak w.frames ≤ peak (start () items).frames)
      (fun _ _ hstep hw => (peak_step?_le hstep).trans hw) (Nat.le_refl _) h
  calc w.frames.length ≤ peak w.frames := length_le_peak w.frames
    _ ≤ peak (start () items).frames := hpeak
    _ = 2 * (sortProfiled items).1.maxDepth + 1 := peak_start items

/-- **The loop takes three turns for each partition, and one more.** -/
theorem turns?_eq_run (items : List α) :
    (start () items).turns? .natural (3 * (sortProfiled items).1.partitions + 1) =
      some ((start () items).run .natural) := by
  obtain ⟨n, -, hturns⟩ := exists_turns_run .natural (start () items)
  have hleft := turnsLeft_turns? hturns
  have hnone : ((start () items).run .natural).turnsLeft = 0 := by
    rw [turnsLeft, frames_run]
    rfl
  rw [turnsLeft_start, hnone, Nat.zero_add] at hleft
  rwa [hleft]

/-- **What holds of the work-stack loop whenever a turn begins**, for a total preorder.  Output and
frames, from top to bottom, are a permutation of the list.  They are in order: no element of the
output is greater than one in a frame, none in a frame is greater than one in a frame below, and a
settled frame has elements, all of them equal.  The stack has at most two frames for each level of
the recursion, and one more.  After exactly three turns for each partition, and one more, the loop
stands still, and its output is the sorted list. -/
theorem loop_invariant [Std.TransOrd α] (items : List α) :
    (∀ n w, (start () items).turns? .natural n = some w →
      w.sorted.toList ++ w.frames.flatMap Frame.items ~ items ∧
      (∀ frame ∈ w.frames, ∀ a ∈ w.sorted, ∀ b ∈ frame.items, (compare a b).isLE) ∧
      (w.frames.Pairwise fun upper lower =>
        ∀ a ∈ upper.items, ∀ b ∈ lower.items, (compare a b).isLE) ∧
      (∀ run, .settled run ∈ w.frames → run ≠ [] ∧ ∀ a ∈ run, ∀ b ∈ run, compare a b = .eq) ∧
      w.frames.length ≤ 2 * (sortProfiled items).1.maxDepth + 1) ∧
    ∃ w, (start () items).turns? .natural (3 * (sortProfiled items).1.partitions + 1) = some w ∧
      w.step? .natural = none ∧ w.sorted.toList = sortStack items := by
  refine ⟨fun n w h => ?_, _, turns?_eq_run items, step?_run _ _, rfl⟩
  have hholdings : w.holdings ~ items := by
    refine turns?_induction (motive := fun w => w.holdings ~ items)
      (fun _ _ hstep hw => (perm_holdings_step? hstep).trans hw) ?_ h
    simp [holdings, start, Frame.items]
  have hordered : w.InOrder :=
    turns?_induction (motive := InOrder) (fun _ _ hstep hw => inOrder_step? hstep hw)
      (inOrder_start items) h
  refine ⟨hholdings, fun frame hframe a ha => ?_, hordered.frames, hordered.settled,
    length_frames_le h⟩
  exact hordered.output frame hframe a (Array.mem_toList_iff.mpr ha)

/-- The highest stack of two partitions, one below the other, and the end of the loop. -/
theorem loop_invariant_tagged :
    let items : List Tagged := [⟨2, 'a'⟩, ⟨1, 'b'⟩, ⟨2, 'c'⟩, ⟨1, 'd'⟩]
    let frames : List (Frame Tagged) := [.pending [], .settled [⟨1, 'b'⟩, ⟨1, 'd'⟩], .pending [],
      .settled [⟨2, 'a'⟩, ⟨2, 'c'⟩], .pending []]
    (frames.flatMap Frame.items ~ items ∧
      (∀ run, .settled run ∈ frames → run ≠ [] ∧ ∀ a ∈ run, ∀ b ∈ run, compare a b = .eq) ∧
      frames.length ≤ 2 * (sortProfiled items).1.maxDepth + 1) ∧
    (sortProfiled items).1 = { partitions := 2, comparisons := 4, maxDepth := 2 } ∧
    ∃ w, (start () items).turns? .natural 7 = some w ∧ w.step? .natural = none ∧
      w.sorted.toList = [⟨1, 'b'⟩, ⟨1, 'd'⟩, ⟨2, 'a'⟩, ⟨2, 'c'⟩] := by
  intro items frames
  have hprofile : (sortProfiled items).1 = { partitions := 2, comparisons := 4, maxDepth := 2 } := by
    decide +kernel
  have hsorted : sortStack items = [⟨1, 'b'⟩, ⟨1, 'd'⟩, ⟨2, 'a'⟩, ⟨2, 'c'⟩] := by decide +kernel
  obtain ⟨hturn, w, hturns, hend, hw⟩ := loop_invariant items
  obtain ⟨hperm, -, -, hsettled, hheight⟩ := hturn 2 { state := (), frames } rfl
  rw [hprofile] at hturns
  exact ⟨⟨hperm, hsettled, hheight⟩, hprofile, w, hturns, hend, hw.trans hsorted⟩

end WorkStack

end ThreeBucket
