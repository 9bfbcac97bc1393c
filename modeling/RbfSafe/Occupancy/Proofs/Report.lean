/-
The report of a continuous analysis.

What the slices of two robots conflict about is decided by their worst
pair of links (`conflict_eq_none_iff`). A conflict is one that the report
may hold, no two have the same key, and there are not more of them than
pairs that were evaluated: so the report passes `valid`.
-/
import RbfSafe.Occupancy.Proofs.Analysis

namespace RbfSafe

open Lib

-- === conflicts

section
variable {α : Type} [MetricScalar α] {options : ContinuousFleetOccupancyOptions α}
  {pair : SlicePair α}

omit [MetricScalar α] in
/-- The pairs of links are the pairs of boxes. -/
theorem SlicePair.exists_linkPair_iff
    {Q : WorkspaceAabb α → WorkspaceAabb α → Prop} :
    (∃ p ∈ pair.linkPairs, Q p.1.1 p.2.1)
      ↔ ∃ box ∈ pair.firstSlice.linkEnvelopes,
        ∃ other ∈ pair.secondSlice.linkEnvelopes, Q box other := by
  have hindexed : ∀ {boxes : List (WorkspaceAabb α)} {box : WorkspaceAabb α},
      box ∈ boxes ↔ ∃ i, (box, i) ∈ boxes.zipIdx := by
    intro boxes box
    have hfirst := List.mem_map (f := Prod.fst) (l := boxes.zipIdx) (b := box)
    rw [List.zipIdx_map_fst] at hfirst
    exact hfirst.trans ⟨fun ⟨⟨_, i⟩, hmem, heq⟩ => ⟨i, heq ▸ hmem⟩,
      fun ⟨i, hmem⟩ => ⟨_, hmem, rfl⟩⟩
  constructor
  · intro ⟨⟨p, q⟩, hp, hq⟩
    obtain ⟨hp, hp'⟩ := List.mem_product.mp hp
    exact ⟨p.1, hindexed.mpr ⟨p.2, hp⟩, q.1, hindexed.mpr ⟨q.2, hp'⟩, hq⟩
  · intro ⟨box, hbox, other, hother, hq⟩
    obtain ⟨i, hi⟩ := hindexed.mp hbox
    obtain ⟨j, hj⟩ := hindexed.mp hother
    exact ⟨((box, i), (other, j)), List.mem_product.mpr ⟨hi, hj⟩, hq⟩

/-- A conflict is about a pair of links that was compared. -/
theorem SlicePair.linkPairCount_pos {conflict : ContinuousOccupancyConflict α}
    (h : pair.conflict options = some conflict) : 1 ≤ pair.linkPairCount := by
  unfold SlicePair.conflict at h
  unfold linkPairCount
  by_cases hmeets : pair.Meets
  · rw [if_pos hmeets] at h ⊢
    cases hlinks : pair.linkPairs with
    | nil =>
        have hworst : pair.worst = {} := by
          unfold worst
          rw [hlinks]
          rfl
        rw [hworst] at h
        cases h
    | cons p rest => exact Nat.le_add_left 1 _
  · rw [if_neg hmeets] at h
    cases h

/-- What a conflict says of the slices it is about. -/
structure ConflictOf (options : ContinuousFleetOccupancyOptions α)
    (pair : SlicePair α) (conflict : ContinuousOccupancyConflict α) : Prop where
  meets : pair.Meets
  firstId : conflict.firstOccupancyId = pair.first.id
  secondId : conflict.secondOccupancyId = pair.second.id
  firstSliceId : conflict.firstSliceId = pair.firstSlice.id
  secondSliceId : conflict.secondSliceId = pair.secondSlice.id
  overlapBegin : conflict.overlapBeginTick = pair.overlapBegin
  overlapEnd : conflict.overlapEndTick = pair.overlapEnd
  margin : conflict.requiredMargin = options.minimumSeparation
  reason : conflict.reason = .sweptEnvelopeOverlap
      ∧ conflict.clearanceLowerBound = Scalar.zero
    ∨ conflict.reason = .separationMarginViolated
      ∧ pair.worst.foundOverlap = false
      ∧ pair.worst.clearance = some conflict.clearanceLowerBound
      ∧ Scalar.lt conflict.clearanceLowerBound options.minimumSeparation = true

theorem conflictOf_of_eq_some {conflict : ContinuousOccupancyConflict α}
    (h : pair.conflict options = some conflict) :
    ConflictOf options pair conflict := by
  unfold SlicePair.conflict at h
  by_cases hmeets : pair.Meets
  · rw [if_pos hmeets] at h
    unfold sliceConflict at h
    cases hfound : pair.worst.foundOverlap with
    | true =>
        rw [hfound] at h
        cases h
        exact ⟨hmeets, rfl, rfl, rfl, rfl, rfl, rfl, rfl, Or.inl ⟨rfl, rfl⟩⟩
    | false =>
        rw [hfound] at h
        cases hclearance : pair.worst.clearance with
        | none =>
            rw [hclearance] at h
            cases h
        | some clearance =>
            rw [hclearance] at h
            dsimp only at h
            rw [if_neg Bool.false_ne_true] at h
            by_cases hlt : Scalar.lt clearance options.minimumSeparation = true
            · rw [if_pos hlt] at h
              cases h
              exact ⟨hmeets, rfl, rfl, rfl, rfl, rfl, rfl, rfl,
                Or.inr ⟨rfl, hfound, hclearance, hlt⟩⟩
            · rw [if_neg hlt] at h
              cases h
  · rw [if_neg hmeets] at h
    cases h

variable [LawfulMetric α]

/-- The links of two slices are apart, with the separation between them. -/
def SlicePair.Separate (options : ContinuousFleetOccupancyOptions α)
    (pair : SlicePair α) : Prop :=
  ∀ box ∈ pair.firstSlice.linkEnvelopes,
  ∀ other ∈ pair.secondSlice.linkEnvelopes,
    box.overlaps other Scalar.zero = false
      ∧ Scalar.le options.minimumSeparation (guardedClearance box other) = true

/-- **When two slices are in no conflict**: never together, or apart. -/
theorem SlicePair.conflict_eq_none_iff
    (hoptions : validAnalysisOptions options = true) :
    pair.conflict options = none ↔ (pair.Meets → pair.Separate options) := by
  have hmargin : Scalar.isFinite options.minimumSeparation = true := by
    unfold validAnalysisOptions at hoptions
    simp only [Bool.and_eq_true] at hoptions
    exact hoptions.1.1.1.1.1
  have hbest : BestOf pair.linkPairs pair.worst := bestOf_foldl _
  have hoverlap := hbest.overlap.trans (exists_linkPair_iff
    (Q := fun box other => box.overlaps other Scalar.zero = true))
  unfold SlicePair.conflict
  by_cases hmeets : pair.Meets
  · rw [if_pos hmeets]
    unfold sliceConflict
    cases hfound : pair.worst.foundOverlap with
    | true =>
        obtain ⟨box, hbox, other, hother, hover⟩ := hoverlap.mp hfound
        refine ⟨fun h => absurd h (Option.some_ne_none _),
          fun hseparate => ?_⟩
        rw [(hseparate hmeets box hbox other hother).1] at hover
        cases hover
    | false =>
        have hapart : ∀ box ∈ pair.firstSlice.linkEnvelopes,
            ∀ other ∈ pair.secondSlice.linkEnvelopes,
            box.overlaps other Scalar.zero = false := by
          intro box hbox other hother
          by_contra hover
          rw [Bool.not_eq_false] at hover
          rw [hoverlap.mpr ⟨box, hbox, other, hother, hover⟩] at hfound
          cases hfound
        have hleast := (hbest.least hfound _ hmargin).trans
          (exists_linkPair_iff (Q := fun box other => Scalar.lt
            (guardedClearance box other) options.minimumSeparation = true))
        have hseparate : pair.Separate options ↔ ¬∃ clearance,
            pair.worst.clearance = some clearance
              ∧ Scalar.lt clearance options.minimumSeparation = true := by
          rw [hleast]
          constructor
          · intro hseparate ⟨box, hbox, other, hother, hlt⟩
            have hle := (hseparate box hbox other hother).2
            rw [← guardedClearance_lt_eq_false hmargin, hlt] at hle
            cases hle
          · intro hnone box hbox other hother
            refine ⟨hapart box hbox other hother, ?_⟩
            rw [← guardedClearance_lt_eq_false hmargin]
            by_contra hlt
            rw [Bool.not_eq_false] at hlt
            exact hnone ⟨box, hbox, other, hother, hlt⟩
        rw [show (pair.Meets → pair.Separate options) ↔ pair.Separate options
          from ⟨fun h => h hmeets, fun h _ => h⟩, hseparate]
        rw [if_neg Bool.false_ne_true]
        cases hclearance : pair.worst.clearance with
        | none => simp
        | some clearance =>
            dsimp only
            by_cases hlt : Scalar.lt clearance options.minimumSeparation = true
            · simp [hlt]
            · simp [hlt]
  · rw [if_neg hmeets]
    exact ⟨fun _ h => absurd h hmeets, fun _ => rfl⟩

-- === report

theorem strictlySorted_of_pairwise {κ : Type} [LT κ] [DecidableLT κ] :
    ∀ {l : List κ}, l.Pairwise (· < ·) → strictlySorted l = true
  | [], _ => rfl
  | [_], _ => rfl
  | first :: second :: rest, h => by
      obtain ⟨hfirst, hrest⟩ := List.pairwise_cons.mp h
      rw [strictlySorted, strictlySorted_of_pairwise hrest,
        decide_eq_true (hfirst second List.mem_cons_self)]
      rfl

/-- Sorted by different keys. -/
theorem strictlySorted_sort {β κ : Type} [LT κ] [DecidableLT κ] [LE κ]
    [Std.IsLinearOrder κ] [Std.LawfulOrderLT κ] (key : β → κ) {l : List β}
    (h : (l.map key).Nodup) :
    strictlySorted ((Sorting.sort key l).map key) = true := by
  apply strictlySorted_of_pairwise
  have hnodup : ((Sorting.sort key l).map key).Nodup :=
    ((Sorting.sort_perm key l).map key).nodup_iff.mpr h
  have hle : ((Sorting.sort key l).map key).Pairwise (· ≤ ·) :=
    List.pairwise_map.mpr (Sorting.pairwise_sort key l)
  exact (hle.and hnodup).imp fun h => Std.lt_of_le_of_ne h.1 h.2

/-- A conflict of two slices may stand in a report. -/
theorem ConflictOf.valid {P : Platform}
    {occupancies : List (RobotTrajectoryOccupancy α)}
    (h : OneFleet P occupancies) (hpair : SlicesOf occupancies pair)
    (hoptions : validAnalysisOptions options = true)
    {conflict : ContinuousOccupancyConflict α}
    (hconflict : ConflictOf options pair conflict) :
    validConflict conflict = true := by
  unfold validAnalysisOptions at hoptions
  simp only [Bool.and_eq_true] at hoptions
  obtain ⟨⟨⟨⟨⟨hfinite, hnonneg⟩, -⟩, -⟩, -⟩, -⟩ := hoptions
  have hzero : Scalar.isFinite (Scalar.zero : α) = true :=
    LawfulMetric.finite_zero
  have hslice : ∀ {occupancy : RobotTrajectoryOccupancy α}
      {slice : SweptLinkOccupancySlice α}, occupancy ∈ occupancies →
      slice ∈ occupancy.slices → validSha256 slice.id = true := by
    intro occupancy slice ho hslice
    obtain ⟨linkCount, -, hsound⟩ := (h.sound ho).slices
    exact (hsound slice hslice).id
  have hclearance : Scalar.isFinite conflict.clearanceLowerBound = true
      ∧ Scalar.le Scalar.zero conflict.clearanceLowerBound = true := by
    rcases hconflict.reason with ⟨-, hclearance⟩ | ⟨-, hfound, hclearance, -⟩
    · rw [hclearance]
      exact ⟨hzero, LawfulScalar.le_refl hzero⟩
    · exact (bestOf_foldl pair.linkPairs).finite hfound _ hclearance
  have hwindow : pair.overlapBegin < pair.overlapEnd := hconflict.meets
  unfold validConflict
  rw [hconflict.firstId, hconflict.secondId, hconflict.firstSliceId,
    hconflict.secondSliceId, hconflict.overlapBegin, hconflict.overlapEnd,
    (h.sound hpair.first).id, (h.sound hpair.second).id,
    decide_eq_true hpair.ordered, hslice hpair.first hpair.firstSlice,
    hslice hpair.second hpair.secondSlice, decide_eq_true hwindow,
    hclearance.1, hclearance.2, hconflict.margin, hfinite, hnonneg]
  simp only [Bool.true_and]
  rcases hconflict.reason with ⟨hreason, hoverlap⟩ | ⟨hreason, -, -, hlt⟩
  · rw [hreason, hoverlap]
    exact LawfulScalar.eq_refl hzero
  · rw [hreason]
    exact hlt

variable {P : Platform} {ordered : List (RobotTrajectoryOccupancy α)}

omit [LawfulMetric α] in
/-- Conflicts of one fleet are told apart by their keys. -/
theorem OneFleet.nodup_conflictKeys (h : OneFleet P ordered) :
    (((evaluations ordered).filterMap (SlicePair.conflict options)).map
      conflictKey).Nodup := by
  unfold List.Nodup
  rw [List.pairwise_map, List.pairwise_filterMap]
  refine h.evaluations_apart.imp ?_
  intro p q hapart c hc d hd hkey
  have hc := conflictOf_of_eq_some hc
  have hd := conflictOf_of_eq_some hd
  apply hapart hc.meets
  unfold conflictKey at hkey
  injection hkey with hfirst hkey
  injection hkey with hsecond hkey
  injection hkey with hbegin hkey
  exact ⟨hc.firstId.symm.trans (hfirst.trans hd.firstId),
    hc.secondId.symm.trans (hsecond.trans hd.secondId),
    hc.overlapBegin.symm.trans (hbegin.trans hd.overlapBegin)⟩

omit [LawfulMetric α] in
/-- There are not more conflicts than pairs of links. -/
theorem length_conflicts_le (pairs : List (SlicePair α)) :
    (pairs.filterMap (SlicePair.conflict options)).length
      ≤ (pairs.map SlicePair.linkPairCount).sum := by
  induction pairs with
  | nil => exact le_refl 0
  | cons pair pairs ih =>
      rw [List.map_cons, List.sum_cons]
      cases hconflict : pair.conflict options with
      | none =>
          rw [List.filterMap_cons_none hconflict]
          omega
      | some conflict =>
          have hpos := SlicePair.linkPairCount_pos hconflict
          rw [List.filterMap_cons_some hconflict, List.length_cons]
          omega

/-- What the loops have found in the end. -/
def fleetTotal (options : ContinuousFleetOccupancyOptions α)
    (ordered : List (RobotTrajectoryOccupancy α)) : FleetSweep α :=
  (evaluations ordered).foldl (FleetSweep.add options) {}

omit [LawfulMetric α] in
theorem fleetTotal_eq : fleetTotal options ordered =
    { conflicts := (evaluations ordered).filterMap (SlicePair.conflict options)
      slicePairEvaluations := (evaluations ordered).length
      linkPairEvaluations :=
        ((evaluations ordered).map SlicePair.linkPairCount).sum } := by
  unfold fleetTotal
  rw [foldl_add]
  simp

/-- **The report passes its own check.** -/
theorem OneFleet.report_valid (h : OneFleet P ordered)
    (hoptions : validAnalysisOptions options = true)
    (hseveral : 2 ≤ ordered.length) {front : RobotTrajectoryOccupancy α}
    (hfront : front ∈ ordered) :
    (fleetReport P options front.timelineId front.workspaceFrameId ordered
      (fleetTotal options ordered)).valid P = true := by
  have hmargin := hoptions
  unfold validAnalysisOptions at hmargin
  simp only [Bool.and_eq_true] at hmargin
  obtain ⟨⟨⟨⟨⟨hfinite, hnonneg⟩, -⟩, -⟩, -⟩, -⟩ := hmargin
  have hids : (ordered.map (·.id)).Nodup :=
    List.Nodup.map_on (fun a ha b hb heq => h.eq_of_id ha hb heq) h.nodup
  have hconflict : ∀ conflict ∈ Sorting.sort conflictKey
      ((evaluations ordered).filterMap (SlicePair.conflict options)),
      ∃ pair, SlicesOf ordered pair ∧ ConflictOf options pair conflict := by
    intro conflict hmem
    rw [Sorting.mem_sort, List.mem_filterMap] at hmem
    obtain ⟨pair, hpair, heq⟩ := hmem
    exact ⟨pair, h.slicesOf hpair, conflictOf_of_eq_some heq⟩
  have hmem : ∀ occupancy ∈ ordered, occupancy.id ∈
      Sorting.sort (fun id => id) (ordered.map (·.id)) := by
    intro occupancy ho
    rw [Sorting.mem_sort]
    exact List.mem_map_of_mem ho
  have hsorted := strictlySorted_sort (fun id : Bytes => id)
    (l := ordered.map (·.id)) (by rwa [List.map_id'])
  rw [List.map_id'] at hsorted
  have hempty : (Sorting.sort conflictKey ((evaluations ordered).filterMap
      (SlicePair.conflict options))).isEmpty
        = ((evaluations ordered).filterMap
          (SlicePair.conflict options)).isEmpty :=
    (Sorting.sort_perm _ _).isEmpty_eq
  have hlength : (Sorting.sort conflictKey ((evaluations ordered).filterMap
      (SlicePair.conflict options))).length
        = ((evaluations ordered).filterMap
          (SlicePair.conflict options)).length :=
    (Sorting.sort_perm _ _).length_eq
  unfold ContinuousFleetOccupancyReport.valid fleetReport
  rw [fleetTotal_eq]
  dsimp only
  simp only [Bool.and_eq_true, Bool.not_eq_true', decide_eq_true_eq,
    List.all_eq_true, hempty, hlength]
  refine ⟨⟨⟨⟨⟨⟨⟨⟨⟨⟨⟨⟨⟨⟨P.validSha256_digest _, (h.sound hfront).timeline⟩,
    (h.sound hfront).frame⟩, hfinite⟩, ?_⟩, ?_⟩, hsorted⟩, ?_⟩, ?_⟩, ?_⟩, ?_⟩,
    ?_⟩, strictlySorted_sort conflictKey h.nodup_conflictKeys⟩, ?_⟩, rfl⟩
  · rw [← Bool.not_eq_true, LawfulScalar.lt_iff hfinite
      LawfulMetric.finite_zero, hnonneg]
    exact Bool.noConfusion
  · rw [(Sorting.sort_perm _ _).length_eq, List.length_map]
    exact hseveral
  · intro id hid
    rw [Sorting.mem_sort, List.mem_map] at hid
    obtain ⟨occupancy, ho, rfl⟩ := hid
    exact (h.sound ho).id
  · intro conflict hmemConflict
    obtain ⟨pair, hpair, hof⟩ := hconflict conflict hmemConflict
    exact hof.valid h hpair hoptions
  · exact List.length_filterMap_le _ _
  · exact length_conflicts_le _
  · cases ((evaluations ordered).filterMap
      (SlicePair.conflict options)).isEmpty <;> rfl
  · intro conflict hmemConflict
    obtain ⟨pair, hpair, hof⟩ := hconflict conflict hmemConflict
    rw [hof.firstId, hof.secondId, hof.margin]
    exact ⟨⟨hmem _ hpair.first, hmem _ hpair.second⟩,
      LawfulScalar.eq_refl hfinite⟩

end

end RbfSafe
