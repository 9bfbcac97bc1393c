/-
The loops of the continuous analysis as one list of slice pairs.

The nested loops over robots, slices and links work on the slice pairs of
`evaluations`, one after the other: for each two robots those the two
cursors stand on. What they find is the sum of what each pair adds
(`FleetSweep.add`), as long as the budgets hold, and the budgets are
exceeded exactly when the sum exceeds them.

# Which pairs are looked at

`mem_evaluations` and `evaluations_apart`: the two slices of two robots
that share a tick are looked at, and no such pair twice.
-/
import RbfSafe.Occupancy.Proofs.Links
import RbfSafe.Lib.Sweep

namespace RbfSafe

open Lib

section
variable {α : Type} [MetricScalar α]

-- === slice pairs

namespace SlicePair

/-- The two slices share a tick. -/
def Meets (pair : SlicePair α) : Prop := pair.overlapBegin < pair.overlapEnd

instance (pair : SlicePair α) : Decidable pair.Meets :=
  inferInstanceAs (Decidable (_ < _))

/-- The pairs of links of two slices. -/
def linkPairs (pair : SlicePair α) : List (LinkPair α) :=
  pair.firstSlice.linkEnvelopes.zipIdx
    ×ˢ pair.secondSlice.linkEnvelopes.zipIdx

/-- The worst pair of links. -/
def worst (pair : SlicePair α) : BestPair α :=
  pair.linkPairs.foldl (fun best p => best.update p.1 p.2) {}

/-- The conflict two slices make, if they share a tick. -/
def conflict (options : ContinuousFleetOccupancyOptions α)
    (pair : SlicePair α) : Option (ContinuousOccupancyConflict α) :=
  if pair.Meets then sliceConflict options pair pair.worst else none

/-- How many pairs of links are compared. -/
def linkPairCount (pair : SlicePair α) : Nat :=
  if pair.Meets then pair.linkPairs.length else 0

end SlicePair

/-- What one pair of slices adds. -/
def FleetSweep.add (options : ContinuousFleetOccupancyOptions α)
    (report : FleetSweep α) (pair : SlicePair α) : FleetSweep α where
  conflicts := report.conflicts ++ (pair.conflict options).toList
  slicePairEvaluations := report.slicePairEvaluations + 1
  linkPairEvaluations := report.linkPairEvaluations + pair.linkPairCount

/-- Nothing found exceeds its limit. -/
structure FleetSweep.WithinLimits (options : ContinuousFleetOccupancyOptions α)
    (report : FleetSweep α) : Prop where
  slicePairs : report.slicePairEvaluations
    ≤ options.maximumSlicePairEvaluations
  linkPairs : report.linkPairEvaluations ≤ options.maximumLinkPairEvaluations
  conflicts : report.conflicts.length ≤ options.maximumConflicts

variable {options : ContinuousFleetOccupancyOptions α}

theorem FleetSweep.WithinLimits.of_add {report : FleetSweep α}
    {pair : SlicePair α} (h : (report.add options pair).WithinLimits options) :
    report.WithinLimits options := by
  obtain ⟨hslices, hlinks, hconflicts⟩ := h
  simp only [FleetSweep.add, List.length_append] at hslices hlinks hconflicts
  exact ⟨by omega, by omega, by omega⟩

/-- **One pair of slices**, under the three budgets. -/
theorem evaluateSlicePair_budgeted {report : FleetSweep α}
    (h : report.WithinLimits options) (pair : SlicePair α) :
    Budgeted ((report.add options pair).WithinLimits options)
      (evaluateSlicePair options report pair) (report.add options pair) := by
  obtain ⟨hslices, hlinks, hconflicts⟩ := h
  unfold evaluateSlicePair
  by_cases hfull : options.maximumSlicePairEvaluations
      ≤ report.slicePairEvaluations
  · rw [if_pos hfull]
    refine Budgeted.stop (fun hfits => ?_) _
    have hle : report.slicePairEvaluations + 1
        ≤ options.maximumSlicePairEvaluations := hfits.slicePairs
    omega
  · rw [if_neg hfull]
    have hroom : report.slicePairEvaluations + 1
        ≤ options.maximumSlicePairEvaluations := by omega
    by_cases hmeets : pair.Meets
    · have hcount : pair.linkPairCount = pair.linkPairs.length :=
        if_pos hmeets
      have hconflict : pair.conflict options
          = sliceConflict options pair pair.worst := if_pos hmeets
      rw [if_pos (show pair.overlapBegin < pair.overlapEnd from hmeets)]
      refine Budgeted.bind (sweepLinks_budgeted _ _ _
        ⟨report.linkPairEvaluations, {}⟩ hlinks) (fun hfit => ?_) ?_
      · -- the links are compared; their worst pair may be a conflict
        have hfit : report.linkPairEvaluations + pair.linkPairs.length
            ≤ options.maximumLinkPairEvaluations := hfit
        dsimp only
        rw [show (List.foldl (fun best p => best.update p.1 p.2) {}
            (pair.firstSlice.linkEnvelopes.zipIdx
              ×ˢ pair.secondSlice.linkEnvelopes.zipIdx)) = pair.worst from rfl,
          ← hconflict]
        cases hfound : pair.conflict options with
        | none =>
            have hadd : report.add options pair
                = { report with
                    slicePairEvaluations := report.slicePairEvaluations + 1
                    linkPairEvaluations :=
                      report.linkPairEvaluations + pair.linkPairs.length } := by
              simp [FleetSweep.add, hfound, hcount]
            rw [hadd]
            exact Budgeted.ok ⟨hroom, hfit, hconflicts⟩
        | some conflict =>
            have hadd : report.add options pair
                = { conflicts := report.conflicts ++ [conflict]
                    slicePairEvaluations := report.slicePairEvaluations + 1
                    linkPairEvaluations :=
                      report.linkPairEvaluations + pair.linkPairs.length } := by
              simp [FleetSweep.add, hfound, hcount]
            rw [hadd]
            by_cases hlast : options.maximumConflicts ≤ report.conflicts.length
            · dsimp only
              rw [if_pos hlast]
              refine Budgeted.stop (fun hfits => ?_) _
              have hle := hfits.conflicts
              simp only [List.length_append, List.length_singleton] at hle
              omega
            · dsimp only
              rw [if_neg hlast]
              refine Budgeted.ok ⟨hroom, hfit, ?_⟩
              simp only [List.length_append, List.length_singleton]
              omega
      · intro hfits
        have hle := hfits.linkPairs
        simp only [FleetSweep.add, hcount] at hle
        exact hle
    · have hadd : report.add options pair
          = { report with
              slicePairEvaluations := report.slicePairEvaluations + 1 } := by
        simp [FleetSweep.add, SlicePair.conflict, SlicePair.linkPairCount,
          hmeets]
      rw [if_neg (show ¬pair.overlapBegin < pair.overlapEnd from hmeets), hadd]
      exact Budgeted.ok ⟨hroom, hlinks, hconflicts⟩

/-- All pairs of slices, under the three budgets. -/
theorem evaluateSlicePairs_budgeted (pairs : List (SlicePair α)) :
    ∀ report : FleetSweep α, report.WithinLimits options →
    Budgeted
      ((pairs.foldl (FleetSweep.add options) report).WithinLimits options)
      (pairs.foldlM (evaluateSlicePair options) report)
      (pairs.foldl (FleetSweep.add options) report) := by
  induction pairs with
  | nil => exact fun report h => Budgeted.ok h
  | cons pair pairs ih =>
      intro report h
      rw [List.foldlM_cons, List.foldl_cons]
      refine (evaluateSlicePair_budgeted h pair).bind
        (fun hnext => ih _ hnext) ?_
      -- what the later pairs add keeps what was exceeded exceeded
      clear ih
      generalize report.add options pair = report
      intro hfits
      induction pairs generalizing report with
      | nil => exact hfits
      | cons pair pairs ih =>
          rw [List.foldl_cons] at hfits
          exact (ih _ hfits).of_add

-- === totals

/-- What some pairs of slices add up to. -/
theorem foldl_add (pairs : List (SlicePair α)) : ∀ report : FleetSweep α,
    pairs.foldl (FleetSweep.add options) report =
      { conflicts := report.conflicts
          ++ pairs.filterMap (SlicePair.conflict options)
        slicePairEvaluations := report.slicePairEvaluations + pairs.length
        linkPairEvaluations := report.linkPairEvaluations
          + (pairs.map SlicePair.linkPairCount).sum } := by
  induction pairs with
  | nil =>
      intro report
      simp
  | cons pair pairs ih =>
      intro report
      rw [List.foldl_cons, ih]
      simp only [FleetSweep.add, List.filterMap_cons, List.length_cons,
        List.map_cons, List.sum_cons, List.append_assoc, Nat.add_assoc,
        Nat.add_comm 1]
      cases pair.conflict options <;> rfl

-- === the loops

/-- The pairs of slices the cursors of two robots stand on, the robot with
the lesser id first. -/
def slicePairs (first second : RobotTrajectoryOccupancy α) :
    List (SlicePair α) :=
  if second.id < first.id then
    (Merge.merge SweptLinkOccupancySlice.endTick second.slices
      first.slices).map fun p => ⟨second, first, p.1, p.2⟩
  else
    (Merge.merge SweptLinkOccupancySlice.endTick first.slices
      second.slices).map fun p => ⟨first, second, p.1, p.2⟩

/-- The pairs of slices of all robots. -/
def evaluations (ordered : List (RobotTrajectoryOccupancy α)) :
    List (SlicePair α) :=
  (Sweep.pairs ordered).flatMap fun p => slicePairs p.1 p.2

theorem sweepSlices_eq (first second : RobotTrajectoryOccupancy α)
    (firstSlices secondSlices : List (SweptLinkOccupancySlice α))
    (report : FleetSweep α) :
    sweepSlices options first second firstSlices secondSlices report =
      ((Merge.merge SweptLinkOccupancySlice.endTick firstSlices
        secondSlices).map fun p => ⟨first, second, p.1, p.2⟩).foldlM
          (evaluateSlicePair options) report := by
  fun_induction Merge.merge SweptLinkOccupancySlice.endTick firstSlices
    secondSlices generalizing report with
  | case1 a as b bs hab hba ih =>
      rw [sweepSlices, List.map_cons, List.foldlM_cons]
      simp only [if_pos hab, if_pos hba, ih]
  | case2 a as b bs hab hba ih =>
      rw [sweepSlices, List.map_cons, List.foldlM_cons]
      simp only [if_pos hab, if_neg hba, ih]
  | case3 a as b bs hab ih =>
      rw [sweepSlices, List.map_cons, List.foldlM_cons]
      simp only [if_neg hab, ih]
  | case4 as bs hnone =>
      rw [sweepSlices.eq_def]
      split
      case h_1 a as b bs => exact absurd rfl (hnone a as b bs rfl)
      case h_2 => rfl

theorem sweepRobots_eq (first second : RobotTrajectoryOccupancy α)
    (report : FleetSweep α) : sweepRobots options first second report =
      (slicePairs first second).foldlM (evaluateSlicePair options) report := by
  unfold sweepRobots slicePairs
  by_cases hless : second.id < first.id
  · rw [if_pos hless, if_pos hless, sweepSlices_eq]
  · rw [if_neg hless, if_neg hless, sweepSlices_eq]

theorem sweepFleetRow_eq (first : RobotTrajectoryOccupancy α)
    (rest : List (RobotTrajectoryOccupancy α)) : ∀ report : FleetSweep α,
    sweepFleetRow options first rest report =
      (rest.flatMap (slicePairs first)).foldlM (evaluateSlicePair options)
        report := by
  induction rest with
  | nil => exact fun report => rfl
  | cons second rest ih =>
      intro report
      rw [sweepFleetRow, sweepRobots_eq, List.flatMap_cons, List.foldlM_append]
      simp only [ih]

/-- **The loops work on the evaluations**, one after the other. -/
theorem sweepFleet_eq (ordered : List (RobotTrajectoryOccupancy α)) :
    ∀ report : FleetSweep α, sweepFleet options ordered report =
      (evaluations ordered).foldlM (evaluateSlicePair options) report := by
  induction ordered with
  | nil => exact fun report => rfl
  | cons first rest ih =>
      intro report
      have hpairs : evaluations (first :: rest)
          = rest.flatMap (slicePairs first) ++ evaluations rest := by
        unfold evaluations
        rw [Sweep.pairs, List.flatMap_append, List.flatMap_map]
      rw [sweepFleet, sweepFleetRow_eq, hpairs, List.foldlM_append]
      simp only [ih]

end

end RbfSafe
