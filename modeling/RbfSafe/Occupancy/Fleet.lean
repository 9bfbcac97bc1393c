/-
Continuous fleet occupancy: which robots may meet, by their swept
envelopes.

For each two robots the slices are merged by two cursors: the slice that
ends first is passed, both when they end together. Where two slices
share ticks, all their link boxes are compared, and the pair that is
worst, an overlap before any clearance, stands for them.
-/
import RbfSafe.Occupancy.Types

namespace RbfSafe

open Json

-- === records

/-- `ContinuousOccupancyConflictReason`. -/
inductive ContinuousOccupancyConflictReason where
  | sweptEnvelopeOverlap
  | separationMarginViolated
deriving DecidableEq, Repr

def ContinuousOccupancyConflictReason.toNat :
    ContinuousOccupancyConflictReason → Nat
  | .sweptEnvelopeOverlap => 0
  | .separationMarginViolated => 1

/-- `ContinuousFleetOccupancyStatus`. -/
inductive ContinuousFleetOccupancyStatus where
  | certifiedSeparatedUnderSweptEnvelopes
  | potentialConflict
deriving DecidableEq, Repr

def ContinuousFleetOccupancyStatus.toNat : ContinuousFleetOccupancyStatus → Nat
  | .certifiedSeparatedUnderSweptEnvelopes => 0
  | .potentialConflict => 1

section
variable (α : Type)

/-- `ContinuousOccupancyConflict`. -/
structure ContinuousOccupancyConflict where
  firstOccupancyId : Bytes
  secondOccupancyId : Bytes
  firstSliceId : Bytes
  secondSliceId : Bytes
  firstLinkIndex : Nat
  secondLinkIndex : Nat
  overlapBeginTick : Nat
  overlapEndTick : Nat
  reason : ContinuousOccupancyConflictReason
  clearanceLowerBound : α
  requiredMargin : α

/-- `ContinuousFleetOccupancyOptions`. -/
structure ContinuousFleetOccupancyOptions where
  minimumSeparation : α
  maximumOccupancies : Nat := 10000
  maximumConflicts : Nat := 1000000
  maximumSlicePairEvaluations : Nat := 10000000
  maximumLinkPairEvaluations : Nat := 100000000

/-- `ContinuousFleetOccupancyReport`. -/
structure ContinuousFleetOccupancyReport where
  id : Bytes := []
  timelineId : Bytes
  workspaceFrameId : Bytes
  status : ContinuousFleetOccupancyStatus
  minimumSeparation : α
  occupancyIds : List Bytes
  conflicts : List (ContinuousOccupancyConflict α)
  slicePairEvaluations : Nat
  linkPairEvaluations : Nat

end

variable {α : Type} [MetricScalar α]

/-- `valid_analysis_options`. -/
def validAnalysisOptions (options : ContinuousFleetOccupancyOptions α) :
    Bool :=
  Scalar.isFinite options.minimumSeparation
    && Scalar.le Scalar.zero options.minimumSeparation
    && decide (0 < options.maximumOccupancies)
    && decide (0 < options.maximumConflicts)
    && decide (0 < options.maximumSlicePairEvaluations)
    && decide (0 < options.maximumLinkPairEvaluations)

-- === report

/-- `continuous_occupancy_conflict_json`. -/
def continuousOccupancyConflictJson
    (conflict : ContinuousOccupancyConflict α) : Json :=
  .object (obj
    [("clearance_lower_bound",
        MetricScalar.json conflict.clearanceLowerBound),
      ("first_link_index", uint conflict.firstLinkIndex),
      ("first_occupancy_id", .string conflict.firstOccupancyId),
      ("first_slice_id", .string conflict.firstSliceId),
      ("overlap_begin_tick", uint conflict.overlapBeginTick),
      ("overlap_end_tick", uint conflict.overlapEndTick),
      ("reason", num conflict.reason.toNat),
      ("required_margin", MetricScalar.json conflict.requiredMargin),
      ("second_link_index", uint conflict.secondLinkIndex),
      ("second_occupancy_id", .string conflict.secondOccupancyId),
      ("second_slice_id", .string conflict.secondSliceId)])

/-- What `conflict_less` compares after the window: slices, links and
reason. -/
abbrev LinkKey : Type :=
  Lib.Sorting.Tie Bytes (Lib.Sorting.Tie Bytes
    (Lib.Sorting.Tie Nat (Lib.Sorting.Tie Nat Nat)))

instance : DecidableLT LinkKey := inferInstance
instance : Std.IsLinearOrder LinkKey := inferInstance
instance : Std.LawfulOrderLT LinkKey := inferInstance

/-- What `conflict_less` compares: robots and window, then the rest. -/
abbrev ConflictKey : Type :=
  Lib.Sorting.Tie Bytes (Lib.Sorting.Tie Bytes
    (Lib.Sorting.Tie Nat (Lib.Sorting.Tie Nat LinkKey)))

instance : DecidableLT ConflictKey := inferInstance
instance : Std.IsLinearOrder ConflictKey := inferInstance
instance : Std.LawfulOrderLT ConflictKey := inferInstance

/-- The components `conflict_less` compares, in order. -/
def conflictKey (conflict : ContinuousOccupancyConflict α) : ConflictKey :=
  ⟨conflict.firstOccupancyId, conflict.secondOccupancyId,
    conflict.overlapBeginTick, conflict.overlapEndTick, conflict.firstSliceId,
    conflict.secondSliceId, conflict.firstLinkIndex, conflict.secondLinkIndex,
    conflict.reason.toNat⟩

/-- `valid_conflict`. -/
def validConflict (conflict : ContinuousOccupancyConflict α) : Bool :=
  validSha256 conflict.firstOccupancyId
    && validSha256 conflict.secondOccupancyId
    && decide (conflict.firstOccupancyId < conflict.secondOccupancyId)
    && validSha256 conflict.firstSliceId && validSha256 conflict.secondSliceId
    && decide (conflict.overlapBeginTick < conflict.overlapEndTick)
    && Scalar.isFinite conflict.clearanceLowerBound
    && Scalar.le Scalar.zero conflict.clearanceLowerBound
    && Scalar.isFinite conflict.requiredMargin
    && Scalar.le Scalar.zero conflict.requiredMargin
    && match conflict.reason with
      | .sweptEnvelopeOverlap =>
          Scalar.eq conflict.clearanceLowerBound Scalar.zero
      | .separationMarginViolated =>
          Scalar.lt conflict.clearanceLowerBound conflict.requiredMargin

section
variable (P : Platform)

/-- `continuous_fleet_occupancy_report_identity`. -/
def continuousFleetOccupancyReportIdentity
    (report : ContinuousFleetOccupancyReport α) : Bytes :=
  P.sha256 (dump P.toLibc false 0 (.object (obj
    [("conflicts",
        .array (report.conflicts.map continuousOccupancyConflictJson)),
      ("link_pair_evaluations", uint report.linkPairEvaluations),
      ("minimum_separation", MetricScalar.json report.minimumSeparation),
      ("occupancy_ids", .array (report.occupancyIds.map .string)),
      ("slice_pair_evaluations", uint report.slicePairEvaluations),
      ("status", num report.status.toNat),
      ("timeline_id", .string report.timelineId),
      ("workspace_frame_id", .string report.workspaceFrameId)])))

/-- Neighbours in strictly increasing order: `std::is_sorted` and no equal
neighbours. -/
def strictlySorted {κ : Type} [LT κ] [DecidableLT κ] : List κ → Bool
  | first :: second :: rest =>
      decide (first < second) && strictlySorted (second :: rest)
  | _ => true

/-- `ContinuousFleetOccupancyReport::valid`. -/
def ContinuousFleetOccupancyReport.valid
    (report : ContinuousFleetOccupancyReport α) : Bool :=
  validSha256 report.id && validIdentifier report.timelineId
    && validIdentifier report.workspaceFrameId
    && Scalar.isFinite report.minimumSeparation
    && !Scalar.lt report.minimumSeparation Scalar.zero
    && decide (2 ≤ report.occupancyIds.length)
    && strictlySorted report.occupancyIds
    && report.occupancyIds.all validSha256
    && report.conflicts.all validConflict
    && decide (report.conflicts.length ≤ report.slicePairEvaluations)
    && decide (report.conflicts.length ≤ report.linkPairEvaluations)
    && (match report.status with
      | .certifiedSeparatedUnderSweptEnvelopes => report.conflicts.isEmpty
      | .potentialConflict => !report.conflicts.isEmpty)
    && strictlySorted (report.conflicts.map conflictKey)
    && report.conflicts.all (fun conflict =>
      decide (conflict.firstOccupancyId ∈ report.occupancyIds)
        && decide (conflict.secondOccupancyId ∈ report.occupancyIds)
        && Scalar.eq conflict.requiredMargin report.minimumSeparation)
    && decide (continuousFleetOccupancyReportIdentity P report = report.id)

end

-- === link pairs

/-- `std::numeric_limits<double>::epsilon`. -/
def machineEpsilon : α :=
  Scalar.div Scalar.one (Scalar.ofNat 4503599627370496)

/-- The `clearance` of two link boxes: the distance less a guard against
rounding, not below zero. -/
def guardedClearance (first second : WorkspaceAabb α) : α :=
  let rawClearance := first.distanceLowerBound second
  if Scalar.isFinite rawClearance then
    let roundingGuard := Scalar.mul
      (Scalar.mul machineEpsilon (Scalar.ofNat 16))
      (Scalar.max Scalar.one rawClearance)
    Scalar.max Scalar.zero (Scalar.sub rawClearance roundingGuard)
  else Scalar.zero

/-- The worst pair of links so far; the clearance it starts with is
infinite. -/
structure BestPair (α : Type) where
  foundOverlap : Bool := false
  clearance : Option α := none
  firstLink : Nat := 0
  secondLink : Nat := 0

/-- `clearance < best_clearance`: every finite number is below the
infinite one. -/
def clearanceBelow (clearance : α) : Option α → Bool
  | none => Scalar.isFinite clearance
  | some best => Scalar.lt clearance best

/-- One pair of links against the worst so far. -/
def BestPair.update (best : BestPair α) (first second : WorkspaceAabb α × Nat) :
    BestPair α :=
  let clearance := guardedClearance first.1 second.1
  let overlaps := first.1.overlaps second.1 Scalar.zero
  if (overlaps = true ∧ best.foundOverlap = false)
      ∨ (overlaps = best.foundOverlap
        ∧ clearanceBelow clearance best.clearance = true) then
    { foundOverlap := overlaps
      clearance := some clearance
      firstLink := first.2
      secondLink := second.2 }
  else best

/-- The number of link pairs and the worst of them. -/
structure LinkSweep (α : Type) where
  linkPairEvaluations : Nat
  best : BestPair α

/-- The inner loop over the links of two slices. -/
def sweepLinkRow (maximum : Nat) (first : WorkspaceAabb α × Nat) :
    List (WorkspaceAabb α × Nat) → LinkSweep α → Result (LinkSweep α)
  | [], state => .ok state
  | second :: rest, state =>
      if maximum ≤ state.linkPairEvaluations then
        failure .resourceLimit
          "continuous occupancy link-pair budget was exhausted"
      else sweepLinkRow maximum first rest
        { linkPairEvaluations := state.linkPairEvaluations + 1
          best := state.best.update first second }

/-- The outer loop over the links of two slices. -/
def sweepLinks (maximum : Nat) (second : List (WorkspaceAabb α × Nat)) :
    List (WorkspaceAabb α × Nat) → LinkSweep α → Result (LinkSweep α)
  | [], state => .ok state
  | first :: rest, state => do
      let state ← sweepLinkRow maximum first second state
      sweepLinks maximum second rest state

-- === slices

/-- Two slices of two robots. -/
structure SlicePair (α : Type) where
  first : RobotTrajectoryOccupancy α
  second : RobotTrajectoryOccupancy α
  firstSlice : SweptLinkOccupancySlice α
  secondSlice : SweptLinkOccupancySlice α

/-- `overlap_begin`. -/
def SlicePair.overlapBegin (pair : SlicePair α) : Nat :=
  Nat.max pair.firstSlice.beginTick pair.secondSlice.beginTick

/-- `overlap_end`. -/
def SlicePair.overlapEnd (pair : SlicePair α) : Nat :=
  Nat.min pair.firstSlice.endTick pair.secondSlice.endTick

/-- What the analysis has found so far. -/
structure FleetSweep (α : Type) where
  conflicts : List (ContinuousOccupancyConflict α) := []
  slicePairEvaluations : Nat := 0
  linkPairEvaluations : Nat := 0

/-- The conflict of two slices with this worst pair of links, if it is
one. -/
def sliceConflict (options : ContinuousFleetOccupancyOptions α)
    (pair : SlicePair α) (best : BestPair α) :
    Option (ContinuousOccupancyConflict α) :=
  let conflict (reason : ContinuousOccupancyConflictReason) (clearance : α) :
      ContinuousOccupancyConflict α :=
    { firstOccupancyId := pair.first.id
      secondOccupancyId := pair.second.id
      firstSliceId := pair.firstSlice.id
      secondSliceId := pair.secondSlice.id
      firstLinkIndex := best.firstLink
      secondLinkIndex := best.secondLink
      overlapBeginTick := pair.overlapBegin
      overlapEndTick := pair.overlapEnd
      reason
      clearanceLowerBound := clearance
      requiredMargin := options.minimumSeparation }
  if best.foundOverlap then
    some (conflict .sweptEnvelopeOverlap Scalar.zero)
  else match best.clearance with
    | none => none
    | some clearance =>
        if Scalar.lt clearance options.minimumSeparation then
          some (conflict .separationMarginViolated clearance)
        else none

/-- The body of the loop over slices, on one pair of them. -/
def evaluateSlicePair (options : ContinuousFleetOccupancyOptions α)
    (report : FleetSweep α) (pair : SlicePair α) : Result (FleetSweep α) :=
  if options.maximumSlicePairEvaluations ≤ report.slicePairEvaluations then
    failure .resourceLimit
      "continuous occupancy slice-pair budget was exhausted"
  else
    let report := { report with
      slicePairEvaluations := report.slicePairEvaluations + 1 }
    if pair.overlapBegin < pair.overlapEnd then do
      let links ← sweepLinks options.maximumLinkPairEvaluations
        pair.secondSlice.linkEnvelopes.zipIdx
        pair.firstSlice.linkEnvelopes.zipIdx
        ⟨report.linkPairEvaluations, {}⟩
      let report := { report with
        linkPairEvaluations := links.linkPairEvaluations }
      match sliceConflict options pair links.best with
      | none => .ok report
      | some conflict =>
          if options.maximumConflicts ≤ report.conflicts.length then
            failure .resourceLimit
              "continuous occupancy conflict budget was exhausted"
          else .ok { report with conflicts := report.conflicts ++ [conflict] }
    else .ok report

/-- The loop over the slices of two robots: two cursors, of which the one
on the slice that ends first moves on, both when they end together. -/
def sweepSlices (options : ContinuousFleetOccupancyOptions α)
    (first second : RobotTrajectoryOccupancy α) :
    List (SweptLinkOccupancySlice α) → List (SweptLinkOccupancySlice α) →
      FleetSweep α → Result (FleetSweep α)
  | firstSlice :: firstRest, secondSlice :: secondRest, report => do
      let report ← evaluateSlicePair options report
        ⟨first, second, firstSlice, secondSlice⟩
      if firstSlice.endTick ≤ secondSlice.endTick then
        if secondSlice.endTick ≤ firstSlice.endTick then
          sweepSlices options first second firstRest secondRest report
        else
          sweepSlices options first second firstRest
            (secondSlice :: secondRest) report
      else
        sweepSlices options first second (firstSlice :: firstRest) secondRest
          report
  | _, _, report => .ok report
termination_by firstSlices secondSlices =>
  firstSlices.length + secondSlices.length

/-- One pair of robots, the one with the lesser id first. -/
def sweepRobots (options : ContinuousFleetOccupancyOptions α)
    (first second : RobotTrajectoryOccupancy α) (report : FleetSweep α) :
    Result (FleetSweep α) :=
  if second.id < first.id then
    sweepSlices options second first second.slices first.slices report
  else sweepSlices options first second first.slices second.slices report

/-- The inner loop over the robots. -/
def sweepFleetRow (options : ContinuousFleetOccupancyOptions α)
    (first : RobotTrajectoryOccupancy α) :
    List (RobotTrajectoryOccupancy α) → FleetSweep α → Result (FleetSweep α)
  | [], report => .ok report
  | second :: rest, report => do
      let report ← sweepRobots options first second report
      sweepFleetRow options first rest report

/-- The outer loop over the robots. -/
def sweepFleet (options : ContinuousFleetOccupancyOptions α) :
    List (RobotTrajectoryOccupancy α) → FleetSweep α → Result (FleetSweep α)
  | [], report => .ok report
  | first :: rest, report => do
      let report ← sweepFleetRow options first rest report
      sweepFleet options rest report

-- === analysis

/-- What the robots are sorted by. -/
def robotKey (occupancy : RobotTrajectoryOccupancy α) :
    Lib.Sorting.Tie Bytes Bytes :=
  ⟨occupancy.deploymentId, occupancy.id⟩

section
variable (P : Platform)

/-- The validity loop of `analyze_continuous_fleet_occupancy`. -/
def checkOccupancies : List (RobotTrajectoryOccupancy α) → Result Unit
  | [] => .ok ()
  | occupancy :: rest =>
      if occupancy.valid P = false then
        failure .identityMismatch "continuous fleet occupancy input is invalid"
          occupancy.id
      else checkOccupancies rest

/-- The loop over the sorted robots: one timeline, one frame, deployments
apart. -/
def checkFleet (timelineId workspaceFrameId : Bytes) :
    Option Bytes → List (RobotTrajectoryOccupancy α) → Result Unit
  | _, [] => .ok ()
  | previous, occupancy :: rest =>
      if occupancy.timelineId ≠ timelineId
          ∨ occupancy.workspaceFrameId ≠ workspaceFrameId then
        failure .identityMismatch
          "continuous occupancies do not share a timeline and workspace frame"
      else if previous = some occupancy.deploymentId then
        failure .invalidArgument
          "continuous occupancy deployment identifiers must be unique"
          occupancy.deploymentId
      else checkFleet timelineId workspaceFrameId (some occupancy.deploymentId)
        rest

/-- The report on sorted robots that `sweep` has been found of. -/
def fleetReport (options : ContinuousFleetOccupancyOptions α)
    (timelineId workspaceFrameId : Bytes)
    (ordered : List (RobotTrajectoryOccupancy α)) (sweep : FleetSweep α) :
    ContinuousFleetOccupancyReport α :=
  let report : ContinuousFleetOccupancyReport α :=
    { timelineId
      workspaceFrameId
      status := if sweep.conflicts.isEmpty then
        .certifiedSeparatedUnderSweptEnvelopes else .potentialConflict
      minimumSeparation := options.minimumSeparation
      occupancyIds := Lib.Sorting.sort (fun id => id) (ordered.map (·.id))
      conflicts := Lib.Sorting.sort conflictKey sweep.conflicts
      slicePairEvaluations := sweep.slicePairEvaluations
      linkPairEvaluations := sweep.linkPairEvaluations }
  { report with id := continuousFleetOccupancyReportIdentity P report }

/-- `analyze_continuous_fleet_occupancy`. -/
def analyzeContinuousFleetOccupancy
    (occupancies : List (RobotTrajectoryOccupancy α))
    (options : ContinuousFleetOccupancyOptions α) :
    Result (ContinuousFleetOccupancyReport α) :=
  if validAnalysisOptions options = false then
    failure .invalidArgument
      "continuous fleet occupancy analysis options are invalid"
  else if occupancies.length < 2 then
    failure .invalidArgument
      "continuous fleet occupancy analysis requires at least two occupancies"
  else if options.maximumOccupancies < occupancies.length then
    failure .resourceLimit
      "continuous fleet occupancy count exceeds configured limit"
  else do
    let _ ← checkOccupancies P occupancies
    match Lib.Sorting.sort robotKey occupancies with
    | [] =>
        -- there are at least two
        failure .internalError "continuous fleet occupancy input is empty"
    | front :: rest => do
        let _ ← checkFleet front.timelineId front.workspaceFrameId none
          (front :: rest)
        let sweep ← sweepFleet options (front :: rest) {}
        let report := fleetReport P options front.timelineId
          front.workspaceFrameId (front :: rest) sweep
        if report.valid P = false then
          failure .internalError
            "continuous fleet occupancy analysis produced an invalid report"
        else .ok report

end

end RbfSafe
