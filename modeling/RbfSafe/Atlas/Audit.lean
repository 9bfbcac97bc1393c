/-
`trajectory.cpp`: how much of a polyline the regions of an atlas cover.

Every segment is clipped against every region box, axis by axis; the
fractions of a segment that lie in a box are one closed interval or
none. The intervals are sorted and merged, and what is left of [0, 1]
between them is reported, with the ends that belong to it.

The answers of the cancellation token are a function of where the audit
is: the segment and the region tests made so far.
-/
import RbfSafe.Atlas.Types

namespace RbfSafe

/-- `std::clamp`. -/
def Scalar.clamp {α : Type} [Scalar α] (value lower upper : α) : α :=
  if Scalar.lt value lower then lower
  else if Scalar.lt upper value then upper
  else value

namespace Atlas

variable {α : Type} [Scalar α]

/-- `TrajectoryAuditStatus`; the second is the source's `Partial`. -/
inductive TrajectoryAuditStatus where
  | certified
  | partially
  | invalid
deriving DecidableEq, Repr

section
variable (α : Type)

/-- `TrajectoryInterval`. -/
structure TrajectoryInterval where
  segmentIndex : Nat
  startFraction : α
  endFraction : α
  startIncluded : Bool
  endIncluded : Bool

/-- `TrajectoryAuditReport`. -/
structure TrajectoryAuditReport where
  status : TrajectoryAuditStatus
  coverageRatio : α
  waypointCount : Nat
  segmentCount : Nat
  regionTests : Nat
  regionSequence : List RegionId
  uncoveredIntervals : List (TrajectoryInterval α)

/-- `RegionInterval`. -/
structure RegionInterval where
  start : α
  finish : α
  regionId : RegionId

/-- `CoveredInterval`. -/
structure CoveredInterval where
  start : α
  finish : α

end

/-- `TrajectoryAuditOptions`. -/
structure TrajectoryAuditOptions where
  maximumRegionTests : Nat := 10000000
  cancelled : Nat → Nat → Bool := fun _ _ => false

/-- The loop of `intersect_segment`, over the slabs and the two ends. -/
def intersectAxes : List (Interval α × α × α) → α → α → Option (α × α)
  | [], entry, exit => some (entry, exit)
  | (slab, first, second) :: rest, entry, exit =>
      let delta := Scalar.sub second first
      if Scalar.eq delta Scalar.zero then
        if slab.contains first Scalar.zero then
          intersectAxes rest entry exit
        else none
      else
        let lower := Scalar.div (Scalar.sub slab.lower first) delta
        let upper := Scalar.div (Scalar.sub slab.upper first) delta
        let bounds := if Scalar.lt upper lower then (upper, lower)
          else (lower, upper)
        let entry := Scalar.max entry bounds.1
        let exit := Scalar.min exit bounds.2
        if Scalar.lt exit entry then none
        else intersectAxes rest entry exit

/-- `intersect_segment`. -/
def intersectSegment (first second : List α) (bounds : CspaceAabb α) :
    Option (CoveredInterval α) :=
  match intersectAxes (bounds.axes.zip (first.zip second)) Scalar.zero
      Scalar.one with
  | none => none
  | some (entry, exit) =>
      if Scalar.lt exit Scalar.zero || Scalar.lt Scalar.one entry then none
      else some
        { start := Scalar.clamp entry Scalar.zero Scalar.one
          finish := Scalar.clamp exit Scalar.zero Scalar.one }

/-- The comparator of `audit`. -/
def RegionInterval.lt (left right : RegionInterval α) : Bool :=
  if !Scalar.eq left.start right.start then
    Scalar.lt left.start right.start
  else if !Scalar.eq left.finish right.finish then
    Scalar.lt right.finish left.finish
  else decide (left.regionId < right.regionId)

/-- `std::sort` with it. -/
def sortIntersections (intersections : List (RegionInterval α)) :
    List (RegionInterval α) :=
  intersections.mergeSort fun left right => !right.lt left

/-- The loop of `merge_coverage` once `covered` is not empty, `last` being
`covered.back()`. -/
def mergeFrom (last : CoveredInterval α) :
    List (RegionInterval α) → List (CoveredInterval α)
  | [] => [last]
  | intersection :: rest =>
      if Scalar.lt last.finish intersection.start then
        last :: mergeFrom
          { start := intersection.start, finish := intersection.finish } rest
      else mergeFrom
        { last with finish := Scalar.max last.finish intersection.finish }
        rest

/-- `merge_coverage`. -/
def mergeCoverage :
    List (RegionInterval α) → List (CoveredInterval α)
  | [] => []
  | intersection :: rest => mergeFrom
      { start := intersection.start, finish := intersection.finish } rest

/-- `append_region_sequence`. -/
def appendRegionSequence (intersections : List (RegionInterval α))
    (sequence : List RegionId) : List RegionId :=
  intersections.foldl (fun sequence intersection =>
    if sequence.getLast? = some intersection.regionId then sequence
    else sequence ++ [intersection.regionId]) sequence

/-- The intervals a segment adds to `uncovered_intervals`. -/
def uncoveredFrom (segment : Nat) : α → Bool → List (CoveredInterval α) →
    List (TrajectoryInterval α)
  | cursor, cursorIsCovered, [] =>
      if Scalar.lt cursor Scalar.one then
        [{ segmentIndex := segment, startFraction := cursor
           endFraction := Scalar.one, startIncluded := !cursorIsCovered
           endIncluded := true }]
      else []
  | cursor, cursorIsCovered, interval :: rest =>
      (if Scalar.lt cursor interval.start then
        [{ segmentIndex := segment, startFraction := cursor
           endFraction := interval.start
           startIncluded := !cursorIsCovered, endIncluded := false }]
        else [])
        ++ uncoveredFrom segment (Scalar.max cursor interval.finish) true
          rest

/-- What a segment adds to `covered_measure`. -/
def coveredMeasure (measure : α) (covered : List (CoveredInterval α)) : α :=
  covered.foldl (fun measure interval =>
    Scalar.add measure (Scalar.max Scalar.zero
      (Scalar.sub interval.finish interval.start))) measure

/-- What `audit` accumulates over the segments. -/
structure AuditState (α : Type) where
  coveredMeasure : α
  hasAnyCoverage : Bool := false
  regionTests : Nat := 0
  regionSequence : List RegionId := []
  uncoveredIntervals : List (TrajectoryInterval α) := []

/-- The end of `audit`: the ratio and the status. -/
def AuditState.report (waypointCount : Nat) (state : AuditState α) :
    TrajectoryAuditReport α :=
  let segmentCount := waypointCount - 1
  { status :=
      if state.uncoveredIntervals.isEmpty then .certified
      else if state.hasAnyCoverage then .partially
      else .invalid
    coverageRatio := Scalar.clamp
      (Scalar.div state.coveredMeasure (Scalar.decimal segmentCount 0))
      Scalar.zero Scalar.one
    waypointCount := waypointCount
    segmentCount := segmentCount
    regionTests := state.regionTests
    regionSequence := state.regionSequence
    uncoveredIntervals := state.uncoveredIntervals }

namespace TrajectoryAuditor

/-- The loop of `audit` over the regions. -/
def testRegions (options : TrajectoryAuditOptions) (segment : Nat)
    (first second : List α) : List (SafeRegion α) → Nat →
      Result (List (RegionInterval α) × Nat)
  | [], tests => .ok ([], tests)
  | region :: rest, tests =>
      if tests = options.maximumRegionTests then
        failure .resourceLimit
          "trajectory audit region-test budget exhausted" (ascii "trajectory")
      else if (tests + 1) % 1024 = 0
          ∧ options.cancelled segment (tests + 1) = true then
        failure .cancelled "trajectory audit was cancelled"
          (ascii "trajectory")
      else do
        let (intersections, tests) ←
          testRegions options segment first second rest (tests + 1)
        match intersectSegment first second region.bounds with
        | none => .ok (intersections, tests)
        | some overlap =>
            .ok ({ start := overlap.start, finish := overlap.finish
                   regionId := region.id } :: intersections, tests)

/-- One turn of the loop of `audit` over the segments. -/
def auditSegment (options : TrajectoryAuditOptions)
    (regions : List (SafeRegion α)) (segment : Nat)
    (first second : List α) (state : AuditState α) :
    Result (AuditState α) :=
  if options.cancelled segment state.regionTests then
    failure .cancelled "trajectory audit was cancelled" (ascii "trajectory")
  else do
    let (intersections, tests) ←
      testRegions options segment first second regions state.regionTests
    let intersections := sortIntersections intersections
    let covered := mergeCoverage intersections
    .ok
      { coveredMeasure := coveredMeasure state.coveredMeasure covered
        hasAnyCoverage := state.hasAnyCoverage || !intersections.isEmpty
        regionTests := tests
        regionSequence :=
          appendRegionSequence intersections state.regionSequence
        uncoveredIntervals := state.uncoveredIntervals
          ++ uncoveredFrom segment Scalar.zero false covered }

/-- The loop of `audit` over the segments. -/
def auditSegments (options : TrajectoryAuditOptions)
    (regions : List (SafeRegion α)) : Nat → List (List α × List α) →
      AuditState α → Result (AuditState α)
  | _, [], state => .ok state
  | segment, (first, second) :: rest, state => do
      let state ←
        auditSegment options regions segment first second state
      auditSegments options regions (segment + 1) rest state

/-- The loop of `audit` that checks the certificates. -/
def checkCertificates (atlas : SafeAtlas α) :
    List (SafeRegion α) → Result Unit
  | [] => .ok ()
  | region :: rest =>
      match atlas.certificates[region.certificateIndex]? with
      | none =>
          failure .internalError "Atlas region has no matching certificate"
            (ascii "trajectory Atlas")
      | some certificate =>
          if certificate.level ≠ .certifiedRegion
              ∨ certificate.robotDigest ≠ atlas.robotDigest
              ∨ certificate.sceneDigest ≠ atlas.sceneDigest then
            failure .internalError
              "Atlas region certificate is not audit-compatible"
              (ascii "trajectory Atlas")
          else checkCertificates atlas rest

/-- The loop of `audit` that checks the waypoints. -/
def checkWaypoints (dimension : Nat) : Nat → List (List α) → Result Unit
  | _, [] => .ok ()
  | index, waypoint :: rest => do
      validateConfiguration waypoint dimension
        (ascii "trajectory waypoint " ++ stdToString index)
      checkWaypoints dimension (index + 1) rest

/-- The loop of `audit` that checks the differences of the waypoints. -/
def checkDeltas : Nat → List (List α × List α) → Result Unit
  | _, [] => .ok ()
  | segment, (first, second) :: rest =>
      if (first.zip second).any fun ends =>
          !Scalar.isFinite (Scalar.sub ends.2 ends.1) then
        failure .invalidArgument "trajectory segment delta is not finite"
          (ascii "trajectory segment " ++ stdToString segment)
      else checkDeltas (segment + 1) rest

/-- The segments of a polyline. -/
def segments (trajectory : List (List α)) : List (List α × List α) :=
  trajectory.zip trajectory.tail

/-- `TrajectoryAuditor::audit`. -/
def audit (atlas : SafeAtlas α) (trajectory : List (List α))
    (options : TrajectoryAuditOptions) :
    Result (TrajectoryAuditReport α) :=
  if trajectory.length < 2 then
    failure .invalidArgument "trajectory must contain at least two waypoints"
      (ascii "trajectory")
  else if options.maximumRegionTests = 0 then
    failure .invalidArgument "maximum_region_tests must be positive"
      (ascii "trajectory options")
  else do
    checkCertificates atlas atlas.regions
    checkWaypoints atlas.dimension 0 trajectory
    checkDeltas 0 (segments trajectory)
    let state ← auditSegments options atlas.regions 0 (segments trajectory)
      { coveredMeasure := Scalar.zero }
    .ok (state.report trajectory.length)

end TrajectoryAuditor

end Atlas

end RbfSafe
