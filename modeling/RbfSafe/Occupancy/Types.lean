/-
Continuous occupancy: what a robot sweeps along a trajectory, slice by
slice.

A slice is a window of ticks with a box of configurations and one
workspace box for each link; `valid` makes the slices of an occupancy
follow one another from the first waypoint to the last, without gaps.
Everything is over a type of scalars, so that exact arithmetic is one
reading of it and doubles are another.
-/
import RbfSafe.Core.Workspace
import RbfSafe.Lib.Sorting

namespace RbfSafe

open Json

-- === constants

/-- `kMaximumSubdivisionDepth`. -/
def kMaximumSubdivisionDepth : Nat := 64

/-- `kOccupancyAlgorithm`. -/
def kOccupancyAlgorithm : Bytes :=
  ascii "ifk-aa-piecewise-linear-swept-link-aabb"

/-- `kOccupancyAlgorithmVersion1`. -/
def kOccupancyAlgorithmVersion1 : Bytes := ascii "1"

/-- `kOccupancyAlgorithmVersion2`. -/
def kOccupancyAlgorithmVersion2 : Bytes := ascii "2"

section
variable {α : Type} [Scalar α]

/-- `static_cast<double>` of an unsigned integer. -/
def Scalar.ofNat (n : Nat) : α := Scalar.decimal n 0

/-- `kPi`. -/
def kPi : α := Scalar.decimal 3141592653589793238462643383279502884 36

/-- `kRotationTolerance`. -/
def kRotationTolerance : α := Scalar.decimal 1 9

/-- `kIdentityRotation`. -/
def kIdentityRotation : Fin 9 → α
  | 0 | 4 | 8 => Scalar.one
  | _ => Scalar.zero

end

-- === records

section
variable (α : Type)

/-- `TimedConfiguration`. -/
structure TimedConfiguration where
  tick : Nat
  configuration : List α

/-- `DeploymentFrameBounds`, the rotation row by row. -/
structure DeploymentFrameBounds where
  rotation : Fin 9 → α
  translation : Fin 3 → α
  translationUncertainty : Fin 3 → α
  angularUncertaintyRadians : α

/-- `SweptLinkOccupancySlice`. -/
structure SweptLinkOccupancySlice where
  id : Bytes
  trajectorySegmentIndex : Nat
  beginTick : Nat
  endTick : Nat
  configurationDomain : CspaceAabb α
  linkEnvelopes : List (WorkspaceAabb α)

/-- `RobotTrajectoryOccupancy`. -/
structure RobotTrajectoryOccupancy where
  storageSchema : Nat
  id : Bytes
  timelineId : Bytes
  workspaceFrameId : Bytes
  deploymentId : Bytes
  robotDigest : Bytes
  workspaceTranslation : Fin 3 → α
  workspaceRotation : Fin 9 → α
  workspaceTranslationUncertainty : Fin 3 → α
  workspaceAngularUncertaintyRadians : α
  algorithm : Bytes
  algorithmVersion : Bytes
  maximumSubdivisionDepth : Nat
  maximumNormalizedJointWidth : α
  linkPadding : α
  trajectory : List (TimedConfiguration α)
  slices : List (SweptLinkOccupancySlice α)

end

variable {α : Type} [MetricScalar α]

-- === frames

/-- The `cell` of a matrix stored row by row. -/
def cell (row column : Fin 3) : Fin 9 := ⟨row * 3 + column, by omega⟩

/-- The dot products of two rows and of two columns. -/
def dots (rotation : Fin 9 → α) (first second : Fin 3) : α × α :=
  (List.finRange 3).foldl (fun dot axis =>
    (Scalar.add dot.1 (Scalar.mul (rotation (cell first axis))
        (rotation (cell second axis))),
      Scalar.add dot.2 (Scalar.mul (rotation (cell axis first))
        (rotation (cell axis second)))))
    (Scalar.zero, Scalar.zero)

/-- The `determinant` of `valid_rotation`. -/
def determinant (rotation : Fin 9 → α) : α :=
  let minor (a b c d : Fin 9) : α :=
    Scalar.sub (Scalar.mul (rotation a) (rotation b))
      (Scalar.mul (rotation c) (rotation d))
  Scalar.add
    (Scalar.sub (Scalar.mul (rotation 0) (minor 4 8 5 7))
      (Scalar.mul (rotation 1) (minor 3 8 5 6)))
    (Scalar.mul (rotation 2) (minor 3 7 4 6))

/-- `valid_rotation`. -/
def validRotation (rotation : Fin 9 → α) : Bool :=
  (List.finRange 9).all (fun i => Scalar.isFinite (rotation i))
    && (List.finRange 3).all (fun first => (List.finRange 3).all fun second =>
      let expected := if first = second then Scalar.one else Scalar.zero
      !(Scalar.lt kRotationTolerance
          (Scalar.abs (Scalar.sub (dots rotation first second).1 expected))
        || Scalar.lt kRotationTolerance
          (Scalar.abs (Scalar.sub (dots rotation first second).2 expected))))
    && Scalar.lt Scalar.zero (determinant rotation)
    && Scalar.le
      (Scalar.abs (Scalar.sub (determinant rotation) Scalar.one))
      kRotationTolerance

/-- `DeploymentFrameBounds::valid`. -/
def DeploymentFrameBounds.valid (frame : DeploymentFrameBounds α) : Bool :=
  validRotation frame.rotation
    && (List.finRange 3).all (fun axis =>
      Scalar.isFinite (frame.translation axis))
    && (List.finRange 3).all (fun axis =>
      Scalar.isFinite (frame.translationUncertainty axis)
        && Scalar.le Scalar.zero (frame.translationUncertainty axis))
    && Scalar.isFinite frame.angularUncertaintyRadians
    && Scalar.le Scalar.zero frame.angularUncertaintyRadians
    && Scalar.le frame.angularUncertaintyRadians kPi

/-- `legacy_translation_frame`. -/
def legacyTranslationFrame (frame : DeploymentFrameBounds α) : Bool :=
  (List.finRange 9).all (fun i =>
      Scalar.eq (frame.rotation i) (kIdentityRotation i))
    && (List.finRange 3).all (fun axis =>
      Scalar.eq (frame.translationUncertainty axis) Scalar.zero)
    && Scalar.eq frame.angularUncertaintyRadians Scalar.zero

/-- `occupancy_frame`. -/
def occupancyFrame (occupancy : RobotTrajectoryOccupancy α) :
    DeploymentFrameBounds α where
  rotation := occupancy.workspaceRotation
  translation := occupancy.workspaceTranslation
  translationUncertainty := occupancy.workspaceTranslationUncertainty
  angularUncertaintyRadians := occupancy.workspaceAngularUncertaintyRadians

-- === identities

/-- `configuration_json` of an occupancy. -/
def occupancyConfigurationJson (configuration : List α) : Json :=
  .array (configuration.map MetricScalar.json)

/-- `cspace_aabb_json`. -/
def cspaceAabbJson (domain : CspaceAabb α) : Json :=
  .object (obj [("axes", .array (domain.axes.map fun axis => .object (obj
    [("lower", MetricScalar.json axis.lower),
      ("upper", MetricScalar.json axis.upper)])))])

/-- `timed_configuration_json`. -/
def timedConfigurationJson (waypoint : TimedConfiguration α) : Json :=
  .object (obj
    [("configuration", occupancyConfigurationJson waypoint.configuration),
      ("tick", uint waypoint.tick)])

/-- `swept_slice_json`. -/
def sweptSliceJson (slice : SweptLinkOccupancySlice α) (includeId : Bool) :
    Json :=
  .object (obj
    ([("begin_tick", uint slice.beginTick),
        ("configuration_domain", cspaceAabbJson slice.configurationDomain),
        ("end_tick", uint slice.endTick),
        ("link_envelopes",
          .array (slice.linkEnvelopes.map WorkspaceAabb.json)),
        ("trajectory_segment_index", uint slice.trajectorySegmentIndex)]
      ++ if includeId then [("id", .string slice.id)] else []))

/-- The fields of the frame that a slice or an occupancy of the second
schema adds; the translation is named for a slice only. -/
def frameFields (occupancy : RobotTrajectoryOccupancy α)
    (includeTranslation : Bool) : List (String × Json) :=
  if 2 ≤ occupancy.storageSchema then
    [("workspace_angular_uncertainty_radians",
        MetricScalar.json occupancy.workspaceAngularUncertaintyRadians),
      ("workspace_rotation", .array ((List.finRange 9).map fun i =>
        MetricScalar.json (occupancy.workspaceRotation i)))]
      ++ (if includeTranslation then
        [("workspace_translation", .array ((List.finRange 3).map fun axis =>
          MetricScalar.json (occupancy.workspaceTranslation axis)))]
        else [])
      ++ [("workspace_translation_uncertainty",
        .array ((List.finRange 3).map fun axis =>
          MetricScalar.json (occupancy.workspaceTranslationUncertainty axis)))]
  else []

/-- `robot_trajectory_occupancy_json`, without the id. -/
def robotTrajectoryOccupancyJson (occupancy : RobotTrajectoryOccupancy α) :
    Json :=
  .object (obj
    ([("algorithm", .string occupancy.algorithm),
        ("algorithm_version", .string occupancy.algorithmVersion),
        ("deployment_id", .string occupancy.deploymentId),
        ("link_padding", MetricScalar.json occupancy.linkPadding),
        ("maximum_normalized_joint_width",
          MetricScalar.json occupancy.maximumNormalizedJointWidth),
        ("maximum_subdivision_depth", uint occupancy.maximumSubdivisionDepth),
        ("robot_digest", .string occupancy.robotDigest),
        ("slices", .array (occupancy.slices.map fun slice =>
          sweptSliceJson slice true)),
        ("storage_schema", uint occupancy.storageSchema),
        ("timeline_id", .string occupancy.timelineId),
        ("trajectory", .array (occupancy.trajectory.map
          timedConfigurationJson)),
        ("workspace_frame_id", .string occupancy.workspaceFrameId),
        ("workspace_translation", .array ((List.finRange 3).map fun axis =>
          MetricScalar.json (occupancy.workspaceTranslation axis)))]
      ++ frameFields occupancy false))

section
variable (P : Platform)

/-- `swept_link_occupancy_slice_identity`. -/
def sweptLinkOccupancySliceIdentity (occupancy : RobotTrajectoryOccupancy α)
    (slice : SweptLinkOccupancySlice α) : Bytes :=
  P.sha256 (dump P.toLibc false 0 (.object (obj
    ([("algorithm", .string occupancy.algorithm),
        ("algorithm_version", .string occupancy.algorithmVersion),
        ("deployment_id", .string occupancy.deploymentId),
        ("robot_digest", .string occupancy.robotDigest),
        ("slice", sweptSliceJson slice false),
        ("timeline_id", .string occupancy.timelineId),
        ("workspace_frame_id", .string occupancy.workspaceFrameId)]
      ++ frameFields occupancy true))))

/-- The document an occupancy is hashed as. -/
def occupancyDocument (occupancy : RobotTrajectoryOccupancy α) : Bytes :=
  dump P.toLibc false 0 (robotTrajectoryOccupancyJson occupancy)

/-- `robot_trajectory_occupancy_identity`. -/
def robotTrajectoryOccupancyIdentity
    (occupancy : RobotTrajectoryOccupancy α) : Bytes :=
  P.sha256 (occupancyDocument P occupancy)

end

-- === validity

/-- `interpolate`. -/
def interpolate (first second : List α) (fraction : α) : List α :=
  List.zipWith (fun a b =>
    Scalar.add a (Scalar.mul fraction (Scalar.sub b a))) first second

/-- `endpoint_domain`. -/
def endpointDomain (first second : List α) : CspaceAabb α :=
  ⟨List.zipWith (fun a b => ⟨Scalar.min a b, Scalar.max a b⟩) first second⟩

/-- What `slice_less` compares, in order. -/
def sliceKey (slice : SweptLinkOccupancySlice α) :
    Lib.Sorting.Tie Nat (Lib.Sorting.Tie Nat (Lib.Sorting.Tie Nat Bytes)) :=
  ⟨slice.trajectorySegmentIndex, slice.beginTick, slice.endTick, slice.id⟩

/-- `slice_less`. -/
def sliceLess (first second : SweptLinkOccupancySlice α) : Bool :=
  decide (sliceKey first < sliceKey second)

/-- The waypoints of `RobotTrajectoryOccupancy::valid`: of one dimension,
finite, their ticks increasing. -/
def validWaypoints (dimension : Nat) :
    Option Nat → List (TimedConfiguration α) → Bool
  | _, [] => true
  | previous, waypoint :: rest =>
      decide (waypoint.configuration.length = dimension)
        && waypoint.configuration.all Scalar.isFinite
        && previous.all (fun tick => decide (tick < waypoint.tick))
        && validWaypoints dimension (some waypoint.tick) rest

section
variable (P : Platform)

/-- The `configuration_at` of a segment. -/
def configurationAt (segmentBegin segmentEnd : TimedConfiguration α)
    (tick : Nat) : List α :=
  interpolate segmentBegin.configuration segmentEnd.configuration
    (Scalar.div (Scalar.ofNat (tick - segmentBegin.tick))
      (Scalar.ofNat (segmentEnd.tick - segmentBegin.tick)))

/-- What one slice has to be, on the segment from `segmentBegin` to
`segmentEnd`. -/
def validSlice (occupancy : RobotTrajectoryOccupancy α)
    (dimension linkCount : Nat) (segmentBegin segmentEnd : TimedConfiguration α)
    (slice : SweptLinkOccupancySlice α) : Bool :=
  validSha256 slice.id
    && decide (segmentBegin.tick ≤ slice.beginTick)
    && decide (slice.endTick ≤ segmentEnd.tick)
    && decide (slice.beginTick < slice.endTick)
    && decide (slice.configurationDomain.dimension = dimension)
    && slice.configurationDomain.valid
    && decide (slice.linkEnvelopes.length = linkCount)
    && slice.linkEnvelopes.all WorkspaceAabb.valid
    && decide (sweptLinkOccupancySliceIdentity P occupancy slice = slice.id)
    && axesEq
      (endpointDomain (configurationAt segmentBegin segmentEnd slice.beginTick)
        (configurationAt segmentBegin segmentEnd slice.endTick)).axes
      slice.configurationDomain.axes

/-- The slice loop of `RobotTrajectoryOccupancy::valid`: whether the
slices go on from `expectedBegin` on `currentSegment` to the end of the
trajectory. -/
def validSlices (occupancy : RobotTrajectoryOccupancy α)
    (dimension linkCount : Nat) :
    Option (SweptLinkOccupancySlice α) → Nat → Nat →
      List (SweptLinkOccupancySlice α) → Bool
  | _, currentSegment, _, [] =>
      decide (currentSegment + 1 = occupancy.trajectory.length)
  | previous, currentSegment, expectedBegin, slice :: rest =>
      match occupancy.trajectory[currentSegment]?,
          occupancy.trajectory[currentSegment + 1]? with
      | some segmentBegin, some segmentEnd =>
          decide (slice.trajectorySegmentIndex = currentSegment)
            && validSlice P occupancy dimension linkCount segmentBegin
              segmentEnd slice
            && previous.all (fun previous => sliceLess previous slice)
            && decide (slice.beginTick = expectedBegin)
            && if slice.endTick = segmentEnd.tick then
                validSlices occupancy dimension linkCount (some slice)
                  (currentSegment + 1)
                  (if currentSegment + 2 < occupancy.trajectory.length then
                    segmentEnd.tick else slice.endTick) rest
              else
                validSlices occupancy dimension linkCount (some slice)
                  currentSegment slice.endTick rest
      | _, _ => false

/-- `RobotTrajectoryOccupancy::valid`. -/
def RobotTrajectoryOccupancy.valid (occupancy : RobotTrajectoryOccupancy α) :
    Bool :=
  ((decide (occupancy.storageSchema = 1)
        && decide (occupancy.algorithmVersion = kOccupancyAlgorithmVersion1)
        && legacyTranslationFrame (occupancyFrame occupancy))
      || (decide (occupancy.storageSchema = 2)
        && decide (occupancy.algorithmVersion = kOccupancyAlgorithmVersion2)))
    && validSha256 occupancy.id && validIdentifier occupancy.timelineId
    && validIdentifier occupancy.workspaceFrameId
    && validIdentifier occupancy.deploymentId
    && validSha256 occupancy.robotDigest && (occupancyFrame occupancy).valid
    && decide (occupancy.algorithm = kOccupancyAlgorithm)
    && decide (occupancy.maximumSubdivisionDepth ≤ kMaximumSubdivisionDepth)
    && Scalar.isFinite occupancy.maximumNormalizedJointWidth
    && !Scalar.le occupancy.maximumNormalizedJointWidth Scalar.zero
    && Scalar.isFinite occupancy.linkPadding
    && !Scalar.lt occupancy.linkPadding Scalar.zero
    && match occupancy.trajectory, occupancy.slices with
      | first :: second :: rest, slice :: slices =>
          decide (first.configuration.length ≠ 0)
            && validWaypoints first.configuration.length none
              (first :: second :: rest)
            && decide (slice.linkEnvelopes.length ≠ 0)
            && validSlices P occupancy first.configuration.length
              slice.linkEnvelopes.length none 0 first.tick (slice :: slices)
            && decide (robotTrajectoryOccupancyIdentity P occupancy
              = occupancy.id)
      | _, _ => false

end

end RbfSafe
