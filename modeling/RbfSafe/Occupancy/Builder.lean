/-
`build_robot_trajectory_occupancy`: the slices of a trajectory.

Each segment between two waypoints is halved, at a tick in its middle,
until the joints of a part stay within the bound or the depth is used up;
what a part sweeps becomes a slice. The builder checks its result with
`valid`, and a stored occupancy is verified by building it again.

The envelope of a box of configurations is a parameter: `LinkEnvelopes`.
-/
import RbfSafe.Core.Robot
import RbfSafe.Core.RoundedScalar
import RbfSafe.Occupancy.Types

namespace RbfSafe

-- === options

section
variable (α : Type)

/-- `ContinuousOccupancyBuildOptions`. -/
structure ContinuousOccupancyBuildOptions where
  maximumInputWaypoints : Nat := 100000
  maximumSlices : Nat := 1000000
  maximumLinkEnvelopes : Nat := 10000000
  maximumSubdivisionDepth : Nat := 16
  maximumNormalizedJointWidth : α
  linkPadding : α

/-- `PendingSlice`. -/
structure PendingSlice where
  trajectorySegmentIndex : Nat
  beginTick : Nat
  endTick : Nat
  beginConfiguration : List α
  endConfiguration : List α
  depth : Nat

end

/-- `ContinuousOccupancyReplayOptions`. -/
structure ContinuousOccupancyReplayOptions where
  maximumInputWaypoints : Nat := 100000
  maximumSlices : Nat := 1000000
  maximumLinkEnvelopes : Nat := 10000000

/-- `compute_ifk_aa_link_envelope`: a box for each link of the robot. -/
structure LinkEnvelopes (α : Type) where
  compute : SerialRobotModel α → CspaceAabb α → α →
    Result (List (WorkspaceAabb α))
  length_compute : ∀ {robot domain padding links},
    compute robot domain padding = .ok links →
      links.length = robot.linkRadii.length

variable {α : Type} [SteppedScalar α]

/-- `valid_build_options`. -/
def validBuildOptions (options : ContinuousOccupancyBuildOptions α) : Bool :=
  decide (2 ≤ options.maximumInputWaypoints)
    && decide (0 < options.maximumSlices)
    && decide (0 < options.maximumLinkEnvelopes)
    && decide (options.maximumSubdivisionDepth ≤ kMaximumSubdivisionDepth)
    && Scalar.isFinite options.maximumNormalizedJointWidth
    && Scalar.lt Scalar.zero options.maximumNormalizedJointWidth
    && Scalar.isFinite options.linkPadding
    && Scalar.le Scalar.zero options.linkPadding

/-- `valid_replay_options`. -/
def validReplayOptions (options : ContinuousOccupancyReplayOptions) : Bool :=
  decide (2 ≤ options.maximumInputWaypoints)
    && decide (0 < options.maximumSlices)
    && decide (0 < options.maximumLinkEnvelopes)

/-- `configuration_within_limits`. -/
def configurationWithinLimits (robot : SerialRobotModel α)
    (configuration : List α) : Bool :=
  decide (configuration.length = robot.dimension)
    && (robot.jointLimits.zip configuration).all fun p =>
      p.1.contains p.2 Scalar.zero

/-- `normalized_joint_width`, `none` where it is infinite. -/
def normalizedJointWidth (robot : SerialRobotModel α) (domain : CspaceAabb α) :
    Option α :=
  (robot.jointLimits.zip domain.axes).foldlM (fun maximum p =>
    if Scalar.eq p.1.width Scalar.zero then
      if Scalar.eq p.2.width Scalar.zero then some maximum else none
    else some (Scalar.max maximum (Scalar.div p.2.width p.1.width)))
    Scalar.zero

-- === envelopes

/-- A box of `translated_envelopes`. -/
def translatedEnvelope (translation : Fin 3 → α) (box : WorkspaceAabb α) :
    Result (WorkspaceAabb α) :=
  let moved : WorkspaceAabb α :=
    { lower := fun axis => SteppedScalar.nextDown
        (Scalar.add (box.lower axis) (translation axis))
      upper := fun axis => SteppedScalar.nextUp
        (Scalar.add (box.upper axis) (translation axis)) }
  if moved.valid = false then
    failure .invalidArgument
      "workspace translation produced a non-finite swept envelope"
  else .ok moved

/-- `maximum_radius_squared` of a box. -/
def maximumRadiusSquared (frame : DeploymentFrameBounds α)
    (box : WorkspaceAabb α) : Result α :=
  (List.finRange 3).foldlM (fun sum outputAxis =>
    let coordinate := (List.finRange 3).foldl (fun coordinate inputAxis =>
      SteppedScalar.nextUp (Scalar.add coordinate
        (SteppedScalar.nextUp (Scalar.mul
          (Scalar.abs (frame.rotation (cell outputAxis inputAxis)))
          (Scalar.max (Scalar.abs (box.lower inputAxis))
            (Scalar.abs (box.upper inputAxis)))))))
      Scalar.zero
    let squared := Scalar.mul coordinate coordinate
    if Scalar.isFinite squared = false then
      failure .invalidArgument
        "deployment-frame angular uncertainty produced a non-finite radius"
    else .ok (SteppedScalar.nextUp
      (Scalar.add sum (SteppedScalar.nextUp squared))))
    Scalar.zero

/-- `angular_expansion` of a box. -/
def angularExpansion (frame : DeploymentFrameBounds α)
    (box : WorkspaceAabb α) : Result α :=
  if Scalar.lt Scalar.zero frame.angularUncertaintyRadians = false then
    .ok Scalar.zero
  else do
    let squared ← maximumRadiusSquared frame box
    let maximumRadius := SteppedScalar.nextUp (MetricScalar.sqrt squared)
    let chordScale := Scalar.min frame.angularUncertaintyRadians
      (Scalar.decimal 2 0)
    let expansion := SteppedScalar.nextUp (Scalar.mul chordScale maximumRadius)
    if Scalar.isFinite expansion = false then
      failure .invalidArgument
        "deployment-frame angular uncertainty produced a non-finite expansion"
    else .ok expansion

/-- The bounds of one axis of `transformed_envelopes`. -/
def transformedBounds (frame : DeploymentFrameBounds α) (box : WorkspaceAabb α)
    (expansion : α) (outputAxis : Fin 3) : Result (α × α) := do
  let bounds ← (List.finRange 3).foldlM (fun bounds inputAxis =>
    let coefficient := frame.rotation (cell outputAxis inputAxis)
    if Scalar.eq coefficient Scalar.zero then .ok bounds
    else
      let positive := Scalar.lt Scalar.zero coefficient
      let lowerProduct := Scalar.mul coefficient
        (if positive then box.lower inputAxis else box.upper inputAxis)
      let upperProduct := Scalar.mul coefficient
        (if positive then box.upper inputAxis else box.lower inputAxis)
      if Scalar.isFinite lowerProduct = false
          ∨ Scalar.isFinite upperProduct = false then
        failure .invalidArgument
          "deployment-frame rotation produced a non-finite swept envelope"
      else .ok
        (SteppedScalar.nextDown (Scalar.add bounds.1
            (SteppedScalar.nextDown lowerProduct)),
          SteppedScalar.nextUp (Scalar.add bounds.2
            (SteppedScalar.nextUp upperProduct))))
    (frame.translation outputAxis, frame.translation outputAxis)
  let total := Scalar.add (frame.translationUncertainty outputAxis) expansion
  .ok (SteppedScalar.nextDown (Scalar.sub bounds.1 total),
    SteppedScalar.nextUp (Scalar.add bounds.2 total))

/-- A box of `transformed_envelopes`. -/
def transformedEnvelope (frame : DeploymentFrameBounds α)
    (box : WorkspaceAabb α) : Result (WorkspaceAabb α) := do
  let expansion ← angularExpansion frame box
  let x ← transformedBounds frame box expansion 0
  let y ← transformedBounds frame box expansion 1
  let z ← transformedBounds frame box expansion 2
  let transformed : WorkspaceAabb α :=
    { lower := ![x.1, y.1, z.1], upper := ![x.2, y.2, z.2] }
  if transformed.valid = false then
    failure .invalidArgument
      "deployment-frame bounds produced a non-finite swept envelope"
  else .ok transformed

/-- `translated_envelopes` or `transformed_envelopes`, as the schema says. -/
def deployedEnvelopes (storageSchema : Nat) (frame : DeploymentFrameBounds α)
    (links : List (WorkspaceAabb α)) : Result (List (WorkspaceAabb α)) :=
  if storageSchema = 1 then links.mapM (translatedEnvelope frame.translation)
  else links.mapM (transformedEnvelope frame)

-- === checks

/-- The waypoint loop of the builder. -/
def checkWaypoints (robot : SerialRobotModel α) :
    Nat → Option Nat → List (TimedConfiguration α) → Result Unit
  | _, _, [] => .ok ()
  | index, previous, waypoint :: rest => do
      validateConfiguration waypoint.configuration robot.dimension
        (ascii "trajectory waypoint " ++ stdToString index)
      if configurationWithinLimits robot waypoint.configuration = false then
        failure .invalidArgument "trajectory waypoint is outside robot joint limits"
          (stdToString index)
      else if ∃ tick ∈ previous, waypoint.tick ≤ tick then
        failure .invalidArgument "trajectory ticks must be strictly increasing"
      else checkWaypoints robot (index + 1) (some waypoint.tick) rest

/-- What a builder is given beside the robot and the trajectory. -/
structure OccupancyMetadata (α : Type) where
  timelineId : Bytes
  workspaceFrameId : Bytes
  deploymentId : Bytes
  frame : DeploymentFrameBounds α
  storageSchema : Nat

/-- The input checks of `build_robot_trajectory_occupancy_impl`. -/
def checkBuild (robot : SerialRobotModel α) (metadata : OccupancyMetadata α)
    (trajectory : List (TimedConfiguration α))
    (options : ContinuousOccupancyBuildOptions α) : Result Unit := do
  robot.validate
  if validBuildOptions options = false
      ∨ validIdentifier metadata.timelineId = false
      ∨ validIdentifier metadata.workspaceFrameId = false
      ∨ validIdentifier metadata.deploymentId = false
      ∨ metadata.frame.valid = false
      ∨ (metadata.storageSchema ≠ 1 ∧ metadata.storageSchema ≠ 2)
      ∨ (metadata.storageSchema = 1
        ∧ legacyTranslationFrame metadata.frame = false) then
    failure .invalidArgument
      "continuous occupancy metadata or build options are invalid"
  else if options.maximumInputWaypoints < trajectory.length then
    failure .resourceLimit "trajectory exceeds configured waypoint limit"
  else if trajectory.length < 2 then
    failure .invalidArgument "trajectory must contain at least two waypoints"
  else checkWaypoints robot 0 none trajectory

-- === slicing

section
variable (P : Platform) (E : LinkEnvelopes α) (robot : SerialRobotModel α)
  (metadata : OccupancyMetadata α) (trajectory : List (TimedConfiguration α))
  (options : ContinuousOccupancyBuildOptions α)

/-- The occupancy before it has slices. -/
def draftOccupancy : RobotTrajectoryOccupancy α where
  storageSchema := metadata.storageSchema
  id := []
  timelineId := metadata.timelineId
  workspaceFrameId := metadata.workspaceFrameId
  deploymentId := metadata.deploymentId
  robotDigest := robot.digest P
  workspaceTranslation := metadata.frame.translation
  workspaceRotation := metadata.frame.rotation
  workspaceTranslationUncertainty := metadata.frame.translationUncertainty
  workspaceAngularUncertaintyRadians := metadata.frame.angularUncertaintyRadians
  algorithm := kOccupancyAlgorithm
  algorithmVersion := if metadata.storageSchema = 1
    then kOccupancyAlgorithmVersion1 else kOccupancyAlgorithmVersion2
  maximumSubdivisionDepth := options.maximumSubdivisionDepth
  maximumNormalizedJointWidth := options.maximumNormalizedJointWidth
  linkPadding := options.linkPadding
  trajectory := trajectory
  slices := []

/-- Whether a part of a segment is halved. -/
def halves (candidate : PendingSlice α) : Bool :=
  (normalizedJointWidth robot
      (endpointDomain candidate.beginConfiguration candidate.endConfiguration)
    ).all (fun width => Scalar.lt options.maximumNormalizedJointWidth width)
    && decide (candidate.depth < options.maximumSubdivisionDepth)
    && decide (1 < candidate.endTick - candidate.beginTick)

/-- `midpoint_tick`. -/
def midpointTick (candidate : PendingSlice α) : Nat :=
  candidate.beginTick + (candidate.endTick - candidate.beginTick) / 2

/-- The earlier half of a part. -/
def earlierHalf (first last : TimedConfiguration α)
    (candidate : PendingSlice α) : PendingSlice α :=
  { candidate with
    endTick := midpointTick candidate
    endConfiguration := configurationAt first last (midpointTick candidate)
    depth := candidate.depth + 1 }

/-- The later half of a part. -/
def laterHalf (first last : TimedConfiguration α)
    (candidate : PendingSlice α) : PendingSlice α :=
  { candidate with
    beginTick := midpointTick candidate
    beginConfiguration := configurationAt first last (midpointTick candidate)
    depth := candidate.depth + 1 }

/-- What the builder has made so far. -/
structure BuildState (α : Type) where
  slices : List (SweptLinkOccupancySlice α) := []
  linkEnvelopeCount : Nat := 0

/-- The slice of a part. -/
def sliceOf (candidate : PendingSlice α) :
    Result (SweptLinkOccupancySlice α) := do
  let domain :=
    endpointDomain candidate.beginConfiguration candidate.endConfiguration
  let links ← E.compute robot domain options.linkPadding
  let boxes ← deployedEnvelopes metadata.storageSchema metadata.frame links
  let slice : SweptLinkOccupancySlice α :=
    { id := []
      trajectorySegmentIndex := candidate.trajectorySegmentIndex
      beginTick := candidate.beginTick
      endTick := candidate.endTick
      configurationDomain := domain
      linkEnvelopes := boxes }
  .ok { slice with
    id := sweptLinkOccupancySliceIdentity P
      (draftOccupancy P robot metadata trajectory options) slice }

/-- The `pending` loop on the segment from `first` to `last`; the head of
the list is the top of the stack. -/
def subdivide (first last : TimedConfiguration α) :
    List (PendingSlice α) → BuildState α → Result (BuildState α)
  | [], state => .ok state
  | candidate :: pending, state =>
      if hhalves : halves robot options candidate = true then
        subdivide first last (earlierHalf first last candidate
          :: laterHalf first last candidate :: pending) state
      else if options.maximumSlices ≤ state.slices.length then
        failure .resourceLimit
          "continuous occupancy exceeds configured slice limit"
      else if options.maximumLinkEnvelopes - state.linkEnvelopeCount
          < robot.linkCount then
        failure .resourceLimit
          "continuous occupancy exceeds configured link-envelope limit"
      else match sliceOf P E robot metadata trajectory options candidate with
        | .error e => .error e
        | .ok slice => subdivide first last pending
            { slices := state.slices ++ [slice]
              linkEnvelopeCount := state.linkEnvelopeCount + robot.linkCount }
termination_by pending => (pending.map fun candidate =>
  3 ^ (options.maximumSubdivisionDepth + 1 - candidate.depth)).sum
decreasing_by
  · have hdepth : candidate.depth < options.maximumSubdivisionDepth := by
      rw [halves, Bool.and_eq_true, Bool.and_eq_true, decide_eq_true_eq]
        at hhalves
      exact hhalves.1.2
    obtain ⟨k, hk⟩ : ∃ k, options.maximumSubdivisionDepth + 1 - candidate.depth
        = k + 1 := ⟨options.maximumSubdivisionDepth - candidate.depth, by omega⟩
    have hhalf : options.maximumSubdivisionDepth + 1 - (candidate.depth + 1)
        = k := by omega
    have hpos : 0 < 3 ^ k := Nat.pow_pos (by norm_num)
    simp only [List.map_cons, List.sum_cons, earlierHalf, laterHalf, hhalf, hk,
      pow_succ]
    omega
  · have hpos : 0 < 3 ^ (options.maximumSubdivisionDepth + 1
        - candidate.depth) := Nat.pow_pos (by norm_num)
    simp only [List.map_cons, List.sum_cons]
    omega

/-- The part a segment begins with. -/
def wholeSegment (segment : Nat) (first last : TimedConfiguration α) :
    PendingSlice α where
  trajectorySegmentIndex := segment
  beginTick := first.tick
  endTick := last.tick
  beginConfiguration := first.configuration
  endConfiguration := last.configuration
  depth := 0

/-- The loop over the segments. -/
def buildSegments : Nat → List (TimedConfiguration α) → BuildState α →
    Result (BuildState α)
  | segment, first :: last :: rest, state => do
      let state ← subdivide P E robot metadata trajectory options first last
        [wholeSegment segment first last] state
      buildSegments (segment + 1) (last :: rest) state
  | _, _, state => .ok state

/-- The occupancy of the slices. -/
def assembleOccupancy (slices : List (SweptLinkOccupancySlice α)) :
    RobotTrajectoryOccupancy α :=
  let result : RobotTrajectoryOccupancy α :=
    { draftOccupancy P robot metadata trajectory options with
      slices := Lib.Sorting.sort sliceKey slices }
  { result with id := robotTrajectoryOccupancyIdentity P result }

/-- `build_robot_trajectory_occupancy_impl`. -/
def buildRobotTrajectoryOccupancy : Result (RobotTrajectoryOccupancy α) := do
  checkBuild robot metadata trajectory options
  let state ← buildSegments P E robot metadata trajectory options 0 trajectory {}
  let result := assembleOccupancy P robot metadata trajectory options state.slices
  if result.valid P = false then
    failure .internalError "continuous occupancy builder produced an invalid result"
  else .ok result

end

-- === verification

/-- The envelope count of `verify_robot_trajectory_occupancy`. -/
def countEnvelopes (maximum : Nat) :
    List (SweptLinkOccupancySlice α) → Nat → Result Unit
  | [], _ => .ok ()
  | slice :: rest, count =>
      if maximum - count < slice.linkEnvelopes.length then
        failure .resourceLimit
          "continuous occupancy exceeds replay link-envelope limit"
      else countEnvelopes maximum rest (count + slice.linkEnvelopes.length)

/-- What the replay builds with. -/
def replayOptions (occupancy : RobotTrajectoryOccupancy α)
    (options : ContinuousOccupancyReplayOptions) :
    ContinuousOccupancyBuildOptions α where
  maximumInputWaypoints := options.maximumInputWaypoints
  maximumSlices := options.maximumSlices
  maximumLinkEnvelopes := options.maximumLinkEnvelopes
  maximumSubdivisionDepth := occupancy.maximumSubdivisionDepth
  maximumNormalizedJointWidth := occupancy.maximumNormalizedJointWidth
  linkPadding := occupancy.linkPadding

/-- The metadata of a stored occupancy; the frame of the first schema is
its translation. -/
def replayMetadata (occupancy : RobotTrajectoryOccupancy α) :
    OccupancyMetadata α where
  timelineId := occupancy.timelineId
  workspaceFrameId := occupancy.workspaceFrameId
  deploymentId := occupancy.deploymentId
  frame := if occupancy.storageSchema = 1 then
      { rotation := kIdentityRotation
        translation := occupancy.workspaceTranslation
        translationUncertainty := fun _ => Scalar.zero
        angularUncertaintyRadians := Scalar.zero }
    else occupancyFrame occupancy
  storageSchema := if occupancy.storageSchema = 1 then 1 else 2

/-- `verify_robot_trajectory_occupancy`. -/
def verifyRobotTrajectoryOccupancy (P : Platform) (E : LinkEnvelopes α)
    (robot : SerialRobotModel α) (occupancy : RobotTrajectoryOccupancy α)
    (options : ContinuousOccupancyReplayOptions) : Result Unit :=
  if validReplayOptions options = false then
    failure .invalidArgument "continuous occupancy replay options are invalid"
  else if occupancy.valid P = false then
    failure .identityMismatch
      "continuous occupancy content or identity is invalid"
  else if occupancy.robotDigest ≠ robot.digest P then
    failure .identityMismatch
      "continuous occupancy robot identity does not match"
  else if options.maximumInputWaypoints < occupancy.trajectory.length
      ∨ options.maximumSlices < occupancy.slices.length then
    failure .resourceLimit "continuous occupancy exceeds replay resource limits"
  else do
    countEnvelopes options.maximumLinkEnvelopes occupancy.slices 0
    let rebuilt ← buildRobotTrajectoryOccupancy P E robot
      (replayMetadata occupancy) occupancy.trajectory
      (replayOptions occupancy options)
    if rebuilt.id ≠ occupancy.id then
      failure .identityMismatch
        "continuous occupancy replay identity does not match stored content"
        occupancy.id
    else .ok ()

end RbfSafe
