/-
When the builder accepts its own output.

A build whose inputs pass the checks, and whose slices are made without
an error, ends in an occupancy or in the internal error; which of the two
depends on the waypoints alone (`builder_accepts_iff`). An occupancy that
is returned tiles the trajectory, its boxes cover what is interpolated,
and a replay with limits that suffice verifies it.
-/
import RbfSafe.Core.Host
import RbfSafe.Occupancy.Proofs.Built

namespace RbfSafe

section
variable {K : Type} [Field K] [LinearOrder K] {R : Rounding K} {P : Platform}
  {E : LinkEnvelopes (Rounded R)} {robot : SerialRobotModel (Rounded R)}
  {metadata : OccupancyMetadata (Rounded R)}
  {trajectory : List (TimedConfiguration (Rounded R))}
  {options : ContinuousOccupancyBuildOptions (Rounded R)}

-- === the replay

/-- Limits that suffice do not change what the builder makes. -/
theorem buildSegments_limits {segment : Nat}
    {waypoints : List (TimedConfiguration (Rounded R))}
    {state state' : BuildState (Rounded R)}
    {options' : ContinuousOccupancyBuildOptions (Rounded R)}
    (hdepth : options'.maximumSubdivisionDepth
      = options.maximumSubdivisionDepth)
    (hwidth : options'.maximumNormalizedJointWidth
      = options.maximumNormalizedJointWidth)
    (hpadding : options'.linkPadding = options.linkPadding)
    (h : buildSegments P E robot metadata trajectory options segment waypoints
      state = .ok state') :
    state.slices.length ≤ state'.slices.length
      ∧ state.linkEnvelopeCount ≤ state'.linkEnvelopeCount
      ∧ (state'.slices.length ≤ options'.maximumSlices →
        state'.linkEnvelopeCount ≤ options'.maximumLinkEnvelopes →
        buildSegments P E robot metadata trajectory options' segment waypoints
          state = .ok state') := by
  induction waypoints generalizing segment state with
  | nil =>
      cases h
      exact ⟨le_rfl, le_rfl, fun _ _ => rfl⟩
  | cons first waypoints ih =>
      cases waypoints with
      | nil =>
          cases h
          exact ⟨le_rfl, le_rfl, fun _ _ => rfl⟩
      | cons last rest =>
          rw [buildSegments, bind_eq_ok] at h
          obtain ⟨between, hbetween, h⟩ := h
          obtain ⟨hslices, hlinks, hagain⟩ :=
            subdivide_limits _ _ _ hdepth hwidth hpadding hbetween
          obtain ⟨hslices', hlinks', hagain'⟩ := ih h
          refine ⟨hslices.trans hslices', hlinks.trans hlinks', ?_⟩
          intro hmaximum hmaximum'
          rw [buildSegments, hagain (hslices'.trans hmaximum)
            (hlinks'.trans hmaximum')]
          exact hagain' hmaximum hmaximum'

theorem countEnvelopes_ok {maximum : Nat}
    {slices : List (SweptLinkOccupancySlice (Rounded R))} {count : Nat}
    (h : count + (slices.map (·.linkEnvelopes.length)).sum ≤ maximum) :
    countEnvelopes maximum slices count = .ok () := by
  induction slices generalizing count with
  | nil => rfl
  | cons slice rest ih =>
      rw [List.map_cons, List.sum_cons] at h
      rw [countEnvelopes, if_neg (by omega)]
      exact ih (by omega)

/-- The deployment an occupancy is replayed in is the one it was built
in. -/
theorem replayMetadata_eq
    (hschema : metadata.storageSchema = 1 ∨ metadata.storageSchema = 2)
    (hlegacy : metadata.storageSchema = 1 →
      legacyTranslationFrame metadata.frame = true)
    (slices : List (SweptLinkOccupancySlice (Rounded R))) :
    replayMetadata (assembleOccupancy P robot metadata trajectory options
      slices) = metadata := by
  obtain ⟨timelineId, frameId, deploymentId, frame, storageSchema⟩ := metadata
  rcases hschema with hone | htwo
  · -- a legacy frame is its translation
    have hframe := hlegacy hone
    cases hone
    obtain ⟨rotation, translation, uncertainty, angular⟩ := frame
    simp only [legacyTranslationFrame, Bool.and_eq_true, List.all_eq_true,
      Rounded.eq_iff] at hframe
    obtain ⟨⟨hrotation, huncertainty⟩, hangular⟩ := hframe
    have hrotation' : rotation = kIdentityRotation :=
      funext fun i => hrotation i (List.mem_finRange i)
    have huncertainty' : uncertainty = fun _ => Scalar.zero :=
      funext fun axis => huncertainty axis (List.mem_finRange axis)
    rw [hrotation', huncertainty', hangular]
    rfl
  · cases htwo
    rfl

/-- The envelopes an occupancy keeps. -/
def envelopeCount (occupancy : RobotTrajectoryOccupancy (Rounded R)) : Nat :=
  (occupancy.slices.map (·.linkEnvelopes.length)).sum

/-- Limits that suffice for an occupancy. -/
structure Suffices (occupancy : RobotTrajectoryOccupancy (Rounded R))
    (replay : ContinuousOccupancyReplayOptions) : Prop where
  valid : validReplayOptions replay = true
  waypoints : occupancy.trajectory.length ≤ replay.maximumInputWaypoints
  slices : occupancy.slices.length ≤ replay.maximumSlices
  envelopes : envelopeCount occupancy ≤ replay.maximumLinkEnvelopes

theorem envelopeCount_tiles {segment : Nat}
    {waypoints : List (TimedConfiguration (Rounded R))}
    {slices : List (SweptLinkOccupancySlice (Rounded R))}
    (h : TilesFrom (Sliced P robot metadata trajectory options) segment
      waypoints slices) :
    (slices.map (·.linkEnvelopes.length)).sum
      = slices.length * robot.linkCount := by
  have hlinks : ∀ slice ∈ slices,
      slice.linkEnvelopes.length = robot.linkCount := by
    induction waypoints generalizing segment slices with
    | nil =>
        cases h
        exact fun slice hslice => absurd hslice List.not_mem_nil
    | cons first waypoints ih =>
        cases waypoints with
        | nil =>
            cases h
            exact fun slice hslice => absurd hslice List.not_mem_nil
        | cons last rest =>
            obtain ⟨front, back, rfl, hfront, hback⟩ := h
            intro slice hslice
            rcases List.mem_append.mp hslice with hmem | hmem
            · exact (hfront.mem hmem).2.2.2.links
            · exact ih hback slice hmem
  rw [List.map_congr_left hlinks, List.map_const', List.sum_replicate,
    smul_eq_mul]

/-- **A built occupancy is verified**, whatever limits suffice for it. -/
theorem verify_built
    (hchecks : checkBuild robot metadata trajectory options = .ok ())
    {state : BuildState (Rounded R)}
    (hstate : buildSegments P E robot metadata trajectory options 0 trajectory {}
      = .ok state)
    (htiles : TilesFrom (Sliced P robot metadata trajectory options) 0
      trajectory state.slices)
    (hcount : state.linkEnvelopeCount
      = state.slices.length * robot.linkCount)
    (hvalid : (assembleOccupancy P robot metadata trajectory options
      state.slices).valid P = true)
    {replay : ContinuousOccupancyReplayOptions}
    (hsuffices : Suffices (assembleOccupancy P robot metadata trajectory options
      state.slices) replay) :
    verifyRobotTrajectoryOccupancy P E robot
      (assembleOccupancy P robot metadata trajectory options state.slices) replay
        = .ok () := by
  obtain ⟨hrobot, hoptions, htimeline, hframeId, hdeployment, hframe, hschema,
    hlegacy, -, hminimum, hwaypoints⟩ := checkBuild_ok hchecks
  have hmetadata : replayMetadata (assembleOccupancy P robot metadata trajectory
      options state.slices) = metadata :=
    replayMetadata_eq hschema hlegacy state.slices
  have hsorted : (assembleOccupancy P robot metadata trajectory options
      state.slices).slices = state.slices := sort_tiles htiles
  obtain ⟨hreplay, hmaximum, hslices, henvelopes⟩ := hsuffices
  have hmaximum' : trajectory.length ≤ replay.maximumInputWaypoints := hmaximum
  rw [envelopeCount, hsorted, envelopeCount_tiles htiles, ← hcount]
    at henvelopes
  rw [hsorted] at hslices
  have hoptions' : validBuildOptions (replayOptions
      (assembleOccupancy P robot metadata trajectory options state.slices)
      replay) = true := by
    simp only [validReplayOptions, Bool.and_eq_true, decide_eq_true_eq]
      at hreplay
    simp only [validBuildOptions, Bool.and_eq_true, decide_eq_true_eq]
      at hoptions ⊢
    exact ⟨⟨⟨⟨⟨hreplay, hoptions.1.1.1.1.2⟩, hoptions.1.1.1.2⟩,
      hoptions.1.1.2⟩, hoptions.1.2⟩, hoptions.2⟩
  have hchecks' : checkBuild robot metadata trajectory (replayOptions
      (assembleOccupancy P robot metadata trajectory options state.slices)
      replay) = .ok () := by
    rw [checkBuild, check_eq_ok, ite_failure_eq_ok, ite_failure_eq_ok,
      ite_failure_eq_ok]
    refine ⟨hrobot, ?_, not_lt.mpr hmaximum', not_lt.mpr hminimum, hwaypoints⟩
    simp only [hoptions', htimeline, hframeId, hdeployment, hframe,
      Bool.true_eq_false, false_or, not_or, not_and, Bool.not_eq_false]
    exact ⟨fun hone => not_not.mpr (hschema.resolve_left hone), hlegacy⟩
  have hlimited : state.slices.length ≤ (replayOptions (assembleOccupancy P robot
        metadata trajectory options state.slices) replay).maximumSlices →
      state.linkEnvelopeCount ≤ (replayOptions (assembleOccupancy P robot
        metadata trajectory options state.slices) replay).maximumLinkEnvelopes →
      buildSegments P E robot metadata trajectory (replayOptions
        (assembleOccupancy P robot metadata trajectory options state.slices)
        replay) 0 trajectory {} = .ok state := by
    apply (buildSegments_limits _ _ _ hstate).2.2
    · rfl
    · rfl
    · rfl
  have hagain := hlimited hslices henvelopes
  have hrebuilt : buildRobotTrajectoryOccupancy P E robot metadata trajectory
      (replayOptions (assembleOccupancy P robot metadata trajectory options
        state.slices) replay)
      = .ok (assembleOccupancy P robot metadata trajectory options
        state.slices) := by
    rw [buildRobotTrajectoryOccupancy, hchecks', ok_bind, hagain, ok_bind]
    show (if (assembleOccupancy P robot metadata trajectory options
        state.slices).valid P = false then _ else _) = _
    rw [hvalid]
    rfl
  have hcounted : countEnvelopes replay.maximumLinkEnvelopes
      (assembleOccupancy P robot metadata trajectory options state.slices).slices
      0 = .ok () := by
    apply countEnvelopes_ok
    rw [hsorted, envelopeCount_tiles htiles, ← hcount, Nat.zero_add]
    exact henvelopes
  have hlimits : ¬(replay.maximumInputWaypoints < (assembleOccupancy P robot
        metadata trajectory options state.slices).trajectory.length
      ∨ replay.maximumSlices < (assembleOccupancy P robot metadata trajectory
        options state.slices).slices.length) := by
    rw [hsorted, not_or, not_lt, not_lt]
    exact ⟨hmaximum', hslices⟩
  have hdigest : ¬(assembleOccupancy P robot metadata trajectory options
      state.slices).robotDigest ≠ robot.digest P := not_not.mpr rfl
  rw [verifyRobotTrajectoryOccupancy, hreplay, hvalid, if_neg (by simp),
    if_neg (by simp), if_neg hdigest, if_neg hlimits, hcounted, ok_bind,
    hmetadata]
  show (buildRobotTrajectoryOccupancy P E robot metadata trajectory _ >>= _) = _
  rw [hrebuilt, ok_bind, if_neg (not_not.mpr rfl)]

-- === coverage

/-- A slice whose box covers what is interpolated in its window. -/
structure Covered (segment : Nat) (first last : TimedConfiguration (Rounded R))
    (slice : SweptLinkOccupancySlice (Rounded R)) : Prop where
  segment : slice.trajectorySegmentIndex = segment
  holds : ∀ tick, slice.beginTick ≤ tick → tick ≤ slice.endTick →
    slice.configurationDomain.Holds (configurationAt first last tick)

/-- What is promised of an occupancy of a trajectory. -/
structure VouchedOccupancy (P : Platform) (E : LinkEnvelopes (Rounded R))
    (robot : SerialRobotModel (Rounded R))
    (trajectory : List (TimedConfiguration (Rounded R)))
    (occupancy : RobotTrajectoryOccupancy (Rounded R)) : Prop where
  tiles : TilesFrom Covered 0 trajectory occupancy.slices
  valid : occupancy.valid P = true
  verified : ∀ replay, Suffices occupancy replay →
    verifyRobotTrajectoryOccupancy P E robot occupancy replay = .ok ()

variable [IsStrictOrderedRing K]

/-- Where the waypoints are reproduced, the boxes cover. -/
theorem covered_of_sliced {segment dimension : Nat} {previous : Option Nat}
    {waypoints : List (TimedConfiguration (Rounded R))}
    {slices : List (SweptLinkOccupancySlice (Rounded R))}
    (hwaypoints : validWaypoints dimension previous waypoints = true)
    (hreproduced : Reproduced waypoints)
    (h : TilesFrom (Sliced P robot metadata trajectory options) segment
      waypoints slices) : TilesFrom Covered segment waypoints slices := by
  induction waypoints generalizing segment previous slices with
  | nil => exact h
  | cons first waypoints ih =>
      cases waypoints with
      | nil => exact h
      | cons last rest =>
          obtain ⟨hfirst, hlast, hlt, hrest⟩ := validWaypoints_cons hwaypoints
          obtain ⟨front, back, heq, hfront, hback⟩ := h
          refine ⟨front, back, heq, hfront.mono ?_, ih hrest hreproduced.2 hback⟩
          intro slice _ _ hwindow hend hsliced
          refine ⟨hsliced.segment, fun tick hfrom hto => ?_⟩
          have hdomain : endpointDomain
              (configurationAt first last slice.beginTick)
              (configurationAt first last slice.endTick)
              = slice.configurationDomain := by
            rw [hsliced.domain]
            exact (domain_eq_iff hfirst hlast hlt hwindow hend).mpr
              fun _ => hreproduced.1
          rw [← hdomain]
          exact holds_endpointDomain hlt hfrom hto

/-- **The builder accepts its own output exactly if every segment
reproduces its last waypoint.** -/
theorem builder_accepts_iff
    (hchecks : checkBuild robot metadata trajectory options = .ok ())
    {state : BuildState (Rounded R)}
    (hstate : buildSegments P E robot metadata trajectory options 0 trajectory {}
      = .ok state) :
    (∃ occupancy, buildRobotTrajectoryOccupancy P E robot metadata trajectory
        options = .ok occupancy
      ∧ VouchedOccupancy P E robot trajectory occupancy)
      ↔ Reproduced trajectory := by
  obtain ⟨-, -, -, -, -, -, -, -, -, -, hwaypoints⟩ := checkBuild_ok hchecks
  have hvalidWaypoints := validWaypoints_of_check hwaypoints
  obtain ⟨slices, hslices, htiles, hcount⟩ :=
    buildSegments_ok hvalidWaypoints hstate
  have hmade : state.slices = slices := hslices
  rw [← hmade] at htiles hcount
  have haccepted := valid_iff_reproduced hchecks htiles
  have hbuild : buildRobotTrajectoryOccupancy P E robot metadata trajectory
      options = if (assembleOccupancy P robot metadata trajectory options
        state.slices).valid P = false then
        failure .internalError
          "continuous occupancy builder produced an invalid result"
      else .ok (assembleOccupancy P robot metadata trajectory options
        state.slices) := by
    rw [buildRobotTrajectoryOccupancy, hchecks, ok_bind, hstate, ok_bind]
  rw [hbuild]
  constructor
  · rintro ⟨occupancy, hoccupancy, -⟩
    rw [ite_failure_eq_ok, Bool.not_eq_false] at hoccupancy
    exact haccepted.mp hoccupancy.1
  · intro hreproduced
    have hvalid := haccepted.mpr hreproduced
    refine ⟨_, if_neg (by rw [hvalid]; exact Bool.noConfusion), ?_, hvalid, ?_⟩
    · show TilesFrom Covered 0 trajectory (Lib.Sorting.sort sliceKey state.slices)
      rw [sort_tiles htiles]
      exact covered_of_sliced hvalidWaypoints hreproduced htiles
    · intro replay hsuffices
      refine verify_built hchecks hstate htiles ?_ hvalid hsuffices
      rw [hcount]
      exact Nat.zero_add _

end

-- === one segment

section
variable {α : Type} [SteppedScalar α] {P : Platform} {E : LinkEnvelopes α}
  {robot : SerialRobotModel α} {metadata : OccupancyMetadata α}
  {options : ContinuousOccupancyBuildOptions α}
  {first last : TimedConfiguration α}

/-- A segment that is not halved is one slice. -/
theorem buildSegments_whole
    (hwhole : halves robot options (wholeSegment 0 first last) = false)
    (hslices : 0 < options.maximumSlices)
    (hlinks : robot.linkCount ≤ options.maximumLinkEnvelopes)
    {slice : SweptLinkOccupancySlice α}
    (hslice : sliceOf P E robot metadata [first, last] options
      (wholeSegment 0 first last) = .ok slice) :
    buildSegments P E robot metadata [first, last] options 0 [first, last] {}
      = .ok { slices := [slice], linkEnvelopeCount := robot.linkCount } := by
  have hwhole' : ¬halves robot options (wholeSegment 0 first last) = true := by
    rw [hwhole]
    exact Bool.noConfusion
  have hone : subdivide P E robot metadata [first, last] options first last
      [wholeSegment 0 first last] {}
      = .ok { slices := [slice], linkEnvelopeCount := robot.linkCount } := by
    have hroom : ¬options.maximumSlices
        ≤ ({} : BuildState α).slices.length := not_le.mpr hslices
    have hroom' : ¬options.maximumLinkEnvelopes
        - ({} : BuildState α).linkEnvelopeCount < robot.linkCount :=
      not_lt.mpr hlinks
    rw [subdivide, dif_neg hwhole', if_neg hroom, if_neg hroom', hslice]
    show subdivide P E robot metadata [first, last] options first last [] _ = _
    rw [subdivide, Nat.zero_add, List.nil_append]
  rw [buildSegments, hone, ok_bind]
  rfl

/-- The box of a slice is the one of its part. -/
theorem sliceOf_domain {trajectory : List (TimedConfiguration α)}
    {candidate : PendingSlice α} {slice : SweptLinkOccupancySlice α}
    (h : sliceOf P E robot metadata trajectory options candidate = .ok slice) :
    slice.trajectorySegmentIndex = candidate.trajectorySegmentIndex
      ∧ slice.beginTick = candidate.beginTick
      ∧ slice.endTick = candidate.endTick
      ∧ slice.configurationDomain = endpointDomain candidate.beginConfiguration
        candidate.endConfiguration := by
  rw [sliceOf, bind_eq_ok] at h
  obtain ⟨links, -, h⟩ := h
  rw [bind_eq_ok] at h
  obtain ⟨boxes, -, h⟩ := h
  cases h
  exact ⟨rfl, rfl, rfl, rfl⟩

/-- The only slice of a segment whose last waypoint is missed is
refused. -/
theorem build_refused
    (hchecks : checkBuild robot metadata [first, last] options = .ok ())
    (hwhole : halves robot options (wholeSegment 0 first last) = false)
    (hslices : 0 < options.maximumSlices)
    (hlinks : robot.linkCount ≤ options.maximumLinkEnvelopes)
    (hslice : (sliceOf P E robot metadata [first, last] options
      (wholeSegment 0 first last)).isOk = true)
    (hmissed : axesEq (endpointDomain (configurationAt first last first.tick)
        (configurationAt first last last.tick)).axes
      (endpointDomain first.configuration last.configuration).axes = false) :
    buildRobotTrajectoryOccupancy P E robot metadata [first, last] options
      = failure .internalError
        "continuous occupancy builder produced an invalid result" := by
  cases hmade : sliceOf P E robot metadata [first, last] options
      (wholeSegment 0 first last) with
  | error e =>
      rw [hmade] at hslice
      cases hslice
  | ok slice =>
      obtain ⟨hsegment, hbegin, hend, hdomain⟩ := sliceOf_domain hmade
      have hbegin' : slice.beginTick = first.tick := hbegin
      have hend' : slice.endTick = last.tick := hend
      have hdomain' : slice.configurationDomain
          = endpointDomain first.configuration last.configuration := hdomain
      have hinvalid : (assembleOccupancy P robot metadata [first, last] options
          [slice]).valid P = false := by
        generalize hoccupancy : assembleOccupancy P robot metadata [first, last]
          options [slice] = occupancy
        have htrajectory : occupancy.trajectory = [first, last] := by
          rw [← hoccupancy]
          rfl
        have honly : occupancy.slices = [slice] := by
          rw [← hoccupancy]
          apply Lib.Sorting.sort_eq_self
          exact List.pairwise_singleton _ _
        have hnot : validSlice P occupancy first.configuration.length
            slice.linkEnvelopes.length first last slice = false := by
          rw [validSlice, hbegin', hend', hdomain', hmissed, Bool.and_false]
        have hsegment' : slice.trajectorySegmentIndex = 0 := hsegment
        have hnone : validSlices P occupancy first.configuration.length
            slice.linkEnvelopes.length none 0 first.tick [slice] = false := by
          rw [validSlices, htrajectory, hsegment']
          simp only [List.getElem?_cons_zero, List.getElem?_cons_succ, hnot,
            Bool.false_and, Bool.and_false]
        rw [RobotTrajectoryOccupancy.valid, htrajectory, honly]
        simp only [hnone, Bool.and_false, Bool.false_and]
      rw [buildRobotTrajectoryOccupancy, hchecks, ok_bind,
        buildSegments_whole hwhole hslices hlinks hmade, ok_bind]
      show (if (assembleOccupancy P robot metadata [first, last] options
        [slice]).valid P = false then _ else _) = _
      rw [hinvalid]
      rfl

end

-- === samples

section
variable {α : Type} [SteppedScalar α]

/-- An arm of one revolute joint whose link has no length. -/
def sampleArm : SerialRobotModel α where
  name := ascii "arm"
  joints := [⟨Scalar.zero, Scalar.zero, Scalar.zero, Scalar.zero, .revolute⟩]
  jointLimits := [⟨Scalar.zero, Scalar.one⟩]
  linkRadii := [Scalar.one]
  toolFrame := none

/-- The envelopes of an arm that stays at the origin. -/
def originEnvelopes : LinkEnvelopes α where
  compute robot _ padding := .ok (robot.linkRadii.map fun radius =>
    { lower := fun _ => Scalar.neg (Scalar.add radius padding)
      upper := fun _ => Scalar.add radius padding })
  length_compute := by
    intro robot domain padding links h
    cases h
    exact List.length_map _

def sampleMetadata : OccupancyMetadata α where
  timelineId := ascii "t"
  workspaceFrameId := ascii "w"
  deploymentId := ascii "d"
  frame :=
    { rotation := kIdentityRotation
      translation := fun _ => Scalar.zero
      translationUncertainty := fun _ => Scalar.zero
      angularUncertaintyRadians := Scalar.zero }
  storageSchema := 1

def sampleBuildOptions : ContinuousOccupancyBuildOptions α where
  maximumNormalizedJointWidth := Scalar.decimal 2 0
  linkPadding := Scalar.zero

/-- A move of the arm in one tick. -/
def sampleMove (first last : α) : List (TimedConfiguration α) :=
  [{ tick := 0, configuration := [first] },
    { tick := 1, configuration := [last] }]

end

/-- Quarters above zero, whole numbers below. -/
def coarse (x : ℚ) : ℚ := if 0 ≤ x then ⌊4 * x⌋ / 4 else ⌊x⌋

theorem coarse_mono : Monotone coarse := by
  intro x y hxy
  unfold coarse
  by_cases hx : 0 ≤ x
  · have hfloor : (⌊4 * x⌋ : ℚ) ≤ ⌊4 * y⌋ :=
      Int.cast_le.mpr (Int.floor_le_floor (by linarith))
    rw [if_pos hx, if_pos (hx.trans hxy)]
    linarith
  · rw [if_neg hx]
    by_cases hy : 0 ≤ y
    · have hlow : (⌊x⌋ : ℚ) ≤ x := Int.floor_le x
      have hhigh : (0 : ℚ) ≤ ⌊4 * y⌋ :=
        Int.cast_nonneg (Int.floor_nonneg.mpr (by linarith))
      rw [if_pos hy]
      linarith
    · rw [if_neg hy]
      exact Int.cast_le.mpr (Int.floor_le_floor hxy)

theorem coarse_coarse (x : ℚ) : coarse (coarse x) = coarse x := by
  unfold coarse
  by_cases hx : 0 ≤ x
  · have hfloor : (0 : ℚ) ≤ ⌊4 * x⌋ :=
      Int.cast_nonneg (Int.floor_nonneg.mpr (by linarith))
    have hhigh : (0 : ℚ) ≤ ⌊4 * x⌋ / 4 := by linarith
    have hwhole : (4 : ℚ) * (⌊4 * x⌋ / 4) = ⌊4 * x⌋ := by ring
    rw [if_pos hx, if_pos hhigh, hwhole, Int.floor_intCast]
  · have hfloor : (⌊x⌋ : ℚ) ≤ x := Int.floor_le x
    have hlow : ¬(0 : ℚ) ≤ ⌊x⌋ := by linarith
    rw [if_neg hx, if_neg hlow, Int.floor_intCast]

def coarseRounding : Rounding ℚ where
  round := coarse
  monotone := coarse_mono
  idempotent := coarse_coarse
  zero := by decide +kernel
  one := by decide +kernel
  sqrt x := x
  json x := .string (stdToString x.num.natAbs)
  nextDown x := x
  nextUp x := x

/-- The host, whichever signatures it accepts. -/
abbrev acceptingHost : Platform := host fun _ _ _ => true

theorem builder_accepts_iff_unit :
    (∃ occupancy, buildRobotTrajectoryOccupancy acceptingHost originEnvelopes
        sampleArm sampleMetadata
        (sampleMove (Scalar.zero : Rounded coarseRounding) Scalar.one)
        sampleBuildOptions = .ok occupancy
      ∧ VouchedOccupancy acceptingHost originEnvelopes sampleArm
        (sampleMove Scalar.zero Scalar.one) occupancy)
      ↔ Reproduced (sampleMove (Scalar.zero : Rounded coarseRounding)
        Scalar.one) := by
  have hslice : (sliceOf acceptingHost originEnvelopes sampleArm
      sampleMetadata (sampleMove (Scalar.zero : Rounded coarseRounding)
        Scalar.one) sampleBuildOptions (wholeSegment 0
          { tick := 0, configuration := [Scalar.zero] }
          { tick := 1, configuration := [Scalar.one] })).isOk = true := by
    decide +kernel
  cases hmade : sliceOf acceptingHost originEnvelopes sampleArm
      sampleMetadata (sampleMove (Scalar.zero : Rounded coarseRounding)
        Scalar.one) sampleBuildOptions (wholeSegment 0
          { tick := 0, configuration := [Scalar.zero] }
          { tick := 1, configuration := [Scalar.one] }) with
  | error e =>
      rw [hmade] at hslice
      cases hslice
  | ok slice =>
      apply builder_accepts_iff
      · decide +kernel
      · apply buildSegments_whole _ _ _ hmade
        · decide +kernel
        · decide
        · decide

/-- A move from one to a small angle: the difference is rounded to minus
one, so that the interpolation ends at zero. -/
theorem builder_refuses_own_output :
    buildRobotTrajectoryOccupancy acceptingHost originEnvelopes sampleArm
        sampleMetadata (sampleMove (Scalar.one : Rounded coarseRounding)
          (Scalar.decimal 25 2)) sampleBuildOptions
      = failure .internalError
        "continuous occupancy builder produced an invalid result"
    ∧ buildRobotTrajectoryOccupancy acceptingHost originEnvelopes sampleArm
        sampleMetadata (sampleMove (1.0 : Float)
          (Float.ofBits 0x3C30000000000000)) sampleBuildOptions
      = failure .internalError
        "continuous occupancy builder produced an invalid result" := by
  constructor
  · apply build_refused
    · decide +kernel
    · decide +kernel
    · decide
    · decide
    · decide +kernel
    · decide +kernel
  · apply build_refused
    · decide +kernel
    · decide
    · decide
    · decide
    · decide +kernel
    · decide +kernel

end RbfSafe
