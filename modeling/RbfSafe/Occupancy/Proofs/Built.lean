/-
Whether the builder accepts what it has built.

`valid` asks nothing of the slices that the builder has not made so, but
for one thing: the box of the last slice of a segment is taken from the
last waypoint, and `valid` takes it from the interpolation at that tick.
So the occupancy is accepted exactly if every segment reproduces its last
waypoint (`valid_iff_reproduced`).
-/
import RbfSafe.Occupancy.Proofs.Slicing

namespace RbfSafe

variable {K : Type} [Field K] [LinearOrder K] {R : Rounding K} {P : Platform}
  {E : LinkEnvelopes (Rounded R)} {robot : SerialRobotModel (Rounded R)}
  {metadata : OccupancyMetadata (Rounded R)}
  {trajectory : List (TimedConfiguration (Rounded R))}
  {options : ContinuousOccupancyBuildOptions (Rounded R)}

-- === waypoints

/-- The waypoint loop of the builder checks what `valid` does. -/
theorem validWaypoints_of_check {index : Nat} {previous : Option Nat}
    {waypoints : List (TimedConfiguration (Rounded R))}
    (h : checkWaypoints robot index previous waypoints = .ok ()) :
    validWaypoints robot.dimension previous waypoints = true := by
  induction waypoints generalizing index previous with
  | nil => rfl
  | cons waypoint rest ih =>
      rw [checkWaypoints, check_eq_ok, ite_failure_eq_ok, ite_failure_eq_ok]
        at h
      obtain ⟨hconfiguration, -, htick, hrest⟩ := h
      rw [validateConfiguration, ite_failure_eq_ok, ite_failure_eq_ok,
        not_not, Bool.not_eq_false] at hconfiguration
      have htick' : previous.all (fun tick => decide (tick < waypoint.tick))
          = true := by
        cases previous with
        | none => rfl
        | some tick =>
            refine decide_eq_true (not_le.mp fun hle => ?_)
            exact htick ⟨tick, rfl, hle⟩
      simp only [validWaypoints, Bool.and_eq_true, decide_eq_true_eq]
      exact ⟨⟨⟨hconfiguration.1, hconfiguration.2.1⟩, htick'⟩, ih hrest⟩

/-- Two waypoints that follow one another. -/
theorem validWaypoints_cons {dimension : Nat} {previous : Option Nat}
    {first last : TimedConfiguration (Rounded R)}
    {rest : List (TimedConfiguration (Rounded R))}
    (h : validWaypoints dimension previous (first :: last :: rest) = true) :
    first.configuration.length = dimension
      ∧ last.configuration.length = dimension ∧ first.tick < last.tick
      ∧ validWaypoints dimension (some first.tick) (last :: rest) = true := by
  simp only [validWaypoints, Bool.and_eq_true, decide_eq_true_eq,
    Option.all_some] at h ⊢
  obtain ⟨⟨⟨hfirst, -⟩, -⟩, ⟨⟨hlast, hfinite⟩, htick⟩, hrest⟩ := h
  exact ⟨hfirst, hlast, htick, ⟨⟨hlast, hfinite⟩, htick⟩, hrest⟩

/-- **The builder tiles the trajectory.** -/
theorem buildSegments_ok {segment dimension : Nat} {previous : Option Nat}
    {waypoints : List (TimedConfiguration (Rounded R))}
    {state state' : BuildState (Rounded R)}
    (hwaypoints : validWaypoints dimension previous waypoints = true)
    (h : buildSegments P E robot metadata trajectory options segment waypoints
      state = .ok state') :
    ∃ slices, state'.slices = state.slices ++ slices
      ∧ TilesFrom (Sliced P robot metadata trajectory options) segment waypoints
        slices
      ∧ state'.linkEnvelopeCount
        = state.linkEnvelopeCount + slices.length * robot.linkCount := by
  induction waypoints generalizing segment previous state with
  | nil =>
      cases h
      exact ⟨[], (List.append_nil _).symm, rfl, by simp⟩
  | cons first waypoints ih =>
      cases waypoints with
      | nil =>
          cases h
          exact ⟨[], (List.append_nil _).symm, rfl, by simp⟩
      | cons last rest =>
          obtain ⟨hfirst, hlast, hlt, hrest⟩ := validWaypoints_cons hwaypoints
          rw [buildSegments, bind_eq_ok] at h
          obtain ⟨between, hbetween, h⟩ := h
          have hlength := hfirst.trans hlast.symm
          have hstack : Stacked segment first last first.tick
              [wholeSegment segment first last] :=
            ⟨rfl, ⟨rfl, hlt, (planned_first hlength hlt).symm,
              (planned_last first last).symm⟩, rfl⟩
          obtain ⟨front, hfront, htiles, hcount⟩ :=
            subdivide_ok _ _ _ hstack hbetween
          obtain ⟨back, hback, htilesBack, hcountBack⟩ := ih hrest h
          refine ⟨front ++ back, ?_, ⟨front, back, rfl, htiles, htilesBack⟩, ?_⟩
          · rw [hback, hfront, List.append_assoc]
          · rw [hcountBack, hcount, List.length_append, Nat.add_mul]
            omega

-- === order

/-- The slices are in the order of `slice_less`. -/
theorem TilesFrom.sorted {segment : Nat}
    {waypoints : List (TimedConfiguration (Rounded R))}
    {slices : List (SweptLinkOccupancySlice (Rounded R))}
    (h : TilesFrom (Sliced P robot metadata trajectory options) segment
      waypoints slices) :
    slices.Pairwise (fun slice slice' => sliceKey slice < sliceKey slice')
      ∧ ∀ slice ∈ slices, segment ≤ slice.trajectorySegmentIndex := by
  induction waypoints generalizing segment slices with
  | nil =>
      cases h
      exact ⟨List.Pairwise.nil, fun slice hslice => absurd hslice (by simp)⟩
  | cons first waypoints ih =>
      cases waypoints with
      | nil =>
          cases h
          exact ⟨List.Pairwise.nil, fun slice hslice => absurd hslice (by simp)⟩
      | cons last rest =>
          obtain ⟨front, back, rfl, htiles, hback⟩ := h
          obtain ⟨hsorted, hlater⟩ := ih hback
          have hsegment : ∀ slice ∈ front,
              slice.trajectorySegmentIndex = segment :=
            fun slice hslice => (htiles.mem hslice).2.2.2.segment
          refine ⟨List.pairwise_append.mpr ⟨?_, hsorted, ?_⟩, ?_⟩
          · refine htiles.sorted.imp_of_mem ?_
            intro slice slice' hslice hslice' hlt
            refine Or.inr ⟨?_, Or.inl hlt⟩
            exact (hsegment slice hslice).trans (hsegment slice' hslice').symm
          · intro slice hslice slice' hslice'
            refine Or.inl ?_
            show slice.trajectorySegmentIndex < slice'.trajectorySegmentIndex
            rw [hsegment slice hslice]
            exact hlater slice' hslice'
          · intro slice hslice
            rcases List.mem_append.mp hslice with hfront | hrest
            · exact (hsegment slice hfront).ge
            · exact (Nat.le_succ _).trans (hlater slice hrest)

-- === validity

/-- The box between two configurations of one dimension is valid. -/
theorem valid_endpointDomain {a b : List (Rounded R)} {dimension : Nat}
    (ha : a.length = dimension) (hb : b.length = dimension)
    (hpos : 0 < dimension) :
    (endpointDomain a b).dimension = dimension
      ∧ (endpointDomain a b).valid = true := by
  have hdimension : (endpointDomain a b).dimension = dimension := by
    show (List.zipWith _ a b).length = dimension
    rw [List.length_zipWith, ha, hb, min_self]
  refine ⟨hdimension, CspaceAabb.valid_iff.mpr ⟨?_, ?_⟩⟩
  · intro hnil
    rw [CspaceAabb.dimension, hnil] at hdimension
    exact hpos.ne hdimension
  · intro axis haxis
    obtain ⟨i, hi, hget⟩ := List.mem_iff_getElem.mp haxis
    have hget' : (List.zipWith (fun a b : Rounded R =>
        (⟨Scalar.min a b, Scalar.max a b⟩ : Interval (Rounded R))) a b)[i]?
        = some axis := by
      rw [← hget]
      exact List.getElem?_eq_getElem hi
    obtain ⟨x, y, -, -, rfl⟩ := List.getElem?_zipWith_eq_some.mp hget'
    refine ⟨rfl, rfl, (Rounded.le_iff _ _).mpr ?_⟩
    rw [Rounded.min_val, Rounded.max_val]
    exact min_le_max

theorem length_planned {first last : TimedConfiguration (Rounded R)}
    {dimension : Nat} (hfirst : first.configuration.length = dimension)
    (hlast : last.configuration.length = dimension) (tick : Nat) :
    (plannedConfiguration first last tick).length = dimension := by
  unfold plannedConfiguration
  split
  · exact hlast
  · rw [configurationAt, length_interpolate, hfirst, hlast, min_self]

variable [IsStrictOrderedRing K]

/-- The box of a slice is the one `valid` expects, unless the slice ends
the segment and its last waypoint is not reproduced. -/
theorem domain_eq_iff {first last : TimedConfiguration (Rounded R)}
    {dimension begin_ finish : Nat}
    (hfirst : first.configuration.length = dimension)
    (hlast : last.configuration.length = dimension)
    (hlt : first.tick < last.tick) (hwindow : begin_ < finish)
    (hfinish : finish ≤ last.tick) :
    endpointDomain (configurationAt first last begin_)
        (configurationAt first last finish)
      = endpointDomain (plannedConfiguration first last begin_)
        (plannedConfiguration first last finish)
      ↔ (finish = last.tick → Reproduces first last) := by
  rw [planned_before (hwindow.trans_le hfinish)]
  rcases hfinish.lt_or_eq with hbefore | rfl
  · rw [planned_before hbefore]
    exact ⟨fun _ heq => absurd heq hbefore.ne, fun _ => rfl⟩
  · rw [planned_last, configurationAt_last hlt]
    have hlength : ∀ fraction : Rounded R,
        (interpolate first.configuration last.configuration fraction).length
          = dimension := by
      intro fraction
      rw [length_interpolate, hfirst, hlast, min_self]
    constructor
    · intro h _
      exact endpointDomain_inj ((hlength _).trans (hlength _).symm)
        (hlast.trans (hlength _).symm) h
    · intro h
      rw [h rfl]

/-- What `valid` asks of a slice the builder has made. -/
theorem validSlice_iff {occupancy : RobotTrajectoryOccupancy (Rounded R)}
    (hoccupancy : ∀ slice, sweptLinkOccupancySliceIdentity P occupancy slice
      = sweptLinkOccupancySliceIdentity P
        (draftOccupancy P robot metadata trajectory options) slice)
    {dimension segment : Nat} {first last : TimedConfiguration (Rounded R)}
    {slice : SweptLinkOccupancySlice (Rounded R)} (hpos : 0 < dimension)
    (hfirst : first.configuration.length = dimension)
    (hlast : last.configuration.length = dimension)
    (hlt : first.tick < last.tick)
    (hsliced : Sliced P robot metadata trajectory options segment first last
      slice)
    (hbegin : first.tick ≤ slice.beginTick)
    (hwindow : slice.beginTick < slice.endTick)
    (hend : slice.endTick ≤ last.tick) :
    validSlice P occupancy dimension robot.linkCount first last slice = true
      ↔ (slice.endTick = last.tick → Reproduces first last) := by
  obtain ⟨hdimension, hvalid⟩ := valid_endpointDomain
    (length_planned hfirst hlast slice.beginTick)
    (length_planned hfirst hlast slice.endTick) hpos
  have hsha : validSha256 slice.id = true := by
    rw [← hsliced.id]
    exact P.validSha256_digest _
  have hboxes : slice.linkEnvelopes.all WorkspaceAabb.valid = true :=
    List.all_eq_true.mpr hsliced.boxes
  have hidentity := (hoccupancy slice).trans hsliced.id
  rw [← domain_eq_iff hfirst hlast hlt hwindow hend]
  unfold validSlice
  rw [hsliced.domain]
  simp only [Bool.and_eq_true, decide_eq_true_eq, hsha, hbegin, hend, hwindow,
    hdimension, hvalid, hsliced.links, hboxes, hidentity, true_and, axesEq_iff]
  exact ⟨fun h => congrArg CspaceAabb.mk h, congrArg CspaceAabb.axes⟩

/-- The slices of one segment, and what comes after them. -/
theorem validSlices_segment {occupancy : RobotTrajectoryOccupancy (Rounded R)}
    (hoccupancy : ∀ slice, sweptLinkOccupancySliceIdentity P occupancy slice
      = sweptLinkOccupancySliceIdentity P
        (draftOccupancy P robot metadata trajectory options) slice)
    {dimension segment tick : Nat} {first last : TimedConfiguration (Rounded R)}
    {previous : Option (SweptLinkOccupancySlice (Rounded R))}
    {front back : List (SweptLinkOccupancySlice (Rounded R))}
    (hpos : 0 < dimension)
    (hfirst : first.configuration.length = dimension)
    (hlast : last.configuration.length = dimension)
    (hlt : first.tick < last.tick)
    (hfirst' : occupancy.trajectory[segment]? = some first)
    (hlast' : occupancy.trajectory[segment + 1]? = some last)
    (hfrom : first.tick ≤ tick) (htick : tick < last.tick)
    (htiles : Tiles (Sliced P robot metadata trajectory options segment first
      last) tick front last.tick)
    (hsorted : (previous.toList ++ (front ++ back)).Pairwise
      fun slice slice' => sliceKey slice < sliceKey slice') :
    validSlices P occupancy dimension robot.linkCount previous segment tick
        (front ++ back) = true
      ↔ Reproduces first last
        ∧ validSlices P occupancy dimension robot.linkCount front.getLast?
          (segment + 1) last.tick back = true := by
  induction front generalizing tick previous with
  | nil => exact absurd htiles htick.ne
  | cons slice rest ih =>
      obtain ⟨hbegin, hwindow, hsliced, hrest⟩ := htiles
      have hend := hrest.le
      have hslice := validSlice_iff hoccupancy hpos hfirst hlast hlt hsliced
        (hbegin ▸ hfrom) hwindow hend
      have hprevious : previous.all (fun previous => sliceLess previous slice)
          = true := by
        cases previous with
        | none => rfl
        | some other =>
            exact decide_eq_true
              ((List.pairwise_cons.mp hsorted).1 slice List.mem_cons_self)
      rw [List.cons_append, validSlices, hfirst', hlast']
      simp only [hsliced.segment, hprevious, hbegin, decide_true, Bool.true_and,
        Bool.and_true, Bool.and_eq_true, hslice]
      by_cases hdone : slice.endTick = last.tick
      · -- the last slice of the segment
        have hnil : rest = [] := by
          cases rest with
          | nil => rfl
          | cons next others =>
              obtain ⟨hnext, hlonger, -, hothers⟩ := hrest
              have := hothers.le
              omega
        have hexpected : (if segment + 2 < occupancy.trajectory.length then
            last.tick else slice.endTick) = last.tick := by
          rw [hdone, ite_self]
        rw [if_pos hdone, hexpected, hnil]
        exact ⟨fun h => ⟨h.1 hdone, h.2⟩, fun h => ⟨fun _ => h.1, h.2⟩⟩
      · have hbefore : slice.endTick < last.tick := by omega
        have hsorted' : ((some slice).toList ++ (rest ++ back)).Pairwise
            fun slice slice' => sliceKey slice < sliceKey slice' :=
          (List.pairwise_append.mp hsorted).2.1
        have hmore := ih (by omega) hbefore hrest hsorted'
        have hlast? : (slice :: rest).getLast? = rest.getLast? := by
          cases rest with
          | nil => exact absurd hrest hbefore.ne
          | cons next others => exact List.getLast?_cons_cons
        rw [if_neg hdone, hmore, hlast?]
        exact ⟨And.right, fun h => ⟨fun heq => absurd heq hdone, h⟩⟩

/-- The slices of all segments. -/
theorem validSlices_iff {occupancy : RobotTrajectoryOccupancy (Rounded R)}
    (hoccupancy : ∀ slice, sweptLinkOccupancySliceIdentity P occupancy slice
      = sweptLinkOccupancySliceIdentity P
        (draftOccupancy P robot metadata trajectory options) slice)
    {dimension segment : Nat} {first : TimedConfiguration (Rounded R)}
    {rest : List (TimedConfiguration (Rounded R))} {before : Option Nat}
    {previous : Option (SweptLinkOccupancySlice (Rounded R))}
    {slices : List (SweptLinkOccupancySlice (Rounded R))}
    (hpos : 0 < dimension)
    (hwaypoints : validWaypoints dimension before (first :: rest) = true)
    (htrajectory : occupancy.trajectory.drop segment = first :: rest)
    (htiles : TilesFrom (Sliced P robot metadata trajectory options) segment
      (first :: rest) slices)
    (hsorted : (previous.toList ++ slices).Pairwise
      fun slice slice' => sliceKey slice < sliceKey slice') :
    validSlices P occupancy dimension robot.linkCount previous segment
        first.tick slices = true ↔ Reproduced (first :: rest) := by
  induction rest generalizing segment first before previous slices with
  | nil =>
      cases htiles
      have hlength := congrArg List.length htrajectory
      rw [List.length_drop, List.length_singleton] at hlength
      rw [validSlices, decide_eq_true_eq]
      exact ⟨fun _ => trivial, fun _ => by omega⟩
  | cons last rest ih =>
      obtain ⟨front, back, rfl, hfront, hback⟩ := htiles
      obtain ⟨hfirst, hlast, hlt, hrest⟩ := validWaypoints_cons hwaypoints
      have hnext : occupancy.trajectory.drop (segment + 1) = last :: rest := by
        rw [← List.drop_drop, htrajectory]
        rfl
      have hfirst' : occupancy.trajectory[segment]? = some first := by
        have h := congrArg (fun waypoints => waypoints[0]?) htrajectory
        simpa using h
      have hlast' : occupancy.trajectory[segment + 1]? = some last := by
        have h := congrArg (fun waypoints => waypoints[0]?) hnext
        simpa using h
      have hsorted' : (front.getLast?.toList ++ back).Pairwise
          fun slice slice' => sliceKey slice < sliceKey slice' := by
        have hfrontBack := (List.pairwise_append.mp hsorted).2.1
        refine hfrontBack.sublist (List.Sublist.append_right ?_ back)
        cases hlast : front.getLast? with
        | none => exact List.nil_sublist _
        | some slice =>
            rw [Option.toList_some, List.singleton_sublist]
            exact List.mem_of_getLast? hlast
      rw [validSlices_segment hoccupancy hpos hfirst hlast hlt hfirst' hlast'
        le_rfl hlt hfront hsorted, ih hrest hnext hback hsorted']
      rfl

-- === the builder

omit [IsStrictOrderedRing K] in
/-- What the input checks have checked. -/
theorem checkBuild_ok (h : checkBuild robot metadata trajectory options = .ok ()) :
    robot.validate = .ok () ∧ validBuildOptions options = true
      ∧ validIdentifier metadata.timelineId = true
      ∧ validIdentifier metadata.workspaceFrameId = true
      ∧ validIdentifier metadata.deploymentId = true
      ∧ metadata.frame.valid = true
      ∧ (metadata.storageSchema = 1 ∨ metadata.storageSchema = 2)
      ∧ (metadata.storageSchema = 1 →
        legacyTranslationFrame metadata.frame = true)
      ∧ trajectory.length ≤ options.maximumInputWaypoints
      ∧ 2 ≤ trajectory.length
      ∧ checkWaypoints robot 0 none trajectory = .ok () := by
  rw [checkBuild, check_eq_ok, ite_failure_eq_ok, ite_failure_eq_ok,
    ite_failure_eq_ok] at h
  obtain ⟨hrobot, hmetadata, hmaximum, hminimum, hwaypoints⟩ := h
  simp only [not_or, not_and, Bool.not_eq_false] at hmetadata
  obtain ⟨hoptions, htimeline, hframeId, hdeployment, hframe, hschema,
    hlegacy⟩ := hmetadata
  refine ⟨hrobot, hoptions, htimeline, hframeId, hdeployment, hframe, ?_,
    hlegacy, not_lt.mp hmaximum, not_lt.mp hminimum, hwaypoints⟩
  by_contra hneither
  rw [not_or] at hneither
  exact hschema hneither.1 hneither.2

omit [IsStrictOrderedRing K] in
/-- The slices the builder has made are sorted. -/
theorem sort_tiles {segment : Nat}
    {waypoints : List (TimedConfiguration (Rounded R))}
    {slices : List (SweptLinkOccupancySlice (Rounded R))}
    (h : TilesFrom (Sliced P robot metadata trajectory options) segment
      waypoints slices) : Lib.Sorting.sort sliceKey slices = slices := by
  apply Lib.Sorting.sort_eq_self
  exact h.sorted.1.imp Std.le_of_lt

/-- **The occupancy is valid exactly if the trajectory is reproduced.** -/
theorem valid_iff_reproduced
    (hchecks : checkBuild robot metadata trajectory options = .ok ())
    {slices : List (SweptLinkOccupancySlice (Rounded R))}
    (htiles : TilesFrom (Sliced P robot metadata trajectory options) 0
      trajectory slices) :
    (assembleOccupancy P robot metadata trajectory options slices).valid P
        = true ↔ Reproduced trajectory := by
  obtain ⟨hrobot, hoptions, htimeline, hframeId, hdeployment, hframe, hschema,
    hlegacy, -, hminimum, hwaypoints⟩ := checkBuild_ok hchecks
  obtain ⟨hdimension, -, hlinks⟩ := SerialRobotModel.validate_ok hrobot
  have hvalidWaypoints := validWaypoints_of_check hwaypoints
  simp only [validBuildOptions, Bool.and_eq_true, decide_eq_true_eq]
    at hoptions
  obtain ⟨⟨⟨⟨⟨-, hdepth⟩, -⟩, hwidth⟩, -⟩, hpadding⟩ := hoptions
  have hwidth' : Scalar.le options.maximumNormalizedJointWidth Scalar.zero
      = false := (LawfulScalar.lt_iff rfl rfl).mp hwidth
  have hpadding' : Scalar.lt options.linkPadding Scalar.zero = false := by
    by_contra hlt
    have hnot := (LawfulScalar.lt_iff rfl rfl).mp (by simpa using hlt)
    rw [hpadding] at hnot
    cases hnot
  -- the trajectory has a segment, and the segment a slice
  obtain ⟨first, second, rest, rfl⟩ : ∃ first second rest,
      trajectory = first :: second :: rest := by
    cases trajectory with
    | nil => exact absurd hminimum (by simp)
    | cons first rest =>
        cases rest with
        | nil => exact absurd hminimum (by simp)
        | cons second rest => exact ⟨first, second, rest, rfl⟩
  obtain ⟨hfirst, -, hlt, -⟩ := validWaypoints_cons hvalidWaypoints
  obtain ⟨slice, slices, rfl, hcount⟩ : ∃ slice others,
      slices = slice :: others ∧ slice.linkEnvelopes.length = robot.linkCount := by
    obtain ⟨front, back, rfl, hfront, -⟩ := htiles
    cases front with
    | nil => exact absurd hfront hlt.ne
    | cons slice front =>
        obtain ⟨-, -, hsliced, -⟩ := hfront
        exact ⟨slice, front ++ back, rfl, hsliced.links⟩
  have hidentities : ∀ slice', sweptLinkOccupancySliceIdentity P
      (assembleOccupancy P robot metadata (first :: second :: rest) options
        (slice :: slices)) slice'
      = sweptLinkOccupancySliceIdentity P (draftOccupancy P robot metadata
        (first :: second :: rest) options) slice' := fun _ => rfl
  have hpairwise : ((none : Option (SweptLinkOccupancySlice (Rounded R))).toList
      ++ slice :: slices).Pairwise
      fun slice slice' => sliceKey slice < sliceKey slice' := htiles.sorted.1
  have hslices := validSlices_iff hidentities hdimension hvalidWaypoints rfl
    htiles hpairwise
  rw [← hslices]
  have hsorted : (assembleOccupancy P robot metadata (first :: second :: rest)
      options (slice :: slices)).slices = slice :: slices := sort_tiles htiles
  have hsemantics : ((decide (metadata.storageSchema = 1)
        && decide ((if metadata.storageSchema = 1
          then kOccupancyAlgorithmVersion1 else kOccupancyAlgorithmVersion2)
            = kOccupancyAlgorithmVersion1)
        && legacyTranslationFrame metadata.frame)
      || (decide (metadata.storageSchema = 2)
        && decide ((if metadata.storageSchema = 1
          then kOccupancyAlgorithmVersion1 else kOccupancyAlgorithmVersion2)
            = kOccupancyAlgorithmVersion2))) = true := by
    rcases hschema with hone | htwo
    · rw [hlegacy hone, hone]
      rfl
    · rw [htwo, Bool.or_eq_true]
      exact .inr rfl
  generalize hoccupancy : assembleOccupancy P robot metadata
    (first :: second :: rest) options (slice :: slices) = occupancy at hsorted ⊢
  have hsemantics' : ((decide (occupancy.storageSchema = 1)
        && decide (occupancy.algorithmVersion = kOccupancyAlgorithmVersion1)
        && legacyTranslationFrame (occupancyFrame occupancy))
      || (decide (occupancy.storageSchema = 2)
        && decide (occupancy.algorithmVersion = kOccupancyAlgorithmVersion2)))
      = true := by
    rw [← hoccupancy]
    exact hsemantics
  have hnames : validSha256 occupancy.id = true
      ∧ validIdentifier occupancy.timelineId = true
      ∧ validIdentifier occupancy.workspaceFrameId = true
      ∧ validIdentifier occupancy.deploymentId = true
      ∧ validSha256 occupancy.robotDigest = true
      ∧ (occupancyFrame occupancy).valid = true
      ∧ occupancy.algorithm = kOccupancyAlgorithm := by
    rw [← hoccupancy]
    exact ⟨P.validSha256_digest _, htimeline, hframeId, hdeployment,
      P.validSha256_digest _, hframe, rfl⟩
  have hnumbers : occupancy.maximumSubdivisionDepth ≤ kMaximumSubdivisionDepth
      ∧ Scalar.isFinite occupancy.maximumNormalizedJointWidth = true
      ∧ Scalar.le occupancy.maximumNormalizedJointWidth Scalar.zero = false
      ∧ Scalar.isFinite occupancy.linkPadding = true
      ∧ Scalar.lt occupancy.linkPadding Scalar.zero = false := by
    rw [← hoccupancy]
    exact ⟨hdepth, rfl, hwidth', rfl, hpadding'⟩
  have hcontent : occupancy.trajectory = first :: second :: rest
      ∧ robotTrajectoryOccupancyIdentity P occupancy = occupancy.id := by
    rw [← hoccupancy]
    exact ⟨rfl, rfl⟩
  obtain ⟨hid, htimeline', hframeId', hdeployment', hdigest, hframe',
    halgorithm⟩ := hnames
  obtain ⟨hdepth', hfiniteWidth, hpositive, hfinitePadding, hnonnegative⟩ :=
    hnumbers
  obtain ⟨htrajectory, hidentity⟩ := hcontent
  unfold RobotTrajectoryOccupancy.valid
  rw [htrajectory, hsorted]
  simp only [hsemantics', hid, htimeline', hframeId', hdeployment', hdigest,
    hframe', halgorithm, hdepth', hfiniteWidth, hpositive, hfinitePadding,
    hnonnegative, hfirst, hvalidWaypoints, hcount, hdimension.ne', hlinks.ne',
    hidentity, decide_true, Bool.true_and, Bool.and_true, Bool.not_false,
    ne_eq, not_false_eq_true]

-- === verification

omit [IsStrictOrderedRing K] in
/-- Limits that suffice do not change what the loop makes. -/
theorem subdivide_limits {first last : TimedConfiguration (Rounded R)}
    (pending : List (PendingSlice (Rounded R)))
    (state state' : BuildState (Rounded R))
    {options' : ContinuousOccupancyBuildOptions (Rounded R)}
    (hdepth : options'.maximumSubdivisionDepth
      = options.maximumSubdivisionDepth)
    (hwidth : options'.maximumNormalizedJointWidth
      = options.maximumNormalizedJointWidth)
    (hpadding : options'.linkPadding = options.linkPadding)
    (h : subdivide P E robot metadata trajectory options first last pending
      state = .ok state') :
    state.slices.length ≤ state'.slices.length
      ∧ state.linkEnvelopeCount ≤ state'.linkEnvelopeCount
      ∧ (state'.slices.length ≤ options'.maximumSlices →
        state'.linkEnvelopeCount ≤ options'.maximumLinkEnvelopes →
        subdivide P E robot metadata trajectory options' first last pending
          state = .ok state') := by
  have hhalves : ∀ candidate, halves robot options' candidate
      = halves robot options candidate := by
    intro candidate
    rw [halves, halves, hdepth, hwidth]
  have hslice : ∀ candidate, sliceOf P E robot metadata trajectory options'
      candidate = sliceOf P E robot metadata trajectory options candidate := by
    intro candidate
    rw [sliceOf, sliceOf, hpadding, draftOccupancy, draftOccupancy, hdepth,
      hwidth, hpadding]
  induction pending, state using subdivide.induct P E robot metadata trajectory
      options first last with
  | case1 state =>
      rw [subdivide] at h
      cases h
      refine ⟨le_rfl, le_rfl, fun _ _ => ?_⟩
      rw [subdivide]
  | case2 candidate pending state hhalved ih =>
      rw [subdivide, dif_pos hhalved] at h
      obtain ⟨hslices, hlinks, hagain⟩ := ih h
      refine ⟨hslices, hlinks, fun hmaximum hmaximum' => ?_⟩
      rw [subdivide, dif_pos ((hhalves candidate).trans hhalved)]
      exact hagain hmaximum hmaximum'
  | case3 candidate pending state hhalved hfull =>
      rw [subdivide, dif_neg hhalved, if_pos hfull] at h
      cases h
  | case4 candidate pending state hhalved hfull hlinks =>
      rw [subdivide, dif_neg hhalved, if_neg hfull, if_pos hlinks] at h
      cases h
  | case5 candidate pending state hhalved hfull hlinks e he =>
      rw [subdivide, dif_neg hhalved, if_neg hfull, if_neg hlinks, he] at h
      cases h
  | case6 candidate pending state hhalved hfull hlinks slice hmade ih =>
      rw [subdivide, dif_neg hhalved, if_neg hfull, if_neg hlinks, hmade] at h
      obtain ⟨hslices, hcount, hagain⟩ := ih h
      rw [List.length_append, List.length_singleton] at hslices
      have hcount' : state.linkEnvelopeCount + robot.linkCount
          ≤ state'.linkEnvelopeCount := hcount
      refine ⟨by omega, by omega, fun hmaximum hmaximum' => ?_⟩
      rw [subdivide, dif_neg (by rw [hhalves]; exact hhalved),
        if_neg (by omega), if_neg (by omega), hslice, hmade]
      exact hagain hmaximum hmaximum'

end RbfSafe
