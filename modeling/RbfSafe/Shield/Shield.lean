/-
`shield.cpp`: the check of one action against an atlas.

An action whose polyline the atlas covers is accepted. Otherwise its target
is moved into a region that is connected with the current one, and the
shield answers with a route to there; an end effector action is answered by
the inverse kinematics. Whatever it emits is audited once more.

The telemetry of the shield is not here. The answers of the cancellation
token are a function of where the check is.
-/
import RbfSafe.Shield.SafeIk

namespace RbfSafe.Atlas

open Json

-- === types

/-- `ShieldActionType`. -/
inductive ShieldActionType where
  | jointDelta
  | endEffectorPose
  | trajectory
deriving DecidableEq, Repr

/-- `ShieldOutcome`. -/
inductive ShieldOutcome where
  | accept
  | repair
  | reject
deriving DecidableEq, Repr

/-- `ShieldReason`. -/
inductive ShieldReason where
  | certified
  | jointTargetRepaired
  | safeIkRoute
  | trajectoryRepaired
  | currentStateNotCertified
  | targetNotCertified
  | repairDisabled
  | repairLimitExceeded
  | noSafeIkSolution
  | disconnected
deriving DecidableEq, Repr

/-- The enumerators as numbers. -/
def ShieldActionType.toNat : ShieldActionType → Nat
  | .jointDelta => 0
  | .endEffectorPose => 1
  | .trajectory => 2

def ShieldOutcome.toNat : ShieldOutcome → Nat
  | .accept => 0
  | .repair => 1
  | .reject => 2

def ShieldReason.toNat : ShieldReason → Nat
  | .certified => 0
  | .jointTargetRepaired => 1
  | .safeIkRoute => 2
  | .trajectoryRepaired => 3
  | .currentStateNotCertified => 4
  | .targetNotCertified => 5
  | .repairDisabled => 6
  | .repairLimitExceeded => 7
  | .noSafeIkSolution => 8
  | .disconnected => 9

/-- `ShieldAction`. -/
inductive ShieldAction (α : Type) where
  | jointDelta (delta : List α)
  | endEffector (target : Pose3d α)
  | trajectory (waypoints : List (List α))

/-- `ShieldOptions`. -/
structure ShieldOptions (α : Type) where
  allowRepair : Bool := true
  maximumWaypointRepairDistance : α
  maximumTotalRepairDistance : α
  maximumInputWaypoints : Nat := 10000
  maximumOutputWaypoints : Nat := 100000
  maximumRepairRegionTests : Nat := 10000000
  maximumAuditRegionTests : Nat := 10000000
  safeIk : SafeIkOptions α

/-- `ShieldDecision`. -/
structure ShieldDecision (α : Type) [Scalar α] where
  actionType : ShieldActionType := .jointDelta
  outcome : ShieldOutcome := .reject
  reason : ShieldReason := .targetNotCertified
  id : Bytes := []
  actionDigest : Bytes := []
  robotDigest : Bytes := []
  sceneDigest : Bytes := []
  requestedTarget : List α := []
  outputTrajectory : List (List α) := []
  audit : Option (TrajectoryAuditReport α) := none
  connectivityCertificate : Option (Certificate α) := none
  repairDistance : α := Scalar.zero
  evidence : EvidenceLevel := .unknown

/-- Where the shield asks the cancellation token. -/
inductive ShieldPlace where
  | start
  | directAudit (segment tests : Nat)
  | finalAudit (segment tests : Nat)
  | safeIk (attempt iteration : Nat)
  | repair (tests : Nat)
  | waypoint (index : Nat)

-- === identity

section
variable {α : Type} [MetricScalar α]

/-- `configuration_json`. -/
def configurationJson (configuration : List α) : Json :=
  .array (configuration.map MetricScalar.json)

/-- `decision_id`. -/
def decisionId (P : Platform) (decision : ShieldDecision α) : Bytes :=
  P.sha256 (dump P.toLibc false 0 (.object (obj
    [("action_digest", .string decision.actionDigest),
      ("action_type", num decision.actionType.toNat),
      ("connectivity_certificate_id",
        .string (decision.connectivityCertificate.elim [] (·.id))),
      ("evidence", num decision.evidence.toNat),
      ("outcome", num decision.outcome.toNat),
      ("reason", num decision.reason.toNat),
      ("repair_distance", MetricScalar.json decision.repairDistance),
      ("requested_target", configurationJson decision.requestedTarget),
      ("robot_digest", .string decision.robotDigest),
      ("scene_digest", .string decision.sceneDigest),
      ("trajectory",
        .array (decision.outputTrajectory.map configurationJson))])))

/-- `canonical_action_digest`, which is `shield_action_digest`. -/
def shieldActionDigest (P : Platform) (action : ShieldAction α) : Bytes :=
  P.sha256 (dump P.toLibc false 0 (.object (obj (match action with
    | .jointDelta delta =>
        [("delta", configurationJson delta), ("type", .string (ascii "joint_delta"))]
    | .endEffector target =>
        [("orientation", .array ((List.finRange 4).map fun axis =>
            MetricScalar.json (target.orientation axis))),
          ("position", .array ((List.finRange 3).map fun axis =>
            MetricScalar.json (target.position axis))),
          ("type", .string (ascii "end_effector_pose"))]
    | .trajectory waypoints =>
        [("type", .string (ascii "trajectory")),
          ("waypoints", .array (waypoints.map configurationJson))]))))

/-- `base_decision`. -/
def baseDecision (type : ShieldActionType) (atlas : SafeAtlas α) :
    ShieldDecision α :=
  { actionType := type
    robotDigest := atlas.robotDigest
    sceneDigest := atlas.sceneDigest }

/-- `reject_decision`. -/
def rejectDecision (P : Platform) (type : ShieldActionType) (reason : ShieldReason)
    (atlas : SafeAtlas α) (requestedTarget : List α) : ShieldDecision α :=
  let decision :=
    { baseDecision type atlas with
      reason := reason
      requestedTarget := requestedTarget }
  { decision with id := decisionId P decision }

end

-- === shield

section
variable {α : Type} [InverseScalar α] (P : Platform)

/-- `validate_options`. -/
def ShieldOptions.validate (options : ShieldOptions α) : Result Unit :=
  if Scalar.isFinite options.maximumWaypointRepairDistance = false
      ∨ Scalar.lt options.maximumWaypointRepairDistance Scalar.zero = true
      ∨ Scalar.isFinite options.maximumTotalRepairDistance = false
      ∨ Scalar.lt options.maximumTotalRepairDistance Scalar.zero = true
      ∨ options.maximumInputWaypoints = 0 ∨ options.maximumOutputWaypoints < 2
      ∨ options.maximumRepairRegionTests = 0
      ∨ options.maximumAuditRegionTests = 0 then
    failure .invalidArgument "runtime shield options are invalid" (ascii "shield")
  else .ok ()

namespace RuntimeShield

/-- What a check is about, next to its action. -/
structure Situation (α : Type) where
  atlas : SafeAtlas α
  queryIndex : Option (RegionQueryIndex α)
  current : List α
  options : ShieldOptions α
  cancelled : ShieldPlace → Bool

variable (situation : Situation α)

/-- `audit_trajectory`, with the place of the audit in the check. -/
def auditTrajectory (place : Nat → Nat → ShieldPlace)
    (trajectory : List (List α)) : Result (TrajectoryAuditReport α) :=
  TrajectoryAuditor.audit situation.atlas trajectory
    { maximumRegionTests := situation.options.maximumAuditRegionTests
      cancelled := fun segment tests => situation.cancelled (place segment tests) }

/-- `endpoint_certificate`. -/
def endpointCertificate (trajectory : List (List α)) :
    ExceptT Error Option (Option (Certificate α)) := do
  let route ← ExceptT.mk (situation.atlas.route P (trajectory.headD [])
    (trajectory.getLastD []))
  pure (route.map (·.certificate))

/-- `certified_decision`. -/
def certifiedDecision (decision : ShieldDecision α) (trajectory : List (List α)) :
    ExceptT Error Option (ShieldDecision α) :=
  if situation.options.maximumOutputWaypoints < trajectory.length then
    throw ⟨.resourceLimit, "shield output exceeds waypoint budget", ascii "shield"⟩
  else do
    let audit ← (auditTrajectory situation .finalAudit trajectory : Result _)
    if audit.status ≠ .certified then
      throw ⟨.internalError, "shield attempted to emit an uncertified trajectory",
        ascii "shield"⟩
    else do
      let certificate ← endpointCertificate P situation trajectory
      match certificate with
      | none =>
          throw ⟨.internalError,
            "certified shield trajectory has disconnected endpoints",
            ascii "shield"⟩
      | some certificate =>
          let decision :=
            { decision with
              outputTrajectory := trajectory
              audit := some audit
              connectivityCertificate := some certificate
              evidence := .certifiedConnectivity }
          pure { decision with id := decisionId P decision }

/-- The answer to an action that is not taken. -/
def rejected (type : ShieldActionType) (reason : ShieldReason)
    (requestedTarget : List α) : ExceptT Error Option (ShieldDecision α) :=
  pure (rejectDecision P type reason situation.atlas requestedTarget)

-- === repairs

/-- `current_components`, with repetitions. -/
def currentComponents : List ComponentId :=
  (situation.atlas.regions.filter fun region =>
    region.bounds.contains situation.current Scalar.zero).map (·.component)

/-- `Projection`. -/
structure Projection (α : Type) where
  configuration : List α
  distance : α
  regionId : RegionId

/-- Whether a projection takes the place of the best one. -/
def Projection.improves (candidate : Projection α) :
    Option (Projection α) → Bool
  | none => true
  | some best => Scalar.lt candidate.distance best.distance
      || (Scalar.eq candidate.distance best.distance
        && decide (candidate.regionId < best.regionId))

/-- The loop of `project_to_reachable_region`. -/
def projectThrough (target : List α) :
    List (SafeRegion α) → Option (Projection α) → Nat →
      Result (Option (Projection α) × Nat)
  | [], best, tests => .ok (best, tests)
  | region :: rest, best, tests =>
      if tests = situation.options.maximumRepairRegionTests then
        failure .resourceLimit "shield repair region-test budget exhausted"
          (ascii "shield")
      else if (tests + 1) % 1024 = 0
          ∧ situation.cancelled (.repair (tests + 1)) = true then
        failure .cancelled "shield repair was cancelled" (ascii "shield")
      else if region.component ∉ currentComponents situation then
        projectThrough target rest best (tests + 1)
      else
        let projected := projectToBox target region.bounds
        let candidate : Projection α :=
          { configuration := projected
            distance := MetricScalar.sqrt (squaredDistance target projected)
            regionId := region.id }
        projectThrough target rest
          (if candidate.improves best then some candidate else best) (tests + 1)

/-- `project_to_reachable_region`. -/
def projectToReachableRegion (target : List α) (tests : Nat) :
    Result (Option (Projection α) × Nat) :=
  projectThrough situation target situation.atlas.regions none tests

/-- `append_route`. -/
def appendRoute (output : List (List α)) (waypoints : List (List α)) :
    List (List α) :=
  waypoints.foldl (fun output waypoint =>
    match output.getLast? with
    | none => [waypoint]
    | some last =>
        if Scalar.lt (Scalar.mul Scalar.tolerance Scalar.tolerance)
            (squaredDistance last waypoint) then output ++ [waypoint]
        else output) output

-- === actions

/-- The loop that adds the delta. -/
def jointTarget (current delta : List α) : Result (List α) :=
  let target := (current.zip delta).map fun p => Scalar.add p.1 p.2
  if target.all Scalar.isFinite then .ok target
  else failure .invalidArgument "joint action target is not finite"
    (ascii "shield")

/-- `check_joint`. -/
def checkJoint (delta : List α) : ExceptT Error Option (ShieldDecision α) := do
  let atlas := situation.atlas
  let options := situation.options
  let target ← (do
    validateConfiguration delta atlas.dimension (ascii "joint action delta")
    jointTarget situation.current delta : Result _)
  if atlas.contains situation.queryIndex situation.current = false then
    rejected P situation .jointDelta .currentStateNotCertified target
  else do
    let direct := [situation.current, target]
    let audit ← (auditTrajectory situation .directAudit direct : Result _)
    if audit.status = .certified then
      certifiedDecision P situation
        { baseDecision .jointDelta atlas with
          outcome := .accept
          reason := .certified
          requestedTarget := target } direct
    else if options.allowRepair = false then
      rejected P situation .jointDelta .repairDisabled target
    else do
      let (projection, _) ←
        (projectToReachableRegion situation target 0 : Result _)
      match projection with
      | none => rejected P situation .jointDelta .repairLimitExceeded target
      | some projection =>
          if Scalar.lt options.maximumWaypointRepairDistance projection.distance
              || Scalar.lt options.maximumTotalRepairDistance
                projection.distance then
            rejected P situation .jointDelta .repairLimitExceeded target
          else do
            let route ← ExceptT.mk
              (atlas.route P situation.current projection.configuration)
            match route with
            | none => rejected P situation .jointDelta .disconnected target
            | some route =>
                certifiedDecision P situation
                  { baseDecision .jointDelta atlas with
                    outcome := .repair
                    reason := .jointTargetRepaired
                    requestedTarget := target
                    repairDistance := projection.distance } route.waypoints

/-- `check_end_effector`. -/
def checkEndEffector (robot : SerialRobotModel α) (scene : SceneSnapshot α)
    (target : Pose3d α) : ExceptT Error Option (ShieldDecision α) := do
  let atlas := situation.atlas
  let options := situation.options
  if target.valid (Scalar.decimal 1 6) = false then
    throw ⟨.invalidArgument, "end-effector action pose is invalid", ascii "shield"⟩
  else if atlas.contains situation.queryIndex situation.current = false then
    rejected P situation .endEffectorPose .currentStateNotCertified []
  else if options.allowRepair = false then
    rejected P situation .endEffectorPose .repairDisabled []
  else do
    let report ← SafeIkSolver.solve P robot scene atlas situation.queryIndex target
      situation.current { options.safeIk with requireConnectivity := true }
      fun attempt iteration => situation.cancelled (.safeIk attempt iteration)
    if report.status = .noSolution then
      rejected P situation .endEffectorPose .noSafeIkSolution []
    else
      match decide (report.status = .safeConnected), report.connectivityRoute with
      | true, some route =>
          let distance := MetricScalar.sqrt
            (squaredDistance situation.current report.solution)
          if Scalar.lt options.maximumTotalRepairDistance distance then
            rejected P situation .endEffectorPose .repairLimitExceeded
              report.solution
          else
            let near := Scalar.le distance Scalar.tolerance
            certifiedDecision P situation
              { baseDecision .endEffectorPose atlas with
                outcome := if near then .accept else .repair
                reason := if near then .certified else .safeIkRoute
                requestedTarget := report.solution
                repairDistance := distance } route.waypoints
      | _, _ =>
          rejected P situation .endEffectorPose .disconnected report.solution

/-- `direct` of `check_trajectory`: the current state and the waypoints that
are not where the one before is. -/
def directTrajectory (waypoints : List (List α)) : List (List α) :=
  let direct := appendRoute [situation.current] waypoints
  if direct.length = 1 then direct ++ direct else direct

/-- The loop that moves the waypoints into regions; `none` where a limit is
exceeded. -/
def repairTargets : Nat → List (List α) → α → Nat →
    Result (Option (List (List α) × α))
  | _, [], total, _ => .ok (some ([], total))
  | index, waypoint :: rest, total, tests =>
      if situation.cancelled (.waypoint index) then
        failure .cancelled "trajectory repair was cancelled" (ascii "shield")
      else do
        let (projection, tests) ←
          projectToReachableRegion situation waypoint tests
        match projection with
        | none => .ok none
        | some projection =>
            let options := situation.options
            if Scalar.lt options.maximumWaypointRepairDistance
                projection.distance then .ok none
            else
              let total := Scalar.add total projection.distance
              if Scalar.lt options.maximumTotalRepairDistance total then .ok none
              else do
                let later ← repairTargets (index + 1) rest total tests
                .ok (later.map fun later =>
                  (projection.configuration :: later.1, later.2))

/-- The loop that joins the routes; `none` where one is missing. -/
def joinRoutes : List α → List (List α) → List (List α) →
    ExceptT Error Option (Option (List (List α)))
  | _, [], output => pure (some output)
  | cursor, target :: rest, output => do
      let route ← ExceptT.mk (situation.atlas.route P cursor target)
      match route with
      | none => pure none
      | some route =>
          let output := appendRoute output route.waypoints
          if situation.options.maximumOutputWaypoints < output.length then
            throw ⟨.resourceLimit,
              "trajectory repair exceeds output waypoint budget", ascii "shield"⟩
          else joinRoutes target rest output

/-- The loop that checks the waypoints of an action. -/
def checkActionWaypoints (dimension : Nat) : Nat → List (List α) → Result Unit
  | _, [] => .ok ()
  | index, waypoint :: rest => do
      validateConfiguration waypoint dimension
        (ascii "trajectory action waypoint " ++ stdToString index)
      checkActionWaypoints dimension (index + 1) rest

/-- `check_trajectory`. -/
def checkTrajectory (waypoints : List (List α)) :
    ExceptT Error Option (ShieldDecision α) := do
  let atlas := situation.atlas
  let options := situation.options
  let requested := waypoints.getLastD []
  (if waypoints = [] then
    failure .invalidArgument "trajectory action must contain a waypoint"
      (ascii "shield")
  else if options.maximumInputWaypoints < waypoints.length then
    failure .resourceLimit "trajectory action exceeds input waypoint budget"
      (ascii "shield")
  else checkActionWaypoints atlas.dimension 0 waypoints : Result Unit)
  if atlas.contains situation.queryIndex situation.current = false then
    rejected P situation .trajectory .currentStateNotCertified requested
  else do
    let direct := directTrajectory situation waypoints
    let audit ← (auditTrajectory situation .directAudit direct : Result _)
    if audit.status = .certified then
      certifiedDecision P situation
        { baseDecision .trajectory atlas with
          outcome := .accept
          reason := .certified
          requestedTarget := requested } direct
    else if options.allowRepair = false then
      rejected P situation .trajectory .repairDisabled requested
    else do
      let repaired ←
        (repairTargets situation 0 waypoints Scalar.zero 0 : Result _)
      match repaired with
      | none => rejected P situation .trajectory .repairLimitExceeded requested
      | some (targets, total) => do
          let output ←
            joinRoutes P situation situation.current targets [situation.current]
          match output with
          | none => rejected P situation .trajectory .disconnected requested
          | some output =>
              certifiedDecision P situation
                { baseDecision .trajectory atlas with
                  outcome := .repair
                  reason := .trajectoryRepaired
                  requestedTarget := requested
                  repairDistance := total }
                (if output.length = 1 then output ++ output else output)

/-- `RuntimeShield::check_action`. -/
def checkAction (robot : SerialRobotModel α) (scene : SceneSnapshot α)
    (action : ShieldAction α) : ExceptT Error Option (ShieldDecision α) := do
  (do situation.atlas.verifyCompatible P robot scene
      validateConfiguration situation.current situation.atlas.dimension
        (ascii "shield current state")
      situation.options.validate
      if situation.cancelled .start then
        failure .cancelled "runtime shield check was cancelled" (ascii "shield")
      else .ok () : Result Unit)
  let decision ← match action with
    | .jointDelta delta => checkJoint P situation delta
    | .endEffector target => checkEndEffector P situation robot scene target
    | .trajectory waypoints => checkTrajectory P situation waypoints
  let decision := { decision with actionDigest := shieldActionDigest P action }
  pure { decision with id := decisionId P decision }

end RuntimeShield

end

end RbfSafe.Atlas
