/-
Creating a bounded execution session, and authorizing its commands.

`BoundedExecutionSession::create` asks the atlas two questions, an audit
of the trajectory and a route between its ends. `SafeAtlas` carries the
answers as functions next to the identity of the atlas: whatever they
are, a session is created from the same answers the same way.
-/
import RbfSafe.Execution.Types

namespace RbfSafe

/-- `TrajectoryAuditStatus`. -/
inductive TrajectoryAuditStatus where
  | certified
  | partly
  | invalid
deriving DecidableEq, Repr

/-- `TrajectoryInterval`. -/
structure TrajectoryInterval where
  segmentIndex : Nat
  startFraction : ℚ
  endFraction : ℚ
  startIncluded : Bool
  endIncluded : Bool

/-- What a session reads of a `TrajectoryAuditReport`. -/
structure TrajectoryAuditReport where
  status : TrajectoryAuditStatus
  regionSequence : List UInt64
  uncoveredIntervals : List TrajectoryInterval

/-- What a session reads of the certificate of a route: its level, its id
and the identity that is computed of it again. -/
structure RouteCertificate where
  id : Bytes
  level : EvidenceLevel
  identity : Bytes

/-- What a session reads of `SafeAtlas`. -/
structure SafeAtlas where
  dimension : Nat
  versionId : Bytes
  robotDigest : Bytes
  sceneDigest : Bytes
  audit : List Configuration → Result TrajectoryAuditReport
  route : Configuration → Configuration → Result (Option RouteCertificate)

/-- `checked_add`. -/
def checkedAdd (first second : UInt64) : Option UInt64 :=
  if second > 0xffffffffffffffff - first then none else some (first + second)

section
variable (P : Platform)

-- === the atlas

/-- `ExecutionCommandSequence::verify_compatible`. -/
def ExecutionCommandSequence.verifyCompatible (s : ExecutionCommandSequence)
    (atlas : SafeAtlas) : Result Unit :=
  if !s.valid P || atlas.dimension == 0 then
    failure .invalidArgument "execution command compatibility input is invalid"
  else if s.dimension ≠ atlas.dimension ∨ s.atlasId ≠ atlas.versionId
      ∨ s.robotDigest ≠ atlas.robotDigest
      ∨ s.sceneDigest ≠ atlas.sceneDigest then
    failure .identityMismatch
      "execution command sequence belongs to another Atlas" s.id
  else
    let trajectory := s.commands.map fun command => command.configuration
    do
    let audit ← atlas.audit trajectory
    if audit.status ≠ .certified ∨ !audit.uncoveredIntervals.isEmpty
        ∨ audit.regionSequence ≠ s.regionSequence then
      failure .identityMismatch
        "execution command certification does not replay exactly" s.id
    else do
      let route ← atlas.route (trajectory.headD []) (trajectory.getLastD [])
      match route with
      | none =>
          failure .identityMismatch
            "execution connectivity certificate does not replay exactly" s.id
      | some certificate =>
          if certificate.level ≠ .certifiedConnectivity
              ∨ certificate.identity ≠ certificate.id
              ∨ certificate.id ≠ s.connectivityCertificateId then
            failure .identityMismatch
              "execution connectivity certificate does not replay exactly" s.id
          else .ok ()

-- === approvals

/-- `matches_profile_approval`. -/
def matchesProfileApproval (reviewed : ReviewedDeploymentProfile)
    (approval : ExecutionSessionApproval) : Bool :=
  reviewed.approvalSet.approvals.any fun profileApproval =>
    profileApproval.signerServiceId == approval.signerServiceId
      && profileApproval.signerKeyId == approval.signerKeyId
      && profileApproval.role == approval.role

/-- `validate_session_approval_policy`. -/
def validateSessionApprovalPolicy (reviewed : ReviewedDeploymentProfile)
    (approvals : List ExecutionSessionApproval) : Result Unit :=
  let policy := reviewed.profile.reviewPolicy
  if approvals.length < policy.minimumApprovals.toNat then
    failure .identityMismatch "execution session approval quorum is not satisfied"
      reviewed.profile.id
  else match approvals.find? fun a => !matchesProfileApproval reviewed a with
  | some approval =>
      failure .identityMismatch
        "execution session signer did not approve the reviewed deployment profile"
        approval.signerKeyId
  | none =>
      let services := (approvals.map fun a => a.signerServiceId).dedup
      if policy.requireDistinctServices
          ∧ services.length < policy.minimumApprovals.toNat then
        failure .identityMismatch
          "execution session requires approvals from distinct services"
          reviewed.profile.id
      else match policy.requiredRoles.find? fun role =>
          !(approvals.any fun a => a.role == role) with
      | some role =>
          failure .identityMismatch
            "execution session required review role is missing"
            (ascii (deploymentReviewRoleName role))
      | none => .ok ()

/-- The signature loop of `verify_execution_session_approvals`. -/
def verifySessionApprovals (request : ExecutionSessionRequest)
    (trustBundle : ServiceTrustBundle) :
    List ExecutionSessionApproval → Result Unit
  | [] => .ok ()
  | approval :: rest => do
      let trusted ← trustedServicePublicKey P trustBundle
        approval.signerServiceId approval.signerKeyId .publish
        request.trustBundleSequence
      let signature ← decodeHex approval.authenticationTag kEd25519SignatureBytes
      let _ ← ed25519Verify P (executionSessionApprovalMessage P approval)
        signature trusted.publicKey.toList
      verifySessionApprovals request trustBundle rest

/-- `verify_execution_session_approvals`. -/
def verifyExecutionSessionApprovals (request : ExecutionSessionRequest)
    (reviewed : ReviewedDeploymentProfile)
    (approvalSet : ExecutionSessionApprovalSet)
    (trustBundle : ServiceTrustBundle) : Result Unit :=
  if !request.valid P || !reviewed.valid P || !trustBundle.valid P then
    failure .invalidArgument
      "execution session approval verification input is invalid"
  else if !validExecutionSessionApprovalSet P approvalSet then
    failure .corruptData "execution session approval-set identity is invalid"
  else if approvalSet.requestId ≠ request.id
      ∨ request.reviewedProfileId ≠ reviewed.profile.id
      ∨ request.reviewedProfileApprovalSetId ≠ reviewed.approvalSet.id
      ∨ request.trustBundleId ≠ trustBundle.id
      ∨ request.trustBundleSequence ≠ trustBundle.sequence then
    failure .identityMismatch
      "execution session review trust binding is invalid" request.id
  else do
    let _ ← validateSessionApprovalPolicy reviewed approvalSet.approvals
    verifySessionApprovals P request trustBundle approvalSet.approvals

-- === acknowledgements

/-- `verify_execution_controller_acknowledgement`. -/
def verifyExecutionControllerAcknowledgement (request : ExecutionSessionRequest)
    (a : ExecutionControllerAcknowledgement) : Result Unit :=
  if !request.valid P || !validExecutionControllerAcknowledgement P a then
    failure .invalidArgument
      "execution controller acknowledgement verification input is invalid"
  else if a.requestId ≠ request.id
      ∨ a.commandSequenceId ≠ request.commandSequenceId
      ∨ a.controllerServiceId ≠ request.controller.serviceId
      ∨ a.controllerKeyId ≠ request.controller.id
      ∨ a.acceptedCommandCount ≠ request.commandCount then
    failure .identityMismatch
      "execution controller acknowledgement binding is invalid" request.id
  else do
    let signature ← decodeHex a.authenticationTag kEd25519SignatureBytes
    ed25519Verify P (executionControllerAcknowledgementMessage P a) signature
      request.controller.publicKey.toList

/-- `verify_execution_monitor_acknowledgement`. -/
def verifyExecutionMonitorAcknowledgement (request : ExecutionSessionRequest)
    (a : ExecutionMonitorAcknowledgement) : Result Unit :=
  if !request.valid P || !validExecutionMonitorAcknowledgement P a then
    failure .invalidArgument
      "execution monitor acknowledgement verification input is invalid"
  else if a.observation.requestId ≠ request.id
      ∨ a.observation.commandSequenceId ≠ request.commandSequenceId
      ∨ a.monitorServiceId ≠ request.runtimeMonitor.serviceId
      ∨ a.monitorKeyId ≠ request.runtimeMonitor.id then
    failure .identityMismatch
      "execution monitor acknowledgement binding is invalid" request.id
  else do
    let signature ← decodeHex a.authenticationTag kEd25519SignatureBytes
    ed25519Verify P (executionMonitorAcknowledgementMessage P a) signature
      request.runtimeMonitor.publicKey.toList

-- === sessions

/-- `BoundedExecutionSession::create`. -/
def BoundedExecutionSession.create (request : ExecutionSessionRequest)
    (commandSequence : ExecutionCommandSequence)
    (approvalSet : ExecutionSessionApprovalSet)
    (controllerAcknowledgement : ExecutionControllerAcknowledgement)
    (monitorAcknowledgement : ExecutionMonitorAcknowledgement)
    (reviewed : ReviewedDeploymentProfile) (trustBundle : ServiceTrustBundle)
    (atlas : SafeAtlas) : Result BoundedExecutionSession :=
  if !request.valid P || !commandSequence.valid P
      || !validExecutionSessionApprovalSet P approvalSet
      || !validExecutionControllerAcknowledgement P controllerAcknowledgement
      || !validExecutionMonitorAcknowledgement P monitorAcknowledgement
      || !reviewed.valid P || !trustBundle.valid P then
    failure .invalidArgument "bounded execution session input is invalid"
  else if request.commandSequenceId ≠ commandSequence.id
      ∨ request.commandCount ≠ commandSequence.commands.length
      ∨ request.atlasId ≠ commandSequence.atlasId
      ∨ request.robotDigest ≠ commandSequence.robotDigest
      ∨ request.sceneDigest ≠ commandSequence.sceneDigest
      ∨ request.reviewedProfileId ≠ reviewed.profile.id
      ∨ request.reviewedProfileApprovalSetId ≠ reviewed.approvalSet.id
      ∨ request.trustRootBundleId ≠ reviewed.profile.trustRootBundleId
      ∨ request.trustCheckpointId ≠ reviewed.profile.trustCheckpointId
      ∨ request.trustBundleId ≠ reviewed.profile.trustBundleId
      ∨ request.trustBundleSequence ≠ reviewed.profile.trustBundleSequence then
    failure .identityMismatch
      "bounded execution session dependency binding is invalid" request.id
  else do
    let _ ← commandSequence.verifyCompatible P atlas
    let _ ← verifyExecutionSessionApprovals P request reviewed approvalSet
      trustBundle
    let _ ← verifyExecutionControllerAcknowledgement P request
      controllerAcknowledgement
    let _ ← verifyExecutionMonitorAcknowledgement P request
      monitorAcknowledgement
    let observation := monitorAcknowledgement.observation
    if observation.monitorState ≠ .armedCertifiedSequence then
      failure .identityMismatch
        "runtime monitor did not acknowledge an armed certified sequence"
        observation.id
    else do
      let assessment ← reviewed.assess P observation.runtime
      let maximumAge := reviewed.profile.runtimeConstraints.maximumObservationAgeNs
      if assessment.status ≠ .conformant ∨ assessment.evidence ≠ .unknown
          ∨ assessment.authorizesExecution then
        failure .identityMismatch
          "runtime observation is not conformant with the reviewed deployment profile"
          assessment.id
      else if observation.runtime.observationAgeNs > maximumAge
          ∨ request.limits.maximumDurationNs
            > maximumAge - observation.runtime.observationAgeNs then
        failure .identityMismatch
          "execution session outlives reviewed observation freshness"
          observation.id
      else match
          checkedAdd observation.observedMonotonicNs
            request.limits.maximumStartDelayNs,
          checkedAdd observation.observedMonotonicNs
            request.limits.maximumDurationNs with
      | some startDeadline, some validThrough =>
          let session : BoundedExecutionSession :=
            { request := request
              commandSequence := commandSequence
              approvalSet := approvalSet
              controllerAcknowledgement := controllerAcknowledgement
              monitorAcknowledgement := monitorAcknowledgement
              validFromMonotonicNs := observation.observedMonotonicNs
              startDeadlineMonotonicNs := startDeadline
              validThroughMonotonicNs := validThrough }
          let session := { session with
            id := boundedExecutionSessionIdentity P session }
          if !session.valid P then
            failure .internalError
              "constructed bounded execution session is invalid"
          else .ok session
      | _, _ =>
          failure .invalidArgument
            "execution session monotonic time bounds overflow"

/-- The end of the window of a command: its latency deadline, cut at the
end of the session and, for the first command, at the start deadline. -/
def commandDeadline (session : BoundedExecutionSession) (commandIndex : UInt64)
    (latencyDeadline : UInt64) : UInt64 :=
  let validThrough := min latencyDeadline session.validThroughMonotonicNs
  if commandIndex = 0 then min validThrough session.startDeadlineMonotonicNs
  else validThrough

/-- `BoundedExecutionSession::authorize_command`. -/
def BoundedExecutionSession.authorizeCommand (session : BoundedExecutionSession)
    (commandIndex : UInt64) (configuration : Configuration)
    (dispatchMonotonicNs : UInt64) :
    Result (Option ExecutionCommandAuthorization) :=
  if !session.valid P
      || !validConfiguration configuration session.commandSequence.dimension
      || dispatchMonotonicNs == 0 then
    failure .invalidArgument "execution command authorization input is invalid"
  else match session.commandSequence.commands[commandIndex.toNat]? with
  | none => .ok none
  | some command =>
      if sameConfiguration configuration command.configuration = false then
        .ok none
      else match checkedAdd session.validFromMonotonicNs
          command.scheduledOffsetNs with
      | none =>
          failure .internalError "execution command time window overflow"
      | some validFrom =>
          let runtime := session.monitorAcknowledgement.observation.runtime
          match checkedAdd validFrom runtime.commandLatencyNs with
          | none =>
              failure .internalError "execution command latency window overflow"
          | some latencyDeadline =>
              let validThrough := commandDeadline session commandIndex
                latencyDeadline
              if dispatchMonotonicNs < validFrom
                  ∨ dispatchMonotonicNs > validThrough then .ok none
              else
                let result : ExecutionCommandAuthorization :=
                  { sessionId := session.id
                    commandSequenceId := session.commandSequence.id
                    commandIndex := commandIndex
                    commandDigest := executionCommandDigest P command
                    dispatchMonotonicNs := dispatchMonotonicNs
                    validFromMonotonicNs := validFrom
                    validThroughMonotonicNs := validThrough }
                .ok (some { result with
                  id := executionCommandAuthorizationIdentity P result })

end

end RbfSafe
