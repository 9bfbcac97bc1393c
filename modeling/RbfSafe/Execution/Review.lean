/-
Reviewing a deployment profile, and requesting a session of it.

`ReviewedDeploymentProfile::create` accepts a profile with the approvals
its policy asks for, signed by keys of the bundle at the head of a signed
checkpoint. `ExecutionSessionRequest::create` fits a command sequence to
such a profile.
-/
import RbfSafe.Execution.Session
import RbfSafe.Identity.Checkpoint

namespace RbfSafe

section
variable (P : Platform)

-- === approvals

/-- `validate_profile_approval_policy`. -/
def validateProfileApprovalPolicy (profile : DeploymentProfile)
    (approvals : List DeploymentProfileApproval) : Result Unit :=
  let policy := profile.reviewPolicy
  let services := (approvals.map fun a => a.signerServiceId).dedup
  if approvals.length < policy.minimumApprovals.toNat then
    failure .identityMismatch
      "deployment profile approval quorum is not satisfied" profile.id
  else if policy.requireDistinctServices
      ∧ services.length < policy.minimumApprovals.toNat then
    failure .identityMismatch
      "deployment profile requires approvals from distinct services" profile.id
  else match policy.requiredRoles.find? fun role =>
      !(approvals.any fun a => a.role == role) with
  | some role =>
      failure .identityMismatch
        "deployment profile required review role is missing"
        (ascii (deploymentReviewRoleName role))
  | none => .ok ()

/-- The signature loop of `verify_deployment_profile_approvals`. -/
def verifyProfileApprovals (profile : DeploymentProfile)
    (trustBundle : ServiceTrustBundle) :
    List DeploymentProfileApproval → Result Unit
  | [] => .ok ()
  | approval :: rest => do
      let trusted ← trustedServicePublicKey P trustBundle
        approval.signerServiceId approval.signerKeyId .publish
        profile.trustBundleSequence
      let signature ← decodeHex approval.authenticationTag kEd25519SignatureBytes
      let _ ← ed25519Verify P (deploymentProfileApprovalMessage P approval)
        signature trusted.publicKey.toList
      verifyProfileApprovals profile trustBundle rest

/-- `verify_deployment_profile_approvals`. -/
def verifyDeploymentProfileApprovals (profile : DeploymentProfile)
    (approvalSet : DeploymentProfileApprovalSet)
    (trustBundle : ServiceTrustBundle) : Result Unit :=
  if !profile.valid P || approvalSet.approvals.isEmpty
      || !trustBundle.valid P then
    failure .invalidArgument
      "deployment profile approval verification input is invalid"
  else if !validDeploymentProfileApprovalSet P approvalSet then
    failure .corruptData "deployment profile approval-set identity is invalid"
  else if approvalSet.profileId ≠ profile.id
      ∨ profile.trustBundleId ≠ trustBundle.id
      ∨ profile.trustBundleSequence ≠ trustBundle.sequence then
    failure .identityMismatch
      "deployment profile review trust binding is invalid" profile.id
  else do
    let _ ← validateProfileApprovalPolicy profile approvalSet.approvals
    verifyProfileApprovals P profile trustBundle approvalSet.approvals

/-- `ReviewedDeploymentProfile::create`. -/
def ReviewedDeploymentProfile.create (profile : DeploymentProfile)
    (approvalSet : DeploymentProfileApprovalSet)
    (trustHistory : ServiceTrustHistory)
    (trustCheckpoint : ServiceTrustCheckpoint) (expectedCheckpointId : Bytes) :
    Result ReviewedDeploymentProfile :=
  if !profile.valid P || !validDeploymentProfileApprovalSet P approvalSet
      || !trustHistory.valid P || !trustCheckpoint.valid P
      || !validSha256 expectedCheckpointId then
    failure .invalidArgument "reviewed deployment profile input is invalid"
  else do
    let _ ← verifyServiceTrustCheckpoint P trustHistory trustCheckpoint
      expectedCheckpointId
    if profile.trustRootBundleId ≠ trustCheckpoint.rootBundleId
        ∨ profile.trustCheckpointId ≠ trustCheckpoint.id
        ∨ profile.trustBundleId ≠ trustCheckpoint.headBundleId
        ∨ profile.trustBundleSequence ≠ trustCheckpoint.headSequence then
      failure .identityMismatch
        "deployment profile is bound to another trust root, checkpoint, or head"
        profile.id
    else do
      let bundle ← trustHistory.bundle P profile.trustBundleId
      let _ ← verifyDeploymentProfileApprovals P profile approvalSet bundle
      .ok { profile := profile, approvalSet := approvalSet }

-- === requests

/-- `ExecutionSessionRequestInput`. -/
structure ExecutionSessionRequestInput where
  sessionNonce : Bytes
  controller : ExecutionEndpointKey
  runtimeMonitor : ExecutionEndpointKey
  limits : ExecutionSessionLimits := {}

/-- The loop of `ExecutionSessionRequest::create` over the commands: whether
no command comes later after the one before it than a control period. The
offsets of a valid sequence increase, so no difference wraps around. -/
def withinControlPeriod (maximumControlPeriodNs : UInt64) :
    List ExecutionCommand → Bool
  | previous :: command :: rest =>
      decide (command.scheduledOffsetNs - previous.scheduledOffsetNs
          ≤ maximumControlPeriodNs)
        && withinControlPeriod maximumControlPeriodNs (command :: rest)
  | _ => true

/-- The offset of the last command. -/
def lastOffsetNs (commands : List ExecutionCommand) : UInt64 :=
  (commands.getLast?.map fun command => command.scheduledOffsetNs).getD 0

/-- `ExecutionSessionRequest::create`. -/
def ExecutionSessionRequest.create (reviewed : ReviewedDeploymentProfile)
    (commandSequence : ExecutionCommandSequence)
    (input : ExecutionSessionRequestInput) : Result ExecutionSessionRequest :=
  let constraints := reviewed.profile.runtimeConstraints
  if !reviewed.valid P || !commandSequence.valid P
      || !validSha256 input.sessionNonce
      || !validExecutionEndpointKey P input.controller
      || !validExecutionEndpointKey P input.runtimeMonitor
      || input.controller.role != .controller
      || input.runtimeMonitor.role != .runtimeMonitor
      || input.controller.serviceId == input.runtimeMonitor.serviceId
      || input.controller.id == input.runtimeMonitor.id
      || !validExecutionSessionLimits input.limits
      || decide (input.limits.maximumCommands < commandSequence.commands.length)
      || commandSequence.robotDigest != reviewed.profile.robotDigest
      || decide (constraints.maximumObservationAgeNs
        < input.limits.maximumStartDelayNs)
      || decide (constraints.maximumObservationAgeNs
        < input.limits.maximumDurationNs) then
    failure .invalidArgument "execution session request input is invalid"
  else if withinControlPeriod constraints.maximumControlPeriodNs
      commandSequence.commands = false then
    failure .identityMismatch
      "execution command schedule exceeds reviewed control period"
      commandSequence.id
  else if input.limits.maximumDurationNs
      < lastOffsetNs commandSequence.commands then
    failure .identityMismatch
      "execution command schedule exceeds session duration" commandSequence.id
  else
    let result : ExecutionSessionRequest :=
      { sessionNonce := input.sessionNonce
        reviewedProfileId := reviewed.profile.id
        reviewedProfileApprovalSetId := reviewed.approvalSet.id
        trustRootBundleId := reviewed.profile.trustRootBundleId
        trustCheckpointId := reviewed.profile.trustCheckpointId
        trustBundleId := reviewed.profile.trustBundleId
        trustBundleSequence := reviewed.profile.trustBundleSequence
        commandSequenceId := commandSequence.id
        atlasId := commandSequence.atlasId
        robotDigest := commandSequence.robotDigest
        sceneDigest := commandSequence.sceneDigest
        commandCount := commandSequence.commands.length
        controller := input.controller
        runtimeMonitor := input.runtimeMonitor
        limits := input.limits }
    .ok { result with id := executionSessionRequestIdentity P result }

end

end RbfSafe
