/-
Reviewed deployment profiles: the constraints a deployment must run
under, the approvals of its reviewers, and the assessment of a runtime
snapshot against the constraints.
-/
import RbfSafe.Identity.Types

namespace RbfSafe

open Json

/-- `EvidenceLevel`. -/
inductive EvidenceLevel where
  | unknown
  | pointChecked
  | certifiedRegion
  | certifiedConnectivity
  | runtimeExecutable
deriving DecidableEq, Repr

def EvidenceLevel.toNat : EvidenceLevel → Nat
  | .unknown => 0
  | .pointChecked => 1
  | .certifiedRegion => 2
  | .certifiedConnectivity => 3
  | .runtimeExecutable => 4

/-- `DeploymentReviewRole`. -/
inductive DeploymentReviewRole where
  | safety
  | controls
  | operations
  | security
deriving DecidableEq, Repr

def DeploymentReviewRole.toNat : DeploymentReviewRole → Nat
  | .safety => 0
  | .controls => 1
  | .operations => 2
  | .security => 3

/-- `deployment_review_role_name`. -/
def deploymentReviewRoleName : DeploymentReviewRole → String
  | .safety => "safety"
  | .controls => "controls"
  | .operations => "operations"
  | .security => "security"

/-- `DeploymentReviewPolicy`. -/
structure DeploymentReviewPolicy where
  minimumApprovals : UInt32 := 1
  requireDistinctServices : Bool := false
  requiredRoles : List DeploymentReviewRole := []

/-- `DeploymentRuntimeConstraints`. -/
structure DeploymentRuntimeConstraints where
  maximumObservationAgeNs : UInt64 := 100000000
  maximumCommandLatencyNs : UInt64 := 100000000
  maximumControlPeriodNs : UInt64 := 100000000
  maximumConsecutiveMissedCycles : UInt32 := 0
  requireRuntimeMonitor : Bool := true
  requireFailClosedTransport : Bool := true
  requireAuthenticatedArtifacts : Bool := true

/-- `DeploymentProfile`. -/
structure DeploymentProfile where
  storageSchema : UInt32 := 1
  id : Bytes := []
  deploymentId : Bytes
  robotDigest : Bytes
  controllerDigest : Bytes
  platformDigest : Bytes
  runtimeDigest : Bytes
  trustRootBundleId : Bytes
  trustCheckpointId : Bytes
  trustBundleId : Bytes
  trustBundleSequence : UInt64 := 0
  runtimeConstraints : DeploymentRuntimeConstraints := {}
  reviewPolicy : DeploymentReviewPolicy := {}

/-- `DeploymentProfileApproval`. -/
structure DeploymentProfileApproval where
  id : Bytes := []
  profileId : Bytes
  signerServiceId : Bytes
  signerKeyId : Bytes
  role : DeploymentReviewRole := .safety
  algorithm : ArtifactAuthenticationAlgorithm := .ed25519
  authenticationTag : Bytes := []

/-- `DeploymentProfileApprovalSet`. -/
structure DeploymentProfileApprovalSet where
  id : Bytes := []
  profileId : Bytes
  approvals : List DeploymentProfileApproval

/-- `DeploymentRuntimeSnapshot`. -/
structure DeploymentRuntimeSnapshot where
  deploymentId : Bytes
  robotDigest : Bytes
  controllerDigest : Bytes
  platformDigest : Bytes
  runtimeDigest : Bytes
  observationAgeNs : UInt64 := 0
  commandLatencyNs : UInt64 := 0
  controlPeriodNs : UInt64 := 0
  consecutiveMissedCycles : UInt32 := 0
  runtimeMonitorActive : Bool := false
  failClosedTransportActive : Bool := false
  authenticatedArtifacts : Bool := false

/-- `DeploymentConstraintViolation`. -/
inductive DeploymentConstraintViolation where
  | deploymentIdentityMismatch
  | robotIdentityMismatch
  | controllerIdentityMismatch
  | platformIdentityMismatch
  | runtimeIdentityMismatch
  | observationAgeExceeded
  | commandLatencyExceeded
  | controlPeriodExceeded
  | missedCycleLimitExceeded
  | runtimeMonitorRequired
  | failClosedTransportRequired
  | authenticatedArtifactsRequired
deriving DecidableEq, Repr

def DeploymentConstraintViolation.toNat : DeploymentConstraintViolation → Nat
  | .deploymentIdentityMismatch => 0
  | .robotIdentityMismatch => 1
  | .controllerIdentityMismatch => 2
  | .platformIdentityMismatch => 3
  | .runtimeIdentityMismatch => 4
  | .observationAgeExceeded => 5
  | .commandLatencyExceeded => 6
  | .controlPeriodExceeded => 7
  | .missedCycleLimitExceeded => 8
  | .runtimeMonitorRequired => 9
  | .failClosedTransportRequired => 10
  | .authenticatedArtifactsRequired => 11

/-- `DeploymentProfileAssessmentStatus`. -/
inductive DeploymentProfileAssessmentStatus where
  | conformant
  | nonconformant
deriving DecidableEq, Repr

def DeploymentProfileAssessmentStatus.toNat :
    DeploymentProfileAssessmentStatus → Nat
  | .conformant => 0
  | .nonconformant => 1

/-- `DeploymentProfileAssessment`. -/
structure DeploymentProfileAssessment where
  id : Bytes := []
  profileId : Bytes
  approvalSetId : Bytes
  runtimeSnapshotId : Bytes
  status : DeploymentProfileAssessmentStatus := .nonconformant
  violations : List DeploymentConstraintViolation := []
  evidence : EvidenceLevel := .unknown

/-- `DeploymentProfileAssessment::authorizes_execution`. -/
def DeploymentProfileAssessment.authorizesExecution
    (_ : DeploymentProfileAssessment) : Bool := false

/-- `ReviewedDeploymentProfile`. -/
structure ReviewedDeploymentProfile where
  profile : DeploymentProfile
  approvalSet : DeploymentProfileApprovalSet

-- === documents

/-- `runtime_constraints_json`. -/
def runtimeConstraintsJson (c : DeploymentRuntimeConstraints) : Json :=
  object (obj [
    ("maximum_command_latency_ns", uint c.maximumCommandLatencyNs.toNat),
    ("maximum_consecutive_missed_cycles",
      num c.maximumConsecutiveMissedCycles.toNat),
    ("maximum_control_period_ns", uint c.maximumControlPeriodNs.toNat),
    ("maximum_observation_age_ns", uint c.maximumObservationAgeNs.toNat),
    ("require_authenticated_artifacts", bool c.requireAuthenticatedArtifacts),
    ("require_fail_closed_transport", bool c.requireFailClosedTransport),
    ("require_runtime_monitor", bool c.requireRuntimeMonitor)])

/-- `review_policy_json`. -/
def reviewPolicyJson (p : DeploymentReviewPolicy) : Json :=
  object (obj [
    ("minimum_approvals", num p.minimumApprovals.toNat),
    ("require_distinct_services", bool p.requireDistinctServices),
    ("required_roles", array (p.requiredRoles.map fun role => num role.toNat))])

/-- The document of `deployment_profile_identity`. -/
def deploymentProfileJson (p : DeploymentProfile) : Json :=
  object (obj [
    ("controller_digest", string p.controllerDigest),
    ("deployment_id", string p.deploymentId),
    ("format", string (ascii "rbfsafe-deployment-profile")),
    ("platform_digest", string p.platformDigest),
    ("review_policy", reviewPolicyJson p.reviewPolicy),
    ("robot_digest", string p.robotDigest),
    ("runtime_constraints", runtimeConstraintsJson p.runtimeConstraints),
    ("runtime_digest", string p.runtimeDigest),
    ("schema", num p.storageSchema.toNat),
    ("trust_bundle_id", string p.trustBundleId),
    ("trust_bundle_sequence", uint p.trustBundleSequence.toNat),
    ("trust_checkpoint_id", string p.trustCheckpointId),
    ("trust_root_bundle_id", string p.trustRootBundleId)])

/-- The document of `deployment_profile_approval_message`. -/
def deploymentProfileApprovalJson (a : DeploymentProfileApproval) : Json :=
  object (obj [
    ("algorithm", num a.algorithm.toNat),
    ("format", string (ascii "rbfsafe-deployment-profile-approval")),
    ("profile_id", string a.profileId),
    ("role", num a.role.toNat),
    ("schema", num 1),
    ("signer_key_id", string a.signerKeyId),
    ("signer_service_id", string a.signerServiceId)])

/-- The document of `deployment_profile_approval_set_identity`. -/
def deploymentProfileApprovalSetJson (s : DeploymentProfileApprovalSet) :
    Json :=
  object (obj [
    ("approval_ids", array (s.approvals.map fun a => string a.id)),
    ("format", string (ascii "rbfsafe-deployment-profile-approval-set")),
    ("profile_id", string s.profileId),
    ("schema", num 1)])

/-- `runtime_snapshot_json` of the deployment. -/
def deploymentRuntimeSnapshotJson (s : DeploymentRuntimeSnapshot) : Json :=
  object (obj [
    ("authenticated_artifacts", bool s.authenticatedArtifacts),
    ("command_latency_ns", uint s.commandLatencyNs.toNat),
    ("consecutive_missed_cycles", num s.consecutiveMissedCycles.toNat),
    ("control_period_ns", uint s.controlPeriodNs.toNat),
    ("controller_digest", string s.controllerDigest),
    ("deployment_id", string s.deploymentId),
    ("fail_closed_transport_active", bool s.failClosedTransportActive),
    ("format", string (ascii "rbfsafe-deployment-runtime-snapshot")),
    ("observation_age_ns", uint s.observationAgeNs.toNat),
    ("platform_digest", string s.platformDigest),
    ("robot_digest", string s.robotDigest),
    ("runtime_digest", string s.runtimeDigest),
    ("runtime_monitor_active", bool s.runtimeMonitorActive),
    ("schema", num 1)])

/-- The document of `deployment_profile_assessment_identity`. -/
def deploymentProfileAssessmentJson (a : DeploymentProfileAssessment) : Json :=
  object (obj [
    ("approval_set_id", string a.approvalSetId),
    ("evidence", num a.evidence.toNat),
    ("format", string (ascii "rbfsafe-deployment-profile-assessment")),
    ("profile_id", string a.profileId),
    ("runtime_snapshot_id", string a.runtimeSnapshotId),
    ("schema", num 1),
    ("status", num a.status.toNat),
    ("violations", array (a.violations.map fun v => num v.toNat))])

section
variable (P : Platform)

/-- `deployment_profile_identity`. -/
def deploymentProfileIdentity (p : DeploymentProfile) : Bytes :=
  P.sha256 ((deploymentProfileJson p).dump P.toLibc false 0)

/-- `deployment_profile_approval_message`. -/
def deploymentProfileApprovalMessage (a : DeploymentProfileApproval) : Bytes :=
  ascii "rbfsafe-deployment-profile-approval-v1\n"
    ++ (deploymentProfileApprovalJson a).dump P.toLibc false 0

/-- `deployment_profile_approval_identity`. -/
def deploymentProfileApprovalIdentity (a : DeploymentProfileApproval) : Bytes :=
  P.sha256 (ascii "rbfsafe-deployment-profile-approval-identity-v1\n"
    ++ deploymentProfileApprovalMessage P a ++ ascii "\n"
    ++ a.authenticationTag)

/-- `deployment_profile_approval_set_identity`. -/
def deploymentProfileApprovalSetIdentity (s : DeploymentProfileApprovalSet) :
    Bytes :=
  P.sha256 ((deploymentProfileApprovalSetJson s).dump P.toLibc false 0)

/-- `deployment_runtime_snapshot_identity`. -/
def deploymentRuntimeSnapshotIdentity (s : DeploymentRuntimeSnapshot) : Bytes :=
  P.sha256 ((deploymentRuntimeSnapshotJson s).dump P.toLibc false 0)

/-- `deployment_profile_assessment_identity`. -/
def deploymentProfileAssessmentIdentity (a : DeploymentProfileAssessment) :
    Bytes :=
  P.sha256 ((deploymentProfileAssessmentJson a).dump P.toLibc false 0)

end

-- === validity

/-- `kMaximumApprovals`. -/
def kMaximumApprovals : Nat := 100000

/-- `valid_lower_hex`. -/
def validLowerHex (text : Bytes) (characters : Nat) : Bool :=
  text.length == characters && text.all isLowerHex

/-- `valid_deployment_review_policy`. The roles are sorted and come once:
each is below the next. -/
def validDeploymentReviewPolicy (p : DeploymentReviewPolicy) : Bool :=
  p.minimumApprovals != 0
    && decide (p.minimumApprovals.toNat ≤ kMaximumApprovals)
    && decide (p.requiredRoles.Pairwise fun a b => a.toNat < b.toNat)

/-- `valid_deployment_runtime_constraints`. -/
def validDeploymentRuntimeConstraints (c : DeploymentRuntimeConstraints) :
    Bool :=
  decide (c.maximumObservationAgeNs > 0) && decide (c.maximumCommandLatencyNs > 0)
    && decide (c.maximumControlPeriodNs > 0)

/-- `valid_deployment_runtime_snapshot`. -/
def validDeploymentRuntimeSnapshot (s : DeploymentRuntimeSnapshot) : Bool :=
  validIdentifier s.deploymentId && validSha256 s.robotDigest
    && validSha256 s.controllerDigest && validSha256 s.platformDigest
    && validSha256 s.runtimeDigest && decide (s.controlPeriodNs > 0)

/-- `approval_order`: the tuple that both approval sets are sorted by, as
the "not after" of `std::is_sorted`. -/
def approvalNotAfter (service key : Bytes) (role : DeploymentReviewRole)
    (id service' key' : Bytes) (role' : DeploymentReviewRole) (id' : Bytes) :
    Bool :=
  if service ≠ service' then decide (service < service')
  else if key ≠ key' then decide (key < key')
  else if role ≠ role' then decide (role.toNat < role'.toNat)
  else !decide (id' < id)

/-- `std::is_sorted`, for the "not after" of its comparator. -/
def isSorted {α : Type} (notAfter : α → α → Bool) : List α → Bool
  | a :: b :: rest => notAfter a b && isSorted notAfter (b :: rest)
  | _ => true

section
variable (P : Platform)

/-- `DeploymentProfile::valid`. -/
def DeploymentProfile.valid (p : DeploymentProfile) : Bool :=
  p.storageSchema == 1 && validIdentifier p.deploymentId
    && validSha256 p.robotDigest && validSha256 p.controllerDigest
    && validSha256 p.platformDigest && validSha256 p.runtimeDigest
    && validSha256 p.trustRootBundleId && validSha256 p.trustCheckpointId
    && validSha256 p.trustBundleId && decide (p.trustBundleSequence > 0)
    && validDeploymentRuntimeConstraints p.runtimeConstraints
    && validDeploymentReviewPolicy p.reviewPolicy && validSha256 p.id
    && p.id == deploymentProfileIdentity P p

/-- `valid_deployment_profile_approval`. -/
def validDeploymentProfileApproval (a : DeploymentProfileApproval) : Bool :=
  validSha256 a.id && validSha256 a.profileId
    && validIdentifier a.signerServiceId && validSha256 a.signerKeyId
    && a.algorithm == .ed25519
    && validLowerHex a.authenticationTag (kEd25519SignatureBytes * 2)
    && a.id == deploymentProfileApprovalIdentity P a

/-- `valid_deployment_profile_approval_set`. The set of signers the source
fills rejects a pair that comes twice. -/
def validDeploymentProfileApprovalSet (s : DeploymentProfileApprovalSet) :
    Bool :=
  validSha256 s.id && validSha256 s.profileId && !s.approvals.isEmpty
    && decide (s.approvals.length ≤ kMaximumApprovals)
    && s.approvals.all (validDeploymentProfileApproval P)
    && isSorted (fun a b => approvalNotAfter a.signerServiceId a.signerKeyId
      a.role a.id b.signerServiceId b.signerKeyId b.role b.id) s.approvals
    && s.approvals.all (fun a => a.profileId == s.profileId)
    && decide (s.approvals.map fun a => (a.signerServiceId, a.signerKeyId)).Nodup
    && s.id == deploymentProfileApprovalSetIdentity P s

/-- `ReviewedDeploymentProfile::valid`. -/
def ReviewedDeploymentProfile.valid (r : ReviewedDeploymentProfile) : Bool :=
  r.profile.valid P && validDeploymentProfileApprovalSet P r.approvalSet
    && r.approvalSet.profileId == r.profile.id

-- === assessment

/-- The checks of `ReviewedDeploymentProfile::assess` in its order, each
with the violation it reports. -/
def constraintChecks (p : DeploymentProfile) (s : DeploymentRuntimeSnapshot) :
    List (Bool × DeploymentConstraintViolation) :=
  [(s.deploymentId != p.deploymentId, .deploymentIdentityMismatch),
    (s.robotDigest != p.robotDigest, .robotIdentityMismatch),
    (s.controllerDigest != p.controllerDigest, .controllerIdentityMismatch),
    (s.platformDigest != p.platformDigest, .platformIdentityMismatch),
    (s.runtimeDigest != p.runtimeDigest, .runtimeIdentityMismatch),
    (decide (s.observationAgeNs > p.runtimeConstraints.maximumObservationAgeNs),
      .observationAgeExceeded),
    (decide (s.commandLatencyNs > p.runtimeConstraints.maximumCommandLatencyNs),
      .commandLatencyExceeded),
    (decide (s.controlPeriodNs > p.runtimeConstraints.maximumControlPeriodNs),
      .controlPeriodExceeded),
    (decide (s.consecutiveMissedCycles
      > p.runtimeConstraints.maximumConsecutiveMissedCycles),
      .missedCycleLimitExceeded),
    (p.runtimeConstraints.requireRuntimeMonitor && !s.runtimeMonitorActive,
      .runtimeMonitorRequired),
    (p.runtimeConstraints.requireFailClosedTransport
      && !s.failClosedTransportActive, .failClosedTransportRequired),
    (p.runtimeConstraints.requireAuthenticatedArtifacts
      && !s.authenticatedArtifacts, .authenticatedArtifactsRequired)]

/-- The violations it collects. -/
def constraintViolations (p : DeploymentProfile)
    (s : DeploymentRuntimeSnapshot) : List DeploymentConstraintViolation :=
  ((constraintChecks p s).filter fun check => check.1).map fun check => check.2

/-- `ReviewedDeploymentProfile::assess`. -/
def ReviewedDeploymentProfile.assess (r : ReviewedDeploymentProfile)
    (snapshot : DeploymentRuntimeSnapshot) : Result DeploymentProfileAssessment :=
  if !r.valid P || !validDeploymentRuntimeSnapshot snapshot then
    failure .invalidArgument "deployment runtime assessment input is invalid"
  else
    let violations := constraintViolations r.profile snapshot
    let result : DeploymentProfileAssessment :=
      { profileId := r.profile.id
        approvalSetId := r.approvalSet.id
        runtimeSnapshotId := deploymentRuntimeSnapshotIdentity P snapshot
        status := if violations.isEmpty then .conformant else .nonconformant
        violations := violations }
    .ok { result with id := deploymentProfileAssessmentIdentity P result }

-- === trusted keys

/-- `ArtifactTransferOperation`. -/
inductive ArtifactTransferOperation where
  | fetch
  | publish
deriving DecidableEq, Repr

/-- `trusted_service_public_key`. -/
def trustedServicePublicKey (bundle : ServiceTrustBundle)
    (serviceId keyId : Bytes) (operation : ArtifactTransferOperation)
    (serviceSequence : UInt64) : Result ServicePublicKey :=
  if !bundle.valid P || serviceSequence == 0 then
    failure .invalidArgument "trusted service-key lookup input is invalid"
  else do
    let found ← bundle.key P serviceId keyId
    match found with
    | none =>
        failure .identityMismatch
          "service key is absent from the pinned trust bundle" keyId
    | some key =>
        let stateTrusted := key.state == .active || key.state == .retired
        let sequenceTrusted := decide (serviceSequence ≥ key.validFromSequence)
          && (key.validThroughSequence == 0
            || decide (serviceSequence ≤ key.validThroughSequence))
        let operationTrusted := (operation == .fetch && key.allowFetch)
          || (operation == .publish && key.allowPublish)
        if !stateTrusted || !sequenceTrusted || !operationTrusted then
          failure .identityMismatch
            "service key is not trusted for this operation and sequence" key.id
        else .ok key

end

end RbfSafe
