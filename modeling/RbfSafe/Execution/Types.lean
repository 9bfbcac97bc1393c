/-
Bounded execution sessions: endpoints, the certified command sequence,
the request, its approvals, the acknowledgements of controller and
monitor, and the authorizations a session hands out.

A `double` of a configuration is a finite value or not; the identities
are computed of finite configurations only, since every `valid` checks
the configurations before it compares ids.
-/
import RbfSafe.Execution.Deployment

namespace RbfSafe

open Json

/-- A `double`, as far as a configuration is looked at. -/
inductive Double where
  | finite (value : FiniteDouble)
  | nonFinite
deriving DecidableEq

/-- `std::isfinite`. -/
def Double.isFinite : Double → Bool
  | finite _ => true
  | nonFinite => false

/-- The value of a finite `double`. -/
def Double.value : Double → FiniteDouble
  | finite value => value
  | nonFinite => .value 0

/-- `Configuration`. -/
abbrev Configuration := List Double

/-- `operator==` of two finite configurations: the zeros are equal. -/
def sameConfiguration (configuration other : Configuration) : Bool :=
  configuration.map (fun value => value.value.toRat)
    == other.map fun value => value.value.toRat

/-- `ExecutionEndpointRole`. -/
inductive ExecutionEndpointRole where
  | controller
  | runtimeMonitor
deriving DecidableEq, Repr

def ExecutionEndpointRole.toNat : ExecutionEndpointRole → Nat
  | .controller => 0
  | .runtimeMonitor => 1

/-- `ExecutionEndpointKey`. -/
structure ExecutionEndpointKey where
  id : Bytes := []
  serviceId : Bytes
  role : ExecutionEndpointRole := .controller
  algorithm : ArtifactAuthenticationAlgorithm := .ed25519
  publicKey : Vector UInt8 32

/-- `ExecutionCommand`. -/
structure ExecutionCommand where
  index : UInt64 := 0
  scheduledOffsetNs : UInt64 := 0
  configuration : Configuration

/-- `ExecutionCommandSequence`. -/
structure ExecutionCommandSequence where
  storageSchema : UInt32 := 1
  id : Bytes := []
  atlasId : Bytes
  robotDigest : Bytes
  sceneDigest : Bytes
  connectivityCertificateId : Bytes
  dimension : Nat := 0
  commands : List ExecutionCommand
  regionSequence : List UInt64

/-- `ExecutionSessionLimits`. -/
structure ExecutionSessionLimits where
  maximumStartDelayNs : UInt64 := 10000000
  maximumDurationNs : UInt64 := 100000000
  maximumCommands : Nat := 100000

/-- `ExecutionSessionRequest`. -/
structure ExecutionSessionRequest where
  storageSchema : UInt32 := 1
  id : Bytes := []
  sessionNonce : Bytes
  reviewedProfileId : Bytes
  reviewedProfileApprovalSetId : Bytes
  trustRootBundleId : Bytes
  trustCheckpointId : Bytes
  trustBundleId : Bytes
  trustBundleSequence : UInt64 := 0
  commandSequenceId : Bytes
  atlasId : Bytes
  robotDigest : Bytes
  sceneDigest : Bytes
  commandCount : Nat := 0
  controller : ExecutionEndpointKey
  runtimeMonitor : ExecutionEndpointKey
  limits : ExecutionSessionLimits := {}

/-- `ExecutionSessionApproval`. -/
structure ExecutionSessionApproval where
  id : Bytes := []
  requestId : Bytes
  signerServiceId : Bytes
  signerKeyId : Bytes
  role : DeploymentReviewRole := .safety
  algorithm : ArtifactAuthenticationAlgorithm := .ed25519
  authenticationTag : Bytes := []

/-- `ExecutionSessionApprovalSet`. -/
structure ExecutionSessionApprovalSet where
  id : Bytes := []
  requestId : Bytes
  approvals : List ExecutionSessionApproval

/-- `ExecutionControllerAcknowledgement`. -/
structure ExecutionControllerAcknowledgement where
  id : Bytes := []
  requestId : Bytes
  commandSequenceId : Bytes
  controllerServiceId : Bytes
  controllerKeyId : Bytes
  acceptedCommandCount : Nat := 0
  algorithm : ArtifactAuthenticationAlgorithm := .ed25519
  authenticationTag : Bytes := []

/-- `ExecutionMonitorState`. -/
inductive ExecutionMonitorState where
  | armedCertifiedSequence
  | disarmed
  | fault
deriving DecidableEq, Repr

def ExecutionMonitorState.toNat : ExecutionMonitorState → Nat
  | .armedCertifiedSequence => 0
  | .disarmed => 1
  | .fault => 2

/-- `ExecutionRuntimeObservation`. -/
structure ExecutionRuntimeObservation where
  id : Bytes := []
  requestId : Bytes
  commandSequenceId : Bytes
  runtime : DeploymentRuntimeSnapshot
  observationSequence : UInt64 := 0
  observedMonotonicNs : UInt64 := 0
  monitorState : ExecutionMonitorState := .disarmed

/-- `ExecutionMonitorAcknowledgement`. -/
structure ExecutionMonitorAcknowledgement where
  id : Bytes := []
  observation : ExecutionRuntimeObservation
  monitorServiceId : Bytes
  monitorKeyId : Bytes
  algorithm : ArtifactAuthenticationAlgorithm := .ed25519
  authenticationTag : Bytes := []

/-- `ExecutionCommandAuthorization`. -/
structure ExecutionCommandAuthorization where
  id : Bytes := []
  sessionId : Bytes
  commandSequenceId : Bytes
  commandIndex : UInt64 := 0
  commandDigest : Bytes
  dispatchMonotonicNs : UInt64 := 0
  validFromMonotonicNs : UInt64 := 0
  validThroughMonotonicNs : UInt64 := 0
  evidence : EvidenceLevel := .runtimeExecutable

/-- `BoundedExecutionSession`. -/
structure BoundedExecutionSession where
  id : Bytes := []
  request : ExecutionSessionRequest
  commandSequence : ExecutionCommandSequence
  approvalSet : ExecutionSessionApprovalSet
  controllerAcknowledgement : ExecutionControllerAcknowledgement
  monitorAcknowledgement : ExecutionMonitorAcknowledgement
  validFromMonotonicNs : UInt64 := 0
  startDeadlineMonotonicNs : UInt64 := 0
  validThroughMonotonicNs : UInt64 := 0

-- === documents

/-- `configuration_json`. -/
def configurationJson (configuration : Configuration) : Json :=
  array (configuration.map fun value => number value.value)

/-- `endpoint_json`. -/
def endpointJson (e : ExecutionEndpointKey) : Json :=
  object (obj [
    ("algorithm", num e.algorithm.toNat),
    ("id", string e.id),
    ("public_key", string (encodeHex e.publicKey.toList)),
    ("role", num e.role.toNat),
    ("service_id", string e.serviceId)])

/-- `command_json`. -/
def commandJson (c : ExecutionCommand) : Json :=
  object (obj [
    ("configuration", configurationJson c.configuration),
    ("index", uint c.index.toNat),
    ("scheduled_offset_ns", uint c.scheduledOffsetNs.toNat)])

/-- `runtime_snapshot_json` of the execution session. -/
def executionRuntimeSnapshotJson (s : DeploymentRuntimeSnapshot) : Json :=
  object (obj [
    ("authenticated_artifacts", bool s.authenticatedArtifacts),
    ("command_latency_ns", uint s.commandLatencyNs.toNat),
    ("consecutive_missed_cycles", num s.consecutiveMissedCycles.toNat),
    ("control_period_ns", uint s.controlPeriodNs.toNat),
    ("controller_digest", string s.controllerDigest),
    ("deployment_id", string s.deploymentId),
    ("fail_closed_transport_active", bool s.failClosedTransportActive),
    ("observation_age_ns", uint s.observationAgeNs.toNat),
    ("platform_digest", string s.platformDigest),
    ("robot_digest", string s.robotDigest),
    ("runtime_digest", string s.runtimeDigest),
    ("runtime_monitor_active", bool s.runtimeMonitorActive)])

/-- `limits_json`. -/
def limitsJson (l : ExecutionSessionLimits) : Json :=
  object (obj [
    ("maximum_commands", num l.maximumCommands),
    ("maximum_duration_ns", uint l.maximumDurationNs.toNat),
    ("maximum_start_delay_ns", uint l.maximumStartDelayNs.toNat)])

/-- The document of `execution_endpoint_key_identity`. -/
def endpointKeyJson (e : ExecutionEndpointKey) : Json :=
  object (obj [
    ("algorithm", num e.algorithm.toNat),
    ("format", string (ascii "rbfsafe-execution-endpoint-key")),
    ("public_key", string (encodeHex e.publicKey.toList)),
    ("role", num e.role.toNat),
    ("schema", num 1),
    ("service_id", string e.serviceId)])

/-- The document of `execution_command_digest`. -/
def commandDigestJson (c : ExecutionCommand) : Json :=
  object (obj [
    ("command", commandJson c),
    ("format", string (ascii "rbfsafe-execution-command")),
    ("schema", num 1)])

/-- The document of `execution_command_sequence_identity`. -/
def commandSequenceJson (s : ExecutionCommandSequence) : Json :=
  object (obj [
    ("atlas_id", string s.atlasId),
    ("commands", array (s.commands.map commandJson)),
    ("connectivity_certificate_id", string s.connectivityCertificateId),
    ("dimension", num s.dimension),
    ("format", string (ascii "rbfsafe-execution-command-sequence")),
    ("region_sequence", array (s.regionSequence.map fun r => uint r.toNat)),
    ("robot_digest", string s.robotDigest),
    ("scene_digest", string s.sceneDigest),
    ("schema", num s.storageSchema.toNat)])

/-- The document of `execution_session_request_identity`. -/
def sessionRequestJson (r : ExecutionSessionRequest) : Json :=
  object (obj [
    ("atlas_id", string r.atlasId),
    ("command_count", num r.commandCount),
    ("command_sequence_id", string r.commandSequenceId),
    ("controller", endpointJson r.controller),
    ("format", string (ascii "rbfsafe-execution-session-request")),
    ("limits", limitsJson r.limits),
    ("reviewed_profile_approval_set_id", string r.reviewedProfileApprovalSetId),
    ("reviewed_profile_id", string r.reviewedProfileId),
    ("robot_digest", string r.robotDigest),
    ("runtime_monitor", endpointJson r.runtimeMonitor),
    ("scene_digest", string r.sceneDigest),
    ("schema", num r.storageSchema.toNat),
    ("session_nonce", string r.sessionNonce),
    ("trust_bundle_id", string r.trustBundleId),
    ("trust_bundle_sequence", uint r.trustBundleSequence.toNat),
    ("trust_checkpoint_id", string r.trustCheckpointId),
    ("trust_root_bundle_id", string r.trustRootBundleId)])

/-- The document of `execution_session_approval_message`. -/
def sessionApprovalJson (a : ExecutionSessionApproval) : Json :=
  object (obj [
    ("algorithm", num a.algorithm.toNat),
    ("format", string (ascii "rbfsafe-execution-session-approval")),
    ("request_id", string a.requestId),
    ("role", num a.role.toNat),
    ("schema", num 1),
    ("signer_key_id", string a.signerKeyId),
    ("signer_service_id", string a.signerServiceId)])

/-- The document of `execution_session_approval_set_identity`. -/
def sessionApprovalSetJson (s : ExecutionSessionApprovalSet) : Json :=
  object (obj [
    ("approval_ids", array (s.approvals.map fun a => string a.id)),
    ("format", string (ascii "rbfsafe-execution-session-approval-set")),
    ("request_id", string s.requestId),
    ("schema", num 1)])

/-- The document of `execution_controller_acknowledgement_message`. -/
def controllerAcknowledgementJson (a : ExecutionControllerAcknowledgement) :
    Json :=
  object (obj [
    ("accepted_command_count", num a.acceptedCommandCount),
    ("algorithm", num a.algorithm.toNat),
    ("command_sequence_id", string a.commandSequenceId),
    ("controller_key_id", string a.controllerKeyId),
    ("controller_service_id", string a.controllerServiceId),
    ("format", string (ascii "rbfsafe-execution-controller-acknowledgement")),
    ("request_id", string a.requestId),
    ("schema", num 1)])

/-- The document of `execution_runtime_observation_identity`. -/
def runtimeObservationJson (o : ExecutionRuntimeObservation) : Json :=
  object (obj [
    ("command_sequence_id", string o.commandSequenceId),
    ("format", string (ascii "rbfsafe-execution-runtime-observation")),
    ("monitor_state", num o.monitorState.toNat),
    ("observation_sequence", uint o.observationSequence.toNat),
    ("observed_monotonic_ns", uint o.observedMonotonicNs.toNat),
    ("request_id", string o.requestId),
    ("runtime", executionRuntimeSnapshotJson o.runtime),
    ("schema", num 1)])

/-- The document of `execution_monitor_acknowledgement_message`. -/
def monitorAcknowledgementJson (a : ExecutionMonitorAcknowledgement) : Json :=
  object (obj [
    ("algorithm", num a.algorithm.toNat),
    ("format", string (ascii "rbfsafe-execution-monitor-acknowledgement")),
    ("monitor_key_id", string a.monitorKeyId),
    ("monitor_service_id", string a.monitorServiceId),
    ("observation_id", string a.observation.id),
    ("schema", num 1)])

/-- The document of `bounded_execution_session_identity`. -/
def boundedSessionJson (s : BoundedExecutionSession) : Json :=
  object (obj [
    ("approval_set_id", string s.approvalSet.id),
    ("command_sequence_id", string s.commandSequence.id),
    ("controller_acknowledgement_id", string s.controllerAcknowledgement.id),
    ("format", string (ascii "rbfsafe-bounded-execution-session")),
    ("monitor_acknowledgement_id", string s.monitorAcknowledgement.id),
    ("request_id", string s.request.id),
    ("schema", num 1),
    ("start_deadline_monotonic_ns", uint s.startDeadlineMonotonicNs.toNat),
    ("valid_from_monotonic_ns", uint s.validFromMonotonicNs.toNat),
    ("valid_through_monotonic_ns", uint s.validThroughMonotonicNs.toNat)])

/-- The document of `execution_command_authorization_identity`. -/
def commandAuthorizationJson (a : ExecutionCommandAuthorization) : Json :=
  object (obj [
    ("command_digest", string a.commandDigest),
    ("command_index", uint a.commandIndex.toNat),
    ("command_sequence_id", string a.commandSequenceId),
    ("dispatch_monotonic_ns", uint a.dispatchMonotonicNs.toNat),
    ("evidence", num a.evidence.toNat),
    ("format", string (ascii "rbfsafe-execution-command-authorization")),
    ("schema", num 1),
    ("session_id", string a.sessionId),
    ("valid_from_monotonic_ns", uint a.validFromMonotonicNs.toNat),
    ("valid_through_monotonic_ns", uint a.validThroughMonotonicNs.toNat)])

-- === identities

section
variable (P : Platform)

/-- `execution_endpoint_key_identity`. -/
def executionEndpointKeyIdentity (e : ExecutionEndpointKey) : Bytes :=
  P.sha256 ((endpointKeyJson e).dump P.toLibc false 0)

/-- `execution_command_digest`. -/
def executionCommandDigest (c : ExecutionCommand) : Bytes :=
  P.sha256 ((commandDigestJson c).dump P.toLibc false 0)

/-- `execution_command_sequence_identity`. -/
def executionCommandSequenceIdentity (s : ExecutionCommandSequence) : Bytes :=
  P.sha256 ((commandSequenceJson s).dump P.toLibc false 0)

/-- `execution_session_request_identity`. -/
def executionSessionRequestIdentity (r : ExecutionSessionRequest) : Bytes :=
  P.sha256 ((sessionRequestJson r).dump P.toLibc false 0)

/-- `execution_session_approval_message`. -/
def executionSessionApprovalMessage (a : ExecutionSessionApproval) : Bytes :=
  ascii "rbfsafe-execution-session-approval-v1\n"
    ++ (sessionApprovalJson a).dump P.toLibc false 0

/-- `execution_session_approval_identity`. -/
def executionSessionApprovalIdentity (a : ExecutionSessionApproval) : Bytes :=
  P.sha256 (ascii "rbfsafe-execution-session-approval-identity-v1\n"
    ++ executionSessionApprovalMessage P a ++ ascii "\n" ++ a.authenticationTag)

/-- `execution_session_approval_set_identity`. -/
def executionSessionApprovalSetIdentity (s : ExecutionSessionApprovalSet) :
    Bytes :=
  P.sha256 ((sessionApprovalSetJson s).dump P.toLibc false 0)

/-- `execution_controller_acknowledgement_message`. -/
def executionControllerAcknowledgementMessage
    (a : ExecutionControllerAcknowledgement) : Bytes :=
  ascii "rbfsafe-execution-controller-acknowledgement-v1\n"
    ++ (controllerAcknowledgementJson a).dump P.toLibc false 0

/-- `execution_controller_acknowledgement_identity`. -/
def executionControllerAcknowledgementIdentity
    (a : ExecutionControllerAcknowledgement) : Bytes :=
  P.sha256 (ascii "rbfsafe-execution-controller-acknowledgement-identity-v1\n"
    ++ executionControllerAcknowledgementMessage P a ++ ascii "\n"
    ++ a.authenticationTag)

/-- `execution_runtime_observation_identity`. -/
def executionRuntimeObservationIdentity (o : ExecutionRuntimeObservation) :
    Bytes :=
  P.sha256 ((runtimeObservationJson o).dump P.toLibc false 0)

/-- `execution_monitor_acknowledgement_message`. -/
def executionMonitorAcknowledgementMessage
    (a : ExecutionMonitorAcknowledgement) : Bytes :=
  ascii "rbfsafe-execution-monitor-acknowledgement-v1\n"
    ++ (monitorAcknowledgementJson a).dump P.toLibc false 0

/-- `execution_monitor_acknowledgement_identity`. -/
def executionMonitorAcknowledgementIdentity
    (a : ExecutionMonitorAcknowledgement) : Bytes :=
  P.sha256 (ascii "rbfsafe-execution-monitor-acknowledgement-identity-v1\n"
    ++ executionMonitorAcknowledgementMessage P a ++ ascii "\n"
    ++ a.authenticationTag)

/-- `bounded_execution_session_identity`. -/
def boundedExecutionSessionIdentity (s : BoundedExecutionSession) : Bytes :=
  P.sha256 ((boundedSessionJson s).dump P.toLibc false 0)

/-- `execution_command_authorization_identity`. -/
def executionCommandAuthorizationIdentity (a : ExecutionCommandAuthorization) :
    Bytes :=
  P.sha256 ((commandAuthorizationJson a).dump P.toLibc false 0)

end

-- === validity

/-- `kMaximumCommands`. -/
def kMaximumCommands : Nat := 100000

/-- `kMaximumDimension`. -/
def kMaximumDimension : Nat := 1000

/-- `kMaximumBoundNanoseconds`. -/
def kMaximumBoundNanoseconds : UInt64 := 86400000000000

/-- `valid_configuration`. -/
def validConfiguration (configuration : Configuration) (dimension : Nat) :
    Bool :=
  configuration.length == dimension && configuration.all Double.isFinite

/-- The command loop of `ExecutionCommandSequence::valid`. -/
def commandsValid (dimension : Nat) :
    Nat → Option ExecutionCommand → List ExecutionCommand → Bool
  | _, _, [] => true
  | index, previous, command :: rest =>
      command.index.toNat == index
        && validConfiguration command.configuration dimension
        && (match previous with
          | none => command.scheduledOffsetNs == 0
          | some previous =>
              decide (command.scheduledOffsetNs > previous.scheduledOffsetNs))
        && commandsValid dimension (index + 1) (some command) rest

/-- `valid_execution_session_limits`. -/
def validExecutionSessionLimits (l : ExecutionSessionLimits) : Bool :=
  decide (l.maximumStartDelayNs > 0)
    && decide (l.maximumStartDelayNs ≤ kMaximumBoundNanoseconds)
    && decide (l.maximumDurationNs > 0)
    && decide (l.maximumDurationNs ≤ kMaximumBoundNanoseconds)
    && decide (l.maximumStartDelayNs ≤ l.maximumDurationNs)
    && decide (l.maximumCommands ≥ 2)
    && decide (l.maximumCommands ≤ kMaximumCommands)

section
variable (P : Platform)

/-- `valid_execution_endpoint_key`. -/
def validExecutionEndpointKey (e : ExecutionEndpointKey) : Bool :=
  validSha256 e.id && validIdentifier e.serviceId && e.algorithm == .ed25519
    && e.id == executionEndpointKeyIdentity P e

/-- `ExecutionCommandSequence::valid`. -/
def ExecutionCommandSequence.valid (s : ExecutionCommandSequence) : Bool :=
  s.storageSchema == 1 && validSha256 s.id && validSha256 s.atlasId
    && validSha256 s.robotDigest && validSha256 s.sceneDigest
    && validSha256 s.connectivityCertificateId && s.dimension != 0
    && decide (s.dimension ≤ kMaximumDimension) && decide (2 ≤ s.commands.length)
    && decide (s.commands.length ≤ kMaximumCommands)
    && !s.regionSequence.isEmpty && commandsValid s.dimension 0 none s.commands
    && s.id == executionCommandSequenceIdentity P s

/-- `ExecutionSessionRequest::valid`. -/
def ExecutionSessionRequest.valid (r : ExecutionSessionRequest) : Bool :=
  r.storageSchema == 1 && validSha256 r.id && validSha256 r.sessionNonce
    && validSha256 r.reviewedProfileId
    && validSha256 r.reviewedProfileApprovalSetId
    && validSha256 r.trustRootBundleId && validSha256 r.trustCheckpointId
    && validSha256 r.trustBundleId && decide (r.trustBundleSequence > 0)
    && validSha256 r.commandSequenceId && validSha256 r.atlasId
    && validSha256 r.robotDigest && validSha256 r.sceneDigest
    && decide (r.commandCount ≥ 2) && decide (r.commandCount ≤ kMaximumCommands)
    && validExecutionEndpointKey P r.controller
    && validExecutionEndpointKey P r.runtimeMonitor
    && r.controller.role == .controller
    && r.runtimeMonitor.role == .runtimeMonitor
    && r.controller.serviceId != r.runtimeMonitor.serviceId
    && r.controller.id != r.runtimeMonitor.id
    && validExecutionSessionLimits r.limits
    && decide (r.commandCount ≤ r.limits.maximumCommands)
    && r.id == executionSessionRequestIdentity P r

/-- `valid_execution_session_approval`. -/
def validExecutionSessionApproval (a : ExecutionSessionApproval) : Bool :=
  validSha256 a.id && validSha256 a.requestId
    && validIdentifier a.signerServiceId && validSha256 a.signerKeyId
    && a.algorithm == .ed25519
    && validLowerHex a.authenticationTag (kEd25519SignatureBytes * 2)
    && a.id == executionSessionApprovalIdentity P a

/-- `valid_execution_session_approval_set`. -/
def validExecutionSessionApprovalSet (s : ExecutionSessionApprovalSet) : Bool :=
  validSha256 s.id && validSha256 s.requestId && !s.approvals.isEmpty
    && decide (s.approvals.length ≤ kMaximumApprovals)
    && s.approvals.all (validExecutionSessionApproval P)
    && isSorted (fun a b => approvalNotAfter a.signerServiceId a.signerKeyId
      a.role a.id b.signerServiceId b.signerKeyId b.role b.id) s.approvals
    && s.approvals.all (fun a => a.requestId == s.requestId)
    && decide (s.approvals.map fun a => (a.signerServiceId, a.signerKeyId)).Nodup
    && s.id == executionSessionApprovalSetIdentity P s

/-- `valid_execution_controller_acknowledgement`. -/
def validExecutionControllerAcknowledgement
    (a : ExecutionControllerAcknowledgement) : Bool :=
  validSha256 a.id && validSha256 a.requestId
    && validSha256 a.commandSequenceId && validIdentifier a.controllerServiceId
    && validSha256 a.controllerKeyId && decide (a.acceptedCommandCount ≥ 2)
    && decide (a.acceptedCommandCount ≤ kMaximumCommands)
    && a.algorithm == .ed25519
    && validLowerHex a.authenticationTag (kEd25519SignatureBytes * 2)
    && a.id == executionControllerAcknowledgementIdentity P a

/-- `ExecutionRuntimeObservation::valid`. -/
def ExecutionRuntimeObservation.valid (o : ExecutionRuntimeObservation) :
    Bool :=
  validSha256 o.id && validSha256 o.requestId && validSha256 o.commandSequenceId
    && validDeploymentRuntimeSnapshot o.runtime
    && decide (o.observationSequence > 0) && decide (o.observedMonotonicNs > 0)
    && o.id == executionRuntimeObservationIdentity P o

/-- `valid_execution_monitor_acknowledgement`. -/
def validExecutionMonitorAcknowledgement (a : ExecutionMonitorAcknowledgement) :
    Bool :=
  validSha256 a.id && a.observation.valid P && validIdentifier a.monitorServiceId
    && validSha256 a.monitorKeyId && a.algorithm == .ed25519
    && validLowerHex a.authenticationTag (kEd25519SignatureBytes * 2)
    && a.id == executionMonitorAcknowledgementIdentity P a

/-- `ExecutionCommandAuthorization::valid`. -/
def ExecutionCommandAuthorization.valid (a : ExecutionCommandAuthorization) :
    Bool :=
  validSha256 a.id && validSha256 a.sessionId && validSha256 a.commandSequenceId
    && validSha256 a.commandDigest
    && decide (a.dispatchMonotonicNs ≥ a.validFromMonotonicNs)
    && decide (a.dispatchMonotonicNs ≤ a.validThroughMonotonicNs)
    && decide (a.validFromMonotonicNs ≤ a.validThroughMonotonicNs)
    && a.evidence == .runtimeExecutable
    && a.id == executionCommandAuthorizationIdentity P a

/-- `BoundedExecutionSession::valid`. -/
def BoundedExecutionSession.valid (s : BoundedExecutionSession) : Bool :=
  validSha256 s.id && s.request.valid P && s.commandSequence.valid P
    && validExecutionSessionApprovalSet P s.approvalSet
    && validExecutionControllerAcknowledgement P s.controllerAcknowledgement
    && validExecutionMonitorAcknowledgement P s.monitorAcknowledgement
    && s.request.commandSequenceId == s.commandSequence.id
    && s.request.commandCount == s.commandSequence.commands.length
    && s.approvalSet.requestId == s.request.id
    && s.controllerAcknowledgement.requestId == s.request.id
    && s.monitorAcknowledgement.observation.requestId == s.request.id
    && decide (s.validFromMonotonicNs > 0)
    && decide (s.startDeadlineMonotonicNs ≥ s.validFromMonotonicNs)
    && decide (s.startDeadlineMonotonicNs ≤ s.validThroughMonotonicNs)
    && s.id == boundedExecutionSessionIdentity P s

end

end RbfSafe
