/-
The execution ledger: controller completions, dependency revocations,
ledger records and the summary a chain of records replays to.
-/
import RbfSafe.Execution.Session
import RbfSafe.Identity.Checkpoint

namespace RbfSafe

open Json

/-- `ExecutionCompletionOutcome`. -/
inductive ExecutionCompletionOutcome where
  | completed
  | failed
  | rejected
deriving DecidableEq, Repr

def ExecutionCompletionOutcome.toNat : ExecutionCompletionOutcome → Nat
  | .completed => 0
  | .failed => 1
  | .rejected => 2

/-- `ExecutionControllerCompletion`. -/
structure ExecutionControllerCompletion where
  storageSchema : UInt32 := 1
  id : Bytes := []
  sessionId : Bytes
  authorizationId : Bytes
  commandSequenceId : Bytes
  commandIndex : UInt64 := 0
  commandDigest : Bytes
  controllerServiceId : Bytes
  controllerKeyId : Bytes
  outcome : ExecutionCompletionOutcome := .failed
  completedMonotonicNs : UInt64 := 0
  resultDigest : Bytes
  algorithm : ArtifactAuthenticationAlgorithm := .ed25519
  authenticationTag : Bytes := []

/-- `ExecutionDependencyKind`. -/
inductive ExecutionDependencyKind where
  | reviewedProfile
  | atlas
  | scene
  | controllerKey
  | runtimeMonitorKey
  | reviewerKey
  | trustCheckpoint
deriving DecidableEq, Repr

def ExecutionDependencyKind.toNat : ExecutionDependencyKind → Nat
  | .reviewedProfile => 0
  | .atlas => 1
  | .scene => 2
  | .controllerKey => 3
  | .runtimeMonitorKey => 4
  | .reviewerKey => 5
  | .trustCheckpoint => 6

/-- `ExecutionDependencyRevocation`. -/
structure ExecutionDependencyRevocation where
  kind : ExecutionDependencyKind := .reviewedProfile
  subjectId : Bytes
  detail : Bytes

/-- `ExecutionLedgerRecordType`. -/
inductive ExecutionLedgerRecordType where
  | sessionOpened
  | commandAuthorized
  | controllerCompletion
  | sessionCancelled
  | sessionExpired
  | dependencyRevoked
deriving DecidableEq, Repr

def ExecutionLedgerRecordType.toNat : ExecutionLedgerRecordType → Nat
  | .sessionOpened => 0
  | .commandAuthorized => 1
  | .controllerCompletion => 2
  | .sessionCancelled => 3
  | .sessionExpired => 4
  | .dependencyRevoked => 5

/-- `ExecutionLedgerStatus`. -/
inductive ExecutionLedgerStatus where
  | opened
  | awaitingCompletion
  | completed
  | cancelled
  | expired
  | revoked
  | failed
deriving DecidableEq, Repr

def ExecutionLedgerStatus.toNat : ExecutionLedgerStatus → Nat
  | .opened => 0
  | .awaitingCompletion => 1
  | .completed => 2
  | .cancelled => 3
  | .expired => 4
  | .revoked => 5
  | .failed => 6

/-- `terminal_status`. -/
def terminalStatus : ExecutionLedgerStatus → Bool
  | .opened | .awaitingCompletion => false
  | .completed | .cancelled | .expired | .revoked | .failed => true

/-- `ExecutionLedgerRecord`. -/
structure ExecutionLedgerRecord where
  storageSchema : UInt32 := 1
  sequence : UInt64 := 0
  id : Bytes := []
  parentId : Bytes := []
  ledgerId : Bytes
  sessionId : Bytes
  type : ExecutionLedgerRecordType := .sessionOpened
  observedMonotonicNs : UInt64 := 0
  authorization : Option ExecutionCommandAuthorization := none
  completion : Option ExecutionControllerCompletion := none
  trustCheckpoint : Option ServiceTrustCheckpoint := none
  revocation : Option ExecutionDependencyRevocation := none
  detail : Bytes := []

/-- `ExecutionLedgerSummary`. -/
structure ExecutionLedgerSummary where
  id : Bytes := []
  ledgerId : Bytes := []
  sessionId : Bytes := []
  currentRecordId : Bytes := []
  status : ExecutionLedgerStatus := .opened
  recordCount : Nat := 0
  authorizationCount : Nat := 0
  completionCount : Nat := 0
  nextCommandIndex : Nat := 0
  outstandingCommandIndex : Option UInt64 := none

/-- `ExecutionLedgerCommandDecision`. -/
structure ExecutionLedgerCommandDecision where
  id : Bytes := []
  ledgerId : Bytes
  currentRecordId : Bytes
  status : ExecutionLedgerStatus := .opened
  authorization : Option ExecutionCommandAuthorization := none

/-- `ExecutionLedgerLoadOptions`. The state of the cancellation token is
the one it has during the call. -/
structure ExecutionLedgerLoadOptions where
  maximumRecords : Nat := 1000000
  maximumSignaturesPerCheckpoint : Nat := 100000
  maximumTotalCheckpointSignatures : Nat := 1000000
  maximumManifestBytes : Nat := 65536
  maximumRecordBytes : Nat := 8388608
  cancelled : Bool := false

/-- `ExecutionLedger`. -/
structure ExecutionLedger where
  directory : Bytes := []
  id : Bytes := []
  sessionId : Bytes := []
  currentRecordId : Bytes := []
  commandCount : Nat := 0
  validFromMonotonicNs : UInt64 := 0
  validThroughMonotonicNs : UInt64 := 0
  records : List ExecutionLedgerRecord := []
  options : ExecutionLedgerLoadOptions := {}

-- === documents

/-- `completion_payload`. -/
def completionPayload (c : ExecutionControllerCompletion) : Json :=
  object (obj [
    ("algorithm", num c.algorithm.toNat),
    ("authorization_id", string c.authorizationId),
    ("command_digest", string c.commandDigest),
    ("command_index", uint c.commandIndex.toNat),
    ("command_sequence_id", string c.commandSequenceId),
    ("completed_monotonic_ns", uint c.completedMonotonicNs.toNat),
    ("controller_key_id", string c.controllerKeyId),
    ("controller_service_id", string c.controllerServiceId),
    ("format", string (ascii "rbfsafe-execution-controller-completion")),
    ("outcome", num c.outcome.toNat),
    ("result_digest", string c.resultDigest),
    ("schema", num c.storageSchema.toNat),
    ("session_id", string c.sessionId)])

/-- `revocation_payload`, and `revocation_json`. -/
def revocationJson (r : ExecutionDependencyRevocation) : Json :=
  object (obj [
    ("detail", string r.detail),
    ("kind", num r.kind.toNat),
    ("subject_id", string r.subjectId)])

/-- The document of `execution_ledger_identity`. -/
def ledgerIdentityJson (sessionId : Bytes) : Json :=
  object (obj [
    ("format", string (ascii "rbfsafe-execution-ledger")),
    ("schema", num 1),
    ("session_id", string sessionId)])

/-- The document of `execution_ledger_record_identity`. -/
def ledgerRecordIdentityJson (r : ExecutionLedgerRecord) : Json :=
  object (obj [
    ("authorization_id", string ((r.authorization.map fun a => a.id).getD [])),
    ("completion_id", string ((r.completion.map fun c => c.id).getD [])),
    ("detail", string r.detail),
    ("format", string (ascii "rbfsafe-execution-ledger-record")),
    ("ledger_id", string r.ledgerId),
    ("observed_monotonic_ns", uint r.observedMonotonicNs.toNat),
    ("parent_id", string r.parentId),
    ("revocation", (r.revocation.map revocationJson).getD (object [])),
    ("schema", num r.storageSchema.toNat),
    ("sequence", uint r.sequence.toNat),
    ("session_id", string r.sessionId),
    ("trust_checkpoint_id",
      string ((r.trustCheckpoint.map fun c => c.id).getD [])),
    ("type", num r.type.toNat)])

/-- The document of `execution_ledger_summary_identity`. -/
def ledgerSummaryJson (s : ExecutionLedgerSummary) : Json :=
  object (obj [
    ("authorization_count", num s.authorizationCount),
    ("completion_count", num s.completionCount),
    ("current_record_id", string s.currentRecordId),
    ("format", string (ascii "rbfsafe-execution-ledger-summary")),
    ("ledger_id", string s.ledgerId),
    ("next_command_index", num s.nextCommandIndex),
    ("outstanding_command_index",
      string ((s.outstandingCommandIndex.map fun index =>
        stdToString index.toNat).getD [])),
    ("record_count", num s.recordCount),
    ("schema", num 1),
    ("session_id", string s.sessionId),
    ("status", num s.status.toNat)])

/-- The document of `execution_ledger_command_decision_identity`. -/
def commandDecisionJson (d : ExecutionLedgerCommandDecision) : Json :=
  object (obj [
    ("authorization_id", string ((d.authorization.map fun a => a.id).getD [])),
    ("current_record_id", string d.currentRecordId),
    ("format", string (ascii "rbfsafe-execution-ledger-command-decision")),
    ("ledger_id", string d.ledgerId),
    ("schema", num 1),
    ("status", num d.status.toNat)])

section
variable (P : Platform)

/-- `execution_controller_completion_message`. -/
def executionControllerCompletionMessage (c : ExecutionControllerCompletion) :
    Bytes :=
  ascii "rbfsafe-execution-controller-completion-v1\n"
    ++ (completionPayload c).dump P.toLibc false 0

/-- `execution_controller_completion_identity`. -/
def executionControllerCompletionIdentity (c : ExecutionControllerCompletion) :
    Bytes :=
  P.sha256 (ascii "rbfsafe-execution-controller-completion-identity-v1\n"
    ++ executionControllerCompletionMessage P c ++ ascii "\n"
    ++ c.authenticationTag)

/-- `execution_ledger_identity`. -/
def executionLedgerIdentity (sessionId : Bytes) : Bytes :=
  P.sha256 ((ledgerIdentityJson sessionId).dump P.toLibc false 0)

/-- `execution_ledger_record_identity`. -/
def executionLedgerRecordIdentity (r : ExecutionLedgerRecord) : Bytes :=
  P.sha256 ((ledgerRecordIdentityJson r).dump P.toLibc false 0)

/-- `execution_ledger_summary_identity`. -/
def executionLedgerSummaryIdentity (s : ExecutionLedgerSummary) : Bytes :=
  P.sha256 ((ledgerSummaryJson s).dump P.toLibc false 0)

/-- `execution_ledger_command_decision_identity`. -/
def executionLedgerCommandDecisionIdentity
    (d : ExecutionLedgerCommandDecision) : Bytes :=
  P.sha256 ((commandDecisionJson d).dump P.toLibc false 0)

end

-- === validity

/-- `kMaximumTextBytes`. -/
def kMaximumTextBytes : Nat := 4096

/-- `valid_text` of the ledger. -/
def validLedgerText (value : Bytes) (allowEmpty : Bool := false) : Bool :=
  (allowEmpty && value.isEmpty) || validText value kMaximumTextBytes

/-- `valid_execution_dependency_revocation`. -/
def validExecutionDependencyRevocation (r : ExecutionDependencyRevocation) :
    Bool :=
  validSha256 r.subjectId && validLedgerText r.detail

section
variable (P : Platform)

/-- `ExecutionControllerCompletion::valid`. -/
def ExecutionControllerCompletion.valid (c : ExecutionControllerCompletion) :
    Bool :=
  c.storageSchema == 1 && validSha256 c.id && validSha256 c.sessionId
    && validSha256 c.authorizationId && validSha256 c.commandSequenceId
    && validSha256 c.commandDigest && validLedgerText c.controllerServiceId
    && validSha256 c.controllerKeyId && decide (c.completedMonotonicNs > 0)
    && validSha256 c.resultDigest && c.algorithm == .ed25519
    && (decodeHex c.authenticationTag kEd25519SignatureBytes).isOk
    && c.id == executionControllerCompletionIdentity P c

/-- The part of `ExecutionLedgerRecord::valid` that depends on the type. -/
def recordShapeValid (r : ExecutionLedgerRecord) : Bool :=
  match r.type with
  | .sessionOpened =>
      r.sequence == 0 && r.authorization.isNone && r.completion.isNone
        && r.trustCheckpoint.isNone && r.revocation.isNone && r.detail.isEmpty
  | .commandAuthorized =>
      r.sequence != 0 && r.completion.isNone && r.revocation.isNone
        && r.detail.isEmpty
        && (match r.authorization, r.trustCheckpoint with
          | some authorization, some checkpoint =>
              authorization.valid P && checkpoint.valid P
                && r.observedMonotonicNs == authorization.dispatchMonotonicNs
          | _, _ => false)
  | .controllerCompletion =>
      r.sequence != 0 && r.authorization.isNone && r.trustCheckpoint.isNone
        && r.revocation.isNone && r.detail.isEmpty
        && (match r.completion with
          | some completion =>
              completion.valid P
                && r.observedMonotonicNs == completion.completedMonotonicNs
          | none => false)
  | .sessionCancelled =>
      r.sequence != 0 && r.authorization.isNone && r.completion.isNone
        && r.trustCheckpoint.isNone && r.revocation.isNone
        && validLedgerText r.detail
  | .sessionExpired =>
      r.sequence != 0 && r.authorization.isNone && r.completion.isNone
        && r.trustCheckpoint.isNone && r.revocation.isNone && r.detail.isEmpty
  | .dependencyRevoked =>
      r.sequence != 0 && r.authorization.isNone && r.completion.isNone
        && r.detail.isEmpty
        && (match r.revocation with
          | some revocation => validExecutionDependencyRevocation revocation
          | none => false)
        && (match r.trustCheckpoint with
          | some checkpoint => checkpoint.valid P
          | none => true)

/-- `ExecutionLedgerRecord::valid`. -/
def ExecutionLedgerRecord.valid (r : ExecutionLedgerRecord) : Bool :=
  r.storageSchema == 1 && validSha256 r.id && validSha256 r.ledgerId
    && validSha256 r.sessionId && r.observedMonotonicNs != 0
    && (if r.sequence = 0 then r.parentId.isEmpty else validSha256 r.parentId)
    && validLedgerText r.detail true && recordShapeValid P r
    && r.id == executionLedgerRecordIdentity P r

/-- `ExecutionLedgerSummary::valid`. -/
def ExecutionLedgerSummary.valid (s : ExecutionLedgerSummary) : Bool :=
  validSha256 s.id && validSha256 s.ledgerId && validSha256 s.sessionId
    && validSha256 s.currentRecordId && decide (s.recordCount > 0)
    && decide (s.completionCount ≤ s.authorizationCount)
    && decide (s.nextCommandIndex ≤ s.completionCount)
    && decide (s.completionCount - s.nextCommandIndex ≤ 1)
    && (s.status == .awaitingCompletion) == s.outstandingCommandIndex.isSome
    && (match s.outstandingCommandIndex with
      | some index => index.toNat == s.nextCommandIndex
      | none => true)
    && s.id == executionLedgerSummaryIdentity P s

/-- `ExecutionLedgerCommandDecision::valid`. -/
def ExecutionLedgerCommandDecision.valid (d : ExecutionLedgerCommandDecision) :
    Bool :=
  validSha256 d.id && validSha256 d.ledgerId && validSha256 d.currentRecordId
    && (match d.authorization with
      | some authorization =>
          authorization.valid P && d.status == .awaitingCompletion
      | none => true)
    && d.id == executionLedgerCommandDecisionIdentity P d

/-- `verify_execution_controller_completion`. -/
def verifyExecutionControllerCompletion (session : BoundedExecutionSession)
    (authorization : ExecutionCommandAuthorization)
    (completion : ExecutionControllerCompletion) : Result Unit :=
  if !session.valid P || !authorization.valid P || !completion.valid P then
    failure .invalidArgument
      "execution controller-completion verification input is invalid"
  else if completion.sessionId ≠ session.id
      ∨ completion.authorizationId ≠ authorization.id
      ∨ completion.commandSequenceId ≠ authorization.commandSequenceId
      ∨ completion.commandIndex ≠ authorization.commandIndex
      ∨ completion.commandDigest ≠ authorization.commandDigest
      ∨ completion.controllerServiceId ≠ session.request.controller.serviceId
      ∨ completion.controllerKeyId ≠ session.request.controller.id
      ∨ completion.completedMonotonicNs < authorization.dispatchMonotonicNs then
    failure .identityMismatch
      "execution controller completion does not match the exact authorization"
      completion.id
  else do
    let signature ← decodeHex completion.authenticationTag kEd25519SignatureBytes
    ed25519Verify P (executionControllerCompletionMessage P completion) signature
      session.request.controller.publicKey.toList

end

end RbfSafe
