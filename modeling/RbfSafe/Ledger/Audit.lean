/-
The audit of a ledger: its records against the session, the trust
history, the reviewed profile and the atlas they depend on.

Each authorization must replay from the session, each checkpoint verify
against the trust history at its own head, and the checkpoints must not
roll back along the records.
-/
import RbfSafe.Ledger.Summary

namespace RbfSafe

open Json

section
variable (P : Platform)

/-- `verify_bound_session`. -/
def verifyBoundSession (session : BoundedExecutionSession)
    (reviewed : ReviewedDeploymentProfile) (trustHistory : ServiceTrustHistory)
    (atlas : SafeAtlas) : Result ServiceTrustBundle :=
  if !session.valid P || !reviewed.valid P || !trustHistory.valid P
      || atlas.dimension == 0 then
    failure .invalidArgument "execution-ledger dependency input is invalid"
  else if session.request.reviewedProfileId ≠ reviewed.profile.id
      ∨ session.request.reviewedProfileApprovalSetId ≠ reviewed.approvalSet.id
      ∨ session.request.trustRootBundleId ≠ trustHistory.rootBundleId
      ∨ session.request.atlasId ≠ atlas.versionId
      ∨ session.request.robotDigest ≠ atlas.robotDigest
      ∨ session.request.sceneDigest ≠ atlas.sceneDigest then
    failure .identityMismatch
      "execution ledger dependencies do not match the bounded session" session.id
  else do
    let historicalBundle ← trustHistory.bundle P session.request.trustBundleId
    if historicalBundle.sequence ≠ session.request.trustBundleSequence then
      failure .identityMismatch
        "bounded session historical trust sequence does not replay" session.id
    else do
      let recreated ← BoundedExecutionSession.create P session.request
        session.commandSequence session.approvalSet
        session.controllerAcknowledgement session.monitorAcknowledgement
        reviewed historicalBundle atlas
      if recreated.id ≠ session.id then
        failure .identityMismatch
          "bounded session does not recreate under the supplied dependencies"
          session.id
      else .ok historicalBundle

/-- `verify_current_context`. -/
def verifyCurrentContext (session : BoundedExecutionSession)
    (reviewed : ReviewedDeploymentProfile) (history : ServiceTrustHistory)
    (checkpoint : ServiceTrustCheckpoint) (expectedCheckpointId : Bytes)
    (atlas : SafeAtlas) : Result ServiceTrustBundle := do
  let _ ← verifyBoundSession P session reviewed history atlas
  let _ ← verifyServiceTrustCheckpoint P history checkpoint expectedCheckpointId
  if checkpoint.rootBundleId ≠ session.request.trustRootBundleId
      ∨ checkpoint.headSequence < session.request.trustBundleSequence then
    failure .identityMismatch
      "current trust checkpoint predates or leaves the bounded-session trust root"
      checkpoint.id
  else history.currentBundle P

/-- The state a reviewer key must be in. -/
def reviewerActive (bundle : ServiceTrustBundle) (key : ServicePublicKey) :
    Bool :=
  key.state == .active && key.allowPublish
    && decide (bundle.sequence ≥ key.validFromSequence)
    && (key.validThroughSequence == 0
      || decide (bundle.sequence ≤ key.validThroughSequence))

/-- The loop of `inactive_reviewer_key`. -/
def inactiveReviewer (currentBundle : ServiceTrustBundle) :
    List ExecutionSessionApproval → Result (Option Bytes)
  | [] => .ok none
  | approval :: rest => do
      let key ← currentBundle.key P approval.signerServiceId approval.signerKeyId
      if key.any (reviewerActive currentBundle) then
        inactiveReviewer currentBundle rest
      else .ok (some approval.signerKeyId)

/-- `inactive_reviewer_key`. -/
def inactiveReviewerKey (session : BoundedExecutionSession)
    (currentBundle : ServiceTrustBundle) : Result (Option Bytes) :=
  if !session.valid P || !currentBundle.valid P then
    failure .invalidArgument "execution reviewer-state input is invalid"
  else inactiveReviewer P currentBundle session.approvalSet.approvals

/-- `dependency_matches_session`. -/
def dependencyMatchesSession (session : BoundedExecutionSession)
    (kind : ExecutionDependencyKind) (subjectId : Bytes)
    (records : List ExecutionLedgerRecord) : Bool :=
  match kind with
  | .reviewedProfile => subjectId == session.request.reviewedProfileId
  | .atlas => subjectId == session.request.atlasId
  | .scene => subjectId == session.request.sceneDigest
  | .controllerKey => subjectId == session.request.controller.id
  | .runtimeMonitorKey => subjectId == session.request.runtimeMonitor.id
  | .reviewerKey =>
      session.approvalSet.approvals.any fun a => a.signerKeyId == subjectId
  | .trustCheckpoint =>
      subjectId == session.request.trustCheckpointId
        || records.any fun record =>
          record.trustCheckpoint.any fun c => c.id == subjectId

/-- Whether a checkpoint rolls back or forks from the last one of the
ledger: the test of the audit and of `authorize_command`. -/
def checkpointRegresses (lastSequence : UInt64) (lastId : Bytes)
    (checkpoint : ServiceTrustCheckpoint) : Bool :=
  decide (checkpoint.headSequence < lastSequence)
    || (checkpoint.headSequence == lastSequence && decide (lastSequence > 0)
      && checkpoint.id != lastId)

-- === the loop

/-- The variables of the audit loop. -/
structure AuditState where
  outstanding : Option ExecutionCommandAuthorization := none
  lastCheckpointSequence : UInt64 := 0
  lastCheckpointId : Bytes := []
  checkpoints : Nat := 0

/-- The checkpoint checks of the audit: what follows is told whether a
reviewer key is inactive at the head. -/
def auditCheckpoint (session : BoundedExecutionSession)
    (trustHistory : ServiceTrustHistory) (state : AuditState)
    (checkpoint : ServiceTrustCheckpoint) : Result (Option Bytes) := do
  let _ ← verifyHistoricalCheckpoint P trustHistory checkpoint
  if checkpointRegresses state.lastCheckpointSequence state.lastCheckpointId
      checkpoint then
    failure .identityMismatch
      "execution-ledger checkpoint sequence rolled back or forked" checkpoint.id
  else do
    let bundle ← trustHistory.bundle P checkpoint.headBundleId
    inactiveReviewerKey P session bundle

/-- The audit state after a checkpoint. -/
def AuditState.advance (state : AuditState) (checkpoint : ServiceTrustCheckpoint) :
    AuditState :=
  { state with
    lastCheckpointSequence := checkpoint.headSequence
    lastCheckpointId := checkpoint.id
    checkpoints := state.checkpoints + 1 }

/-- The audit of a record with an authorization. The checkpoint is read
without a test; `valid` has made sure it is there. -/
def auditAuthorization (session : BoundedExecutionSession)
    (trustHistory : ServiceTrustHistory) (state : AuditState)
    (record : ExecutionLedgerRecord)
    (authorization : ExecutionCommandAuthorization)
    (checkpoint : ServiceTrustCheckpoint) : Result AuditState :=
  let replayed := match session.commandSequence.commands[
      authorization.commandIndex.toNat]? with
    | none => none
    | some command =>
        match session.authorizeCommand P authorization.commandIndex
            command.configuration authorization.dispatchMonotonicNs with
        | .ok (some replayed) => some replayed.id
        | _ => none
  if replayed ≠ some authorization.id then
    failure .identityMismatch
      "execution-ledger authorization does not replay exactly" record.id
  else do
    let inactive ← auditCheckpoint P session trustHistory state checkpoint
    match inactive with
    | some keyId =>
        failure .identityMismatch
          "execution command was authorized after a reviewer key became inactive"
          keyId
    | none =>
        .ok { state.advance checkpoint with outstanding := some authorization }

/-- The audit of a revocation that carries a checkpoint. -/
def auditRevocation (session : BoundedExecutionSession)
    (trustHistory : ServiceTrustHistory) (state : AuditState)
    (record : ExecutionLedgerRecord) (revocation : ExecutionDependencyRevocation)
    (checkpoint : ServiceTrustCheckpoint) : Result AuditState := do
  let inactive ← auditCheckpoint P session trustHistory state checkpoint
  if revocation.kind ≠ .reviewerKey ∨ inactive ≠ some revocation.subjectId then
    failure .corruptData
      "checkpoint-backed revocation does not match an inactive reviewer" record.id
  else .ok (state.advance checkpoint)

/-- The three cases of a round of the audit. -/
def auditEvent (session : BoundedExecutionSession)
    (trustHistory : ServiceTrustHistory) (state : AuditState)
    (record : ExecutionLedgerRecord) : Result AuditState :=
  match record.authorization, record.completion, record.revocation,
      record.trustCheckpoint with
  | some authorization, _, _, some checkpoint =>
      auditAuthorization P session trustHistory state record authorization
        checkpoint
  | some _, _, _, none =>
      failure .corruptData "execution ledger is structurally invalid"
  | none, some completion, _, _ =>
      match state.outstanding with
      | none =>
          failure .corruptData
            "execution completion has no outstanding authorization" record.id
      | some outstanding => do
          let _ ← verifyExecutionControllerCompletion P session outstanding
            completion
          .ok { state with outstanding := none }
  | none, none, some revocation, some checkpoint =>
      auditRevocation P session trustHistory state record revocation checkpoint
  | none, none, _, _ => .ok state

/-- One round of the audit. -/
def auditRecord (session : BoundedExecutionSession)
    (trustHistory : ServiceTrustHistory) (records : List ExecutionLedgerRecord)
    (state : AuditState) (record : ExecutionLedgerRecord) :
    Result AuditState := do
  let state ← auditEvent P session trustHistory state record
  match record.revocation with
  | some revocation =>
      if !dependencyMatchesSession session revocation.kind revocation.subjectId
          records then
        failure .identityMismatch
          "execution-ledger revocation does not name a session dependency"
          revocation.subjectId
      else .ok state
  | none => .ok state

/-- The loop of the audit. -/
def auditRecords (session : BoundedExecutionSession)
    (trustHistory : ServiceTrustHistory) (records : List ExecutionLedgerRecord) :
    AuditState → List ExecutionLedgerRecord → Result AuditState
  | state, [] => .ok state
  | state, record :: rest => do
      let state ← auditRecord P session trustHistory records state record
      auditRecords session trustHistory records state rest

/-- `ExecutionLedgerAuditReport`. -/
structure ExecutionLedgerAuditReport where
  id : Bytes := []
  ledgerId : Bytes
  sessionId : Bytes
  currentRecordId : Bytes
  status : ExecutionLedgerStatus := .opened
  verifiedRecords : Nat := 0
  verifiedCheckpoints : Nat := 0
  authorizationCount : Nat := 0
  completionCount : Nat := 0
  latestCheckpointId : Bytes := []

/-- The document of `execution_ledger_audit_report_identity`. -/
def auditReportJson (r : ExecutionLedgerAuditReport) : Json :=
  object (obj [
    ("authorization_count", num r.authorizationCount),
    ("completion_count", num r.completionCount),
    ("current_record_id", string r.currentRecordId),
    ("format", string (ascii "rbfsafe-execution-ledger-audit")),
    ("latest_checkpoint_id", string r.latestCheckpointId),
    ("ledger_id", string r.ledgerId),
    ("schema", num 1),
    ("session_id", string r.sessionId),
    ("status", num r.status.toNat),
    ("verified_checkpoints", num r.verifiedCheckpoints),
    ("verified_records", num r.verifiedRecords)])

/-- `execution_ledger_audit_report_identity`. -/
def executionLedgerAuditReportIdentity (r : ExecutionLedgerAuditReport) : Bytes :=
  P.sha256 ((auditReportJson r).dump P.toLibc false 0)

/-- `ExecutionLedgerAuditReport::valid`. -/
def ExecutionLedgerAuditReport.valid (r : ExecutionLedgerAuditReport) : Bool :=
  validSha256 r.id && validSha256 r.ledgerId && validSha256 r.sessionId
    && validSha256 r.currentRecordId && decide (r.verifiedRecords > 0)
    && decide (r.completionCount ≤ r.authorizationCount)
    && (if r.verifiedCheckpoints = 0 then r.latestCheckpointId.isEmpty
      else validSha256 r.latestCheckpointId)
    && r.id == executionLedgerAuditReportIdentity P r

/-- `ExecutionLedger::audit`. -/
def ExecutionLedger.audit (ledger : ExecutionLedger)
    (session : BoundedExecutionSession) (reviewed : ReviewedDeploymentProfile)
    (trustHistory : ServiceTrustHistory) (atlas : SafeAtlas) :
    Result ExecutionLedgerAuditReport :=
  if !ledger.valid P then
    failure .corruptData "execution ledger is structurally invalid"
  else if session.id ≠ ledger.sessionId
      ∨ session.commandSequence.commands.length ≠ ledger.commandCount
      ∨ session.validFromMonotonicNs ≠ ledger.validFromMonotonicNs
      ∨ session.validThroughMonotonicNs ≠ ledger.validThroughMonotonicNs then
    failure .identityMismatch
      "execution ledger belongs to another bounded session" ledger.id
  else do
    let _ ← verifyBoundSession P session reviewed trustHistory atlas
    let state ← auditRecords P session trustHistory ledger.records {}
      ledger.records
    let summary := ledger.summary P
    let report : ExecutionLedgerAuditReport :=
      { ledgerId := ledger.id
        sessionId := ledger.sessionId
        currentRecordId := ledger.currentRecordId
        status := summary.status
        verifiedRecords := ledger.records.length
        verifiedCheckpoints := state.checkpoints
        authorizationCount := summary.authorizationCount
        completionCount := summary.completionCount
        latestCheckpointId := state.lastCheckpointId }
    let report := { report with
      id := executionLedgerAuditReportIdentity P report }
    if !report.valid P then
      failure .internalError
        "constructed execution-ledger audit report is invalid"
    else .ok report

end

end RbfSafe
