/-
The five operations of a ledger.

Every operation takes the writer lock, opens the ledger again from its
directory and works on what it has read: of the handle it is called on
it uses the path and the load options alone. Each is given in two parts,
the checks that decide on a record (the plan) and the append of that
record, which is the same for all.

`LedgerRequest` is a call of any of them, and `LedgerStep` what the
calls of any number of handles do to one directory.
-/
import RbfSafe.Ledger.Persistence

namespace RbfSafe

/-- What a call leaves behind: its result, the handle it was made on, and
the directory. -/
structure LedgerCall (α : Type) where
  result : Result α
  ledger : ExecutionLedger
  directory : LedgerDirectory

section
variable (P : Platform)

-- === appending

/-- The ledger with one more record. -/
def ExecutionLedger.withRecord (ledger : ExecutionLedger)
    (record : ExecutionLedgerRecord) : ExecutionLedger :=
  { ledger with
    records := ledger.records ++ [record]
    currentRecordId := record.id }

/-- `append_execution_ledger_record_file`, with `write_immutable_file`. -/
def appendRecordFile (files : FileSystem) (path : Bytes)
    (directory : LedgerDirectory) (record : ExecutionLedgerRecord) :
    Result LedgerDirectory :=
  if path.isEmpty || !record.valid P then
    failure .invalidArgument "execution-ledger append-file input is invalid"
  else
    let destination := path ++ ascii "/records/" ++ recordFilename record
    if directory.records.any fun file => file.1 == recordFilename record then
      failure .identityMismatch
        "immutable execution-ledger record already exists" destination
    else if !files.writable then
      failure .ioError "failed to publish immutable execution-ledger record"
        destination
    else .ok { directory with
      records := directory.records ++ [recordFile P record] }

/-- `ExecutionLedger::append_record_unlocked`. -/
def ExecutionLedger.appendRecordUnlocked (ledger : ExecutionLedger)
    (files : FileSystem) (directory : LedgerDirectory) (fresh : ExecutionLedger)
    (record : ExecutionLedgerRecord) : LedgerCall ExecutionLedgerRecord :=
  let candidate := fresh.withRecord record
  let appended : Result LedgerDirectory :=
    if !fresh.valid P || record.sequence.toNat != fresh.records.length
        || record.parentId != fresh.currentRecordId
        || record.ledgerId != fresh.id || record.sessionId != fresh.sessionId
        || !record.valid P then
      failure .internalError "execution-ledger append record is invalid" record.id
    else if fresh.records.length ≥ fresh.options.maximumRecords then
      failure .resourceLimit "execution-ledger record limit reached"
    else if !candidate.valid P then
      failure .internalError
        "execution ledger would become invalid after append" record.id
    else appendRecordFile P files fresh.directory directory record
  match appended with
  | .error e => ⟨.error e, ledger, directory⟩
  | .ok directory => ⟨.ok record, candidate, directory⟩

/-- `ExecutionLedgerWriteLock::acquire`. -/
def acquireLock (files : FileSystem) (path : Bytes) : Result Unit :=
  if !files.lockFree then
    failure .resourceLimit "execution-ledger writer lock is already held"
      (path ++ ascii "/.writer-lock")
  else .ok ()

/-- What every operation depends on besides the ledger. -/
structure LedgerDependencies where
  session : BoundedExecutionSession
  reviewed : ReviewedDeploymentProfile
  trustHistory : ServiceTrustHistory
  atlas : SafeAtlas

/-- What every operation starts with: the lock, a fresh copy of the ledger
and the head the caller expects. -/
def ExecutionLedger.freshLedger (ledger : ExecutionLedger) (files : FileSystem)
    (directory : LedgerDirectory) (d : LedgerDependencies)
    (expectedCurrentRecordId : Bytes) : Result ExecutionLedger := do
  let _ ← acquireLock files ledger.directory
  let fresh ← ExecutionLedger.openLedger P ledger.directory directory d.session
    d.reviewed d.trustHistory d.atlas ledger.options
  if fresh.currentRecordId ≠ expectedCurrentRecordId then
    failure .identityMismatch "execution-ledger current record changed"
      fresh.currentRecordId
  else .ok fresh

/-- The time of the last record. -/
def ExecutionLedger.lastObserved (ledger : ExecutionLedger) : UInt64 :=
  (ledger.records.getLast?.map fun r => r.observedMonotonicNs).getD 0

/-- The next record of a ledger, before its type and contents. -/
def ExecutionLedger.nextRecord (ledger : ExecutionLedger) :
    ExecutionLedgerRecord :=
  { sequence := UInt64.ofNat ledger.records.length
    parentId := ledger.currentRecordId
    ledgerId := ledger.id
    sessionId := ledger.sessionId }

/-- A record with its identity. -/
def ExecutionLedgerRecord.identified (record : ExecutionLedgerRecord) :
    ExecutionLedgerRecord :=
  { record with id := executionLedgerRecordIdentity P record }

-- === records

/-- The record of an expiry. -/
def ExecutionLedger.expiredRecord (ledger : ExecutionLedger)
    (observedMonotonicNs : UInt64) : ExecutionLedgerRecord :=
  ExecutionLedgerRecord.identified P { ledger.nextRecord with
    type := .sessionExpired
    observedMonotonicNs := observedMonotonicNs }

/-- The record of a cancellation. -/
def ExecutionLedger.cancelledRecord (ledger : ExecutionLedger)
    (observedMonotonicNs : UInt64) (detail : Bytes) : ExecutionLedgerRecord :=
  ExecutionLedgerRecord.identified P { ledger.nextRecord with
    type := .sessionCancelled
    observedMonotonicNs := observedMonotonicNs
    detail := detail }

/-- The record of a revocation, with the checkpoint it rests on if any. -/
def ExecutionLedger.revokedRecord (ledger : ExecutionLedger)
    (observedMonotonicNs : UInt64) (revocation : ExecutionDependencyRevocation)
    (checkpoint : Option ServiceTrustCheckpoint) : ExecutionLedgerRecord :=
  ExecutionLedgerRecord.identified P { ledger.nextRecord with
    type := .dependencyRevoked
    observedMonotonicNs := observedMonotonicNs
    trustCheckpoint := checkpoint
    revocation := some revocation }

/-- The record of an authorization. -/
def ExecutionLedger.authorizedRecord (ledger : ExecutionLedger)
    (dispatchMonotonicNs : UInt64)
    (authorization : ExecutionCommandAuthorization)
    (checkpoint : ServiceTrustCheckpoint) : ExecutionLedgerRecord :=
  ExecutionLedgerRecord.identified P { ledger.nextRecord with
    type := .commandAuthorized
    observedMonotonicNs := dispatchMonotonicNs
    authorization := some authorization
    trustCheckpoint := some checkpoint }

/-- The record of a completion. -/
def ExecutionLedger.completedRecord (ledger : ExecutionLedger)
    (completion : ExecutionControllerCompletion) : ExecutionLedgerRecord :=
  ExecutionLedgerRecord.identified P { ledger.nextRecord with
    type := .controllerCompletion
    observedMonotonicNs := completion.completedMonotonicNs
    completion := some completion }

-- === authorizing

/-- `make_decision`. -/
def makeDecision (ledger : ExecutionLedger)
    (authorization : Option ExecutionCommandAuthorization) :
    ExecutionLedgerCommandDecision :=
  let result : ExecutionLedgerCommandDecision :=
    { ledgerId := ledger.id
      currentRecordId := ledger.currentRecordId
      status := (ledger.summary P).status
      authorization := authorization }
  { result with id := executionLedgerCommandDecisionIdentity P result }

/-- The last checkpoint of a ledger: the search of `authorize_command` from
the end. -/
def lastCheckpoint (records : List ExecutionLedgerRecord) :
    Option ServiceTrustCheckpoint :=
  records.reverse.findSome? fun record => record.trustCheckpoint

/-- The arguments of `authorize_command` besides the dependencies. -/
structure CommandRequest where
  checkpoint : ServiceTrustCheckpoint
  expectedCheckpointId : Bytes
  commandIndex : UInt64
  configuration : Configuration
  dispatchMonotonicNs : UInt64

/-- What `authorize_command` decides: nothing to write, or a record, with
the authorization the decision will carry. -/
inductive CommandPlan where
  | refuse (fresh : ExecutionLedger)
  | append (fresh : ExecutionLedger) (record : ExecutionLedgerRecord)
      (authorization : Option ExecutionCommandAuthorization)

/-- The text of the revocation `authorize_command` writes. -/
def inactiveReviewerDetail : Bytes :=
  ascii "reviewer key is not active at the caller-pinned current checkpoint"

/-- The part of `authorize_command` after the reviewers are found active. -/
def planAuthorization (d : LedgerDependencies) (request : CommandRequest)
    (fresh : ExecutionLedger) : Result CommandPlan :=
  let before := fresh.summary P
  if before.status ≠ .opened
      ∨ request.commandIndex.toNat ≠ before.nextCommandIndex then
    failure .identityMismatch
      "execution-ledger command is duplicated, outstanding, or out of order"
      fresh.currentRecordId
  else do
    let authorization ← d.session.authorizeCommand P request.commandIndex
      request.configuration request.dispatchMonotonicNs
    match authorization with
    | none => .ok (.refuse fresh)
    | some authorization =>
        .ok (.append fresh (fresh.authorizedRecord P
          request.dispatchMonotonicNs authorization request.checkpoint)
          (some authorization))

/-- The part of `authorize_command` that looks at the checkpoint. -/
def planChecked (d : LedgerDependencies) (request : CommandRequest)
    (fresh : ExecutionLedger) : Result CommandPlan := do
  let currentBundle ← verifyCurrentContext P d.session d.reviewed d.trustHistory
    request.checkpoint request.expectedCheckpointId d.atlas
  let previous := lastCheckpoint fresh.records
  if checkpointRegresses ((previous.map fun c => c.headSequence).getD 0)
      ((previous.map fun c => c.id).getD []) request.checkpoint then
    failure .identityMismatch
      "current trust checkpoint rolled back or forked from the ledger"
      request.checkpoint.id
  else do
    let inactive ← inactiveReviewerKey P d.session currentBundle
    match inactive with
    | some keyId =>
        .ok (.append fresh (fresh.revokedRecord P request.dispatchMonotonicNs
          { kind := .reviewerKey, subjectId := keyId,
            detail := inactiveReviewerDetail } (some request.checkpoint)) none)
    | none => planAuthorization P d request fresh

/-- The checks of `ExecutionLedger::authorize_command`. -/
def ExecutionLedger.planCommand (ledger : ExecutionLedger) (files : FileSystem)
    (directory : LedgerDirectory) (d : LedgerDependencies)
    (request : CommandRequest) (expectedCurrentRecordId : Bytes) :
    Result CommandPlan :=
  if !validSha256 expectedCurrentRecordId
      || !validSha256 request.expectedCheckpointId
      || request.dispatchMonotonicNs == 0 then
    failure .invalidArgument "execution-ledger authorization input is invalid"
  else do
    let fresh ← ledger.freshLedger P files directory d expectedCurrentRecordId
    if request.dispatchMonotonicNs < fresh.lastObserved then
      failure .invalidArgument "execution-ledger authorization time regresses"
        fresh.currentRecordId
    else if terminalStatus (fresh.summary P).status then
      failure .identityMismatch "execution ledger is already terminal"
        fresh.currentRecordId
    else if request.dispatchMonotonicNs > d.session.validThroughMonotonicNs then
      .ok (.append fresh (fresh.expiredRecord P request.dispatchMonotonicNs) none)
    else planChecked P d request fresh

/-- What `authorize_command` returns once its record is appended. -/
def decideAppended (authorization : Option ExecutionCommandAuthorization)
    (call : LedgerCall ExecutionLedgerRecord) :
    LedgerCall ExecutionLedgerCommandDecision :=
  let decision := makeDecision P call.ledger authorization
  { call with result := do
      let _ ← call.result
      if authorization.isSome && !decision.valid P then
        failure .internalError
          "constructed execution-ledger command decision is invalid"
      else .ok decision }

/-- `ExecutionLedger::authorize_command`. -/
def ExecutionLedger.authorizeCommand (ledger : ExecutionLedger)
    (files : FileSystem) (directory : LedgerDirectory) (d : LedgerDependencies)
    (request : CommandRequest) (expectedCurrentRecordId : Bytes) :
    LedgerCall ExecutionLedgerCommandDecision :=
  match ledger.planCommand P files directory d request
      expectedCurrentRecordId with
  | .error e => ⟨.error e, ledger, directory⟩
  | .ok (.refuse fresh) => ⟨.ok (makeDecision P fresh none), fresh, directory⟩
  | .ok (.append fresh record authorization) =>
      decideAppended P authorization
        (ledger.appendRecordUnlocked P files directory fresh record)

-- === the other operations

/-- The append of a planned record. -/
def ExecutionLedger.commit (ledger : ExecutionLedger) (files : FileSystem)
    (directory : LedgerDirectory)
    (plan : Result (ExecutionLedger × ExecutionLedgerRecord)) :
    LedgerCall ExecutionLedgerRecord :=
  match plan with
  | .error e => ⟨.error e, ledger, directory⟩
  | .ok (fresh, record) =>
      ledger.appendRecordUnlocked P files directory fresh record

/-- The checks of `ExecutionLedger::record_completion`. -/
def ExecutionLedger.planCompletion (ledger : ExecutionLedger)
    (files : FileSystem) (directory : LedgerDirectory) (d : LedgerDependencies)
    (completion : ExecutionControllerCompletion)
    (expectedCurrentRecordId : Bytes) :
    Result (ExecutionLedger × ExecutionLedgerRecord) :=
  if !completion.valid P || !validSha256 expectedCurrentRecordId then
    failure .invalidArgument "execution-ledger completion input is invalid"
  else do
    let fresh ← ledger.freshLedger P files directory d expectedCurrentRecordId
    match fresh.records.getLast?.bind fun r => r.authorization with
    | none =>
        failure .identityMismatch
          "execution ledger has no outstanding command authorization"
          fresh.currentRecordId
    | some authorization =>
        if (fresh.summary P).status ≠ .awaitingCompletion then
          failure .identityMismatch
            "execution ledger has no outstanding command authorization"
            fresh.currentRecordId
        else do
          let _ ← verifyExecutionControllerCompletion P d.session authorization
            completion
          .ok (fresh, fresh.completedRecord P completion)

/-- What `cancel`, `expire` and `revoke_dependency` check alike of the fresh
ledger; `what` is their word for the event in the error. -/
def terminable (fresh : ExecutionLedger) (observedMonotonicNs : UInt64)
    (regresses : String) : Result Unit :=
  if terminalStatus (fresh.summary P).status then
    failure .identityMismatch "execution ledger is already terminal"
      fresh.currentRecordId
  else if observedMonotonicNs < fresh.lastObserved then
    failure .invalidArgument regresses fresh.currentRecordId
  else .ok ()

/-- The checks of `ExecutionLedger::cancel`. -/
def ExecutionLedger.planCancel (ledger : ExecutionLedger) (files : FileSystem)
    (directory : LedgerDirectory) (d : LedgerDependencies)
    (observedMonotonicNs : UInt64) (detail expectedCurrentRecordId : Bytes) :
    Result (ExecutionLedger × ExecutionLedgerRecord) :=
  if observedMonotonicNs == 0 || !validLedgerText detail
      || !validSha256 expectedCurrentRecordId then
    failure .invalidArgument "execution-ledger cancellation input is invalid"
  else do
    let fresh ← ledger.freshLedger P files directory d expectedCurrentRecordId
    let _ ← terminable P fresh observedMonotonicNs
      "execution-ledger cancellation time regresses"
    .ok (fresh, fresh.cancelledRecord P observedMonotonicNs detail)

/-- The checks of `ExecutionLedger::expire`. -/
def ExecutionLedger.planExpire (ledger : ExecutionLedger) (files : FileSystem)
    (directory : LedgerDirectory) (d : LedgerDependencies)
    (observedMonotonicNs : UInt64) (expectedCurrentRecordId : Bytes) :
    Result (ExecutionLedger × ExecutionLedgerRecord) :=
  if decide (observedMonotonicNs ≤ d.session.validThroughMonotonicNs)
      || !validSha256 expectedCurrentRecordId then
    failure .invalidArgument "execution-ledger expiration input is invalid"
  else do
    let fresh ← ledger.freshLedger P files directory d expectedCurrentRecordId
    let _ ← terminable P fresh observedMonotonicNs
      "execution-ledger expiration time regresses"
    .ok (fresh, fresh.expiredRecord P observedMonotonicNs)

/-- The checks of `ExecutionLedger::revoke_dependency`. -/
def ExecutionLedger.planRevoke (ledger : ExecutionLedger) (files : FileSystem)
    (directory : LedgerDirectory) (d : LedgerDependencies)
    (revocation : ExecutionDependencyRevocation) (observedMonotonicNs : UInt64)
    (expectedCurrentRecordId : Bytes) :
    Result (ExecutionLedger × ExecutionLedgerRecord) :=
  if observedMonotonicNs == 0 || !validExecutionDependencyRevocation revocation
      || !validSha256 expectedCurrentRecordId then
    failure .invalidArgument
      "execution-ledger dependency-revocation input is invalid"
  else do
    let fresh ← ledger.freshLedger P files directory d expectedCurrentRecordId
    let _ ← terminable P fresh observedMonotonicNs
      "execution-ledger revocation time regresses"
    if !dependencyMatchesSession d.session revocation.kind revocation.subjectId
        fresh.records then
      failure .identityMismatch
        "revocation subject is not an exact bounded-session dependency"
        revocation.subjectId
    else .ok (fresh, fresh.revokedRecord P observedMonotonicNs revocation none)

-- === runs

/-- An operation with its own arguments. -/
inductive LedgerOperation where
  | authorizeCommand (request : CommandRequest)
  | recordCompletion (completion : ExecutionControllerCompletion)
  | cancel (observedMonotonicNs : UInt64) (detail : Bytes)
  | expire (observedMonotonicNs : UInt64)
  | revokeDependency (revocation : ExecutionDependencyRevocation)
      (observedMonotonicNs : UInt64)

/-- A call: an operation, what it depends on, the head the caller expects,
and what the file system answers. -/
structure LedgerRequest where
  dependencies : LedgerDependencies
  operation : LedgerOperation
  expectedCurrentRecordId : Bytes
  files : FileSystem

/-- What an operation returns. -/
inductive LedgerReply where
  | decision (decision : ExecutionLedgerCommandDecision)
  | record (record : ExecutionLedgerRecord)

/-- The authorization a reply hands out. -/
def LedgerReply.authorization :
    LedgerReply → Option ExecutionCommandAuthorization
  | .decision made => made.authorization
  | .record _ => none

/-- A call with its result as a reply. -/
def LedgerCall.reply {α : Type} (call : LedgerCall α) (f : α → LedgerReply) :
    LedgerCall LedgerReply :=
  { call with result := call.result.map f }

/-- The plan of an operation that does not authorize a command. -/
def ExecutionLedger.planRecord (ledger : ExecutionLedger)
    (directory : LedgerDirectory) (request : LedgerRequest) :
    Result (ExecutionLedger × ExecutionLedgerRecord) :=
  match request.operation with
  | .authorizeCommand _ =>
      failure .internalError "execution-ledger append record is invalid"
  | .recordCompletion completion =>
      ledger.planCompletion P request.files directory request.dependencies
        completion request.expectedCurrentRecordId
  | .cancel observed detail =>
      ledger.planCancel P request.files directory request.dependencies observed
        detail request.expectedCurrentRecordId
  | .expire observed =>
      ledger.planExpire P request.files directory request.dependencies observed
        request.expectedCurrentRecordId
  | .revokeDependency revocation observed =>
      ledger.planRevoke P request.files directory request.dependencies
        revocation observed request.expectedCurrentRecordId

/-- A call on a handle. -/
def ExecutionLedger.call (ledger : ExecutionLedger)
    (directory : LedgerDirectory) (request : LedgerRequest) :
    LedgerCall LedgerReply :=
  match request.operation with
  | .authorizeCommand command =>
      (ledger.authorizeCommand P request.files directory request.dependencies
        command request.expectedCurrentRecordId).reply .decision
  | _ =>
      (ledger.commit P request.files directory
        (ledger.planRecord P directory request)).reply .record

/-- One directory, and the handles that are open on it. -/
structure LedgerWorld where
  directory : LedgerDirectory
  handles : List ExecutionLedger

/-- What can happen to a directory: a handle is opened, a call is made on
any handle, or the files come to be listed in another order. Calls are
serialised by the writer lock. -/
inductive LedgerStep (path : Bytes) : LedgerWorld → LedgerWorld → Prop
  | opened {world : LedgerWorld} {d : LedgerDependencies}
      {options : ExecutionLedgerLoadOptions} {ledger : ExecutionLedger}
      (h : ExecutionLedger.openLedger P path world.directory d.session d.reviewed
        d.trustHistory d.atlas options = .ok ledger) :
      LedgerStep path world { world with handles := ledger :: world.handles }
  | called {world : LedgerWorld} {ledger : ExecutionLedger}
      (request : LedgerRequest) (h : ledger ∈ world.handles) :
      LedgerStep path world
        { directory := (ledger.call P world.directory request).directory
          handles :=
            (ledger.call P world.directory request).ledger :: world.handles }
  | listed {world : LedgerWorld} {records : List (Bytes × Bytes)}
      (h : records.Perm world.directory.records) :
      LedgerStep path world
        { world with directory := { world.directory with records := records } }

end

end RbfSafe
