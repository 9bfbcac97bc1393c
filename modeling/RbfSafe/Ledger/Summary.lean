/-
The state of a ledger: what its records replay to.

`build_summary` is the state machine of the ledger. The first record
opens it; every other record is checked against the one before it
(`recordChained`, time, no terminal state) and then changes the summary
by its type (`applyRecord`). A ledger is valid if its records replay.
-/
import RbfSafe.Ledger.Types

namespace RbfSafe

section
variable (P : Platform)

/-- The chain check of a round of `build_summary`. -/
def recordChained (ledgerId sessionId : Bytes) (index : Nat)
    (previous : Option ExecutionLedgerRecord) (record : ExecutionLedgerRecord) :
    Bool :=
  record.valid P && record.sequence.toNat == index && record.ledgerId == ledgerId
    && record.sessionId == sessionId
    && (match previous with
      | none => record.type == .sessionOpened && record.parentId.isEmpty
      | some previous => record.parentId == previous.id)

/-- The `CommandAuthorized` case of `build_summary`. -/
def applyAuthorization (commandCount : Nat) (summary : ExecutionLedgerSummary)
    (record : ExecutionLedgerRecord) : Result ExecutionLedgerSummary :=
  match record.authorization with
  | none =>
      failure .corruptData
        "execution-ledger command authorization order is invalid" record.id
  | some authorization =>
      if summary.status ≠ .opened
          ∨ authorization.commandIndex.toNat ≠ summary.nextCommandIndex
          ∨ authorization.commandIndex.toNat ≥ commandCount then
        failure .corruptData
          "execution-ledger command authorization order is invalid" record.id
      else .ok { summary with
        authorizationCount := summary.authorizationCount + 1
        outstandingCommandIndex := some authorization.commandIndex
        status := .awaitingCompletion }

/-- The status after a completion that counts `next` commands as done. -/
def completionStatus (commandCount : Nat) (validThroughMonotonicNs : UInt64)
    (next : Nat) (completion : ExecutionControllerCompletion) :
    ExecutionLedgerStatus :=
  if completion.completedMonotonicNs > validThroughMonotonicNs then .expired
  else if next = commandCount then .completed
  else .opened

/-- The `ControllerCompletion` case of `build_summary`. -/
def applyCompletion (commandCount : Nat) (validThroughMonotonicNs : UInt64)
    (previous : ExecutionLedgerRecord) (summary : ExecutionLedgerSummary)
    (record : ExecutionLedgerRecord) : Result ExecutionLedgerSummary :=
  match record.completion with
  | none =>
      failure .corruptData
        "execution-ledger controller-completion order is invalid" record.id
  | some completion =>
      if summary.status ≠ .awaitingCompletion
          ∨ summary.outstandingCommandIndex ≠ some completion.commandIndex then
        failure .corruptData
          "execution-ledger controller-completion order is invalid" record.id
      else if previous.authorization.map (fun a => a.id)
          ≠ some completion.authorizationId then
        failure .corruptData
          "execution-ledger completion does not match its authorization" record.id
      else
        let summary := { summary with
          completionCount := summary.completionCount + 1
          outstandingCommandIndex := none }
        if completion.outcome ≠ .completed then
          .ok { summary with status := .failed }
        else .ok { summary with
          nextCommandIndex := summary.nextCommandIndex + 1
          status := completionStatus commandCount validThroughMonotonicNs
            (summary.nextCommandIndex + 1) completion }

/-- The switch of `build_summary` on the type of a record. -/
def applyRecord (commandCount : Nat) (validThroughMonotonicNs : UInt64)
    (previous : ExecutionLedgerRecord) (summary : ExecutionLedgerSummary)
    (record : ExecutionLedgerRecord) : Result ExecutionLedgerSummary :=
  match record.type with
  | .sessionOpened =>
      failure .corruptData
        "execution-ledger contains a second session-open record" record.id
  | .commandAuthorized => applyAuthorization commandCount summary record
  | .controllerCompletion =>
      applyCompletion commandCount validThroughMonotonicNs previous summary record
  | .sessionCancelled =>
      .ok { summary with outstandingCommandIndex := none, status := .cancelled }
  | .sessionExpired =>
      if record.observedMonotonicNs ≤ validThroughMonotonicNs then
        failure .corruptData
          "execution-ledger expiration precedes the closed session end" record.id
      else .ok { summary with outstandingCommandIndex := none, status := .expired }
  | .dependencyRevoked =>
      .ok { summary with outstandingCommandIndex := none, status := .revoked }

/-- One round of the loop of `build_summary`. -/
def replayLedgerRecord (ledgerId sessionId : Bytes) (commandCount : Nat)
    (validThroughMonotonicNs : UInt64) (index : Nat)
    (previous : Option ExecutionLedgerRecord) (summary : ExecutionLedgerSummary)
    (record : ExecutionLedgerRecord) : Result ExecutionLedgerSummary :=
  if !recordChained P ledgerId sessionId index previous record then
    failure .corruptData "execution-ledger record chain is invalid" record.id
  else match previous with
  | none => .ok summary
  | some previous =>
      if record.observedMonotonicNs < previous.observedMonotonicNs then
        failure .corruptData
          "execution-ledger monotonic observation time regressed" record.id
      else if terminalStatus summary.status then
        failure .corruptData
          "execution-ledger record appears after a terminal event" record.id
      else applyRecord commandCount validThroughMonotonicNs previous summary record

/-- The loop of `build_summary`. -/
def replayLedger (ledgerId sessionId : Bytes) (commandCount : Nat)
    (validThroughMonotonicNs : UInt64) :
    Nat → Option ExecutionLedgerRecord → ExecutionLedgerSummary →
    List ExecutionLedgerRecord → Result ExecutionLedgerSummary
  | _, _, summary, [] => .ok summary
  | index, previous, summary, record :: rest => do
      let summary ← replayLedgerRecord P ledgerId sessionId commandCount
        validThroughMonotonicNs index previous summary record
      replayLedger ledgerId sessionId commandCount validThroughMonotonicNs
        (index + 1) (some record) summary rest

/-- The summary `build_summary` starts from. -/
def initialSummary (ledgerId sessionId currentRecordId : Bytes)
    (recordCount : Nat) : ExecutionLedgerSummary :=
  { ledgerId := ledgerId
    sessionId := sessionId
    currentRecordId := currentRecordId
    recordCount := recordCount }

/-- `build_summary`. -/
def buildSummary (ledgerId sessionId currentRecordId : Bytes)
    (records : List ExecutionLedgerRecord) (commandCount : Nat)
    (validThroughMonotonicNs : UInt64) : Result ExecutionLedgerSummary :=
  if !validSha256 ledgerId || !validSha256 sessionId
      || !validSha256 currentRecordId || records.isEmpty
      || decide (commandCount < 2) || validThroughMonotonicNs == 0 then
    failure .corruptData "execution-ledger summary input is invalid"
  else do
    let summary ← replayLedger P ledgerId sessionId commandCount
      validThroughMonotonicNs 0 none
      (initialSummary ledgerId sessionId currentRecordId records.length) records
    .ok { summary with id := executionLedgerSummaryIdentity P summary }

/-- The replay of the records of a ledger. -/
def ExecutionLedger.replayed (ledger : ExecutionLedger) :
    Result ExecutionLedgerSummary :=
  buildSummary P ledger.id ledger.sessionId ledger.currentRecordId
    ledger.records ledger.commandCount ledger.validThroughMonotonicNs

/-- `ExecutionLedger::valid`. -/
def ExecutionLedger.valid (ledger : ExecutionLedger) : Bool :=
  !ledger.directory.isEmpty && validSha256 ledger.id
    && validSha256 ledger.sessionId && validSha256 ledger.currentRecordId
    && decide (2 ≤ ledger.commandCount) && ledger.validFromMonotonicNs != 0
    && decide (ledger.validFromMonotonicNs ≤ ledger.validThroughMonotonicNs)
    && !ledger.records.isEmpty
    && decide (ledger.records.length ≤ ledger.options.maximumRecords)
    && ledger.records.head?.map (fun r => r.observedMonotonicNs)
      == some ledger.validFromMonotonicNs
    && ledger.id == executionLedgerIdentity P ledger.sessionId
    && ledger.records.getLast?.map (fun r => r.id) == some ledger.currentRecordId
    && (match ledger.replayed P with
      | .ok summary => summary.valid P
      | .error _ => false)

/-- `ExecutionLedger::summary`. -/
def ExecutionLedger.summary (ledger : ExecutionLedger) : ExecutionLedgerSummary :=
  match ledger.replayed P with
  | .ok summary => summary
  | .error _ => {}

end

end RbfSafe
