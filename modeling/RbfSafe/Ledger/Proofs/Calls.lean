/-
What the calls of any number of handles do to one directory.

A call reads the ledger again, and either leaves the directory as it is or
adds one file, of a record that continues the ledger it has read
(`NextRecord`). Whatever the handles were and whatever the directory held,
what can be opened obeys the protocol, and begins with what was opened
before.
-/
import Mathlib.Logic.Relation
import RbfSafe.Execution.Proofs.Approvals
import RbfSafe.Ledger.Proofs.Opening
import RbfSafe.Ledger.Proofs.Protocol

namespace RbfSafe

section
variable {P : Platform} {ledger fresh : ExecutionLedger} {directory : LedgerDirectory}
  {record : ExecutionLedgerRecord}

/-- The records of a valid ledger follow the protocol. -/
theorem obeys_of_valid (h : fresh.valid P = true) :
    ∃ earlier last stage, fresh.records = earlier ++ [last]
      ∧ Obeys fresh.commandCount fresh.validThroughMonotonicNs earlier last stage := by
  unfold ExecutionLedger.valid at h
  cases hreplayed : fresh.replayed P with
  | error e => simp [hreplayed] at h
  | ok summary => exact obeys_of_buildSummary hreplayed

/-- A record that continues the ledger that was read from a directory. -/
structure NextRecord (P : Platform) (ledger : ExecutionLedger) (directory : LedgerDirectory)
    (request : LedgerRequest) (fresh : ExecutionLedger)
    (record : ExecutionLedgerRecord) : Prop where
  opened : ExecutionLedger.openLedger P ledger.directory directory
    request.dependencies.session request.dependencies.reviewed
    request.dependencies.trustHistory request.dependencies.atlas ledger.options = .ok fresh
  expected : fresh.currentRecordId = request.expectedCurrentRecordId
  valid : record.valid P = true
  sequence : record.sequence.toNat = fresh.records.length
  parent : record.parentId = fresh.currentRecordId
  unwritten : ∀ file ∈ directory.records, file.1 ≠ recordFilename record
  obeys : ∃ stage, Obeys fresh.commandCount fresh.validThroughMonotonicNs fresh.records
    record stage

/-- A call that leaves the directory as it is and hands nothing out, or adds
the file of a record, which has the authorization that is handed out: of the
command after all that were authorized. -/
def Grows (P : Platform) (ledger : ExecutionLedger) (directory : LedgerDirectory)
    (request : LedgerRequest) (made : LedgerCall LedgerReply) : Prop :=
  (made.directory = directory
    ∧ ∀ reply, made.result = .ok reply → reply.authorization = none)
  ∨ ∃ fresh record, NextRecord P ledger directory request fresh record
    ∧ made.directory = { directory with
        records := directory.records ++ [recordFile P record] }
    ∧ ∀ reply authorization, made.result = .ok reply →
      reply.authorization = some authorization →
      record.authorization = some authorization
        ∧ authorizedIndices fresh.records = List.range authorization.commandIndex.toNat
        ∧ authorization.commandIndex.toNat < fresh.commandCount

variable {request : LedgerRequest}

theorem fresh_of_freshLedger
    (h : ledger.freshLedger P request.files directory request.dependencies
      request.expectedCurrentRecordId = .ok fresh) :
    ExecutionLedger.openLedger P ledger.directory directory
      request.dependencies.session request.dependencies.reviewed
      request.dependencies.trustHistory request.dependencies.atlas ledger.options = .ok fresh
    ∧ fresh.currentRecordId = request.expectedCurrentRecordId := by
  unfold ExecutionLedger.freshLedger at h
  obtain ⟨-, -, h⟩ := bind_eq_ok.mp h
  obtain ⟨opened, hopened, h⟩ := bind_eq_ok.mp h
  obtain ⟨hexpected, h⟩ := ite_failure_eq_ok.mp h
  cases h
  exact ⟨hopened, not_not.mp hexpected⟩

/-- An append adds the file of its record, or nothing. -/
theorem appendRecordUnlocked_cases
    (h : ledger.freshLedger P request.files directory request.dependencies
      request.expectedCurrentRecordId = .ok fresh) :
    (∃ e, ledger.appendRecordUnlocked P request.files directory fresh record
      = ⟨.error e, ledger, directory⟩)
    ∨ NextRecord P ledger directory request fresh record
      ∧ ledger.appendRecordUnlocked P request.files directory fresh record
        = ⟨.ok record, fresh.withRecord record, { directory with
          records := directory.records ++ [recordFile P record] }⟩ := by
  obtain ⟨hopened, hexpected⟩ := fresh_of_freshLedger h
  unfold ExecutionLedger.appendRecordUnlocked
  dsimp only
  split
  · exact .inl ⟨_, rfl⟩
  · rename_i appended happended
    obtain ⟨hrecord, happended⟩ := ite_failure_eq_ok.mp happended
    obtain ⟨-, happended⟩ := ite_failure_eq_ok.mp happended
    obtain ⟨hcandidate, happended⟩ := ite_failure_eq_ok.mp happended
    unfold appendRecordFile at happended
    obtain ⟨-, happended⟩ := ite_failure_eq_ok.mp happended
    obtain ⟨hunwritten, happended⟩ := ite_failure_eq_ok.mp happended
    obtain ⟨-, happended⟩ := ite_failure_eq_ok.mp happended
    cases happended
    simp only [Bool.or_eq_true, Bool.not_eq_true', bne_iff_ne, not_or, Bool.not_eq_false,
      not_not] at hrecord
    obtain ⟨earlier, last, stage, hrecords, hobeys⟩ :=
      obeys_of_valid (by simpa using hcandidate)
    obtain ⟨rfl, hlast⟩ := List.append_inj' hrecords rfl
    cases hlast
    refine .inr ⟨⟨hopened, hexpected, hrecord.2, hrecord.1.1.1.1.2, hrecord.1.1.1.2, ?_,
      stage, hobeys⟩, rfl⟩
    intro file hfile hname
    exact hunwritten (List.any_eq_true.mpr ⟨file, hfile, by simp [hname]⟩)

/-- Every operation but the first plans a record for the ledger it read. -/
theorem freshLedger_of_planRecord
    (h : ledger.planRecord P directory request = .ok (fresh, record)) :
    ledger.freshLedger P request.files directory request.dependencies
      request.expectedCurrentRecordId = .ok fresh := by
  unfold ExecutionLedger.planRecord at h
  cases hoperation : request.operation with
  | authorizeCommand command =>
      rw [hoperation] at h
      cases h
  | recordCompletion completion =>
      rw [hoperation] at h
      obtain ⟨-, h⟩ := ite_failure_eq_ok.mp h
      obtain ⟨opened, hopened, h⟩ := bind_eq_ok.mp h
      split at h
      · cases h
      · obtain ⟨-, h⟩ := ite_failure_eq_ok.mp h
        obtain ⟨-, -, h⟩ := bind_eq_ok.mp h
        cases h
        exact hopened
  | cancel observed detail =>
      rw [hoperation] at h
      obtain ⟨-, h⟩ := ite_failure_eq_ok.mp h
      obtain ⟨opened, hopened, h⟩ := bind_eq_ok.mp h
      obtain ⟨-, -, h⟩ := bind_eq_ok.mp h
      cases h
      exact hopened
  | expire observed =>
      rw [hoperation] at h
      obtain ⟨-, h⟩ := ite_failure_eq_ok.mp h
      obtain ⟨opened, hopened, h⟩ := bind_eq_ok.mp h
      obtain ⟨-, -, h⟩ := bind_eq_ok.mp h
      cases h
      exact hopened
  | revokeDependency revocation observed =>
      rw [hoperation] at h
      obtain ⟨-, h⟩ := ite_failure_eq_ok.mp h
      obtain ⟨opened, hopened, h⟩ := bind_eq_ok.mp h
      obtain ⟨-, -, h⟩ := bind_eq_ok.mp h
      obtain ⟨-, h⟩ := ite_failure_eq_ok.mp h
      cases h
      exact hopened

/-- The first one, with the authorization its record has. -/
theorem freshLedger_of_planCommand {command : CommandRequest}
    {authorization : Option ExecutionCommandAuthorization}
    (h : ledger.planCommand P request.files directory request.dependencies command
      request.expectedCurrentRecordId = .ok (.append fresh record authorization)) :
    ledger.freshLedger P request.files directory request.dependencies
        request.expectedCurrentRecordId = .ok fresh
      ∧ record.authorization = authorization := by
  unfold ExecutionLedger.planCommand at h
  obtain ⟨-, h⟩ := ite_failure_eq_ok.mp h
  obtain ⟨opened, hopened, h⟩ := bind_eq_ok.mp h
  obtain ⟨-, h⟩ := ite_failure_eq_ok.mp h
  obtain ⟨-, h⟩ := ite_failure_eq_ok.mp h
  by_cases hexpired : command.dispatchMonotonicNs
      > request.dependencies.session.validThroughMonotonicNs
  · rw [if_pos hexpired] at h
    cases h
    exact ⟨hopened, rfl⟩
  rw [if_neg hexpired] at h
  obtain ⟨bundle, -, h⟩ := bind_eq_ok.mp h
  obtain ⟨-, h⟩ := ite_failure_eq_ok.mp h
  obtain ⟨inactive, -, h⟩ := bind_eq_ok.mp h
  cases inactive with
  | some keyId =>
      cases h
      exact ⟨hopened, rfl⟩
  | none =>
      obtain ⟨-, h⟩ := ite_failure_eq_ok.mp h
      obtain ⟨granted, -, h⟩ := bind_eq_ok.mp h
      cases granted with
      | none => cases h
      | some granted =>
          cases h
          exact ⟨hopened, rfl⟩

theorem grows_call : Grows P ledger directory request (ledger.call P directory request) := by
  unfold ExecutionLedger.call
  split
  · rename_i command hoperation
    unfold ExecutionLedger.authorizeCommand
    split
    · exact .inl ⟨rfl, fun _ h => nomatch h⟩
    · refine .inl ⟨rfl, ?_⟩
      intro reply h
      cases h
      rfl
    · rename_i fresh record authorization hplan
      obtain ⟨hfresh, hgiven⟩ := freshLedger_of_planCommand hplan
      rcases appendRecordUnlocked_cases hfresh with ⟨e, happend⟩ | ⟨hnext, happend⟩
      · rw [happend]
        exact .inl ⟨rfl, fun _ h => nomatch h⟩
      · rw [happend]
        refine .inr ⟨fresh, record, hnext, rfl, ?_⟩
        intro reply other h hother
        unfold decideAppended LedgerCall.reply at h
        dsimp only [ok_bind] at h
        split at h
        · cases h
        · cases h
          have hrecord := hgiven.trans hother
          obtain ⟨stage, hobeys⟩ := hnext.obeys
          exact ⟨hrecord, hobeys.next_command hrecord⟩
  · unfold ExecutionLedger.commit
    split
    · exact .inl ⟨rfl, fun _ h => nomatch h⟩
    · rename_i fresh record hplan
      rcases appendRecordUnlocked_cases (freshLedger_of_planRecord hplan)
        with ⟨e, happend⟩ | ⟨hnext, happend⟩
      · rw [happend]
        exact .inl ⟨rfl, fun _ h => nomatch h⟩
      · rw [happend]
        refine .inr ⟨fresh, record, hnext, rfl, ?_⟩
        intro reply other h hother
        cases h
        cases hother

/-- A directory with the files of more valid records, numbered on. -/
def AddsFiles (P : Platform) (directory later : LedgerDirectory) : Prop :=
  later.manifest = directory.manifest
    ∧ ∃ written : List ExecutionLedgerRecord, (∀ record ∈ written, record.valid P = true)
      ∧ written.map (fun record => record.sequence.toNat)
        = List.range' directory.records.length written.length
      ∧ later.records.Perm (directory.records ++ written.map (recordFile P))

/-- Files are only added, whatever is called. -/
theorem addsFiles_of_steps {path : Bytes} {world later : LedgerWorld}
    (h : Relation.ReflTransGen (LedgerStep P path) world later) :
    AddsFiles P world.directory later.directory := by
  induction h with
  | refl => exact ⟨rfl, [], by simp, by simp, by simp⟩
  | tail _ hstep ih =>
      obtain ⟨hmanifest, written, hvalid, hnumbers, hfiles⟩ := ih
      cases hstep with
      | opened _ => exact ⟨hmanifest, written, hvalid, hnumbers, hfiles⟩
      | listed h => exact ⟨hmanifest, written, hvalid, hnumbers, h.trans hfiles⟩
      | called request hmem =>
          rcases grows_call with ⟨hsame, -⟩ | ⟨fresh, record, hnext, hadded, -⟩
          · rw [hsame]
            exact ⟨hmanifest, written, hvalid, hnumbers, hfiles⟩
          · rw [hadded]
            refine ⟨hmanifest, written ++ [record], ?_, ?_, ?_⟩
            · intro other hother
              rcases List.mem_append.mp hother with hold | hnew
              · exact hvalid other hold
              · rw [List.mem_singleton.mp hnew]
                exact hnext.valid
            · have hlength := (openedFrom_of_openLedger hnext.opened).length
              rw [hfiles.length_eq, List.length_append, List.length_map] at hlength
              simp [hnumbers, hnext.sequence, hlength, List.range'_concat]
            · rw [List.map_append, ← List.append_assoc]
              exact hfiles.append_right _

/-- What can be opened in a directory. -/
def Opens (P : Platform) (path : Bytes) (directory : LedgerDirectory)
    (ledger : ExecutionLedger) : Prop :=
  ∃ (d : LedgerDependencies) (options : ExecutionLedgerLoadOptions),
    ExecutionLedger.openLedger P path directory d.session d.reviewed d.trustHistory
      d.atlas options = .ok ledger

/-- **A ledger is only added to, and obeys the protocol**, whoever calls. -/
theorem ledger_run {path : Bytes} {world later : LedgerWorld}
    (h : Relation.ReflTransGen (LedgerStep P path) world later) :
    AddsFiles P world.directory later.directory
    ∧ (∀ ledger, Opens P path later.directory ledger →
        (∀ before, Opens P path world.directory before → before.records <+: ledger.records)
        ∧ (ledger.records.IsChain fun a b => a.observedMonotonicNs ≤ b.observedMonotonicNs)
        ∧ ∃ earlier last stage, ledger.records = earlier ++ [last]
          ∧ Obeys ledger.commandCount ledger.validThroughMonotonicNs earlier last stage
          ∧ authorizedIndices ledger.records = List.range stage.started)
    ∧ ∀ ledger request, Grows P ledger later.directory request
        (ledger.call P later.directory request) := by
  have hadded := addsFiles_of_steps h
  refine ⟨hadded, fun ledger hledger => ⟨fun before hbefore => ?_, ?_⟩,
    fun ledger request => grows_call⟩
  · obtain ⟨-, written, -, -, hfiles⟩ := hadded
    obtain ⟨d, options, hledger⟩ := hledger
    obtain ⟨e, others, hbefore⟩ := hbefore
    apply (openedFrom_of_openLedger hbefore).prefix_of_subset
      (openedFrom_of_openLedger hledger)
    intro file hfile
    exact hfiles.mem_iff.mpr (List.mem_append_left _ hfile)
  · obtain ⟨d, options, hledger⟩ := hledger
    obtain ⟨earlier, last, stage, hrecords, hobeys⟩ :=
      obeys_of_valid (openedFrom_of_openLedger hledger).valid
    refine ⟨?_, earlier, last, stage, hrecords, hobeys, ?_⟩
    · rw [hrecords]
      exact hobeys.times
    · rw [hrecords]
      exact hobeys.indices

end

/-- The directory that `create` leaves, and a handle on it. -/
def createdWorld (P : Platform) : LedgerWorld where
  directory :=
    { manifest := (manifestDocument P
        (executionLedgerIdentity P (reviewSession P .active 5).id)
        (reviewSession P .active 5) (rootRecord P (reviewSession P .active 5)).id).dump
        P.toLibc true 0 ++ ascii "\n"
      records := [recordFile P (rootRecord P (reviewSession P .active 5))] }
  handles := [{ directory := ascii "/ledger" }]

/-- An expiry after the end of the session. -/
def expireRequest (P : Platform) : LedgerRequest where
  dependencies := ⟨reviewSession P .active 5, reviewOf P .active, reviewHistory P .active,
    reviewAtlas⟩
  operation := .expire 200000000
  expectedCurrentRecordId := (rootRecord P (reviewSession P .active 5)).id
  files := ⟨true, true⟩

/-- What the call leaves. -/
def expiredWorld (P : Platform) : LedgerWorld :=
  let call := ExecutionLedger.call P { directory := ascii "/ledger" }
    (createdWorld P).directory (expireRequest P)
  ⟨call.directory, call.ledger :: (createdWorld P).handles⟩

theorem step_expiredWorld (P : Platform) :
    LedgerStep P (ascii "/ledger") (createdWorld P) (expiredWorld P) :=
  .called (expireRequest P) List.mem_cons_self

theorem ledger_run_expire :
    (expiredWorld (host fun _ _ _ => true)).directory.manifest
        = (createdWorld (host fun _ _ _ => true)).directory.manifest
      ∧ ∀ ledger, Opens (host fun _ _ _ => true) (ascii "/ledger")
          (expiredWorld (host fun _ _ _ => true)).directory ledger →
        ∀ before, Opens (host fun _ _ _ => true) (ascii "/ledger")
          (createdWorld (host fun _ _ _ => true)).directory before →
          before.records <+: ledger.records := by
  have hrun := ledger_run (.single (step_expiredWorld (host fun _ _ _ => true)))
  exact ⟨hrun.1.1, fun ledger hledger => (hrun.2.1 ledger hledger).1⟩

end RbfSafe
