/-
What the records of a ledger say: one command at a time.

`Obeys` is the protocol of a session without identities and signatures:
a command is authorized only if nothing is outstanding and it is the next
one, it is completed by the record right after its authorization, and
nothing follows the end. The records that `build_summary` accepts follow it,
and the summary tells where the session stands.
-/
import RbfSafe.Ledger.Summary

namespace RbfSafe

/-- Where a session stands: before a command, at one, or at its end after so
many were started. -/
inductive Stage where
  | ready (next : Nat)
  | waiting (authorization : ExecutionCommandAuthorization)
  | closed (started : Nat)

/-- How many commands were authorized. -/
def Stage.started : Stage → Nat
  | .ready next => next
  | .waiting authorization => authorization.commandIndex.toNat + 1
  | .closed started => started

section
variable (commandCount : Nat) (validThrough : UInt64)

/-- Where a session stands after a completion. -/
def stageAfter (commandIndex : Nat) (completion : ExecutionControllerCompletion) :
    Stage :=
  if completion.outcome = .completed ∧ completion.completedMonotonicNs ≤ validThrough
      ∧ commandIndex + 1 ≠ commandCount then .ready (commandIndex + 1)
  else .closed (commandIndex + 1)

/-- What a record does to a session. -/
inductive Turn : Stage → ExecutionLedgerRecord → Stage → Prop where
  | authorized {record : ExecutionLedgerRecord}
      {authorization : ExecutionCommandAuthorization}
      (given : record.authorization = some authorization)
      (untold : record.completion = none)
      (bound : authorization.commandIndex.toNat < commandCount) :
      Turn (.ready authorization.commandIndex.toNat) record (.waiting authorization)
  | completed {record : ExecutionLedgerRecord}
      {outstanding : ExecutionCommandAuthorization} {told : ExecutionControllerCompletion}
      (ungiven : record.authorization = none) (completion : record.completion = some told)
      (same : told.authorizationId = outstanding.id
        ∧ told.commandIndex = outstanding.commandIndex) :
      Turn (.waiting outstanding) record
        (stageAfter commandCount validThrough outstanding.commandIndex.toNat told)
  | ended {record : ExecutionLedgerRecord} {stage : Stage}
      (going : ∀ started, stage ≠ .closed started)
      (ungiven : record.authorization = none) (untold : record.completion = none)
      (expired : record.type = .sessionExpired →
        validThrough < record.observedMonotonicNs) :
      Turn stage record (.closed stage.started)

/-- The records of a session but the last, the last one, and where the
session stands after it. -/
inductive Obeys : List ExecutionLedgerRecord → ExecutionLedgerRecord → Stage → Prop where
  | opened {record : ExecutionLedgerRecord} (ungiven : record.authorization = none)
      (untold : record.completion = none) : Obeys [] record (.ready 0)
  | turn {earlier : List ExecutionLedgerRecord} {last record : ExecutionLedgerRecord}
      {stage next : Stage} (before : Obeys earlier last stage)
      (time : last.observedMonotonicNs ≤ record.observedMonotonicNs)
      (turn : Turn commandCount validThrough stage record next) :
      Obeys (earlier ++ [last]) record next

end

-- === consequences

section
variable {commandCount : Nat} {validThrough : UInt64}
  {earlier : List ExecutionLedgerRecord} {last : ExecutionLedgerRecord} {stage : Stage}

/-- The commands that were authorized, in the order of their records. -/
def authorizedIndices (records : List ExecutionLedgerRecord) : List Nat :=
  (records.filterMap (·.authorization)).map (·.commandIndex.toNat)

theorem authorizedIndices_concat (records : List ExecutionLedgerRecord)
    (record : ExecutionLedgerRecord) : authorizedIndices (records ++ [record])
      = authorizedIndices records
        ++ (record.authorization.map (·.commandIndex.toNat)).toList := by
  cases h : record.authorization <;> simp [authorizedIndices, h]

theorem started_stageAfter (commandIndex : Nat)
    (completion : ExecutionControllerCompletion) :
    (stageAfter commandCount validThrough commandIndex completion).started
      = commandIndex + 1 := by
  unfold stageAfter
  split <;> rfl

/-- Commands are authorized in the order of their indices, each once. -/
theorem Obeys.indices (h : Obeys commandCount validThrough earlier last stage) :
    authorizedIndices (earlier ++ [last]) = List.range stage.started := by
  induction h with
  | opened ungiven untold => simp [authorizedIndices, ungiven, Stage.started]
  | turn before time turn ih =>
      rw [authorizedIndices_concat, ih]
      cases turn with
      | authorized given untold bound => simp [given, Stage.started, List.range_succ]
      | completed ungiven completion same =>
          rw [started_stageAfter]
          simp [ungiven, Stage.started]
      | ended going ungiven untold expired => simp [ungiven, Stage.started]

/-- Time goes on from record to record. -/
theorem Obeys.times (h : Obeys commandCount validThrough earlier last stage) :
    (earlier ++ [last]).IsChain fun a b =>
      a.observedMonotonicNs ≤ b.observedMonotonicNs := by
  induction h with
  | opened ungiven untold => exact .singleton _
  | turn before time turn ih =>
      refine List.isChain_append.mpr ⟨ih, .singleton _, ?_⟩
      intro a ha b hb
      rw [List.getLast?_concat] at ha
      cases ha
      cases hb
      exact time

/-- A command is authorized after all that come before it. -/
theorem Obeys.next_command {authorization : ExecutionCommandAuthorization}
    (h : Obeys commandCount validThrough earlier last stage)
    (hgiven : last.authorization = some authorization) :
    authorizedIndices earlier = List.range authorization.commandIndex.toNat
      ∧ authorization.commandIndex.toNat < commandCount := by
  cases h with
  | opened ungiven untold => cases ungiven.symm.trans hgiven
  | turn before time turn =>
      cases turn with
      | authorized given untold bound =>
          cases given.symm.trans hgiven
          exact ⟨before.indices, bound⟩
      | completed ungiven completion same => cases ungiven.symm.trans hgiven
      | ended going ungiven untold expired => cases ungiven.symm.trans hgiven

/-- What a session waits for was authorized last. -/
theorem Obeys.outstanding {authorization : ExecutionCommandAuthorization}
    (h : Obeys commandCount validThrough earlier last (.waiting authorization)) :
    last.authorization = some authorization := by
  generalize hstage : Stage.waiting authorization = stage at h
  cases h with
  | opened => cases hstage
  | turn before time turn =>
      cases turn with
      | authorized given =>
          cases hstage
          exact given
      | completed =>
          unfold stageAfter at hstage
          split at hstage <;> cases hstage
      | ended => cases hstage

end

-- === replays

/-- The summary of a session that stands somewhere. -/
def Stands (summary : ExecutionLedgerSummary) : Stage → Prop
  | .ready next => summary.status = .opened ∧ summary.nextCommandIndex = next
  | .waiting authorization => summary.status = .awaitingCompletion
      ∧ summary.outstandingCommandIndex = some authorization.commandIndex
      ∧ summary.nextCommandIndex = authorization.commandIndex.toNat
  | .closed _ => terminalStatus summary.status = true

section
variable {P : Platform} {ledgerId sessionId : Bytes} {commandCount : Nat}
  {validThrough : UInt64} {index : Nat} {summary after : ExecutionLedgerSummary}
  {earlier records : List ExecutionLedgerRecord} {last record : ExecutionLedgerRecord}
  {stage : Stage}

/-- What the type of a valid record says about its contents. -/
theorem shape_of_valid (h : record.valid P = true) :
    (record.type ≠ .commandAuthorized → record.authorization = none)
      ∧ (record.type ≠ .controllerCompletion → record.completion = none) := by
  have hshape : recordShapeValid P record = true := by
    unfold ExecutionLedgerRecord.valid at h
    simp only [Bool.and_eq_true] at h
    exact h.1.2
  unfold recordShapeValid at hshape
  cases htype : record.type <;> rw [htype] at hshape <;>
    simp_all [Option.isNone_iff_eq_none]

theorem chained_iff {previous : Option ExecutionLedgerRecord}
    (h : ¬(!recordChained P ledgerId sessionId index previous record) = true) :
    record.valid P = true ∧ record.sequence.toNat = index
      ∧ (previous = none → record.type = .sessionOpened) := by
  unfold recordChained at h
  simp only [Bool.not_eq_true', Bool.and_eq_true, Bool.not_eq_false, beq_iff_eq] at h
  refine ⟨h.1.1.1.1, h.1.1.1.2, ?_⟩
  rintro rfl
  simp only [Bool.and_eq_true, beq_iff_eq] at h
  exact h.2.1

/-- The switch of `build_summary` takes a turn. -/
theorem turn_of_applyRecord (hvalid : record.valid P = true)
    (hstands : Stands summary stage) (hgoing : terminalStatus summary.status = false)
    (hlast : ∀ authorization, stage = .waiting authorization →
      last.authorization = some authorization)
    (h : applyRecord commandCount validThrough last summary record = .ok after) :
    ∃ next, Turn commandCount validThrough stage record next ∧ Stands after next := by
  obtain ⟨hungiven, huntold⟩ := shape_of_valid hvalid
  have hnot : ∀ started, stage ≠ .closed started := by
    rintro started rfl
    rw [hstands] at hgoing
    cases hgoing
  unfold applyRecord at h
  cases htype : record.type <;> rw [htype] at h hungiven huntold
  case sessionOpened => cases h
  case commandAuthorized =>
    unfold applyAuthorization at h
    cases hgiven : record.authorization with
    | none =>
        rw [hgiven] at h
        cases h
    | some authorization =>
      rw [hgiven] at h
      obtain ⟨hguard, h⟩ := ite_failure_eq_ok.mp h
      simp only [not_or, not_not, not_le, ge_iff_le] at hguard
      obtain ⟨hstatus, hindex, hbound⟩ := hguard
      cases h
      cases stage with
      | ready next =>
          obtain rfl := hindex.trans hstands.2
          exact ⟨_, .authorized hgiven (huntold (by decide)) hbound, rfl, rfl, hstands.2⟩
      | waiting outstanding => cases hstatus.symm.trans hstands.1
      | closed started => exact absurd rfl (hnot started)
  case controllerCompletion =>
    unfold applyCompletion at h
    cases htold : record.completion with
    | none =>
        rw [htold] at h
        cases h
    | some told =>
      rw [htold] at h
      obtain ⟨hguard, h⟩ := ite_failure_eq_ok.mp h
      obtain ⟨hsame, h⟩ := ite_failure_eq_ok.mp h
      simp only [not_or, not_not] at hguard hsame
      cases stage with
      | ready next => cases hguard.1.symm.trans hstands.1
      | closed started => exact absurd rfl (hnot started)
      | waiting outstanding =>
          obtain ⟨-, hout, hnext⟩ := hstands
          rw [hlast _ rfl, Option.map_some, Option.some.injEq] at hsame
          have hindex : told.commandIndex = outstanding.commandIndex :=
            Option.some.inj (hguard.2.symm.trans hout)
          refine ⟨_, .completed (hungiven (by decide)) htold ⟨hsame.symm, hindex⟩, ?_⟩
          unfold stageAfter
          dsimp only at h
          by_cases houtcome : told.outcome = .completed
          · rw [if_neg (not_not.mpr houtcome)] at h
            cases h
            unfold completionStatus
            rw [hnext]
            by_cases hlate : told.completedMonotonicNs ≤ validThrough
            · have hnot := UInt64.not_lt.mpr hlate
              by_cases hfinal : outstanding.commandIndex.toNat + 1 = commandCount <;>
                simp [houtcome, hlate, hnot, hfinal, Stands, terminalStatus]
            · have hlt := UInt64.not_le.mp hlate
              simp [houtcome, hlate, hlt, Stands, terminalStatus]
          · rw [if_pos houtcome] at h
            cases h
            rw [if_neg fun hon => houtcome hon.1]
            rfl
  case sessionExpired =>
    obtain ⟨hlate, h⟩ := ite_failure_eq_ok.mp h
    cases h
    exact ⟨_, .ended hnot (hungiven (by decide)) (huntold (by decide))
      fun _ => UInt64.not_le.mp hlate, rfl⟩
  all_goals
    cases h
    exact ⟨_, .ended hnot (hungiven (by decide)) (huntold (by decide))
      (fun hexpired => nomatch htype.symm.trans hexpired), rfl⟩

theorem obeys_replay (h : Obeys commandCount validThrough earlier last stage)
    (hstands : Stands summary stage)
    (hreplay : replayLedger P ledgerId sessionId commandCount validThrough index
      (some last) summary records = .ok after) :
    ∃ earlier' last' stage', earlier' ++ [last'] = earlier ++ [last] ++ records
      ∧ Obeys commandCount validThrough earlier' last' stage' ∧ Stands after stage' := by
  induction records generalizing earlier last stage summary index with
  | nil =>
      cases hreplay
      exact ⟨earlier, last, stage, by simp, h, hstands⟩
  | cons record rest ih =>
      obtain ⟨middle, hstep, hreplay⟩ := bind_eq_ok.mp hreplay
      unfold replayLedgerRecord at hstep
      obtain ⟨hchained, hstep⟩ := ite_failure_eq_ok.mp hstep
      obtain ⟨htime, hstep⟩ := ite_failure_eq_ok.mp hstep
      obtain ⟨hgoing, hstep⟩ := ite_failure_eq_ok.mp hstep
      obtain ⟨next, hturn, hstands'⟩ := turn_of_applyRecord (chained_iff hchained).1 hstands
        (Bool.eq_false_iff.mpr hgoing) (fun _ hwaiting => (hwaiting ▸ h).outstanding) hstep
      have hall := ih (h.turn (UInt64.not_lt.mp htime) hturn) hstands' hreplay
      simpa only [List.append_assoc, List.singleton_append, List.cons_append,
        List.nil_append] using hall

/-- **The records of a summary follow the protocol.** -/
theorem obeys_of_buildSummary {currentRecordId : Bytes}
    (h : buildSummary P ledgerId sessionId currentRecordId records commandCount validThrough
      = .ok summary) :
    ∃ earlier last stage, records = earlier ++ [last]
      ∧ Obeys commandCount validThrough earlier last stage := by
  unfold buildSummary at h
  obtain ⟨hinput, h⟩ := ite_failure_eq_ok.mp h
  obtain ⟨replayed, hreplay, -⟩ := bind_eq_ok.mp h
  cases records with
  | nil => simp at hinput
  | cons root rest =>
      obtain ⟨started, hroot, hreplay⟩ := bind_eq_ok.mp hreplay
      unfold replayLedgerRecord at hroot
      obtain ⟨hchained, hroot⟩ := ite_failure_eq_ok.mp hroot
      cases hroot
      obtain ⟨hvalid, -, htype⟩ := chained_iff hchained
      obtain ⟨hungiven, huntold⟩ := shape_of_valid hvalid
      rw [htype rfl] at hungiven huntold
      obtain ⟨earlier, last, stage, hrecords, hobeys, -⟩ := obeys_replay
        (.opened (hungiven (by decide)) (huntold (by decide))) ⟨rfl, rfl⟩ hreplay
      exact ⟨earlier, last, stage, hrecords.symm, hobeys⟩

end

end RbfSafe
