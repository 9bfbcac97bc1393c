/-
Calls on a lifecycle, in any order and with any arguments.

A call that returns an error leaves the lifecycle as it was; one that
succeeds has passed its guards and grows it by one step (`assess_cases`,
`transition_cases`). What the replay checks of a step is what the guards
have checked, so the lifecycle stays one that `valid` accepts.

Only an assessment that is stable and a transition to the active state
after it lead to a lifecycle that is ready again.
-/
import RbfSafe.Calibration.Proofs.Replay
import RbfSafe.Calibration.Proofs.Identity
import RbfSafe.Lib.Journal

namespace RbfSafe

open PolicyCalibrationLifecycle

-- === operations

namespace PolicyCalibrationLifecycle

/-- What an assessment that succeeds has checked. -/
structure Assessable (P : Platform) (L : LongDouble)
    (lifecycle : PolicyCalibrationLifecycle)
    (profile : PolicyCalibrationProfile) (window : PolicyCalibrationWindowInput)
    (expectedCurrentEventId : Bytes) (options : PolicyCalibrationDriftOptions)
    (maximumReports maximumEvents : UInt64)
    (report : PolicyCalibrationDriftReport) : Prop where
  valid : lifecycle.valid P L profile = true
  maximumReports_ne : maximumReports ≠ 0
  maximumEvents_ne : maximumEvents ≠ 0
  expected : expectedCurrentEventId = lifecycle.currentEventId
  state : lifecycle.state ≠ .retired
  reports : lifecycle.reports.length < maximumReports.toNat
  events : lifecycle.events.length < maximumEvents.toNat
  generation : lifecycle.generation.toNat ≠ 2 ^ 64 - 1
  follows : lifecycle.Follows window.sequence
  report : assessPolicyCalibrationDrift P L profile window options = .ok report

section
variable {P : Platform} {L : LongDouble}
  {lifecycle : PolicyCalibrationLifecycle} {profile : PolicyCalibrationProfile}
  {window : PolicyCalibrationWindowInput} {expected : Bytes}
  {options : PolicyCalibrationDriftOptions}
  {maximumReports maximumEvents : UInt64}

/-- **An assessment fails and changes nothing, or has passed its guards.** -/
theorem assess_cases :
    (∃ e, lifecycle.assess P L profile window expected options maximumReports
        maximumEvents = (.error e, lifecycle))
      ∨ ∃ report, Assessable P L lifecycle profile window expected options
          maximumReports maximumEvents report
        ∧ lifecycle.assess P L profile window expected options maximumReports
          maximumEvents = (.ok report, lifecycle.afterAssessment P report) := by
  unfold assess
  split
  case isTrue => exact .inl ⟨_, rfl⟩
  case isFalse hinput =>
    split
    case isTrue => exact .inl ⟨_, rfl⟩
    case isFalse hexpected =>
      split
      case isTrue => exact .inl ⟨_, rfl⟩
      case isFalse hstate =>
        split
        case isTrue => exact .inl ⟨_, rfl⟩
        case isFalse hlimit =>
          split
          case isTrue => exact .inl ⟨_, rfl⟩
          case isFalse hsequence =>
            cases hassess : assessPolicyCalibrationDrift P L profile window
              options with
            | error e => exact .inl ⟨_, rfl⟩
            | ok report =>
                simp only [not_or, Bool.not_eq_false] at hinput
                simp only [not_or, not_le] at hlimit
                simp only [not_exists, not_and, UInt64.not_le] at hsequence
                rw [not_not] at hexpected
                exact .inr ⟨report, ⟨hinput.1, hinput.2.1, hinput.2.2,
                  hexpected, hstate, hlimit.1, hlimit.2.1, hlimit.2.2,
                  hsequence, hassess⟩, rfl⟩

/-- An assessment that passes its guards succeeds. -/
theorem assess_of_assessable {report : PolicyCalibrationDriftReport}
    (h : Assessable P L lifecycle profile window expected options
      maximumReports maximumEvents report) :
    lifecycle.assess P L profile window expected options maximumReports
      maximumEvents = (.ok report, lifecycle.afterAssessment P report) := by
  have hinput : ¬(lifecycle.valid P L profile = false ∨ maximumReports = 0
      ∨ maximumEvents = 0) := by
    simp [h.valid, h.maximumReports_ne, h.maximumEvents_ne]
  have hlimit : ¬(maximumReports.toNat ≤ lifecycle.reports.length
      ∨ maximumEvents.toNat ≤ lifecycle.events.length
      ∨ lifecycle.generation.toNat = 2 ^ 64 - 1) := by
    simp only [not_or, not_le]
    exact ⟨h.reports, h.events, h.generation⟩
  have hsequence : ¬∃ latest ∈ lifecycle.reports.getLast?,
      window.sequence ≤ latest.windowSequence := by
    intro ⟨latest, hlatest, hle⟩
    exact absurd (h.follows latest hlatest) (UInt64.not_lt.mpr hle)
  rw [assess, if_neg hinput, if_neg (not_not.mpr h.expected), if_neg h.state,
    if_neg hlimit, if_neg hsequence, h.report]
  rfl

/-- What a transition that succeeds has checked. -/
structure Transitionable (P : Platform) (L : LongDouble)
    (lifecycle : PolicyCalibrationLifecycle)
    (profile : PolicyCalibrationProfile) (expectedCurrentEventId : Bytes)
    (targetState : PolicyCalibrationLifecycleState) (detail : Bytes)
    (maximumEvents : UInt64) : Prop where
  valid : lifecycle.valid P L profile = true
  maximumEvents_ne : maximumEvents ≠ 0
  detail : validText detail kMaximumLifecycleDetailBytes = true
  expected : expectedCurrentEventId = lifecycle.currentEventId
  events : lifecycle.events.length < maximumEvents.toNat
  generation : lifecycle.generation.toNat ≠ 2 ^ 64 - 1
  allowed : lifecycleTransitionAllowed lifecycle.state targetState
    lifecycle.reports.getLast? = true

variable {targetState : PolicyCalibrationLifecycleState} {detail : Bytes}

/-- **A transition fails and changes nothing, or has passed its guards.** -/
theorem transition_cases :
    (∃ e, lifecycle.transition P L profile expected targetState detail
        maximumEvents = (.error e, lifecycle))
      ∨ Transitionable P L lifecycle profile expected targetState detail
          maximumEvents
        ∧ lifecycle.transition P L profile expected targetState detail
            maximumEvents
          = (.ok (lifecycle.transitionEvent P targetState detail),
            lifecycle.afterTransition P targetState detail) := by
  unfold transition
  split
  case isTrue => exact .inl ⟨_, rfl⟩
  case isFalse hinput =>
    split
    case isTrue => exact .inl ⟨_, rfl⟩
    case isFalse hexpected =>
      split
      case isTrue => exact .inl ⟨_, rfl⟩
      case isFalse hlimit =>
        split
        case isTrue => exact .inl ⟨_, rfl⟩
        case isFalse hallowed =>
          simp only [not_or, Bool.not_eq_false] at hinput hallowed
          simp only [not_or, not_le] at hlimit
          rw [not_not] at hexpected
          exact .inr ⟨⟨hinput.1, hinput.2.1, hinput.2.2, hexpected, hlimit.1,
            hlimit.2, hallowed⟩, rfl⟩

/-- A transition that passes its guards succeeds. -/
theorem transition_of_transitionable
    (h : Transitionable P L lifecycle profile expected targetState detail
      maximumEvents) :
    lifecycle.transition P L profile expected targetState detail maximumEvents
      = (.ok (lifecycle.transitionEvent P targetState detail),
        lifecycle.afterTransition P targetState detail) := by
  have hinput : ¬(lifecycle.valid P L profile = false ∨ maximumEvents = 0
      ∨ validText detail kMaximumLifecycleDetailBytes = false) := by
    simp [h.valid, h.maximumEvents_ne, h.detail]
  have hlimit : ¬(maximumEvents.toNat ≤ lifecycle.events.length
      ∨ lifecycle.generation.toNat = 2 ^ 64 - 1) := by
    simp only [not_or, not_le]
    exact ⟨h.events, h.generation⟩
  have hallowed : ¬lifecycleTransitionAllowed lifecycle.state targetState
      lifecycle.reports.getLast? = false := by
    rw [h.allowed]
    simp
  rw [transition, if_neg hinput, if_neg (not_not.mpr h.expected),
    if_neg hlimit, if_neg hallowed]
  rfl

end

-- === grown lifecycles

section
variable {P : Platform} {L : LongDouble}
  {lifecycle : PolicyCalibrationLifecycle} {profile : PolicyCalibrationProfile}

/-- An assessment brings no lifecycle to the active state. -/
theorem stateAfterAssessment_active {state : PolicyCalibrationLifecycleState}
    {status : PolicyCalibrationDriftStatus}
    (h : stateAfterAssessment state status = .active) :
    state = .active ∧ status = .stable := by
  cases state <;> cases status <;> first | exact ⟨rfl, rfl⟩ | cases h

/-- A transition to the active state needs a stable report. -/
theorem stable_of_allowed {state : PolicyCalibrationLifecycleState}
    {latest : Option PolicyCalibrationDriftReport}
    (h : lifecycleTransitionAllowed state .active latest = true) :
    ∃ report ∈ latest, report.status = .stable := by
  cases state with
  | pendingReview =>
      cases latest with
      | none => cases h
      | some report => exact ⟨report, rfl, of_decide_eq_true h⟩
  | active => cases h
  | quarantined => cases h
  | retired => cases h

/-- **In the active state the last report is stable.** -/
theorem Grown.stable (h : Grown P L profile lifecycle)
    (hactive : lifecycle.state = .active) :
    ∃ latest ∈ lifecycle.reports.getLast?, latest.status = .stable := by
  cases h with
  | registered => cases hactive
  | @assessed _ report _ _ _ _ _ =>
      exact ⟨report, List.getLast?_concat,
        (stateAfterAssessment_active hactive).2⟩
  | @moved _ _ _ _ _ hallowed =>
      cases hactive
      exact stable_of_allowed hallowed

/-- **The windows of the reports increase.** -/
theorem Grown.sequences (h : Grown P L profile lifecycle) :
    (lifecycle.reports.map (·.windowSequence)).Pairwise (· < ·) := by
  induction h with
  | registered => exact List.Pairwise.nil
  | @assessed lifecycle report _ _ hfollows _ _ ih =>
      show ((lifecycle.reports ++ [report]).map _).Pairwise _
      rw [List.map_append, List.pairwise_append]
      refine ⟨ih, List.pairwise_singleton _ _, ?_⟩
      intro sequence hsequence other hother
      rw [List.map_singleton, List.mem_singleton] at hother
      subst hother
      cases hlast : lifecycle.reports.getLast? with
      | none =>
          rw [List.getLast?_eq_none_iff.mp hlast] at hsequence
          cases hsequence
      | some last =>
          have hnew := UInt64.lt_iff_toNat_lt.mp (hfollows last hlast)
          obtain ⟨front, hfront⟩ := List.getLast?_eq_some_iff.mp hlast
          rw [hfront, List.map_append, List.pairwise_append] at ih
          rw [hfront, List.map_append, List.mem_append] at hsequence
          rcases hsequence with hold | hlatest
          · have hold' := UInt64.lt_iff_toNat_lt.mp
              (ih.2.2 sequence hold last.windowSequence (by simp))
            exact UInt64.lt_iff_toNat_lt.mpr (hold'.trans hnew)
          · rw [List.map_singleton, List.mem_singleton] at hlatest
            rw [hlatest]
            exact UInt64.lt_iff_toNat_lt.mpr hnew
  | moved _ _ _ ih => exact ih

/-- **A lifecycle is ready exactly in the active state.** -/
theorem Grown.deploymentReady_iff (h : Grown P L profile lifecycle) :
    lifecycle.deploymentReady = true ↔ lifecycle.state = .active := by
  unfold deploymentReady
  rw [Bool.and_eq_true, decide_eq_true_eq]
  refine ⟨And.left, fun hactive => ⟨hactive, ?_⟩⟩
  obtain ⟨latest, hlatest, hstable⟩ := h.stable hactive
  have hid := h.headed.latest
  rw [Option.mem_def.mp hlatest] at hid ⊢
  simp only [Bool.and_eq_true, decide_eq_true_eq]
  exact ⟨hstable, hid⟩

end

end PolicyCalibrationLifecycle

-- === calls

/-- A call of `assess` or `transition`. -/
inductive LifecycleCall where
  | assess (profile : PolicyCalibrationProfile)
      (window : PolicyCalibrationWindowInput) (expectedCurrentEventId : Bytes)
      (options : PolicyCalibrationDriftOptions)
      (maximumReports maximumEvents : UInt64)
  | transition (profile : PolicyCalibrationProfile)
      (expectedCurrentEventId : Bytes)
      (targetState : PolicyCalibrationLifecycleState) (detail : Bytes)
      (maximumEvents : UInt64)

/-- What a call returns. -/
inductive LifecycleOutcome where
  | report (report : PolicyCalibrationDriftReport)
  | event (event : PolicyCalibrationLifecycleEvent)

namespace LifecycleCall

/-- The profile a call is given. -/
def profile : LifecycleCall → PolicyCalibrationProfile
  | .assess profile _ _ _ _ _ => profile
  | .transition profile _ _ _ _ => profile

/-- The head a call expects. -/
def expectedCurrentEventId : LifecycleCall → Bytes
  | .assess _ _ expected _ _ _ => expected
  | .transition _ expected _ _ _ => expected

/-- The call on a lifecycle. -/
def perform (P : Platform) (L : LongDouble) (call : LifecycleCall)
    (lifecycle : PolicyCalibrationLifecycle) :
    Result LifecycleOutcome × PolicyCalibrationLifecycle :=
  match call with
  | .assess profile window expected options maximumReports maximumEvents =>
      let result := lifecycle.assess P L profile window expected options
        maximumReports maximumEvents
      (result.1.map .report, result.2)
  | .transition profile expected targetState detail maximumEvents =>
      let result := lifecycle.transition P L profile expected targetState
        detail maximumEvents
      (result.1.map .event, result.2)

end LifecycleCall

/-- The lifecycle after some calls. -/
def runLifecycle (P : Platform) (L : LongDouble) (calls : List LifecycleCall)
    (lifecycle : PolicyCalibrationLifecycle) : PolicyCalibrationLifecycle :=
  calls.foldl (fun lifecycle call => (call.perform P L lifecycle).2) lifecycle

/-- What a call that succeeds has checked, and what it does. -/
inductive Performed (P : Platform) (L : LongDouble)
    (lifecycle : PolicyCalibrationLifecycle) :
    LifecycleCall → LifecycleOutcome → PolicyCalibrationLifecycle → Prop
  | assess {profile : PolicyCalibrationProfile}
      {window : PolicyCalibrationWindowInput} {expected : Bytes}
      {options : PolicyCalibrationDriftOptions}
      {maximumReports maximumEvents : UInt64}
      {report : PolicyCalibrationDriftReport}
      (h : Assessable P L lifecycle profile window expected options
        maximumReports maximumEvents report) :
      Performed P L lifecycle (.assess profile window expected options
          maximumReports maximumEvents) (.report report)
        (lifecycle.afterAssessment P report)
  | transition {profile : PolicyCalibrationProfile} {expected : Bytes}
      {targetState : PolicyCalibrationLifecycleState} {detail : Bytes}
      {maximumEvents : UInt64}
      (h : Transitionable P L lifecycle profile expected targetState detail
        maximumEvents) :
      Performed P L lifecycle (.transition profile expected targetState detail
          maximumEvents)
        (.event (lifecycle.transitionEvent P targetState detail))
        (lifecycle.afterTransition P targetState detail)

section
variable {P : Platform} {L : LongDouble}
  {lifecycle : PolicyCalibrationLifecycle} {profile : PolicyCalibrationProfile}

/-- **A call fails and changes nothing, or has passed its guards.** -/
theorem perform_cases (P : Platform) (L : LongDouble)
    (lifecycle : PolicyCalibrationLifecycle) (call : LifecycleCall) :
    (∃ e, call.perform P L lifecycle = (.error e, lifecycle))
      ∨ ∃ outcome after, Performed P L lifecycle call outcome after
        ∧ call.perform P L lifecycle = (.ok outcome, after) := by
  cases call with
  | assess profile window expected options maximumReports maximumEvents =>
      have hcases : (∃ e, lifecycle.assess P L profile window expected options
          maximumReports maximumEvents = (.error e, lifecycle)) ∨ _ :=
        assess_cases
      rcases hcases with ⟨e, he⟩ | ⟨report, hguards, hok⟩
      · refine .inl ⟨e, ?_⟩
        rw [LifecycleCall.perform, he]
        rfl
      · refine .inr ⟨_, _, .assess hguards, ?_⟩
        rw [LifecycleCall.perform, hok]
        rfl
  | transition profile expected targetState detail maximumEvents =>
      have hcases : (∃ e, lifecycle.transition P L profile expected targetState
          detail maximumEvents = (.error e, lifecycle)) ∨ _ := transition_cases
      rcases hcases with ⟨e, he⟩ | ⟨hguards, hok⟩
      · refine .inl ⟨e, ?_⟩
        rw [LifecycleCall.perform, he]
        rfl
      · refine .inr ⟨_, _, .transition hguards, ?_⟩
        rw [LifecycleCall.perform, hok]
        rfl

/-- What has returned without an error has been performed. -/
theorem performed_of_ok {call : LifecycleCall} {outcome : LifecycleOutcome}
    (h : (call.perform P L lifecycle).1 = .ok outcome) :
    Performed P L lifecycle call outcome (call.perform P L lifecycle).2 := by
  rcases perform_cases P L lifecycle call with
    ⟨e, he⟩ | ⟨other, after, hperformed, hok⟩
  · rw [he] at h
    cases h
  · rw [hok] at h ⊢
    cases h
    exact hperformed

theorem Performed.valid {call : LifecycleCall} {outcome : LifecycleOutcome}
    {after : PolicyCalibrationLifecycle}
    (h : Performed P L lifecycle call outcome after) :
    lifecycle.valid P L call.profile = true := by
  cases h with
  | assess h => exact h.valid
  | transition h => exact h.valid

theorem Performed.expected {call : LifecycleCall} {outcome : LifecycleOutcome}
    {after : PolicyCalibrationLifecycle}
    (h : Performed P L lifecycle call outcome after) :
    call.expectedCurrentEventId = lifecycle.currentEventId := by
  cases h with
  | assess h => exact h.expected
  | transition h => exact h.expected

/-- **A call grows the lifecycle of its profile.** -/
theorem Performed.grown {call : LifecycleCall} {outcome : LifecycleOutcome}
    {after : PolicyCalibrationLifecycle}
    (h : Performed P L lifecycle call outcome after)
    (hsound : SoundProfile call.profile) :
    Grown P L call.profile after := by
  cases h with
  | assess h =>
      obtain ⟨hwindow, hoptions⟩ := windowInput_of_assess h.report
      have hsequence : ∀ {report : PolicyCalibrationDriftReport},
          report.windowSequence = (windowInput report).sequence := rfl
      refine .assessed (valid_iff.mp h.valid).2 ?_ ?_
        (equalReport_of_assess hsound h.report)
      · rw [hsequence, hwindow]
        exact h.follows
      · rw [hwindow, hoptions]
        exact h.report
  | transition h => exact .moved (valid_iff.mp h.valid).2 h.detail h.allowed

end

-- === runs

/-- A profile a caller can have: of `create` or `load`, or none yet. -/
def Obtained (P : Platform) (L : LongDouble)
    (profile : PolicyCalibrationProfile) : Prop :=
  profile = {} ∨ ∃ input, createProfile P L input = .ok profile

/-- The documents of the profiles of a run. -/
def runDocuments (L : Libc) (profile : PolicyCalibrationProfile)
    (calls : List LifecycleCall) : Set Bytes :=
  {document | document = profileDocument L profile
    ∨ ∃ call ∈ calls, document = profileDocument L call.profile}

section
variable {P : Platform} {L : LongDouble}
  {lifecycle : PolicyCalibrationLifecycle} {profile : PolicyCalibrationProfile}
  {input : PolicyCalibrationProfileInput}

/-- No profile is created without a policy. -/
theorem createProfile_unnamed (h : input.policyId = []) :
    createProfile P L input = failure .invalidArgument
      "policy calibration profile input is invalid" := by
  have htext : validText input.policyId kMaximumCalibrationTextBytes
      = false := by
    rw [h]
    rfl
  rw [createProfile, if_pos]
  simp only [htext, Bool.not_false, Bool.true_or]

/-- The empty profile is not valid. -/
theorem not_valid_empty (h : profile.policyId = []) :
    profile.valid P L = false := by
  have hcreate : createProfile P L (profileInput profile) = _ :=
    createProfile_unnamed h
  unfold PolicyCalibrationProfile.valid
  rw [hcreate]
  rfl

/-- A lifecycle is valid for one profile. -/
theorem profile_unique {other : PolicyCalibrationProfile}
    {documents : Set Bytes} (hprofile : createProfile P L input = .ok profile)
    (hobtained : Obtained P L other) (hdigests : Set.InjOn P.sha256 documents)
    (hdocument : profileDocument P.toLibc profile ∈ documents)
    (hdocument' : profileDocument P.toLibc other ∈ documents)
    (hgrown : Grown P L profile lifecycle)
    (hvalid : lifecycle.valid P L other = true) : other = profile := by
  obtain ⟨hother, hgrown'⟩ := valid_iff.mp hvalid
  rcases hobtained with rfl | ⟨input', hcreate⟩
  · rw [not_valid_empty rfl] at hother
    cases hother
  · exact created_eq_of_id hcreate hprofile hdigests hdocument' hdocument
      (hgrown'.headed.profileId.symm.trans hgrown.headed.profileId)

/-- **Every run grows the lifecycle.** -/
theorem grown_runLifecycle {documents : Set Bytes}
    (hprofile : createProfile P L input = .ok profile)
    (hdigests : Set.InjOn P.sha256 documents)
    (hdocument : profileDocument P.toLibc profile ∈ documents)
    {calls : List LifecycleCall}
    (hcalls : ∀ call ∈ calls, Obtained P L call.profile
      ∧ profileDocument P.toLibc call.profile ∈ documents)
    (hgrown : Grown P L profile lifecycle) :
    Grown P L profile (runLifecycle P L calls lifecycle) := by
  induction calls generalizing lifecycle with
  | nil => exact hgrown
  | cons call calls ih =>
      apply ih fun next hnext => hcalls next (List.mem_cons_of_mem _ hnext)
      show Grown P L profile (call.perform P L lifecycle).2
      rcases perform_cases P L lifecycle call with
        ⟨e, he⟩ | ⟨outcome, after, hperformed, hok⟩
      · rw [he]
        exact hgrown
      · rw [hok]
        obtain ⟨hobtained, hdocument'⟩ := hcalls call List.mem_cons_self
        have hsame : call.profile = profile :=
          profile_unique hprofile hobtained hdigests hdocument hdocument'
            hgrown hperformed.valid
        have hnext := hperformed.grown
          (by rw [hsame]; exact soundProfile_of_create hprofile)
        rw [hsame] at hnext
        exact hnext

/-- A lifecycle begins with the registration. -/
theorem create_ok (h : create P L profile = .ok lifecycle) :
    profile.valid P L = true ∧ Grown P L profile lifecycle := by
  rw [create, ite_failure_eq_ok] at h
  obtain ⟨hvalid, hlifecycle⟩ := h
  cases hlifecycle
  exact ⟨by simpa using hvalid, .registered⟩

-- === readiness

/-- A lifecycle becomes active by a transition after a stable report. -/
theorem exists_activation {calls : List LifecycleCall}
    (hbefore : lifecycle.state ≠ .active)
    (hafter : (runLifecycle P L calls lifecycle).state = .active) :
    ∃ front call back event, calls = front ++ call :: back
      ∧ (call.perform P L (runLifecycle P L front lifecycle)).1
        = .ok (.event event)
      ∧ event.type = .stateTransition ∧ event.currentState = .active
      ∧ ∃ latest ∈ (runLifecycle P L front lifecycle).reports.getLast?,
        latest.status = .stable := by
  obtain ⟨front, call, back, hcalls, hinactive, hactive⟩ :=
    Lib.Journal.exists_step
      (p := fun lifecycle : PolicyCalibrationLifecycle =>
        lifecycle.state = .active) hbefore hafter
  have hinactive' : (runLifecycle P L front lifecycle).state ≠ .active :=
    hinactive
  have hactive' : (call.perform P L
      (runLifecycle P L front lifecycle)).2.state = .active := hactive
  rcases perform_cases P L (runLifecycle P L front lifecycle) call with
    ⟨e, he⟩ | ⟨outcome, after, hperformed, hok⟩
  · rw [he] at hactive'
    exact absurd hactive' hinactive'
  · rw [hok] at hactive'
    cases hperformed with
    | assess h =>
        exact absurd (stateAfterAssessment_active hactive').1 hinactive'
    | @transition _ _ targetState detail _ h =>
        have htarget : targetState = .active := hactive'
        have hallowed := h.allowed
        rw [htarget] at hallowed
        refine ⟨front, _, back, (runLifecycle P L front lifecycle).transitionEvent
          P targetState detail, hcalls, ?_, rfl, htarget,
          stable_of_allowed hallowed⟩
        rw [hok]

/-- The last report becomes stable by an assessment. -/
theorem exists_stable_assessment {calls : List LifecycleCall}
    (hbefore : ¬∃ latest ∈ lifecycle.reports.getLast?, latest.status = .stable)
    (hafter : ∃ latest ∈ (runLifecycle P L calls lifecycle).reports.getLast?,
      latest.status = .stable) :
    ∃ front call back report, calls = front ++ call :: back
      ∧ (call.perform P L (runLifecycle P L front lifecycle)).1
        = .ok (.report report)
      ∧ report.status = .stable := by
  obtain ⟨front, call, back, hcalls, hunstable, hstable⟩ :=
    Lib.Journal.exists_step (p := fun lifecycle : PolicyCalibrationLifecycle =>
      ∃ latest ∈ lifecycle.reports.getLast?, latest.status = .stable)
      hbefore hafter
  have hstable' : ∃ latest ∈ (call.perform P L
      (runLifecycle P L front lifecycle)).2.reports.getLast?,
      latest.status = .stable := hstable
  rcases perform_cases P L (runLifecycle P L front lifecycle) call with
    ⟨e, he⟩ | ⟨outcome, after, hperformed, hok⟩
  · rw [he] at hstable'
    exact absurd hstable' hunstable
  · rw [hok] at hstable'
    cases hperformed with
    | @assess _ _ _ _ _ _ report h =>
        obtain ⟨latest, hlatest, hstatus⟩ := hstable'
        have hlast : latest = report := by
          have hlast' : latest
              ∈ ((runLifecycle P L front lifecycle).reports
                ++ [report]).getLast? := hlatest
          rw [List.getLast?_concat] at hlast'
          exact (Option.some.inj hlast').symm
        refine ⟨front, _, back, report, hcalls, ?_, hlast ▸ hstatus⟩
        rw [hok]
    | transition h => exact absurd hstable' hunstable

end

/-- After an assessment that is not stable the readiness guard passes
only if later calls assess a window as stable and then activate the
lifecycle. -/
theorem readiness_regained {P : Platform} {L : LongDouble}
    {lifecycle : PolicyCalibrationLifecycle} {call : LifecycleCall}
    {report : PolicyCalibrationDriftReport}
    (hassessed : (call.perform P L lifecycle).1 = .ok (.report report))
    (hstatus : report.status ≠ .stable) {after : List LifecycleCall}
    {profile : PolicyCalibrationProfile}
    (hready : (runLifecycle P L (call :: after) lifecycle).readinessGuard P L
      profile = .ok ()) :
    ∃ calls assessment between activation later report' event,
      after = calls ++ assessment :: (between ++ activation :: later)
      ∧ (assessment.perform P L
          (runLifecycle P L (call :: calls) lifecycle)).1
        = .ok (.report report')
      ∧ report'.status = .stable
      ∧ (activation.perform P L (runLifecycle P L
          (call :: (calls ++ assessment :: between)) lifecycle)).1
        = .ok (.event event)
      ∧ event.type = .stateTransition ∧ event.currentState = .active := by
  have hperformed := performed_of_ok hassessed
  generalize hnext : (call.perform P L lifecycle).2 = next at hperformed
  have hrun : ∀ calls, runLifecycle P L (call :: calls) lifecycle
      = runLifecycle P L calls next := by
    intro calls
    rw [← hnext]
    rfl
  have hinactive : next.state ≠ .active := by
    cases hperformed with
    | assess h =>
        exact fun hactive => hstatus (stateAfterAssessment_active hactive).2
  have hunstable : ¬∃ latest ∈ next.reports.getLast?,
      latest.status = .stable := by
    intro ⟨latest, hlatest, hstable⟩
    cases hperformed with
    | @assess _ _ _ _ _ _ _ h =>
        have hlatest' : latest ∈ (lifecycle.reports ++ [report]).getLast? :=
          hlatest
        rw [List.getLast?_concat] at hlatest'
        rw [← Option.some.inj hlatest'] at hstable
        exact hstatus hstable
  rw [hrun, readinessGuard, ite_failure_eq_ok, not_or, Bool.not_eq_false,
    Bool.not_eq_false] at hready
  have hactive : (runLifecycle P L after next).state = .active := by
    have hready' := hready.1.2
    rw [deploymentReady, Bool.and_eq_true, decide_eq_true_eq] at hready'
    exact hready'.1
  obtain ⟨front, activation, later, event, hafter, hactivation, htype,
    hcurrent, hstable⟩ := exists_activation hinactive hactive
  obtain ⟨calls, assessment, between, report', hfront, hassessment, hstatus'⟩ :=
    exists_stable_assessment hunstable hstable
  refine ⟨calls, assessment, between, activation, later, report', event, ?_,
    ?_, hstatus', ?_, htype, hcurrent⟩
  · rw [hafter, hfront, List.append_assoc, List.cons_append]
  · rw [hrun]
    exact hassessment
  · rw [hrun, ← hfront]
    exact hactivation

/-- **A lifecycle in use.** After any calls it is valid for its profile. A
call that returns an error changes nothing; one that succeeds expects the
head there is. The windows of the reports increase. In the active state
the last report is stable, and the lifecycle is ready exactly then. After
an assessment that is not stable the guard of the gate passes only if a
later assessment is stable and a transition after it activates the
lifecycle. -/
theorem lifecycle_in_use {P : Platform} {L : LongDouble}
    {input : PolicyCalibrationProfileInput} {profile : PolicyCalibrationProfile}
    (hprofile : createProfile P L input = .ok profile)
    {lifecycle : PolicyCalibrationLifecycle}
    (hcreate : create P L profile = .ok lifecycle) (calls : List LifecycleCall)
    (hobtained : ∀ call ∈ calls, Obtained P L call.profile)
    (hdigests : Set.InjOn P.sha256 (runDocuments P.toLibc profile calls)) :
    (runLifecycle P L calls lifecycle).valid P L profile = true
    ∧ (∀ (call : LifecycleCall) (e : Error),
        (call.perform P L (runLifecycle P L calls lifecycle)).1 = .error e →
        (call.perform P L (runLifecycle P L calls lifecycle)).2
          = runLifecycle P L calls lifecycle)
    ∧ (∀ (call : LifecycleCall) (outcome : LifecycleOutcome),
        (call.perform P L (runLifecycle P L calls lifecycle)).1 = .ok outcome →
        call.expectedCurrentEventId
          = (runLifecycle P L calls lifecycle).currentEventId)
    ∧ ((runLifecycle P L calls lifecycle).reports.map
        (·.windowSequence)).Pairwise (· < ·)
    ∧ ((runLifecycle P L calls lifecycle).state = .active →
        ∃ latest ∈ (runLifecycle P L calls lifecycle).reports.getLast?,
          latest.status = .stable)
    ∧ ((runLifecycle P L calls lifecycle).deploymentReady = true
        ↔ (runLifecycle P L calls lifecycle).state = .active)
    ∧ ∀ (before : List LifecycleCall) (call : LifecycleCall)
        (after : List LifecycleCall) (report : PolicyCalibrationDriftReport),
        calls = before ++ call :: after →
        (call.perform P L (runLifecycle P L before lifecycle)).1
          = .ok (.report report) →
        report.status ≠ .stable →
        ∀ other, (runLifecycle P L calls lifecycle).readinessGuard P L other
          = .ok () →
        ∃ first assessment between activation later report' event,
          after = first ++ assessment :: (between ++ activation :: later)
          ∧ (assessment.perform P L
              (runLifecycle P L (before ++ call :: first) lifecycle)).1
            = .ok (.report report')
          ∧ report'.status = .stable
          ∧ (activation.perform P L (runLifecycle P L
              (before ++ call :: (first ++ assessment :: between))
              lifecycle)).1 = .ok (.event event)
          ∧ event.type = .stateTransition
          ∧ event.currentState = .active := by
  obtain ⟨hvalid, hcreated⟩ := create_ok hcreate
  have hgrown : Grown P L profile (runLifecycle P L calls lifecycle) := by
    apply grown_runLifecycle hprofile hdigests (.inl rfl) _ hcreated
    exact fun call hcall => ⟨hobtained call hcall, .inr ⟨call, hcall, rfl⟩⟩
  refine ⟨valid_iff.mpr ⟨hvalid, hgrown⟩, ?_, ?_, hgrown.sequences,
    hgrown.stable, hgrown.deploymentReady_iff, ?_⟩
  · intro call e herror
    rcases perform_cases P L (runLifecycle P L calls lifecycle) call with
      ⟨_, he⟩ | ⟨_, _, _, hok⟩
    · rw [he]
    · rw [hok] at herror
      cases herror
  · exact fun call outcome hok => (performed_of_ok hok).expected
  · intro before call after report hcalls hassessed hstatus other hready
    have hsplit : ∀ rest, runLifecycle P L (before ++ rest) lifecycle
        = runLifecycle P L rest (runLifecycle P L before lifecycle) :=
      fun rest => List.foldl_append
    rw [hcalls, hsplit] at hready
    obtain ⟨first, assessment, between, activation, later, report', event,
      hafter, hfirst, hstable, hlast, hevent⟩ :=
        readiness_regained hassessed hstatus hready
    refine ⟨first, assessment, between, activation, later, report', event,
      hafter, ?_, hstable, ?_, hevent⟩
    · rw [hsplit]
      exact hfirst
    · rw [hsplit]
      exact hlast

/-- A platform for the samples. -/
abbrev calibrationHost : Platform := host fun _ _ _ => true

/-- What a profile of one bin is made of. -/
def sampleProfileInput : PolicyCalibrationProfileInput where
  policyId := ascii "grasp"
  policyModelDigest := List.replicate 64 97
  scopeId := ascii "cell"
  taskId := ascii "pick"
  datasetDigest := List.replicate 64 98
  method := ascii "binning"
  methodVersion := ascii "1"
  outcomeDefinition := ascii "held"
  stateUncertaintyUnit := ascii "m"
  actionUncertaintyUnit := ascii "m"
  bins := [{ samples := 10, successes := 5 }]

/-- A profile of one bin. -/
def sampleProfile : PolicyCalibrationProfile :=
  (createProfile calibrationHost .x87 sampleProfileInput).toOption.getD {}

theorem ok_of_isOk {α : Type} {r : Result α} (default : α)
    (h : r.isOk = true) : r = .ok (r.toOption.getD default) := by
  cases r with
  | error e => cases h
  | ok a => rfl

theorem createProfile_sample :
    createProfile calibrationHost .x87 sampleProfileInput
      = .ok sampleProfile :=
  ok_of_isOk {} (by decide +kernel)

/-- A created profile is valid if its numbers agree with themselves. -/
theorem valid_of_create {P : Platform} {L : LongDouble}
    {input : PolicyCalibrationProfileInput} {profile : PolicyCalibrationProfile}
    (h : createProfile P L input = .ok profile)
    (hexpected : approximatelyEqual profile.expectedCalibrationError
      profile.expectedCalibrationError = true)
    (hmaximum : approximatelyEqual profile.maximumCalibrationError
      profile.maximumCalibrationError = true)
    (hbins : ∀ bin ∈ profile.bins, equalBin bin bin = true) :
    profile.valid P L = true := by
  have hall : ((profile.bins.zip profile.bins).all fun bins =>
      equalBin bins.1 bins.2) = true := by
    rw [List.zip_eq_zipWith, List.zipWith_self, List.all_map, List.all_eq_true]
    exact hbins
  unfold PolicyCalibrationProfile.valid
  rw [(createProfile_ok h).1, h]
  simp only [decide_true, Bool.true_and, hexpected, hmaximum, hall]

theorem sampleProfile_valid :
    sampleProfile.valid calibrationHost .x87 = true := by
  apply valid_of_create createProfile_sample
  · decide +kernel
  · decide +kernel
  · have hall : sampleProfile.bins.all (fun bin => equalBin bin bin)
        = true := by
      decide +kernel
    exact List.all_eq_true.mp hall

theorem create_sample : create calibrationHost .x87 sampleProfile
    = .ok (registeredLifecycle calibrationHost sampleProfile.id) := by
  rw [create, sampleProfile_valid]
  rfl

/-- A window of outcomes for the profile. -/
def sampleWindow : PolicyCalibrationWindowInput where
  windowId := ascii "w"
  sequence := 1
  sourceDigest := List.replicate 64 99
  bins := [{ samples := 10, successes := 5 }]

/-- The assessment of the window, at the registration. -/
def sampleAssessment : LifecycleCall :=
  .assess sampleProfile sampleWindow
    (registrationEvent calibrationHost sampleProfile.id).id
    { minimumTotalSamples := 1, minimumBinSamples := 1 } 8 8

theorem lifecycle_in_use_sample :
    (runLifecycle calibrationHost .x87 [sampleAssessment]
        (registeredLifecycle calibrationHost sampleProfile.id)).valid
      calibrationHost .x87 sampleProfile = true := by
  refine (lifecycle_in_use createProfile_sample create_sample
    [sampleAssessment] ?_ ?_).1
  · intro call hcall
    rw [List.mem_singleton.mp hcall]
    exact .inr ⟨_, createProfile_sample⟩
  · -- there is one document
    have hone : ∀ document ∈ runDocuments calibrationHost.toLibc sampleProfile
        [sampleAssessment],
        document = profileDocument calibrationHost.toLibc sampleProfile := by
      intro document hdocument
      rcases hdocument with rfl | ⟨call, hcall, rfl⟩
      · rfl
      · rw [List.mem_singleton.mp hcall]
        rfl
    intro first hfirst second hsecond _
    rw [hone first hfirst, hone second hsecond]

end RbfSafe
