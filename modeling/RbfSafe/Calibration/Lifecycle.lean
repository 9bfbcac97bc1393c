/-
`calibration_lifecycle.cpp`: the lifecycle of a calibration profile.

Assessments and transitions move the state, and every move is an event
that names the one before it. `valid` replays the events from the first:
it makes each report again from the window it keeps.

An operation returns its result beside the lifecycle it leaves behind.
-/
import RbfSafe.Calibration.Drift

namespace RbfSafe

open Json

-- === events

/-- `PolicyCalibrationLifecycleState`. -/
inductive PolicyCalibrationLifecycleState where
  | pendingReview
  | active
  | quarantined
  | retired
deriving DecidableEq, Repr

def PolicyCalibrationLifecycleState.toNat :
    PolicyCalibrationLifecycleState → Nat
  | .pendingReview => 0
  | .active => 1
  | .quarantined => 2
  | .retired => 3

/-- `PolicyCalibrationLifecycleEventType`. -/
inductive PolicyCalibrationLifecycleEventType where
  | registered
  | driftAssessed
  | stateTransition
deriving DecidableEq, Repr

def PolicyCalibrationLifecycleEventType.toNat :
    PolicyCalibrationLifecycleEventType → Nat
  | .registered => 0
  | .driftAssessed => 1
  | .stateTransition => 2

/-- `PolicyCalibrationLifecycleEvent`. -/
structure PolicyCalibrationLifecycleEvent where
  id : Bytes := []
  parentId : Bytes := []
  sequence : UInt64 := 0
  type : PolicyCalibrationLifecycleEventType := .registered
  previousState : PolicyCalibrationLifecycleState := .pendingReview
  currentState : PolicyCalibrationLifecycleState := .pendingReview
  reportId : Bytes := []
  detail : Bytes := []
deriving DecidableEq

/-- `kMaximumDetailBytes` of a lifecycle. -/
def kMaximumLifecycleDetailBytes : Nat := 1024

/-- `state_after_assessment`. -/
def stateAfterAssessment (state : PolicyCalibrationLifecycleState)
    (status : PolicyCalibrationDriftStatus) :
    PolicyCalibrationLifecycleState :=
  if status = .driftDetected then .quarantined
  else if status = .insufficientData ∧ state = .active then .pendingReview
  else state

/-- `transition_allowed`. -/
def lifecycleTransitionAllowed
    (source target : PolicyCalibrationLifecycleState)
    (latestReport : Option PolicyCalibrationDriftReport) : Bool :=
  if source = target ∨ source = .retired then false
  else match source with
    | .pendingReview =>
        if target = .active then
          match latestReport with
          | none => false
          | some report => decide (report.status = .stable)
        else decide (target = .quarantined ∨ target = .retired)
    | .active =>
        decide (target = .pendingReview ∨ target = .quarantined
          ∨ target = .retired)
    | .quarantined => decide (target = .pendingReview ∨ target = .retired)
    | .retired => false

/-- `PolicyCalibrationLifecycle`. -/
structure PolicyCalibrationLifecycle where
  profileId : Bytes := []
  state : PolicyCalibrationLifecycleState := .pendingReview
  generation : UInt64 := 0
  currentEventId : Bytes := []
  latestReportId : Bytes := []
  reports : List PolicyCalibrationDriftReport := []
  events : List PolicyCalibrationLifecycleEvent := []

section
variable (P : Platform) (L : LongDouble)

/-- `lifecycle_event_identity`. -/
def lifecycleEventIdentity (profileId : Bytes)
    (event : PolicyCalibrationLifecycleEvent) : Bytes :=
  P.sha256 (dump P.toLibc false 0 (.object (obj
    [("current_state", num event.currentState.toNat),
      ("detail", .string event.detail),
      ("parent_id", .string event.parentId),
      ("previous_state", num event.previousState.toNat),
      ("profile_id", .string profileId),
      ("report_id", .string event.reportId),
      ("sequence", uint event.sequence.toNat),
      ("type", num event.type.toNat)])))

/-- An event with its identity. -/
def identifiedEvent (profileId : Bytes)
    (event : PolicyCalibrationLifecycleEvent) :
    PolicyCalibrationLifecycleEvent :=
  { event with id := lifecycleEventIdentity P profileId event }

/-- The event of `PolicyCalibrationLifecycle::create`. -/
def registrationEvent (profileId : Bytes) : PolicyCalibrationLifecycleEvent :=
  identifiedEvent P profileId
    { detail := ascii "calibration profile registered" }

namespace PolicyCalibrationLifecycle

/-- `PolicyCalibrationLifecycle::create`. -/
def create (profile : PolicyCalibrationProfile) :
    Result PolicyCalibrationLifecycle :=
  if profile.valid P L = false then
    failure .invalidArgument "policy calibration lifecycle profile is invalid"
  else
    let event := registrationEvent P profile.id
    .ok
      { profileId := profile.id
        currentEventId := event.id
        events := [event] }

-- === replay

/-- What the replay of `valid` carries from event to event: the place and
the id of the last event, the state, the last report taken and those
still to be taken. -/
structure Replay where
  index : Nat
  previousId : Bytes
  state : PolicyCalibrationLifecycleState
  latest : Option PolicyCalibrationDriftReport
  pending : List PolicyCalibrationDriftReport

/-- The replay after an event has been accepted. -/
def Replay.advance (replay : Replay) (event : PolicyCalibrationLifecycleEvent)
    (latest : Option PolicyCalibrationDriftReport)
    (pending : List PolicyCalibrationDriftReport) : Replay where
  index := replay.index + 1
  previousId := event.id
  state := event.currentState
  latest := latest
  pending := pending

/-- One event of the replay, `none` where `valid` returns false. -/
def replayLifecycleEvent (profile : PolicyCalibrationProfile)
    (profileId : Bytes) (replay : Replay)
    (event : PolicyCalibrationLifecycleEvent) : Option Replay :=
  if event.sequence ≠ UInt64.ofNat (replay.index + 1)
      ∨ event.parentId ≠ replay.previousId
      ∨ event.previousState ≠ replay.state
      ∨ event.id ≠ lifecycleEventIdentity P profileId event then none
  else match event.type with
    | .registered => none
    | .driftAssessed =>
        match replay.pending with
        | [] => none
        | stored :: pending =>
            if (∃ latest ∈ replay.latest,
                  stored.windowSequence ≤ latest.windowSequence)
                ∨ event.reportId ≠ stored.id
                ∨ event.detail ≠ stored.status.name then none
            else match assessPolicyCalibrationDrift P L profile
                (windowInput stored) stored.options with
              | .error _ => none
              | .ok rebuilt =>
                  if equalReport stored rebuilt = false
                      ∨ event.currentState
                        ≠ stateAfterAssessment replay.state stored.status then
                    none
                  else some (replay.advance event (some stored) pending)
    | .stateTransition =>
        if event.reportId ≠ []
            ∨ validText event.detail kMaximumLifecycleDetailBytes = false
            ∨ lifecycleTransitionAllowed replay.state event.currentState
              replay.latest = false then none
        else some (replay.advance event replay.latest replay.pending)

/-- The replay after the first event. -/
def initialReplay (event : PolicyCalibrationLifecycleEvent)
    (reports : List PolicyCalibrationDriftReport) : Replay where
  index := 0
  previousId := event.id
  state := .pendingReview
  latest := none
  pending := reports

/-- `PolicyCalibrationLifecycle::valid`. -/
def valid (lifecycle : PolicyCalibrationLifecycle)
    (profile : PolicyCalibrationProfile) : Bool :=
  match lifecycle.events with
  | [] => false
  | first :: rest =>
      profile.valid P L
        && decide (lifecycle.profileId = profile.id)
        && decide (lifecycle.generation = UInt64.ofNat rest.length)
        && decide (lifecycle.currentEventId
          = ((first :: rest).getLast (by simp)).id)
        && decide (lifecycle.latestReportId
          = (lifecycle.reports.getLast?).elim [] (·.id))
        && decide (first = registrationEvent P profile.id)
        && match rest.foldlM
            (replayLifecycleEvent P L profile lifecycle.profileId)
            (initialReplay first lifecycle.reports) with
          | none => false
          | some replay => replay.pending.isEmpty
              && decide (replay.state = lifecycle.state)

-- === operations

/-- `PolicyCalibrationLifecycle::assess`. -/
def assess (lifecycle : PolicyCalibrationLifecycle)
    (profile : PolicyCalibrationProfile)
    (window : PolicyCalibrationWindowInput) (expectedCurrentEventId : Bytes)
    (options : PolicyCalibrationDriftOptions)
    (maximumReports maximumEvents : UInt64) :
    Result PolicyCalibrationDriftReport × PolicyCalibrationLifecycle :=
  if lifecycle.valid P L profile = false ∨ maximumReports = 0
      ∨ maximumEvents = 0 then
    (failure .invalidArgument
      "policy calibration lifecycle assessment input is invalid", lifecycle)
  else if expectedCurrentEventId ≠ lifecycle.currentEventId then
    (failure .identityMismatch "policy calibration lifecycle head changed"
      lifecycle.currentEventId, lifecycle)
  else if lifecycle.state = .retired then
    (failure .invalidArgument
      "retired calibration lifecycle cannot be assessed", lifecycle)
  else if maximumReports.toNat ≤ lifecycle.reports.length
      ∨ maximumEvents.toNat ≤ lifecycle.events.length
      ∨ lifecycle.generation.toNat = 2 ^ 64 - 1 then
    (failure .resourceLimit
      "policy calibration lifecycle resource limit reached", lifecycle)
  else if ∃ latest ∈ lifecycle.reports.getLast?,
      window.sequence ≤ latest.windowSequence then
    (failure .invalidArgument
      "policy calibration window sequence must increase", lifecycle)
  else match assessPolicyCalibrationDrift P L profile window options with
    | .error e => (.error e, lifecycle)
    | .ok report =>
        let event := identifiedEvent P lifecycle.profileId
          { parentId := lifecycle.currentEventId
            sequence := lifecycle.generation + 1
            type := .driftAssessed
            previousState := lifecycle.state
            currentState := stateAfterAssessment lifecycle.state report.status
            reportId := report.id
            detail := report.status.name }
        (.ok report,
          { lifecycle with
            reports := lifecycle.reports ++ [report]
            events := lifecycle.events ++ [event]
            state := event.currentState
            generation := event.sequence
            currentEventId := event.id
            latestReportId := report.id })

/-- `PolicyCalibrationLifecycle::transition`. -/
def transition (lifecycle : PolicyCalibrationLifecycle)
    (profile : PolicyCalibrationProfile) (expectedCurrentEventId : Bytes)
    (targetState : PolicyCalibrationLifecycleState) (detail : Bytes)
    (maximumEvents : UInt64) :
    Result PolicyCalibrationLifecycleEvent × PolicyCalibrationLifecycle :=
  if lifecycle.valid P L profile = false ∨ maximumEvents = 0
      ∨ validText detail kMaximumLifecycleDetailBytes = false then
    (failure .invalidArgument
      "policy calibration lifecycle transition input is invalid", lifecycle)
  else if expectedCurrentEventId ≠ lifecycle.currentEventId then
    (failure .identityMismatch "policy calibration lifecycle head changed"
      lifecycle.currentEventId, lifecycle)
  else if maximumEvents.toNat ≤ lifecycle.events.length
      ∨ lifecycle.generation.toNat = 2 ^ 64 - 1 then
    (failure .resourceLimit
      "policy calibration lifecycle event limit reached", lifecycle)
  else if lifecycleTransitionAllowed lifecycle.state targetState
      lifecycle.reports.getLast? = false then
    (failure .invalidArgument
      "policy calibration lifecycle transition is not allowed", lifecycle)
  else
    let event := identifiedEvent P lifecycle.profileId
      { parentId := lifecycle.currentEventId
        sequence := lifecycle.generation + 1
        type := .stateTransition
        previousState := lifecycle.state
        currentState := targetState
        detail }
    (.ok event,
      { lifecycle with
        events := lifecycle.events ++ [event]
        state := targetState
        generation := event.sequence
        currentEventId := event.id })

/-- `PolicyCalibrationLifecycle::deployment_ready`. -/
def deploymentReady (lifecycle : PolicyCalibrationLifecycle) : Bool :=
  decide (lifecycle.state = .active)
    && match lifecycle.reports.getLast? with
      | none => false
      | some latest => decide (latest.status = .stable)
          && decide (lifecycle.latestReportId = latest.id)

/-- The readiness guard of `check_proposals_guarded`. -/
def readinessGuard (lifecycle : PolicyCalibrationLifecycle)
    (profile : PolicyCalibrationProfile) : Result Unit :=
  if lifecycle.valid P L profile = false
      ∨ lifecycle.deploymentReady = false then
    failure .invalidArgument
      "policy calibration lifecycle is not deployment-ready"
      lifecycle.currentEventId
  else .ok ()

end PolicyCalibrationLifecycle

end

end RbfSafe
