/-
What the replay of a lifecycle accepts.

A lifecycle grows by assessments and transitions. `Grown` is the set of
lifecycles grown from the registration, each step with what the replay
checks of it; `valid` accepts exactly these, for a valid profile
(`valid_iff`).
-/
import RbfSafe.Calibration.Lifecycle

namespace RbfSafe

namespace PolicyCalibrationLifecycle

section
variable (P : Platform) (L : LongDouble)

-- === growth

/-- The event of an assessment. -/
def assessmentEvent (lifecycle : PolicyCalibrationLifecycle)
    (report : PolicyCalibrationDriftReport) : PolicyCalibrationLifecycleEvent :=
  identifiedEvent P lifecycle.profileId
    { parentId := lifecycle.currentEventId
      sequence := lifecycle.generation + 1
      type := .driftAssessed
      previousState := lifecycle.state
      currentState := stateAfterAssessment lifecycle.state report.status
      reportId := report.id
      detail := report.status.name }

/-- The lifecycle an assessment leaves behind. -/
def afterAssessment (lifecycle : PolicyCalibrationLifecycle)
    (report : PolicyCalibrationDriftReport) : PolicyCalibrationLifecycle :=
  { lifecycle with
    reports := lifecycle.reports ++ [report]
    events := lifecycle.events ++ [lifecycle.assessmentEvent P report]
    state := stateAfterAssessment lifecycle.state report.status
    generation := lifecycle.generation + 1
    currentEventId := (lifecycle.assessmentEvent P report).id
    latestReportId := report.id }

/-- The event of a transition. -/
def transitionEvent (lifecycle : PolicyCalibrationLifecycle)
    (targetState : PolicyCalibrationLifecycleState) (detail : Bytes) :
    PolicyCalibrationLifecycleEvent :=
  identifiedEvent P lifecycle.profileId
    { parentId := lifecycle.currentEventId
      sequence := lifecycle.generation + 1
      type := .stateTransition
      previousState := lifecycle.state
      currentState := targetState
      detail }

/-- The lifecycle a transition leaves behind. -/
def afterTransition (lifecycle : PolicyCalibrationLifecycle)
    (targetState : PolicyCalibrationLifecycleState) (detail : Bytes) :
    PolicyCalibrationLifecycle :=
  { lifecycle with
    events := lifecycle.events ++ [lifecycle.transitionEvent P targetState detail]
    state := targetState
    generation := lifecycle.generation + 1
    currentEventId := (lifecycle.transitionEvent P targetState detail).id }

/-- The lifecycle of a profile that has only been registered. -/
def registeredLifecycle (profileId : Bytes) : PolicyCalibrationLifecycle where
  profileId := profileId
  currentEventId := (registrationEvent P profileId).id
  events := [registrationEvent P profileId]

/-- The window of a report follows those before it. -/
def Follows (lifecycle : PolicyCalibrationLifecycle) (sequence : UInt64) :
    Prop :=
  ∀ latest ∈ lifecycle.reports.getLast?, latest.windowSequence < sequence

/-- The lifecycles grown from the registration of a profile. -/
inductive Grown (profile : PolicyCalibrationProfile) :
    PolicyCalibrationLifecycle → Prop
  | registered : Grown profile (registeredLifecycle P profile.id)
  | assessed {lifecycle : PolicyCalibrationLifecycle}
      {report rebuilt : PolicyCalibrationDriftReport}
      (hgrown : Grown profile lifecycle)
      (hfollows : lifecycle.Follows report.windowSequence)
      (hassess : assessPolicyCalibrationDrift P L profile (windowInput report)
        report.options = .ok rebuilt)
      (hequal : equalReport report rebuilt = true) :
      Grown profile (lifecycle.afterAssessment P report)
  | moved {lifecycle : PolicyCalibrationLifecycle}
      {targetState : PolicyCalibrationLifecycleState} {detail : Bytes}
      (hgrown : Grown profile lifecycle)
      (hdetail : validText detail kMaximumLifecycleDetailBytes = true)
      (hallowed : lifecycleTransitionAllowed lifecycle.state targetState
        lifecycle.reports.getLast? = true) :
      Grown profile (lifecycle.afterTransition P targetState detail)

end

section
variable {P : Platform} {L : LongDouble} {profile : PolicyCalibrationProfile}
  {lifecycle : PolicyCalibrationLifecycle}

/-- What the fields of a lifecycle say of its events and reports. -/
structure Headed (P : Platform) (profile : PolicyCalibrationProfile)
    (lifecycle : PolicyCalibrationLifecycle) : Prop where
  profileId : lifecycle.profileId = profile.id
  events : ∃ rest, lifecycle.events = registrationEvent P profile.id :: rest
    ∧ lifecycle.generation = UInt64.ofNat rest.length
  current : ∃ last ∈ lifecycle.events.getLast?,
    lifecycle.currentEventId = last.id ∧ lifecycle.state = last.currentState
  latest : lifecycle.latestReportId
    = (lifecycle.reports.getLast?).elim [] (·.id)

theorem Grown.headed (h : Grown P L profile lifecycle) :
    Headed P profile lifecycle := by
  induction h with
  | registered => exact ⟨rfl, ⟨[], rfl, rfl⟩, ⟨_, rfl, rfl, rfl⟩, rfl⟩
  | @assessed lifecycle report rebuilt _ _ _ _ ih =>
      obtain ⟨rest, hevents, hgeneration⟩ := ih.events
      refine ⟨ih.profileId, ⟨rest ++ [lifecycle.assessmentEvent P report],
        ?_, ?_⟩, ⟨lifecycle.assessmentEvent P report, ?_, rfl, rfl⟩, ?_⟩
      · show lifecycle.events ++ _ = _
        rw [hevents, List.cons_append]
      · show lifecycle.generation + 1 = _
        rw [hgeneration, List.length_append, UInt64.ofNat_add]
        rfl
      · exact List.getLast?_concat
      · show report.id = ((lifecycle.reports ++ [report]).getLast?).elim [] _
        rw [List.getLast?_concat]
        rfl
  | @moved lifecycle targetState detail _ _ _ ih =>
      obtain ⟨rest, hevents, hgeneration⟩ := ih.events
      refine ⟨ih.profileId,
        ⟨rest ++ [lifecycle.transitionEvent P targetState detail], ?_, ?_⟩,
        ⟨lifecycle.transitionEvent P targetState detail, ?_, rfl, rfl⟩,
        ih.latest⟩
      · show lifecycle.events ++ _ = _
        rw [hevents, List.cons_append]
      · show lifecycle.generation + 1 = _
        rw [hgeneration, List.length_append, UInt64.ofNat_add]
        rfl
      · exact List.getLast?_concat

/-- The number of the next event. -/
theorem Headed.sequence (h : Headed P profile lifecycle) :
    UInt64.ofNat (lifecycle.events.length - 1 + 1)
      = lifecycle.generation + 1 := by
  obtain ⟨rest, hevents, hgeneration⟩ := h.events
  rw [hevents, hgeneration, List.length_cons, Nat.add_sub_cancel,
    UInt64.ofNat_add]
  rfl

theorem Headed.length (h : Headed P profile lifecycle) :
    lifecycle.events.length = lifecycle.events.length - 1 + 1 := by
  obtain ⟨rest, hevents, -⟩ := h.events
  rw [hevents, List.length_cons, Nat.add_sub_cancel]

-- === replay

/-- The replay that has arrived at a lifecycle, with reports still to be
taken. -/
def replayOf (lifecycle : PolicyCalibrationLifecycle)
    (pending : List PolicyCalibrationDriftReport) : Replay where
  index := lifecycle.events.length - 1
  previousId := lifecycle.currentEventId
  state := lifecycle.state
  latest := lifecycle.reports.getLast?
  pending := pending

theorem replayOf_afterAssessment (h : Headed P profile lifecycle)
    (report : PolicyCalibrationDriftReport)
    (pending : List PolicyCalibrationDriftReport) :
    (lifecycle.replayOf (report :: pending)).advance
        (lifecycle.assessmentEvent P report) (some report) pending
      = (lifecycle.afterAssessment P report).replayOf pending := by
  have hindex : lifecycle.events.length - 1 + 1
      = (lifecycle.events ++ [lifecycle.assessmentEvent P report]).length - 1 := by
    rw [List.length_append, ← h.length]
    rfl
  have hlatest : some report = (lifecycle.reports ++ [report]).getLast? :=
    List.getLast?_concat.symm
  unfold Replay.advance replayOf afterAssessment
  rw [← hindex, ← hlatest]
  rfl

theorem replayOf_afterTransition (h : Headed P profile lifecycle)
    (targetState : PolicyCalibrationLifecycleState) (detail : Bytes)
    (pending : List PolicyCalibrationDriftReport) :
    (lifecycle.replayOf pending).advance
        (lifecycle.transitionEvent P targetState detail)
        lifecycle.reports.getLast? pending
      = (lifecycle.afterTransition P targetState detail).replayOf pending := by
  have hindex : lifecycle.events.length - 1 + 1 = (lifecycle.events
      ++ [lifecycle.transitionEvent P targetState detail]).length - 1 := by
    rw [List.length_append, ← h.length]
    rfl
  unfold Replay.advance replayOf afterTransition
  rw [← hindex]
  rfl

/-- The replay has checked where an event belongs. -/
structure Continues (P : Platform) (profileId : Bytes) (replay : Replay)
    (event : PolicyCalibrationLifecycleEvent) : Prop where
  sequence : event.sequence = UInt64.ofNat (replay.index + 1)
  parentId : event.parentId = replay.previousId
  previousState : event.previousState = replay.state
  id : event.id = lifecycleEventIdentity P profileId event

/-- The replay has taken an assessment. -/
structure Assesses (P : Platform) (L : LongDouble)
    (profile : PolicyCalibrationProfile) (replay : Replay)
    (event : PolicyCalibrationLifecycleEvent)
    (stored : PolicyCalibrationDriftReport) : Prop where
  type : event.type = .driftAssessed
  follows : ∀ latest ∈ replay.latest,
    latest.windowSequence < stored.windowSequence
  reportId : event.reportId = stored.id
  detail : event.detail = stored.status.name
  rebuilt : ∃ rebuilt, assessPolicyCalibrationDrift P L profile
    (windowInput stored) stored.options = .ok rebuilt
      ∧ equalReport stored rebuilt = true
  currentState : event.currentState
    = stateAfterAssessment replay.state stored.status

/-- The replay has taken a transition. -/
structure Moves (replay : Replay) (event : PolicyCalibrationLifecycleEvent) :
    Prop where
  type : event.type = .stateTransition
  reportId : event.reportId = []
  detail : validText event.detail kMaximumLifecycleDetailBytes = true
  allowed : lifecycleTransitionAllowed replay.state event.currentState
    replay.latest = true

/-- What one event of the replay does. -/
theorem replayLifecycleEvent_eq_some {profileId : Bytes}
    {replay replay' : Replay} {event : PolicyCalibrationLifecycleEvent} :
    replayLifecycleEvent P L profile profileId replay event = some replay'
      ↔ Continues P profileId replay event
        ∧ ((∃ stored pending, replay.pending = stored :: pending
            ∧ Assesses P L profile replay event stored
            ∧ replay.advance event (some stored) pending = replay')
          ∨ (Moves replay event
            ∧ replay.advance event replay.latest replay.pending = replay')) := by
  have hheader : Continues P profileId replay event
      ↔ ¬(event.sequence ≠ UInt64.ofNat (replay.index + 1)
        ∨ event.parentId ≠ replay.previousId
        ∨ event.previousState ≠ replay.state
        ∨ event.id ≠ lifecycleEventIdentity P profileId event) := by
    simp only [not_or, not_not]
    exact ⟨fun h => ⟨h.sequence, h.parentId, h.previousState, h.id⟩,
      fun h => ⟨h.1, h.2.1, h.2.2.1, h.2.2.2⟩⟩
  rw [hheader, replayLifecycleEvent]
  split
  case isTrue h =>
    exact ⟨fun hnone => absurd hnone (by simp), fun hc => absurd h hc.1⟩
  case isFalse h =>
    refine Iff.trans ?_ (and_iff_right h).symm
    cases htype : event.type with
    | registered =>
        refine ⟨fun hnone => absurd hnone (by simp), ?_⟩
        rintro (⟨stored, pending, -, hassesses, -⟩ | ⟨hmoves, -⟩)
        · rw [hassesses.type] at htype
          cases htype
        · rw [hmoves.type] at htype
          cases htype
    | driftAssessed =>
        have hno : ¬Moves replay event := by
          intro hmoves
          rw [hmoves.type] at htype
          cases htype
        simp only [hno, false_and, or_false]
        cases hpending : replay.pending with
        | nil => simp
        | cons stored pending =>
            simp only [List.cons.injEq]
            constructor
            · intro hstep
              split at hstep
              case isTrue => cases hstep
              case isFalse hbefore =>
                simp only [not_or, not_not, not_exists, not_and,
                  UInt64.not_le] at hbefore
                split at hstep
                case h_1 => cases hstep
                case h_2 rebuilt hassess =>
                  split at hstep
                  case isTrue => cases hstep
                  case isFalse hafter =>
                    simp only [not_or, not_not, Bool.not_eq_false] at hafter
                    exact ⟨stored, pending, ⟨rfl, rfl⟩, ⟨htype, hbefore.1,
                      hbefore.2.1, hbefore.2.2, ⟨rebuilt, hassess, hafter.1⟩,
                      hafter.2⟩, Option.some.inj hstep⟩
            · rintro ⟨_, _, ⟨rfl, rfl⟩, hassesses, rfl⟩
              obtain ⟨rebuilt, hassess, hequal⟩ := hassesses.rebuilt
              rw [if_neg]
              · simp only [hassess]
                rw [if_neg]
                simp only [not_or, not_not, Bool.not_eq_false]
                exact ⟨hequal, hassesses.currentState⟩
              · simp only [not_or, not_not, not_exists, not_and, UInt64.not_le]
                exact ⟨hassesses.follows, hassesses.reportId, hassesses.detail⟩
    | stateTransition =>
        have hno : ∀ stored, ¬Assesses P L profile replay event stored := by
          intro stored hassesses
          rw [hassesses.type] at htype
          cases htype
        simp only [hno, false_and, and_false, exists_false, false_or]
        have hmoves : Moves replay event ↔ ¬(event.reportId ≠ []
            ∨ validText event.detail kMaximumLifecycleDetailBytes = false
            ∨ lifecycleTransitionAllowed replay.state event.currentState
              replay.latest = false) := by
          simp only [not_or, not_not, Bool.not_eq_false]
          exact ⟨fun h => ⟨h.reportId, h.detail, h.allowed⟩,
            fun h => ⟨htype, h.1, h.2.1, h.2.2⟩⟩
        rw [hmoves]
        split
        case isTrue hbad =>
          exact ⟨fun hnone => absurd hnone (by simp),
            fun hc => absurd hbad hc.1⟩
        case isFalse hgood => rw [Option.some.injEq, and_iff_right hgood]

/-- The replay takes an event of an assessment. -/
theorem replay_assessmentEvent (hgrown : Grown P L profile lifecycle)
    {report rebuilt : PolicyCalibrationDriftReport}
    (hfollows : lifecycle.Follows report.windowSequence)
    (hassess : assessPolicyCalibrationDrift P L profile (windowInput report)
      report.options = .ok rebuilt)
    (hequal : equalReport report rebuilt = true)
    (pending : List PolicyCalibrationDriftReport) :
    replayLifecycleEvent P L profile profile.id
        (lifecycle.replayOf (report :: pending))
        (lifecycle.assessmentEvent P report)
      = some ((lifecycle.afterAssessment P report).replayOf pending) := by
  have hheaded := hgrown.headed
  apply replayLifecycleEvent_eq_some.mpr
  constructor
  · refine ⟨hheaded.sequence.symm, rfl, rfl, ?_⟩
    rw [← hheaded.profileId]
    rfl
  · exact .inl ⟨report, pending, rfl,
      ⟨rfl, hfollows, rfl, rfl, ⟨rebuilt, hassess, hequal⟩, rfl⟩,
      replayOf_afterAssessment hheaded report pending⟩

/-- The replay takes an event of a transition. -/
theorem replay_transitionEvent (hgrown : Grown P L profile lifecycle)
    {targetState : PolicyCalibrationLifecycleState} {detail : Bytes}
    (hdetail : validText detail kMaximumLifecycleDetailBytes = true)
    (hallowed : lifecycleTransitionAllowed lifecycle.state targetState
      lifecycle.reports.getLast? = true)
    (pending : List PolicyCalibrationDriftReport) :
    replayLifecycleEvent P L profile profile.id (lifecycle.replayOf pending)
        (lifecycle.transitionEvent P targetState detail)
      = some ((lifecycle.afterTransition P targetState detail).replayOf
        pending) := by
  have hheaded := hgrown.headed
  apply replayLifecycleEvent_eq_some.mpr
  constructor
  · refine ⟨hheaded.sequence.symm, rfl, rfl, ?_⟩
    rw [← hheaded.profileId]
    rfl
  · exact .inr ⟨⟨rfl, rfl, hdetail, hallowed⟩,
      replayOf_afterTransition hheaded targetState detail pending⟩

/-- A walk over one event more. -/
theorem foldlM_snoc {ε σ : Type} (step : σ → ε → Option σ) (s : σ)
    (log : List ε) (event : ε) :
    (log ++ [event]).foldlM step s
      = (log.foldlM step s).bind fun s' => step s' event := by
  rw [List.foldlM_append]
  simp

/-- **The replay arrives at every grown lifecycle.** -/
theorem Grown.replay (h : Grown P L profile lifecycle) (rest : List
    PolicyCalibrationDriftReport) :
    lifecycle.events.tail.foldlM (replayLifecycleEvent P L profile profile.id)
        (initialReplay (registrationEvent P profile.id)
          (lifecycle.reports ++ rest))
      = some (lifecycle.replayOf rest) := by
  induction h generalizing rest with
  | registered => rfl
  | @assessed lifecycle report rebuilt hgrown hfollows hassess hequal ih =>
      obtain ⟨events, hevents, -⟩ := hgrown.headed.events
      have htail : (lifecycle.events
          ++ [lifecycle.assessmentEvent P report]).tail
          = lifecycle.events.tail ++ [lifecycle.assessmentEvent P report] := by
        rw [hevents]
        rfl
      have hreports : (lifecycle.reports ++ [report]) ++ rest
          = lifecycle.reports ++ (report :: rest) := by
        rw [List.append_assoc, List.singleton_append]
      show (lifecycle.events
          ++ [lifecycle.assessmentEvent P report]).tail.foldlM _
        (initialReplay _ ((lifecycle.reports ++ [report]) ++ rest)) = _
      rw [htail, hreports, foldlM_snoc, ih]
      exact replay_assessmentEvent hgrown hfollows hassess hequal rest
  | @moved lifecycle targetState detail hgrown hdetail hallowed ih =>
      obtain ⟨events, hevents, -⟩ := hgrown.headed.events
      have htail : (lifecycle.events
          ++ [lifecycle.transitionEvent P targetState detail]).tail
          = lifecycle.events.tail
            ++ [lifecycle.transitionEvent P targetState detail] := by
        rw [hevents]
        rfl
      show (lifecycle.events
          ++ [lifecycle.transitionEvent P targetState detail]).tail.foldlM _
        (initialReplay _ (lifecycle.reports ++ rest)) = _
      rw [htail, foldlM_snoc, ih]
      exact replay_transitionEvent hgrown hdetail hallowed rest

/-- An event the replay takes is one of an assessment or a transition. -/
theorem grown_of_step {pending : List PolicyCalibrationDriftReport}
    {event : PolicyCalibrationLifecycleEvent} {replay' : Replay}
    (hgrown : Grown P L profile lifecycle)
    (h : replayLifecycleEvent P L profile profile.id
      (lifecycle.replayOf pending) event = some replay') :
    ∃ next taken, Grown P L profile next
      ∧ next.events = lifecycle.events ++ [event]
      ∧ next.reports = lifecycle.reports ++ taken
      ∧ pending = taken ++ replay'.pending
      ∧ replay' = next.replayOf replay'.pending := by
  have hheaded := hgrown.headed
  obtain ⟨hcontinues, hkind⟩ := replayLifecycleEvent_eq_some.mp h
  have hsequence : event.sequence = lifecycle.generation + 1 :=
    hcontinues.sequence.trans hheaded.sequence
  have hid : event.id
      = lifecycleEventIdentity P lifecycle.profileId event := by
    rw [hheaded.profileId]
    exact hcontinues.id
  have hparent : event.parentId = lifecycle.currentEventId :=
    hcontinues.parentId
  have hprevious : event.previousState = lifecycle.state :=
    hcontinues.previousState
  obtain ⟨stored, rest, hpending, hassesses, rfl⟩ | ⟨hmoves, rfl⟩ := hkind
  · obtain ⟨rebuilt, hassess, hequal⟩ := hassesses.rebuilt
    have hpending' : pending = stored :: rest := hpending
    have hevent : event = lifecycle.assessmentEvent P stored := by
      have hcurrent := hassesses.currentState
      have htype := hassesses.type
      have hreport := hassesses.reportId
      have hdetail := hassesses.detail
      cases event
      subst hsequence hparent hprevious htype hreport hdetail hcurrent
      unfold assessmentEvent identifiedEvent
      rw [PolicyCalibrationLifecycleEvent.mk.injEq]
      exact ⟨hid, rfl, rfl, rfl, rfl, rfl, rfl, rfl⟩
    subst hevent hpending'
    refine ⟨lifecycle.afterAssessment P stored, [stored],
      .assessed hgrown hassesses.follows hassess hequal, rfl, rfl, rfl, ?_⟩
    exact replayOf_afterAssessment hheaded stored rest
  · have hevent : event
        = lifecycle.transitionEvent P event.currentState event.detail := by
      have htype := hmoves.type
      have hreport := hmoves.reportId
      cases event
      subst hsequence hparent hprevious htype hreport
      unfold transitionEvent identifiedEvent
      rw [PolicyCalibrationLifecycleEvent.mk.injEq]
      exact ⟨hid, rfl, rfl, rfl, rfl, rfl, rfl, rfl⟩
    have hnext := replayOf_afterTransition hheaded event.currentState
      event.detail pending
    rw [← hevent] at hnext
    refine ⟨lifecycle.afterTransition P event.currentState event.detail, [],
      .moved hgrown hmoves.detail hmoves.allowed, ?_, ?_, rfl, hnext⟩
    · show lifecycle.events ++ [_] = _
      rw [← hevent]
    · exact (List.append_nil _).symm

/-- **Whatever the replay arrives at has grown.** -/
theorem grown_of_replay {first : PolicyCalibrationLifecycleEvent}
    {reports : List PolicyCalibrationDriftReport}
    (hfirst : first = registrationEvent P profile.id)
    (rest : List PolicyCalibrationLifecycleEvent) {replay : Replay}
    (h : rest.foldlM (replayLifecycleEvent P L profile profile.id)
      (initialReplay first reports) = some replay) :
    ∃ lifecycle, Grown P L profile lifecycle
      ∧ lifecycle.events = first :: rest
      ∧ reports = lifecycle.reports ++ replay.pending
      ∧ replay = lifecycle.replayOf replay.pending := by
  induction rest using List.reverseRecOn generalizing replay with
  | nil =>
      cases h
      subst hfirst
      exact ⟨_, .registered, rfl, rfl, rfl⟩
  | append_singleton rest event ih =>
      rw [foldlM_snoc, Option.bind_eq_some_iff] at h
      obtain ⟨before, hbefore, hstep⟩ := h
      obtain ⟨lifecycle, hgrown, hevents, hreports, hreplay⟩ := ih hbefore
      rw [hreplay] at hstep
      obtain ⟨next, taken, hnext, hevents', hreports', hpending, hreplay'⟩ :=
        grown_of_step hgrown hstep
      refine ⟨next, hnext, ?_, ?_, hreplay'⟩
      · rw [hevents', hevents, List.cons_append]
      · rw [hreports, hpending, hreports', List.append_assoc]

/-- **`valid` accepts the lifecycles that have grown**, for a valid
profile. -/
theorem valid_iff : lifecycle.valid P L profile = true
    ↔ profile.valid P L = true ∧ Grown P L profile lifecycle := by
  constructor
  · intro h
    unfold valid at h
    split at h
    case h_1 => cases h
    case h_2 first rest hevents =>
      simp only [Bool.and_eq_true, decide_eq_true_eq] at h
      obtain ⟨⟨⟨⟨⟨⟨hprofile, hprofileId⟩, hgeneration⟩, hcurrent⟩, hlatest⟩,
        hfirst⟩, hreplay⟩ := h
      split at hreplay
      case h_1 => cases hreplay
      case h_2 replay hfold =>
        rw [Bool.and_eq_true, List.isEmpty_iff, decide_eq_true_eq] at hreplay
        obtain ⟨hpending, hstate⟩ := hreplay
        rw [hprofileId] at hfold
        obtain ⟨grown, hgrown, hevents', hreports, harrived⟩ :=
          grown_of_replay hfirst rest hfold
        refine ⟨hprofile, ?_⟩
        have hheaded := hgrown.headed
        have hsame : lifecycle = grown := by
          rw [hpending, List.append_nil] at hreports
          obtain ⟨rest', hrest', hcount⟩ := hheaded.events
          obtain ⟨last, hlast, hid, -⟩ := hheaded.current
          have hrest : rest' = rest := by
            rw [hevents', List.cons.injEq] at hrest'
            exact hrest'.2.symm
          rw [hrest] at hcount
          have hhead : lifecycle.currentEventId = grown.currentEventId := by
            rw [hcurrent, hid]
            rw [hevents', List.getLast?_eq_some_getLast (by simp)] at hlast
            rw [Option.mem_some_iff.mp hlast]
          have hstate' : replay.state = grown.state := by
            rw [harrived]
            rfl
          have hlatest' := hheaded.latest
          rw [← hreports, ← hlatest] at hlatest'
          cases lifecycle
          cases grown
          simp only [PolicyCalibrationLifecycle.mk.injEq]
          exact ⟨hprofileId.trans hheaded.profileId.symm,
            hstate.symm.trans hstate', hgeneration.trans hcount.symm, hhead,
            hlatest'.symm, hreports, hevents.trans hevents'.symm⟩
        rw [hsame]
        exact hgrown
  · intro ⟨hprofile, hgrown⟩
    have hheaded := hgrown.headed
    obtain ⟨rest, hevents, hgeneration⟩ := hheaded.events
    obtain ⟨last, hlast, hid, -⟩ := hheaded.current
    have hreplay := hgrown.replay []
    rw [List.append_nil, hevents, List.tail_cons] at hreplay
    unfold valid
    split
    case h_1 hnil =>
      rw [hevents] at hnil
      cases hnil
    case h_2 first others hothers =>
      rw [hevents] at hothers
      cases hothers
      rw [hheaded.profileId, hreplay]
      simp only [Bool.and_eq_true, decide_eq_true_eq]
      refine ⟨⟨⟨⟨⟨⟨hprofile, trivial⟩, hgeneration⟩, ?_⟩, hheaded.latest⟩,
        trivial⟩, rfl, rfl⟩
      rw [hevents, List.getLast?_eq_some_getLast (by simp)] at hlast
      rw [hid, Option.mem_some_iff.mp hlast]

end

end PolicyCalibrationLifecycle

end RbfSafe
