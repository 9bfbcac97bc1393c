/-
Which of the lifecycles that `valid` accepts the operations produce.

Every check of the replay is a guard of an operation, but not the other
way round: `assess` refuses a retired lifecycle, and the replay takes an
assessment there. A lifecycle whose assessments all come before it was
retired is produced again, call by call, from the registration; its
reports are made again and agree with those it keeps.
-/
import RbfSafe.Calibration.Proofs.Runs

namespace RbfSafe

open PolicyCalibrationLifecycle

-- === agreement

/-- Two lifecycles of the same events, whose reports agree. -/
structure Matches (lifecycle lifecycle' : PolicyCalibrationLifecycle) :
    Prop where
  profileId : lifecycle.profileId = lifecycle'.profileId
  state : lifecycle.state = lifecycle'.state
  generation : lifecycle.generation = lifecycle'.generation
  currentEventId : lifecycle.currentEventId = lifecycle'.currentEventId
  latestReportId : lifecycle.latestReportId = lifecycle'.latestReportId
  events : lifecycle.events = lifecycle'.events
  reports : List.Forall₂ (fun report report' => equalReport report report' = true)
    lifecycle.reports lifecycle'.reports

/-- What a report that is made again shares with the stored one. -/
theorem equalReport_fields {first second : PolicyCalibrationDriftReport}
    (h : equalReport first second = true) :
    first.id = second.id ∧ first.windowSequence = second.windowSequence
      ∧ first.status = second.status := by
  simp only [equalReport, Bool.and_eq_true, beq_iff_eq] at h
  obtain ⟨⟨⟨⟨⟨⟨⟨⟨⟨⟨⟨⟨⟨⟨⟨⟨⟨hid, -⟩, -⟩, hsequence⟩, -⟩, -⟩, hstatus⟩, -⟩, -⟩, -⟩,
    -⟩, -⟩, -⟩, -⟩, -⟩, -⟩, -⟩, -⟩ := h
  exact ⟨hid, hsequence, hstatus⟩

/-- What holds of pairs holds of the last. -/
theorem getLast?_map_of_forall₂ {α β γ : Type} {R : α → β → Prop}
    {f : α → γ} {g : β → γ} {as : List α} {bs : List β}
    (h : List.Forall₂ R as bs) (hfg : ∀ a b, R a b → f a = g b) :
    as.getLast?.map f = bs.getLast?.map g := by
  have hmap : as.map f = bs.map g := by
    induction h with
    | nil => rfl
    | cons hab _ ih => rw [List.map_cons, List.map_cons, hfg _ _ hab, ih]
  rw [← List.getLast?_map, ← List.getLast?_map, hmap]

/-- Only the status of the last report counts for a transition. -/
theorem transitionAllowed_congr {source target : PolicyCalibrationLifecycleState}
    {latest latest' : Option PolicyCalibrationDriftReport}
    (h : latest.map (·.status) = latest'.map (·.status)) :
    lifecycleTransitionAllowed source target latest
      = lifecycleTransitionAllowed source target latest' := by
  cases latest with
  | none =>
      rw [Option.map_none, eq_comm, Option.map_eq_none_iff] at h
      rw [h]
  | some report =>
      rw [Option.map_some, eq_comm, Option.map_eq_some_iff] at h
      obtain ⟨report', rfl, hstatus⟩ := h
      unfold lifecycleTransitionAllowed
      simp only [hstatus]

section
variable {P : Platform} {L : LongDouble}
  {lifecycle lifecycle' : PolicyCalibrationLifecycle}
  {profile : PolicyCalibrationProfile}

theorem Matches.assessmentEvent (h : Matches lifecycle lifecycle')
    {report report' : PolicyCalibrationDriftReport}
    (hequal : equalReport report report' = true) :
    lifecycle.assessmentEvent P report
      = lifecycle'.assessmentEvent P report' := by
  obtain ⟨hid, -, hstatus⟩ := equalReport_fields hequal
  unfold PolicyCalibrationLifecycle.assessmentEvent
  rw [h.profileId, h.currentEventId, h.generation, h.state, hid, hstatus]

theorem Matches.transitionEvent (h : Matches lifecycle lifecycle')
    (targetState : PolicyCalibrationLifecycleState) (detail : Bytes) :
    lifecycle.transitionEvent P targetState detail
      = lifecycle'.transitionEvent P targetState detail := by
  unfold PolicyCalibrationLifecycle.transitionEvent
  rw [h.profileId, h.currentEventId, h.generation, h.state]

theorem Matches.afterAssessment (h : Matches lifecycle lifecycle')
    {report report' : PolicyCalibrationDriftReport}
    (hequal : equalReport report report' = true) :
    Matches (lifecycle.afterAssessment P report)
      (lifecycle'.afterAssessment P report') := by
  obtain ⟨hid, -, hstatus⟩ := equalReport_fields hequal
  have hevent := h.assessmentEvent (P := P) hequal
  refine ⟨h.profileId, ?_, congrArg (· + 1) h.generation,
    congrArg (·.id) hevent, hid, ?_, ?_⟩
  · show stateAfterAssessment _ _ = stateAfterAssessment _ _
    rw [h.state, hstatus]
  · show lifecycle.events ++ [_] = lifecycle'.events ++ [_]
    rw [h.events, hevent]
  · exact List.rel_append h.reports (.cons hequal .nil)

theorem Matches.afterTransition (h : Matches lifecycle lifecycle')
    (targetState : PolicyCalibrationLifecycleState) (detail : Bytes) :
    Matches (lifecycle.afterTransition P targetState detail)
      (lifecycle'.afterTransition P targetState detail) := by
  have hevent := h.transitionEvent (P := P) targetState detail
  refine ⟨h.profileId, rfl, congrArg (· + 1) h.generation,
    congrArg (·.id) hevent, h.latestReportId, ?_, h.reports⟩
  show lifecycle.events ++ [_] = lifecycle'.events ++ [_]
  rw [h.events, hevent]

-- === regeneration

/-- Each of the calls succeeds. -/
def Succeed (P : Platform) (L : LongDouble) : List LifecycleCall →
    PolicyCalibrationLifecycle → Prop
  | [], _ => True
  | call :: calls, lifecycle =>
      (∃ outcome, (call.perform P L lifecycle).1 = .ok outcome)
        ∧ Succeed P L calls (call.perform P L lifecycle).2

/-- Successful calls from the registration produce the lifecycle, up to
the agreement of reports. -/
def Regenerable (P : Platform) (L : LongDouble)
    (profile : PolicyCalibrationProfile)
    (lifecycle : PolicyCalibrationLifecycle) : Prop :=
  ∃ initial calls, create P L profile = .ok initial
    ∧ Succeed P L calls initial
    ∧ Matches lifecycle (runLifecycle P L calls initial)

/-- No assessment comes after the retirement. -/
def AssessedInService (lifecycle : PolicyCalibrationLifecycle) : Prop :=
  ∀ event ∈ lifecycle.events, event.type = .driftAssessed →
    event.previousState ≠ .retired

/-- Nothing follows the retirement. -/
def StaysRetired (lifecycle : PolicyCalibrationLifecycle) : Prop :=
  ∀ event ∈ lifecycle.events.dropLast, event.currentState ≠ .retired

theorem succeed_snoc {calls : List LifecycleCall} {call : LifecycleCall} :
    Succeed P L (calls ++ [call]) lifecycle
      ↔ Succeed P L calls lifecycle
        ∧ ∃ outcome, (call.perform P L (runLifecycle P L calls lifecycle)).1
          = .ok outcome := by
  induction calls generalizing lifecycle with
  | nil =>
      show (_ ∧ True) ↔ (True ∧ _)
      rw [and_true, true_and]
      rfl
  | cons first calls ih =>
      show (_ ∧ Succeed P L (calls ++ [call]) _) ↔ ((_ ∧ _) ∧ _)
      rw [ih, and_assoc]
      rfl

/-- **The operations assess a lifecycle in service only.** -/
theorem assessedInService_run {calls : List LifecycleCall}
    (h : AssessedInService lifecycle) :
    AssessedInService (runLifecycle P L calls lifecycle) := by
  induction calls generalizing lifecycle with
  | nil => exact h
  | cons call calls ih =>
      apply ih
      show AssessedInService (call.perform P L lifecycle).2
      rcases perform_cases P L lifecycle call with
        ⟨e, he⟩ | ⟨outcome, after, hperformed, hok⟩
      · rw [he]
        exact h
      · rw [hok]
        intro event hevent htype
        cases hperformed with
        | assess hguards =>
            rcases List.mem_append.mp hevent with hold | hnew
            · exact h event hold htype
            · rw [List.mem_singleton.mp hnew]
              exact hguards.state
        | transition hguards =>
            rcases List.mem_append.mp hevent with hold | hnew
            · exact h event hold htype
            · rw [List.mem_singleton.mp hnew] at htype
              cases htype

theorem assessedInService_of_regenerable
    (h : Regenerable P L profile lifecycle) : AssessedInService lifecycle := by
  obtain ⟨initial, calls, hcreate, -, hmatches⟩ := h
  have hinitial : AssessedInService initial := by
    rw [create, ite_failure_eq_ok] at hcreate
    cases hcreate.2
    intro event hevent htype
    rw [List.mem_singleton.mp hevent] at htype
    cases htype
  have hrun : AssessedInService (runLifecycle P L calls initial) :=
    assessedInService_run hinitial
  rw [AssessedInService, ← hmatches.events] at hrun
  exact hrun

/-- A lifecycle keeps fewer reports than events. -/
theorem PolicyCalibrationLifecycle.Grown.reports_length (h : Grown P L profile lifecycle) :
    lifecycle.reports.length < lifecycle.events.length := by
  induction h with
  | registered => exact Nat.one_pos
  | assessed _ _ _ _ ih =>
      show (_ ++ [_]).length < (_ ++ [_]).length
      rw [List.length_append, List.length_append]
      exact Nat.add_lt_add_right ih 1
  | moved _ _ _ ih =>
      show _ < (_ ++ [_]).length
      rw [List.length_append]
      exact Nat.lt_succ_of_lt ih

/-- The generation counts the events after the first. -/
theorem PolicyCalibrationLifecycle.Grown.generation_toNat (h : Grown P L profile lifecycle)
    (hlength : lifecycle.events.length < 2 ^ 64) :
    lifecycle.generation.toNat + 1 = lifecycle.events.length := by
  obtain ⟨rest, hevents, hgeneration⟩ := h.headed.events
  rw [hevents, List.length_cons] at hlength ⊢
  rw [hgeneration, UInt64.toNat_ofNat_of_lt' (by
    show rest.length < 2 ^ 64
    omega)]

/-- The reports of lifecycles that match end alike. -/
theorem Matches.latest {γ : Type} {f : PolicyCalibrationDriftReport → γ}
    (h : Matches lifecycle lifecycle')
    (hf : ∀ report report', equalReport report report' = true →
      f report = f report') :
    lifecycle.reports.getLast?.map f = lifecycle'.reports.getLast?.map f :=
  getLast?_map_of_forall₂ h.reports hf

/-- A call that makes an assessment again. -/
theorem assess_again {report rebuilt : PolicyCalibrationDriftReport}
    (hprofile : profile.valid P L = true)
    (hgrown' : Grown P L profile lifecycle')
    (hmatches : Matches lifecycle lifecycle')
    (hlength : lifecycle'.events.length + 1 < 2 ^ 64)
    (hfollows : lifecycle.Follows report.windowSequence)
    (hassess : assessPolicyCalibrationDrift P L profile (windowInput report)
      report.options = .ok rebuilt)
    (hstate : lifecycle.state ≠ .retired) :
    (LifecycleCall.assess profile (windowInput report)
        lifecycle'.currentEventId report.options (UInt64.ofNat (2 ^ 64 - 1))
        (UInt64.ofNat (2 ^ 64 - 1))).perform P L lifecycle'
      = (.ok (.report rebuilt), lifecycle'.afterAssessment P rebuilt) := by
  have hmaximum : (UInt64.ofNat (2 ^ 64 - 1)).toNat = 2 ^ 64 - 1 := rfl
  have hreports := hgrown'.reports_length
  have hgeneration := hgrown'.generation_toNat (by omega)
  have hsequence : lifecycle'.Follows (windowInput report).sequence := by
    intro latest' hlatest'
    have hlast := hmatches.latest (f := (·.windowSequence))
      fun _ _ hequal => (equalReport_fields hequal).2.1
    rw [Option.mem_def.mp hlatest', Option.map_some, Option.map_eq_some_iff]
      at hlast
    obtain ⟨latest, hlatest, hsame⟩ := hlast
    rw [← hsame]
    exact hfollows latest hlatest
  have hguards : Assessable P L lifecycle' profile (windowInput report)
      lifecycle'.currentEventId report.options (UInt64.ofNat (2 ^ 64 - 1))
      (UInt64.ofNat (2 ^ 64 - 1)) rebuilt := by
    refine ⟨valid_iff.mpr ⟨hprofile, hgrown'⟩, by decide, by decide, rfl, ?_,
      ?_, ?_, ?_, hsequence, hassess⟩
    · rw [← hmatches.state]
      exact hstate
    · rw [hmaximum]
      omega
    · rw [hmaximum]
      omega
    · omega
  rw [LifecycleCall.perform, assess_of_assessable hguards]
  rfl

/-- A call that makes a transition again. -/
theorem transition_again {targetState : PolicyCalibrationLifecycleState}
    {detail : Bytes} (hprofile : profile.valid P L = true)
    (hgrown' : Grown P L profile lifecycle')
    (hmatches : Matches lifecycle lifecycle')
    (hlength : lifecycle'.events.length + 1 < 2 ^ 64)
    (hdetail : validText detail kMaximumLifecycleDetailBytes = true)
    (hallowed : lifecycleTransitionAllowed lifecycle.state targetState
      lifecycle.reports.getLast? = true) :
    (LifecycleCall.transition profile lifecycle'.currentEventId targetState
        detail (UInt64.ofNat (2 ^ 64 - 1))).perform P L lifecycle'
      = (.ok (.event (lifecycle'.transitionEvent P targetState detail)),
        lifecycle'.afterTransition P targetState detail) := by
  have hmaximum : (UInt64.ofNat (2 ^ 64 - 1)).toNat = 2 ^ 64 - 1 := rfl
  have hgeneration := hgrown'.generation_toNat (by omega)
  have hlast := hmatches.latest (f := (·.status))
    fun _ _ hequal => (equalReport_fields hequal).2.2
  have hguards : Transitionable P L lifecycle' profile
      lifecycle'.currentEventId targetState detail
      (UInt64.ofNat (2 ^ 64 - 1)) := by
    refine ⟨valid_iff.mpr ⟨hprofile, hgrown'⟩, by decide, hdetail, rfl, ?_, ?_,
      ?_⟩
    · rw [hmaximum]
      omega
    · omega
    · rw [← hmatches.state, ← transitionAllowed_congr hlast]
      exact hallowed
  rw [LifecycleCall.perform, transition_of_transitionable hguards]
  rfl

/-- **What was assessed in service is produced again.** -/
theorem PolicyCalibrationLifecycle.Grown.regenerable {input : PolicyCalibrationProfileInput}
    (hcreated : createProfile P L input = .ok profile)
    (hprofile : profile.valid P L = true) (h : Grown P L profile lifecycle)
    (hlength : lifecycle.events.length < 2 ^ 64)
    (hservice : AssessedInService lifecycle) :
    ∃ calls, Succeed P L calls (registeredLifecycle P profile.id)
      ∧ Grown P L profile
        (runLifecycle P L calls (registeredLifecycle P profile.id))
      ∧ Matches lifecycle
        (runLifecycle P L calls (registeredLifecycle P profile.id)) := by
  have hrun : ∀ calls call, runLifecycle P L (calls ++ [call])
      (registeredLifecycle P profile.id) = (call.perform P L
        (runLifecycle P L calls (registeredLifecycle P profile.id))).2 := by
    intro calls call
    rw [runLifecycle, List.foldl_append]
    rfl
  induction h with
  | registered =>
      exact ⟨[], trivial, .registered, rfl, rfl, rfl, rfl, rfl, rfl, .nil⟩
  | @assessed lifecycle report rebuilt hgrown hfollows hassess hequal ih =>
      have hevents : (lifecycle.afterAssessment P report).events
          = lifecycle.events ++ [lifecycle.assessmentEvent P report] := rfl
      rw [AssessedInService, hevents] at hservice
      rw [hevents, List.length_append, List.length_singleton] at hlength
      obtain ⟨calls, hcalls, hgrown', hmatches⟩ := ih (by omega)
        fun event hevent => hservice event (List.mem_append_left _ hevent)
      have hstate : lifecycle.state ≠ .retired :=
        hservice (lifecycle.assessmentEvent P report)
          (List.mem_append_right _ (List.mem_singleton_self _)) rfl
      have hagain := assess_again hprofile hgrown' hmatches
        (by rw [← hmatches.events]; exact hlength) hfollows hassess hstate
      have hnext := (performed_of_ok (congrArg Prod.fst hagain)).grown
        (soundProfile_of_create hcreated)
      refine ⟨calls ++ [_], succeed_snoc.mpr ⟨hcalls, _,
        congrArg Prod.fst hagain⟩, ?_, ?_⟩
      · rw [hrun]
        exact hnext
      · rw [hrun, hagain]
        exact hmatches.afterAssessment hequal
  | @moved lifecycle targetState detail hgrown hdetail hallowed ih =>
      have hevents : (lifecycle.afterTransition P targetState detail).events
          = lifecycle.events
            ++ [lifecycle.transitionEvent P targetState detail] := rfl
      rw [AssessedInService, hevents] at hservice
      rw [hevents, List.length_append, List.length_singleton] at hlength
      obtain ⟨calls, hcalls, hgrown', hmatches⟩ := ih (by omega)
        fun event hevent => hservice event (List.mem_append_left _ hevent)
      have hagain := transition_again hprofile hgrown' hmatches
        (by rw [← hmatches.events]; exact hlength) hdetail hallowed
      have hnext := (performed_of_ok (congrArg Prod.fst hagain)).grown
        (soundProfile_of_create hcreated)
      refine ⟨calls ++ [_], succeed_snoc.mpr ⟨hcalls, _,
        congrArg Prod.fst hagain⟩, ?_, ?_⟩
      · rw [hrun]
        exact hnext
      · rw [hrun, hagain]
        exact hmatches.afterTransition targetState detail

/-- A retired lifecycle that is not assessed keeps its last event. -/
theorem PolicyCalibrationLifecycle.Grown.staysRetired (h : Grown P L profile lifecycle)
    (hservice : AssessedInService lifecycle) : StaysRetired lifecycle := by
  -- the state before an event is that of the event before it
  have hextend : ∀ {lifecycle : PolicyCalibrationLifecycle}
      {event : PolicyCalibrationLifecycleEvent},
      Headed P profile lifecycle → StaysRetired lifecycle →
      lifecycle.state ≠ .retired →
      ∀ earlier ∈ (lifecycle.events ++ [event]).dropLast,
        earlier.currentState ≠ .retired := by
    intro lifecycle event hheaded hstays hstate earlier hearlier
    rw [List.dropLast_concat] at hearlier
    obtain ⟨last, hlast, -, hcurrent⟩ := hheaded.current
    obtain ⟨front, hfront⟩ := List.getLast?_eq_some_iff.mp hlast
    rw [StaysRetired, hfront, List.dropLast_concat] at hstays
    rw [hfront] at hearlier
    rcases List.mem_append.mp hearlier with hold | hnew
    · exact hstays earlier hold
    · rw [List.mem_singleton.mp hnew, ← hcurrent]
      exact hstate
  induction h with
  | registered => exact fun event hevent => absurd hevent (List.not_mem_nil)
  | @assessed lifecycle report _ hgrown _ _ _ ih =>
      have hevents : (lifecycle.afterAssessment P report).events
          = lifecycle.events ++ [lifecycle.assessmentEvent P report] := rfl
      rw [AssessedInService, hevents] at hservice
      apply hextend hgrown.headed
      · exact ih fun event hevent =>
          hservice event (List.mem_append_left _ hevent)
      · exact hservice (lifecycle.assessmentEvent P report)
          (List.mem_append_right _ (List.mem_singleton_self _)) rfl
  | @moved lifecycle targetState detail hgrown _ hallowed ih =>
      have hevents : (lifecycle.afterTransition P targetState detail).events
          = lifecycle.events
            ++ [lifecycle.transitionEvent P targetState detail] := rfl
      rw [AssessedInService, hevents] at hservice
      apply hextend hgrown.headed
      · exact ih fun event hevent =>
          hservice event (List.mem_append_left _ hevent)
      · intro hretired
        rw [hretired] at hallowed
        simp [lifecycleTransitionAllowed] at hallowed

end

/-- **Which valid lifecycles the operations produce**: those that were
assessed in service only. Nothing follows their retirement. -/
theorem regenerable_iff {P : Platform} {L : LongDouble}
    {input : PolicyCalibrationProfileInput} {profile : PolicyCalibrationProfile}
    (hcreated : createProfile P L input = .ok profile)
    {lifecycle : PolicyCalibrationLifecycle}
    (hvalid : lifecycle.valid P L profile = true)
    (hlength : lifecycle.events.length < 2 ^ 64) :
    Regenerable P L profile lifecycle ∧ StaysRetired lifecycle
      ↔ AssessedInService lifecycle := by
  obtain ⟨hprofile, hgrown⟩ := valid_iff.mp hvalid
  constructor
  · exact fun h => assessedInService_of_regenerable h.1
  · intro hservice
    obtain ⟨calls, hcalls, -, hmatches⟩ :=
      hgrown.regenerable hcreated hprofile hlength hservice
    refine ⟨⟨registeredLifecycle P profile.id, calls, ?_, hcalls, hmatches⟩,
      hgrown.staysRetired hservice⟩
    rw [create, hprofile]
    rfl

/-- Options that a window of ten outcomes satisfies. -/
def sampleOptions : PolicyCalibrationDriftOptions where
  minimumTotalSamples := 1
  minimumBinSamples := 1

/-- The report on the window of the sample. -/
def sampleReport : PolicyCalibrationDriftReport :=
  driftReport calibrationHost .x87 sampleProfile sampleWindow sampleOptions
    { samples := 10, successes := 5 }

theorem assess_sample : assessPolicyCalibrationDrift calibrationHost .x87
    sampleProfile sampleWindow sampleOptions = .ok sampleReport := by
  have hinput : ¬(!sampleProfile.valid calibrationHost .x87
      || !validIdentifier sampleWindow.windowId
      || !validSha256 sampleWindow.sourceDigest
      || sampleWindow.bins.length != sampleProfile.bins.length
      || !validDriftOptions sampleOptions) = true := by
    rw [sampleProfile_valid]
    decide +kernel
  rw [assessPolicyCalibrationDrift, if_neg hinput]
  rfl

/-- An assessment at any time before the second window is taken. -/
theorem sample_assessed {lifecycle : PolicyCalibrationLifecycle}
    (h : Grown calibrationHost .x87 sampleProfile lifecycle)
    (hfirst : lifecycle.reports = []) :
    Grown calibrationHost .x87 sampleProfile
      (lifecycle.afterAssessment calibrationHost sampleReport) := by
  obtain ⟨hwindow, hoptions⟩ := windowInput_of_assess assess_sample
  apply Grown.assessed h
  · intro latest hlatest
    rw [hfirst] at hlatest
    cases hlatest
  · rw [hwindow, hoptions]
    exact assess_sample
  · exact equalReport_of_assess
      (soundProfile_of_create createProfile_sample) assess_sample

/-- The sample, assessed in service. -/
def assessedLifecycle : PolicyCalibrationLifecycle :=
  (registeredLifecycle calibrationHost sampleProfile.id).afterAssessment
    calibrationHost sampleReport

theorem regenerable_iff_assessed :
    Regenerable calibrationHost .x87 sampleProfile assessedLifecycle
      ∧ StaysRetired assessedLifecycle := by
  have hvalid : assessedLifecycle.valid calibrationHost .x87 sampleProfile
      = true :=
    valid_iff.mpr ⟨sampleProfile_valid, sample_assessed .registered rfl⟩
  apply (regenerable_iff createProfile_sample hvalid (by decide)).mpr
  intro event hevent _
  have hevents : assessedLifecycle.events
      = [registrationEvent calibrationHost sampleProfile.id,
        (registeredLifecycle calibrationHost sampleProfile.id).assessmentEvent
          calibrationHost sampleReport] := rfl
  rw [hevents, List.mem_cons, List.mem_singleton] at hevent
  rcases hevent with rfl | rfl
  · exact fun h => by cases h
  · exact fun h => by cases h

/-- The sample, retired and then assessed. -/
def assessedAfterRetirement : PolicyCalibrationLifecycle :=
  ((registeredLifecycle calibrationHost sampleProfile.id).afterTransition
    calibrationHost .retired (ascii "worn out")).afterAssessment
      calibrationHost sampleReport

/-- `valid` accepts an assessment after the retirement. -/
theorem valid_assessedAfterRetirement :
    assessedAfterRetirement.valid calibrationHost .x87 sampleProfile = true
      ∧ assessedAfterRetirement.events.length < 2 ^ 64
      ∧ ¬Regenerable calibrationHost .x87 sampleProfile assessedAfterRetirement
      ∧ ¬StaysRetired assessedAfterRetirement := by
  have hevents : assessedAfterRetirement.events
      = [registrationEvent calibrationHost sampleProfile.id,
        (registeredLifecycle calibrationHost sampleProfile.id).transitionEvent
          calibrationHost .retired (ascii "worn out"),
        ((registeredLifecycle calibrationHost sampleProfile.id).afterTransition
          calibrationHost .retired (ascii "worn out")).assessmentEvent
            calibrationHost sampleReport] := rfl
  refine ⟨?_, by rw [hevents]; decide, ?_, ?_⟩
  · apply valid_iff.mpr
    refine ⟨sampleProfile_valid, sample_assessed ?_ rfl⟩
    exact .moved .registered (by decide) rfl
  · intro h
    apply assessedInService_of_regenerable h
    · rw [hevents]
      exact List.mem_cons_of_mem _
        (List.mem_cons_of_mem _ (List.mem_singleton_self _))
    · rfl
    · rfl
  · intro h
    rw [StaysRetired, hevents] at h
    exact h _ (List.mem_cons_of_mem _ (List.mem_singleton_self _)) rfl

end RbfSafe
