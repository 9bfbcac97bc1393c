/-
What creating a bounded session establishes, and what it leaves to the
request.

`BoundedExecutionSession::create` replays the certification, the
signatures and the freshness, but not the schedule: a request that did
not come from `ExecutionSessionRequest::create` may pace its commands
slower than the reviewed control period, end them after the session, or
name another robot than the profile, and the session is created all the
same. Everything else the request was checked for is established again
(`session_within_profile_iff`).
-/
import RbfSafe.Execution.Proofs.Approvals

namespace RbfSafe

section
variable {P : Platform} {request : ExecutionSessionRequest}
  {commandSequence : ExecutionCommandSequence}
  {approvalSet : ExecutionSessionApprovalSet}
  {controllerAcknowledgement : ExecutionControllerAcknowledgement}
  {monitorAcknowledgement : ExecutionMonitorAcknowledgement}
  {reviewed : ReviewedDeploymentProfile} {trustBundle : ServiceTrustBundle}
  {atlas : SafeAtlas} {session : BoundedExecutionSession}

-- === the reviewed profile

/-- What a reviewed profile allows a session. -/
structure WithinReviewedProfile (P : Platform)
    (reviewed : ReviewedDeploymentProfile) (session : BoundedExecutionSession) :
    Prop where
  periods : ∀ (i : Nat) (previous command : ExecutionCommand),
    session.commandSequence.commands[i]? = some previous →
    session.commandSequence.commands[i + 1]? = some command →
    command.scheduledOffsetNs.toNat ≤ previous.scheduledOffsetNs.toNat
      + reviewed.profile.runtimeConstraints.maximumControlPeriodNs.toNat
  lastOffset : ∀ command : ExecutionCommand,
    session.commandSequence.commands.getLast? = some command →
    command.scheduledOffsetNs.toNat
      ≤ session.request.limits.maximumDurationNs.toNat
  limits : session.request.limits.maximumStartDelayNs.toNat
      ≤ reviewed.profile.runtimeConstraints.maximumObservationAgeNs.toNat
    ∧ session.request.limits.maximumDurationNs.toNat
      ≤ reviewed.profile.runtimeConstraints.maximumObservationAgeNs.toNat
  window : session.validThroughMonotonicNs.toNat
      + session.monitorAcknowledgement.observation.runtime.observationAgeNs.toNat
    ≤ session.validFromMonotonicNs.toNat
      + reviewed.profile.runtimeConstraints.maximumObservationAgeNs.toNat
  requested : ∃ input, ExecutionSessionRequest.create P reviewed
    session.commandSequence input = .ok session.request

/-- A command sequence for the robot of the profile, paced by its control
period, that ends within the session. -/
def FitsReviewedProfile (reviewed : ReviewedDeploymentProfile)
    (request : ExecutionSessionRequest)
    (commandSequence : ExecutionCommandSequence) : Prop :=
  commandSequence.robotDigest = reviewed.profile.robotDigest
    ∧ withinControlPeriod
        reviewed.profile.runtimeConstraints.maximumControlPeriodNs
        commandSequence.commands = true
    ∧ lastOffsetNs commandSequence.commands ≤ request.limits.maximumDurationNs

namespace CreatedSession

variable (h : CreatedSession P request commandSequence approvalSet reviewed
  trustBundle session)
include h

theorem duration_le : request.limits.maximumDurationNs.toNat
    ≤ reviewed.profile.runtimeConstraints.maximumObservationAgeNs.toNat :=
  Nat.le_trans (Nat.le_add_left _ _) h.fresh

/-- The request of a session, made again of its own fields. -/
theorem requested_iff :
    (∃ input, ExecutionSessionRequest.create P reviewed commandSequence input
      = .ok request) ↔ FitsReviewedProfile reviewed request commandSequence := by
  obtain ⟨hschema, hnonce, hcontroller, hmonitor, hrole, hrole', hservice, hkey,
    hlimits, hcount, hid⟩ := request_valid h.requestValid
  have hdelay := Nat.le_trans (startDelay_le h.requestValid) h.duration_le
  have hduration := h.duration_le
  constructor
  · intro hcreated
    obtain ⟨input, hcreated⟩ := hcreated
    unfold ExecutionSessionRequest.create at hcreated
    rw [ite_failure_eq_ok] at hcreated
    obtain ⟨hinput, hcreated⟩ := hcreated
    rw [ite_failure_eq_ok, Bool.not_eq_false] at hcreated
    obtain ⟨hperiod, hcreated⟩ := hcreated
    rw [ite_failure_eq_ok, UInt64.not_lt] at hcreated
    obtain ⟨hlast, hcreated⟩ := hcreated
    cases hcreated
    simp only [Bool.or_eq_true, not_or, bne_iff_ne, not_not] at hinput
    exact ⟨hinput.1.1.2, hperiod, hlast⟩
  · intro hfits
    obtain ⟨hrobot, hperiod, hlast⟩ := hfits
    refine ⟨{ sessionNonce := request.sessionNonce
              controller := request.controller
              runtimeMonitor := request.runtimeMonitor
              limits := request.limits }, ?_⟩
    unfold ExecutionSessionRequest.create
    rw [if_neg, if_neg, if_neg]
    · rw [Except.ok.injEq, ← h.profileId, ← h.approvalSetId, ← h.trustRootBundleId,
        ← h.trustCheckpointId, ← h.trustBundleId, ← h.trustBundleSequence,
        ← h.sequenceId, ← h.atlasId, ← h.robotDigest, ← h.sceneDigest, ← h.count]
      obtain ⟨schema, id, nonce, profileId, setId, rootId, checkpointId, bundleId,
        sequence, sequenceId, atlasId, robot, scene, count, controller, monitor,
        limits⟩ := request
      cases hschema
      rw [ExecutionSessionRequest.mk.injEq]
      exact ⟨rfl, hid.symm, rfl, rfl, rfl, rfl, rfl, rfl, rfl, rfl, rfl, rfl, rfl,
        rfl, rfl, rfl, rfl⟩
    · rw [UInt64.not_lt]
      exact hlast
    · rw [Bool.not_eq_false]
      exact hperiod
    · rw [← UInt64.le_iff_toNat_le] at hdelay hduration
      rw [h.count] at hcount
      simp only [h.reviewedValid, h.sequenceValid, hnonce, hcontroller, hmonitor,
        hlimits, Bool.not_true, Bool.false_or, Bool.or_eq_true, bne_iff_ne,
        beq_iff_eq, decide_eq_true_eq, not_or, not_not, Bool.or_false, and_assoc,
        UInt64.not_lt, not_lt]
      exact ⟨hrole, hrole', hservice, hkey, hcount, hrobot, hdelay, hduration⟩

end CreatedSession

/-- **A session keeps to its reviewed profile exactly if its command
sequence fits the profile**: nothing that creates the session looks at
the robot of the profile, its control period or the last offset. -/
theorem session_within_profile_iff
    (h : BoundedExecutionSession.create P request commandSequence approvalSet
      controllerAcknowledgement monitorAcknowledgement reviewed trustBundle atlas
      = .ok session) :
    WithinReviewedProfile P reviewed session
      ↔ FitsReviewedProfile reviewed request commandSequence := by
  have hcreated := created_of_create h
  have hrequested := hcreated.requested_iff
  constructor
  · intro hwithin
    rw [← hrequested, ← hcreated.request_eq, ← hcreated.commandSequence_eq]
    exact hwithin.requested
  · intro hfits
    have hincreasing : ∀ {i : Nat} {a b : ExecutionCommand},
        commandSequence.commands[i]? = some a →
        commandSequence.commands[i + 1]? = some b →
        a.scheduledOffsetNs < b.scheduledOffsetNs := by
      have hvalid := hcreated.sequenceValid
      unfold ExecutionCommandSequence.valid at hvalid
      simp only [Bool.and_eq_true] at hvalid
      intro i a b ha hb
      exact increasing_of_commandsValid hvalid.1.2 ha hb
    refine ⟨?_, ?_, ?_, ?_, ?_⟩
    · rw [hcreated.commandSequence_eq]
      exact (withinControlPeriod_iff hincreasing).mp hfits.2.1
    · intro command hlast
      rw [hcreated.commandSequence_eq] at hlast
      have hoffset := hfits.2.2
      rw [lastOffsetNs, hlast, UInt64.le_iff_toNat_le] at hoffset
      rw [hcreated.request_eq]
      exact hoffset
    · rw [hcreated.request_eq]
      exact ⟨Nat.le_trans (startDelay_le hcreated.requestValid)
        hcreated.duration_le, hcreated.duration_le⟩
    · have hfresh := hcreated.fresh
      have hthrough := hcreated.validThrough
      omega
    · rw [hcreated.request_eq, hcreated.commandSequence_eq]
      exact hrequested.mpr hfits

end

/-- Commands a nanosecond apart fit. -/
theorem fits_reviewCommands {P : Platform} {state : ServiceKeyState} :
    FitsReviewedProfile (reviewOf P state) (reviewRequest P state 1)
      (reviewCommands P 1) := by
  refine ⟨rfl, ?_, ?_⟩
  · show (decide ((1 : UInt64) - 0 ≤ 100000000) && true) = true
    decide
  · show (1 : UInt64) ≤ 100000000
    decide

theorem session_within_profile_iff_active :
    WithinReviewedProfile (host fun _ _ _ => true)
      (reviewOf (host fun _ _ _ => true) .active)
      (reviewSession (host fun _ _ _ => true) .active 1) := by
  have hcreated := @create_reviewSession (host fun _ _ _ => true) .active 1
    endpoints_differ (Or.inl rfl)
    (fun _ _ _ => rfl) (by decide)
  exact (session_within_profile_iff hcreated).mpr fits_reviewCommands

/-- Commands 200 ms apart outrun both the control period and the session,
each of 100 ms. -/
theorem not_within_review {P : Platform} {state : ServiceKeyState} :
    ¬WithinReviewedProfile P (reviewOf P state)
      (reviewSession P state 200000000) := by
  intro h
  have hperiod : (200000000 : UInt64).toNat ≤ (0 : UInt64).toNat
      + (100000000 : UInt64).toNat :=
    h.periods 0 _ _ rfl rfl
  exact absurd hperiod (by decide)

/-- Such a session is created, from a reviewed profile. -/
theorem slow_session_created :
    ReviewedDeploymentProfile.create (host fun _ _ _ => true)
        (reviewProfile (host fun _ _ _ => true) .active)
        (reviewApprovalSet (host fun _ _ _ => true) .active)
        (reviewHistory (host fun _ _ _ => true) .active)
        (reviewCheckpoint (host fun _ _ _ => true) .active)
        (reviewCheckpoint (host fun _ _ _ => true) .active).id
      = .ok (reviewOf (host fun _ _ _ => true) .active)
    ∧ BoundedExecutionSession.create (host fun _ _ _ => true)
        (reviewRequest (host fun _ _ _ => true) .active 200000000)
        (reviewCommands (host fun _ _ _ => true) 200000000)
        (reviewSessionApprovalSet (host fun _ _ _ => true) .active 200000000)
        (reviewControllerAcknowledgement (host fun _ _ _ => true) .active 200000000)
        (reviewMonitorAcknowledgement (host fun _ _ _ => true) .active 200000000)
        (reviewOf (host fun _ _ _ => true) .active)
        (reviewBundle (host fun _ _ _ => true) .active) reviewAtlas
      = .ok (reviewSession (host fun _ _ _ => true) .active 200000000)
    ∧ ¬WithinReviewedProfile (host fun _ _ _ => true)
        (reviewOf (host fun _ _ _ => true) .active)
        (reviewSession (host fun _ _ _ => true) .active 200000000) :=
  ⟨create_review (Or.inl rfl) fun _ _ _ => rfl,
    create_reviewSession endpoints_differ (Or.inl rfl) (fun _ _ _ => rfl)
      (by decide), not_within_review⟩

end RbfSafe
