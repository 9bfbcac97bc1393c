/-
What holds of a session once `BoundedExecutionSession::create` returned it.
-/
import RbfSafe.Execution.Review

namespace RbfSafe

-- === the schedule

/-- The offsets of a valid sequence increase. -/
theorem increasing_of_commandsValid {dimension : Nat} :
    ∀ {commands : List ExecutionCommand} {index : Nat}
    {previous : Option ExecutionCommand},
    commandsValid dimension index previous commands = true →
    ∀ {i : Nat} {a b : ExecutionCommand}, commands[i]? = some a →
    commands[i + 1]? = some b → a.scheduledOffsetNs < b.scheduledOffsetNs := by
  intro commands
  induction commands with
  | nil =>
      intro index previous _ i a b ha
      cases ha
  | cons first rest ih =>
      intro index previous h i a b ha hb
      unfold commandsValid at h
      rw [Bool.and_eq_true] at h
      cases i with
      | succ i => exact ih h.2 ha hb
      | zero =>
          cases rest with
          | nil => cases hb
          | cons second rest =>
              cases ha
              cases hb
              have hnext := h.2
              unfold commandsValid at hnext
              simp only [Bool.and_eq_true, decide_eq_true_eq] at hnext
              exact hnext.1.2

/-- What the loop of the request asks, without the subtraction. -/
theorem withinControlPeriod_iff {period : UInt64} :
    ∀ {commands : List ExecutionCommand},
    (∀ {i : Nat} {a b : ExecutionCommand}, commands[i]? = some a →
      commands[i + 1]? = some b → a.scheduledOffsetNs < b.scheduledOffsetNs) →
    (withinControlPeriod period commands = true ↔
      ∀ (i : Nat) (a b : ExecutionCommand), commands[i]? = some a →
        commands[i + 1]? = some b →
        b.scheduledOffsetNs.toNat ≤ a.scheduledOffsetNs.toNat + period.toNat) := by
  intro commands
  induction commands with
  | nil =>
      intro _
      simp [withinControlPeriod]
  | cons first rest ih =>
      intro hincreasing
      cases rest with
      | nil =>
          simp [withinControlPeriod]
      | cons second rest =>
          have hlt : first.scheduledOffsetNs < second.scheduledOffsetNs :=
            hincreasing (i := 0) rfl rfl
          have hsub : (second.scheduledOffsetNs - first.scheduledOffsetNs).toNat
              = second.scheduledOffsetNs.toNat - first.scheduledOffsetNs.toNat :=
            UInt64.toNat_sub_of_le _ _ (UInt64.le_of_lt hlt)
          have hrest := ih fun {i a b} ha hb => hincreasing (i := i + 1) ha hb
          rw [UInt64.lt_iff_toNat_lt] at hlt
          rw [withinControlPeriod, Bool.and_eq_true, decide_eq_true_eq,
            UInt64.le_iff_toNat_le, hsub, hrest]
          constructor
          · intro h i a b ha hb
            cases i with
            | succ i => exact h.2 i a b ha hb
            | zero =>
                cases ha
                cases hb
                omega
          · intro h
            have hfirst := h 0 first second rfl rfl
            refine ⟨by omega, fun i a b ha hb => h (i + 1) a b ha hb⟩

theorem checkedAdd_eq_some {first second sum : UInt64}
    (h : checkedAdd first second = some sum) :
    sum.toNat = first.toNat + second.toNat := by
  unfold checkedAdd at h
  by_cases hover : second > 0xffffffffffffffff - first
  · rw [if_pos hover] at h
    cases h
  · rw [if_neg hover] at h
    cases h
    have hbound : (0xffffffffffffffff - first).toNat
        = 0xffffffffffffffff - first.toNat :=
      UInt64.toNat_sub_of_le _ _ (by
        rw [UInt64.le_iff_toNat_le]
        exact Nat.le_of_lt_succ first.toNat_lt)
    have hlt := first.toNat_lt
    rw [gt_iff_lt, UInt64.lt_iff_toNat_lt, hbound, not_lt] at hover
    rw [UInt64.toNat_add, Nat.mod_eq_of_lt]
    omega

-- === created sessions

/-- What holds once a session is created. -/
structure CreatedSession (P : Platform) (request : ExecutionSessionRequest)
    (commandSequence : ExecutionCommandSequence)
    (approvalSet : ExecutionSessionApprovalSet)
    (reviewed : ReviewedDeploymentProfile) (trustBundle : ServiceTrustBundle)
    (session : BoundedExecutionSession) : Prop where
  request_eq : session.request = request
  commandSequence_eq : session.commandSequence = commandSequence
  approvalSet_eq : session.approvalSet = approvalSet
  requestValid : request.valid P = true
  sequenceValid : commandSequence.valid P = true
  reviewedValid : reviewed.valid P = true
  sequenceId : request.commandSequenceId = commandSequence.id
  count : request.commandCount = commandSequence.commands.length
  atlasId : request.atlasId = commandSequence.atlasId
  robotDigest : request.robotDigest = commandSequence.robotDigest
  sceneDigest : request.sceneDigest = commandSequence.sceneDigest
  profileId : request.reviewedProfileId = reviewed.profile.id
  approvalSetId : request.reviewedProfileApprovalSetId = reviewed.approvalSet.id
  trustRootBundleId :
    request.trustRootBundleId = reviewed.profile.trustRootBundleId
  trustCheckpointId :
    request.trustCheckpointId = reviewed.profile.trustCheckpointId
  trustBundleId : request.trustBundleId = reviewed.profile.trustBundleId
  trustBundleSequence :
    request.trustBundleSequence = reviewed.profile.trustBundleSequence
  approved : verifyExecutionSessionApprovals P request reviewed approvalSet
    trustBundle = .ok ()
  fresh : session.monitorAcknowledgement.observation.runtime.observationAgeNs.toNat
      + request.limits.maximumDurationNs.toNat
    ≤ reviewed.profile.runtimeConstraints.maximumObservationAgeNs.toNat
  validThrough : session.validThroughMonotonicNs.toNat
    = session.validFromMonotonicNs.toNat + request.limits.maximumDurationNs.toNat
  sessionValid : session.valid P = true

section
variable {P : Platform} {request : ExecutionSessionRequest}
  {commandSequence : ExecutionCommandSequence}
  {approvalSet : ExecutionSessionApprovalSet}
  {controllerAcknowledgement : ExecutionControllerAcknowledgement}
  {monitorAcknowledgement : ExecutionMonitorAcknowledgement}
  {reviewed : ReviewedDeploymentProfile} {trustBundle : ServiceTrustBundle}
  {atlas : SafeAtlas} {session : BoundedExecutionSession}

/-- Every check of `create`, from a session it returned. -/
theorem created_of_create
    (h : BoundedExecutionSession.create P request commandSequence approvalSet
      controllerAcknowledgement monitorAcknowledgement reviewed trustBundle atlas
      = .ok session) :
    CreatedSession P request commandSequence approvalSet reviewed trustBundle
      session := by
  unfold BoundedExecutionSession.create at h
  rw [ite_failure_eq_ok] at h
  obtain ⟨hvalid, h⟩ := h
  rw [ite_failure_eq_ok] at h
  obtain ⟨hbound, h⟩ := h
  simp only [check_eq_ok] at h
  obtain ⟨-, happroved, -, -, h⟩ := h
  rw [ite_failure_eq_ok] at h
  obtain ⟨-, h⟩ := h
  rw [bind_eq_ok] at h
  obtain ⟨assessment, -, h⟩ := h
  rw [ite_failure_eq_ok] at h
  obtain ⟨-, h⟩ := h
  rw [ite_failure_eq_ok] at h
  obtain ⟨hfresh, h⟩ := h
  simp only [Bool.or_eq_true, Bool.not_eq_true', not_or, Bool.not_eq_false]
    at hvalid
  obtain ⟨⟨⟨⟨⟨⟨hrequest, hsequence⟩, -⟩, -⟩, -⟩, hreviewed⟩, -⟩ := hvalid
  simp only [not_or, not_not] at hbound
  obtain ⟨hid, hcount, hatlas, hrobot, hscene, hprofile, hset, hroot, hcheckpoint,
    hbundle, hsequenceNumber⟩ := hbound
  rw [not_or, gt_iff_lt, gt_iff_lt, UInt64.lt_iff_toNat_lt, UInt64.lt_iff_toNat_lt,
    not_lt, not_lt] at hfresh
  obtain ⟨hage, hduration⟩ := hfresh
  rw [UInt64.toNat_sub_of_le _ _ (UInt64.le_iff_toNat_le.mpr hage)] at hduration
  have hspan := Nat.add_le_of_le_sub' hage hduration
  cases hdeadline : checkedAdd monitorAcknowledgement.observation.observedMonotonicNs
      request.limits.maximumStartDelayNs with
  | none =>
      rw [hdeadline] at h
      cases h
  | some deadline =>
      cases hthrough : checkedAdd
          monitorAcknowledgement.observation.observedMonotonicNs
          request.limits.maximumDurationNs with
      | none =>
          rw [hdeadline, hthrough] at h
          cases h
      | some through =>
          rw [hdeadline, hthrough] at h
          simp only [ite_failure_eq_ok, Bool.not_eq_true', Bool.not_eq_false,
            Except.ok.injEq] at h
          obtain ⟨hsession, rfl⟩ := h
          exact ⟨rfl, rfl, rfl, hrequest, hsequence, hreviewed, hid, hcount, hatlas,
            hrobot, hscene, hprofile, hset, hroot, hcheckpoint, hbundle,
            hsequenceNumber, happroved, hspan,
            checkedAdd_eq_some hthrough, hsession⟩

/-- What a valid request says of its endpoints and limits. -/
theorem request_valid (h : request.valid P = true) :
    request.storageSchema = 1 ∧ validSha256 request.sessionNonce = true
      ∧ validExecutionEndpointKey P request.controller = true
      ∧ validExecutionEndpointKey P request.runtimeMonitor = true
      ∧ request.controller.role = .controller
      ∧ request.runtimeMonitor.role = .runtimeMonitor
      ∧ request.controller.serviceId ≠ request.runtimeMonitor.serviceId
      ∧ request.controller.id ≠ request.runtimeMonitor.id
      ∧ validExecutionSessionLimits request.limits = true
      ∧ request.commandCount ≤ request.limits.maximumCommands
      ∧ request.id = executionSessionRequestIdentity P request := by
  unfold ExecutionSessionRequest.valid at h
  simp only [Bool.and_eq_true, beq_iff_eq, bne_iff_ne, decide_eq_true_eq] at h
  obtain ⟨⟨⟨⟨⟨⟨⟨⟨⟨⟨⟨⟨⟨⟨⟨⟨⟨⟨⟨⟨⟨⟨⟨hschema, -⟩, hnonce⟩, -⟩, -⟩, -⟩, -⟩, -⟩, -⟩, -⟩,
    -⟩, -⟩, -⟩, -⟩, -⟩, hcontroller⟩, hmonitor⟩, hrole⟩, hrole'⟩, hservice⟩, hkey⟩,
    hlimits⟩, hcount⟩, hid⟩ := h
  exact ⟨hschema, hnonce, hcontroller, hmonitor, hrole, hrole', hservice, hkey,
    hlimits, hcount, hid⟩

/-- The start delay of a valid request is no longer than its session. -/
theorem startDelay_le (h : request.valid P = true) :
    request.limits.maximumStartDelayNs.toNat
      ≤ request.limits.maximumDurationNs.toNat := by
  obtain ⟨-, -, -, -, -, -, -, -, hlimits, -, -⟩ := request_valid h
  unfold validExecutionSessionLimits at hlimits
  simp only [Bool.and_eq_true, decide_eq_true_eq] at hlimits
  obtain ⟨⟨⟨⟨⟨⟨-, -⟩, -⟩, -⟩, hle⟩, -⟩, -⟩ := hlimits
  exact UInt64.le_iff_toNat_le.mp hle

end

end RbfSafe
