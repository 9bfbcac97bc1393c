/-
Who reviewed a profile, and who the ledger takes for an active reviewer.

The keys that may approve are looked up by `trusted_service_public_key`,
which serves transfers as well: a retired key passes it. The ledger asks
for an active key. So a profile can be reviewed, and sessions of it be
created, with a key the ledger rejects at once; apart from retired keys
the two agree (`reviewed_by_active_iff`).
-/
import RbfSafe.Execution.Proofs.Created
import RbfSafe.Identity.Proofs.Quorum
import RbfSafe.Ledger.Operations

namespace RbfSafe

-- === quorums

/-- Who approves, and as what. -/
structure Reviewer where
  serviceId : Bytes
  keyId : Bytes
  role : DeploymentReviewRole
deriving DecidableEq

def DeploymentProfileApproval.reviewer (a : DeploymentProfileApproval) :
    Reviewer :=
  ⟨a.signerServiceId, a.signerKeyId, a.role⟩

def ExecutionSessionApproval.reviewer (a : ExecutionSessionApproval) :
    Reviewer :=
  ⟨a.signerServiceId, a.signerKeyId, a.role⟩

/-- The approvals a review policy asks for. -/
structure Quorum (policy : DeploymentReviewPolicy) (reviewers : List Reviewer) :
    Prop where
  distinct : (reviewers.map fun r => (r.serviceId, r.keyId)).Nodup
  count : policy.minimumApprovals.toNat ≤ reviewers.length
  services : policy.requireDistinctServices = true →
    policy.minimumApprovals.toNat
      ≤ (reviewers.map fun r => r.serviceId).toFinset.card
  roles : ∀ role ∈ policy.requiredRoles, ∃ r ∈ reviewers, r.role = role

section
variable {P : Platform}

/-- The search for a missing role. -/
theorem roles_of_find {α : Type} {role : α → DeploymentReviewRole} {xs : List α}
    {roles : List DeploymentReviewRole}
    (h : roles.find? (fun r => !(xs.any fun x => role x == r)) = none) :
    ∀ r ∈ roles, ∃ x ∈ xs, role x = r := by
  intro r hr
  have hfound := List.find?_eq_none.mp h r hr
  simp only [Bool.not_eq_true', Bool.not_eq_false, List.any_eq_true, beq_iff_eq]
    at hfound
  exact hfound

/-- What the policy of a profile has let pass. -/
theorem quorum_of_profilePolicy {profile : DeploymentProfile}
    {approvals : List DeploymentProfileApproval}
    (hdistinct : (approvals.map fun a => (a.signerServiceId, a.signerKeyId)).Nodup)
    (h : validateProfileApprovalPolicy profile approvals = .ok ()) :
    Quorum profile.reviewPolicy (approvals.map (·.reviewer)) := by
  unfold validateProfileApprovalPolicy at h
  rw [ite_failure_eq_ok, ite_failure_eq_ok] at h
  obtain ⟨hcount, hservices, h⟩ := h
  cases hfind : profile.reviewPolicy.requiredRoles.find? (fun role =>
      !(approvals.any fun a => a.role == role)) with
  | some role =>
      rw [hfind] at h
      cases h
  | none =>
      refine ⟨?_, ?_, ?_, ?_⟩
      · rw [List.map_map]
        exact hdistinct
      · rw [List.length_map]
        exact not_lt.mp hcount
      · intro hrequired
        rw [List.map_map, List.card_toFinset]
        exact not_lt.mp fun hlt => hservices ⟨hrequired, hlt⟩
      · intro role hrole
        obtain ⟨a, ha, heq⟩ := roles_of_find hfind role hrole
        exact ⟨a.reviewer, List.mem_map.mpr ⟨a, ha, rfl⟩, heq⟩

/-- What the policy of a session has let pass: a quorum, of reviewers of
the profile. -/
theorem quorum_of_sessionPolicy {reviewed : ReviewedDeploymentProfile}
    {approvals : List ExecutionSessionApproval}
    (hdistinct : (approvals.map fun a => (a.signerServiceId, a.signerKeyId)).Nodup)
    (h : validateSessionApprovalPolicy reviewed approvals = .ok ()) :
    Quorum reviewed.profile.reviewPolicy (approvals.map (·.reviewer))
      ∧ ∀ a ∈ approvals, ∃ b ∈ reviewed.approvalSet.approvals,
        b.reviewer = a.reviewer := by
  unfold validateSessionApprovalPolicy at h
  rw [ite_failure_eq_ok] at h
  obtain ⟨hcount, h⟩ := h
  cases hmatch : approvals.find? (fun a => !matchesProfileApproval reviewed a) with
  | some a =>
      rw [hmatch] at h
      cases h
  | none =>
      rw [hmatch] at h
      simp only [ite_failure_eq_ok] at h
      obtain ⟨hservices, h⟩ := h
      cases hfind : reviewed.profile.reviewPolicy.requiredRoles.find? (fun role =>
          !(approvals.any fun a => a.role == role)) with
      | some role =>
          rw [hfind] at h
          cases h
      | none =>
          refine ⟨⟨?_, ?_, ?_, ?_⟩, ?_⟩
          · rw [List.map_map]
            exact hdistinct
          · rw [List.length_map]
            exact not_lt.mp hcount
          · intro hrequired
            rw [List.map_map, List.card_toFinset]
            exact not_lt.mp fun hlt => hservices ⟨hrequired, hlt⟩
          · intro role hrole
            obtain ⟨a, ha, heq⟩ := roles_of_find hfind role hrole
            exact ⟨a.reviewer, List.mem_map.mpr ⟨a, ha, rfl⟩, heq⟩
          · intro a ha
            have hfound := List.find?_eq_none.mp hmatch a ha
            simp only [matchesProfileApproval, Bool.not_eq_true', Bool.not_eq_false,
              List.any_eq_true, Bool.and_eq_true, beq_iff_eq] at hfound
            obtain ⟨b, hb, ⟨hservice, hkey⟩, hrole⟩ := hfound
            exact ⟨b, hb, by rw [DeploymentProfileApproval.reviewer,
              ExecutionSessionApproval.reviewer, hservice, hkey, hrole]⟩

-- === trusted keys

/-- A key that may publish at a sequence, whatever its state. -/
structure Publishes (P : Platform) (bundle : ServiceTrustBundle)
    (serviceId keyId : Bytes) (sequence : UInt64) (key : ServicePublicKey) :
    Prop where
  found : bundle.key P serviceId keyId = .ok (some key)
  allowPublish : key.allowPublish = true
  covers : key.covers sequence

/-- The keys the shared lookup trusts to publish: active or retired. -/
theorem publishes_of_trusted {bundle : ServiceTrustBundle}
    {serviceId keyId : Bytes} {sequence : UInt64} {key : ServicePublicKey}
    (h : trustedServicePublicKey P bundle serviceId keyId .publish sequence
      = .ok key) :
    Publishes P bundle serviceId keyId sequence key
      ∧ (key.state = .active ∨ key.state = .retired) := by
  unfold trustedServicePublicKey at h
  rw [ite_failure_eq_ok, bind_eq_ok] at h
  obtain ⟨-, found, hfound, h⟩ := h
  cases found with
  | none => cases h
  | some candidate =>
      rw [ite_failure_eq_ok] at h
      obtain ⟨htrusted, hkey⟩ := h
      cases hkey
      simp only [Bool.or_eq_true, Bool.not_eq_true', not_or, Bool.not_eq_false,
        Bool.and_eq_true, beq_iff_eq, decide_eq_true_eq] at htrusted
      obtain ⟨⟨hstate, hfrom, hthrough⟩, hoperation⟩ := htrusted
      have hpublish : key.allowPublish = true := by
        rcases hoperation with ⟨hfetch, -⟩ | ⟨-, hpublish⟩
        · cases hfetch
        · exact hpublish
      exact ⟨⟨hfound, hpublish, hfrom, hthrough⟩, hstate⟩

/-- What the signature loop of a profile has let pass. -/
theorem signed_of_verifyProfileApprovals {profile : DeploymentProfile}
    {bundle : ServiceTrustBundle} {approvals : List DeploymentProfileApproval}
    (h : verifyProfileApprovals P profile bundle approvals = .ok ()) :
    ∀ a ∈ approvals, ∃ key, Publishes P bundle a.signerServiceId a.signerKeyId
        profile.trustBundleSequence key
      ∧ (key.state = .active ∨ key.state = .retired)
      ∧ SignatureVerifies P key (deploymentProfileApprovalMessage P a)
        a.authenticationTag := by
  induction approvals with
  | nil =>
      intro a ha
      cases ha
  | cons first rest ih =>
      unfold verifyProfileApprovals at h
      simp only [bind_eq_ok] at h
      obtain ⟨key, hkey, signature, hsignature, ⟨⟩, hverified, hrest⟩ := h
      intro a ha
      rcases List.mem_cons.mp ha with rfl | ha
      · obtain ⟨hpublishes, hstate⟩ := publishes_of_trusted hkey
        exact ⟨key, hpublishes, hstate, signature, hsignature, hverified⟩
      · exact ih hrest a ha

-- === reviewed

/-- A profile reviewed by a quorum of active keys of a bundle. -/
structure ReviewedByActive (P : Platform) (head : ServiceTrustBundle)
    (reviewed : ReviewedDeploymentProfile) : Prop where
  quorum : Quorum reviewed.profile.reviewPolicy
    (reviewed.approvalSet.approvals.map (·.reviewer))
  active : ∀ a ∈ reviewed.approvalSet.approvals, ∃ key,
    Publishes P head a.signerServiceId a.signerKeyId head.sequence key
      ∧ key.state = .active
      ∧ SignatureVerifies P key (deploymentProfileApprovalMessage P a) a.authenticationTag

/-- A session approved by a quorum of the reviewers of its profile, none
of whom the ledger takes for inactive: not by its own lookup at the head,
nor in any command it is asked to authorize under the history. -/
structure ApprovedByActive (P : Platform) (trustHistory : ServiceTrustHistory)
    (head : ServiceTrustBundle) (reviewed : ReviewedDeploymentProfile)
    (session : BoundedExecutionSession) : Prop where
  quorum : Quorum reviewed.profile.reviewPolicy
    (session.approvalSet.approvals.map (·.reviewer))
  reviewers : ∀ a ∈ session.approvalSet.approvals,
    ∃ b ∈ reviewed.approvalSet.approvals, b.reviewer = a.reviewer
  active : inactiveReviewerKey P session head = .ok none
  notRevoked : ∀ (ledger : ExecutionLedger) (files : FileSystem)
    (directory : LedgerDirectory) (d : LedgerDependencies)
    (request : CommandRequest) (expectedCurrentRecordId : Bytes)
    (fresh : ExecutionLedger) (record : ExecutionLedgerRecord)
    (authorization : Option ExecutionCommandAuthorization),
    d.session = session → d.trustHistory = trustHistory →
    ledger.planCommand P files directory d request expectedCurrentRecordId
      = .ok (.append fresh record authorization) →
    record.type ≠ .dependencyRevoked

/-- A review by active keys that all sessions of the profile keep to. -/
def KeptByActive (P : Platform) (trustHistory : ServiceTrustHistory)
    (head : ServiceTrustBundle) (reviewed : ReviewedDeploymentProfile) : Prop :=
  ReviewedByActive P head reviewed
    ∧ ∀ request commandSequence sessionApprovals controllerAcknowledgement
      monitorAcknowledgement trustBundle atlas session,
      BoundedExecutionSession.create P request commandSequence sessionApprovals
        controllerAcknowledgement monitorAcknowledgement reviewed trustBundle
        atlas = .ok session →
      ApprovedByActive P trustHistory head reviewed session

/-- No key that signed an approval is retired in a bundle. -/
def NoneRetired (P : Platform) (head : ServiceTrustBundle)
    (approvals : List DeploymentProfileApproval) : Prop :=
  ∀ a ∈ approvals, ∀ key,
    head.key P a.signerServiceId a.signerKeyId = .ok (some key) →
    key.state ≠ .retired

/-- What `ReviewedDeploymentProfile::create` has checked. -/
structure CreatedReview (P : Platform) (profile : DeploymentProfile)
    (approvalSet : DeploymentProfileApprovalSet)
    (trustHistory : ServiceTrustHistory) (head : ServiceTrustBundle)
    (reviewed : ReviewedDeploymentProfile) : Prop where
  profile_eq : reviewed.profile = profile
  approvalSet_eq : reviewed.approvalSet = approvalSet
  current : trustHistory.currentBundle P = .ok head
  valid : head.valid P = true
  bundleId : profile.trustBundleId = head.id
  sequence : profile.trustBundleSequence = head.sequence
  setValid : validDeploymentProfileApprovalSet P approvalSet = true
  policy : validateProfileApprovalPolicy profile approvalSet.approvals = .ok ()
  signed : verifyProfileApprovals P profile head approvalSet.approvals = .ok ()

/-- Every check of `create`, from a reviewed profile it returned. -/
theorem createdReview_of_create {profile : DeploymentProfile}
    {approvalSet : DeploymentProfileApprovalSet}
    {trustHistory : ServiceTrustHistory} {checkpoint : ServiceTrustCheckpoint}
    {expectedCheckpointId : Bytes} {reviewed : ReviewedDeploymentProfile}
    (hdigest : Set.InjOn P.sha256 (bundleDocuments P.toLibc trustHistory))
    (h : ReviewedDeploymentProfile.create P profile approvalSet trustHistory
      checkpoint expectedCheckpointId = .ok reviewed) :
    ∃ head, CreatedReview P profile approvalSet trustHistory head reviewed := by
  unfold ReviewedDeploymentProfile.create at h
  rw [ite_failure_eq_ok] at h
  obtain ⟨hvalid, h⟩ := h
  simp only [Bool.or_eq_true, Bool.not_eq_true', not_or, Bool.not_eq_false]
    at hvalid
  obtain ⟨⟨⟨⟨-, hset⟩, hhistory⟩, -⟩, -⟩ := hvalid
  rw [check_eq_ok, ite_failure_eq_ok] at h
  obtain ⟨hcheckpoint, hbound, h⟩ := h
  rw [bind_eq_ok] at h
  obtain ⟨bundle, hbundle, h⟩ := h
  rw [check_eq_ok] at h
  obtain ⟨happroved, hreviewed⟩ := h
  cases hreviewed
  simp only [not_or, not_not] at hbound
  obtain ⟨-, -, hbundleId, -⟩ := hbound
  -- the checkpoint names the head, and the lookup finds it
  have hheadId : profile.trustBundleId = trustHistory.currentBundleId := by
    unfold verifyServiceTrustCheckpoint at hcheckpoint
    rw [ite_failure_eq_ok, ite_failure_eq_ok] at hcheckpoint
    obtain ⟨-, hmatch, -⟩ := hcheckpoint
    simp only [not_or, not_not] at hmatch
    rw [hbundleId, hmatch.2.2.1]
  obtain ⟨root, head, hheld⟩ := validHistory_iff.mp hhistory
  have hlast := hheld.last
  rw [List.getLast?_eq_getElem?] at hlast
  have hlookup := bundle_lookup hhistory hdigest hlast
  have hhead : bundle = head := by
    rw [hheadId, hheld.currentId, hlookup] at hbundle
    exact (Except.ok.inj hbundle).symm
  subst hhead
  have hcurrent : trustHistory.currentBundle P = .ok bundle := by
    unfold ServiceTrustHistory.currentBundle
    rw [hhistory, hheld.last]
  unfold verifyDeploymentProfileApprovals at happroved
  rw [ite_failure_eq_ok, ite_failure_eq_ok, ite_failure_eq_ok, check_eq_ok]
    at happroved
  obtain ⟨hinput, -, hbinding, hpolicy, hsigned⟩ := happroved
  simp only [Bool.or_eq_true, Bool.not_eq_true', not_or, Bool.not_eq_false]
    at hinput
  simp only [not_or, not_not] at hbinding
  exact ⟨bundle, rfl, rfl, hcurrent, hinput.2, hbinding.2.1, hbinding.2.2, hset,
    hpolicy, hsigned⟩

-- === the ledger

/-- The search of the ledger finds nobody among active keys. -/
theorem inactiveReviewer_eq_none {bundle : ServiceTrustBundle}
    {approvals : List ExecutionSessionApproval}
    (h : ∀ a ∈ approvals, ∃ key,
      Publishes P bundle a.signerServiceId a.signerKeyId bundle.sequence key
        ∧ key.state = .active) :
    inactiveReviewer P bundle approvals = .ok none := by
  induction approvals with
  | nil => rfl
  | cons first rest ih =>
      obtain ⟨key, hpublishes, hactive⟩ := h first (List.mem_cons_self ..)
      have hreviewer : reviewerActive bundle key = true := by
        simp only [reviewerActive, hactive, hpublishes.allowPublish,
          Bool.and_eq_true, Bool.or_eq_true, beq_iff_eq, decide_eq_true_eq]
        exact ⟨⟨⟨trivial, trivial⟩, hpublishes.covers.1⟩, hpublishes.covers.2⟩
      unfold inactiveReviewer
      rw [hpublishes.found, ok_bind, Option.any_some, if_pos hreviewer]
      exact ih fun a ha => h a (List.mem_cons_of_mem _ ha)

/-- A command is answered with a revocation only where the search finds
somebody at the head of the history. -/
theorem inactive_of_revoked {ledger : ExecutionLedger} {files : FileSystem}
    {directory : LedgerDirectory} {d : LedgerDependencies}
    {request : CommandRequest} {expectedCurrentRecordId : Bytes}
    {fresh : ExecutionLedger} {record : ExecutionLedgerRecord}
    {authorization : Option ExecutionCommandAuthorization}
    (h : ledger.planCommand P files directory d request expectedCurrentRecordId
      = .ok (.append fresh record authorization))
    (hrevoked : record.type = .dependencyRevoked) :
    ∃ bundle keyId, d.trustHistory.currentBundle P = .ok bundle
      ∧ inactiveReviewerKey P d.session bundle = .ok (some keyId) := by
  unfold ExecutionLedger.planCommand at h
  rw [ite_failure_eq_ok, bind_eq_ok] at h
  obtain ⟨-, reopened, -, h⟩ := h
  rw [ite_failure_eq_ok, ite_failure_eq_ok] at h
  obtain ⟨-, -, h⟩ := h
  by_cases hexpired : request.dispatchMonotonicNs > d.session.validThroughMonotonicNs
  · rw [if_pos hexpired] at h
    cases h
    cases hrevoked
  · rw [if_neg hexpired] at h
    unfold planChecked at h
    rw [bind_eq_ok] at h
    obtain ⟨bundle, hcontext, h⟩ := h
    have hcurrent : d.trustHistory.currentBundle P = .ok bundle := by
      unfold verifyCurrentContext at hcontext
      rw [bind_eq_ok] at hcontext
      obtain ⟨-, -, hcontext⟩ := hcontext
      rw [check_eq_ok, ite_failure_eq_ok] at hcontext
      exact hcontext.2.2
    rw [ite_failure_eq_ok, bind_eq_ok] at h
    obtain ⟨-, inactive, hinactive, h⟩ := h
    cases inactive with
    | some keyId => exact ⟨bundle, keyId, hcurrent, hinactive⟩
    | none =>
        exfalso
        simp only [planAuthorization] at h
        rw [ite_failure_eq_ok, bind_eq_ok] at h
        obtain ⟨-, granted, -, h⟩ := h
        cases granted with
        | none => cases h
        | some granted =>
            cases h
            cases hrevoked

-- === reviewers

/-- A session of a profile reviewed by active keys. -/
theorem approvedByActive_of_create {profile : DeploymentProfile}
    {approvalSet : DeploymentProfileApprovalSet}
    {trustHistory : ServiceTrustHistory} {head : ServiceTrustBundle}
    {reviewed : ReviewedDeploymentProfile} {request : ExecutionSessionRequest}
    {commandSequence : ExecutionCommandSequence}
    {sessionApprovals : ExecutionSessionApprovalSet}
    {controllerAcknowledgement : ExecutionControllerAcknowledgement}
    {monitorAcknowledgement : ExecutionMonitorAcknowledgement}
    {trustBundle : ServiceTrustBundle} {atlas : SafeAtlas}
    {session : BoundedExecutionSession}
    (hreview : CreatedReview P profile approvalSet trustHistory head reviewed)
    (hactive : ReviewedByActive P head reviewed)
    (h : BoundedExecutionSession.create P request commandSequence sessionApprovals
      controllerAcknowledgement monitorAcknowledgement reviewed trustBundle atlas
      = .ok session) :
    ApprovedByActive P trustHistory head reviewed session := by
  have hcreated := created_of_create h
  have happroved := hcreated.approved
  unfold verifyExecutionSessionApprovals at happroved
  rw [ite_failure_eq_ok, ite_failure_eq_ok, ite_failure_eq_ok, check_eq_ok]
    at happroved
  obtain ⟨-, hset, -, hpolicy, -⟩ := happroved
  simp only [Bool.not_eq_true', Bool.not_eq_false] at hset
  unfold validExecutionSessionApprovalSet at hset
  simp only [Bool.and_eq_true, decide_eq_true_eq] at hset
  obtain ⟨hquorum, hreviewers⟩ := quorum_of_sessionPolicy hset.1.2 hpolicy
  have hnone : inactiveReviewerKey P session head = .ok none := by
    unfold inactiveReviewerKey
    rw [hcreated.sessionValid, hreview.valid, hcreated.approvalSet_eq]
    apply inactiveReviewer_eq_none
    intro a ha
    obtain ⟨b, hb, heq⟩ := hreviewers a ha
    obtain ⟨key, hpublishes, hstate, -⟩ := hactive.active b hb
    rw [DeploymentProfileApproval.reviewer, ExecutionSessionApproval.reviewer,
      Reviewer.mk.injEq] at heq
    rw [heq.1, heq.2.1] at hpublishes
    exact ⟨key, hpublishes, hstate⟩
  refine ⟨hcreated.approvalSet_eq ▸ hquorum, hcreated.approvalSet_eq ▸ hreviewers,
    hnone, ?_⟩
  intro ledger files directory d request expectedCurrentRecordId fresh record
    authorization hsession hhistory hplan hrevoked
  obtain ⟨bundle, keyId, hcurrent, hinactive⟩ := inactive_of_revoked hplan hrevoked
  rw [hhistory, hreview.current, Except.ok.injEq] at hcurrent
  rw [← hcurrent, hsession, hnone] at hinactive
  cases hinactive

/-- **A profile is reviewed by active keys exactly if none of its reviewers
is retired at the head of the history**, and the sessions created of it are
then approved by reviewers the ledger takes for active. -/
theorem reviewed_by_active_iff {profile : DeploymentProfile}
    {approvalSet : DeploymentProfileApprovalSet}
    {trustHistory : ServiceTrustHistory} {checkpoint : ServiceTrustCheckpoint}
    {expectedCheckpointId : Bytes} {reviewed : ReviewedDeploymentProfile}
    (hdigest : Set.InjOn P.sha256 (bundleDocuments P.toLibc trustHistory))
    (h : ReviewedDeploymentProfile.create P profile approvalSet trustHistory
      checkpoint expectedCheckpointId = .ok reviewed) :
    ∃ head, trustHistory.currentBundle P = .ok head
      ∧ profile.trustBundleId = head.id
      ∧ (KeptByActive P trustHistory head reviewed
        ↔ NoneRetired P head approvalSet.approvals) := by
  obtain ⟨head, hreview⟩ := createdReview_of_create hdigest h
  refine ⟨head, hreview.current, hreview.bundleId, ?_⟩
  constructor
  · intro hactive a ha key hkey hretired
    rw [← hreview.approvalSet_eq] at ha
    obtain ⟨active, hpublishes, hstate, -⟩ := hactive.1.active a ha
    have hsame := hpublishes.found
    rw [hkey, Except.ok.injEq, Option.some.injEq] at hsame
    rw [← hsame, hretired] at hstate
    cases hstate
  · intro hnone
    have hactive : ReviewedByActive P head reviewed := by
      have hset := hreview.setValid
      unfold validDeploymentProfileApprovalSet at hset
      simp only [Bool.and_eq_true, decide_eq_true_eq] at hset
      refine ⟨?_, ?_⟩
      · rw [hreview.profile_eq, hreview.approvalSet_eq]
        exact quorum_of_profilePolicy hset.1.2 hreview.policy
      · rw [hreview.approvalSet_eq]
        intro a ha
        obtain ⟨key, hpublishes, hstate, hsigned⟩ :=
          signed_of_verifyProfileApprovals hreview.signed a ha
        rw [hreview.sequence] at hpublishes
        have hnot := hnone a ha key hpublishes.found
        exact ⟨key, hpublishes, hstate.resolve_right hnot, hsigned⟩
    exact ⟨hactive, fun _ _ _ _ _ _ _ _ hcreate =>
      approvedByActive_of_create hreview hactive hcreate⟩

end

-- === a review

section
variable (P : Platform) (state : ServiceKeyState)

/-- The key of a reviewer, in some state. -/
def reviewerKey : ServicePublicKey :=
  { sampleKey P (ascii "beta") with
    state := state
    validThroughSequence := 1 }

/-- A bundle of a key that signs checkpoints and the key of the reviewer. -/
def reviewBundle : ServiceTrustBundle :=
  let bundle : ServiceTrustBundle :=
    { sequence := 1
      storageSchema := 3
      keys := [sampleKey P (ascii "alpha"), reviewerKey P state] }
  { bundle with id := serviceTrustBundleIdentity P bundle }

def reviewRecord : ServiceTrustRotationRecord :=
  let record : ServiceTrustRotationRecord :=
    { storageSchema := kCurrentHistorySchema
      sequence := 1
      bundleId := (reviewBundle P state).id }
  { record with id := serviceTrustRotationRecordIdentity P record }

def reviewHistory : ServiceTrustHistory :=
  { storageSchema := kCurrentHistorySchema
    rootBundleId := (reviewBundle P state).id
    currentBundleId := (reviewBundle P state).id
    bundles := [reviewBundle P state]
    records := [reviewRecord P state] }

/-- A signature, as long as one is. -/
def reviewTag : Bytes := List.replicate 128 97

def reviewCheckpoint : ServiceTrustCheckpoint :=
  let checkpoint : ServiceTrustCheckpoint :=
    { rootBundleId := (reviewBundle P state).id
      headBundleId := (reviewBundle P state).id
      headSequence := 1
      headRecordId := (reviewRecord P state).id
      signatures := [
        { signerServiceId := ascii "alpha"
          signerKeyId := (sampleKey P (ascii "alpha")).id
          authenticationTag := reviewTag }] }
  { checkpoint with id := serviceTrustCheckpointIdentity P checkpoint }

/-- The profile of a deployment, that one approval is enough for. -/
def reviewProfile : DeploymentProfile :=
  let profile : DeploymentProfile :=
    { deploymentId := ascii "alpha"
      robotDigest := List.replicate 64 97
      controllerDigest := List.replicate 64 97
      platformDigest := List.replicate 64 97
      runtimeDigest := List.replicate 64 97
      trustRootBundleId := (reviewBundle P state).id
      trustCheckpointId := (reviewCheckpoint P state).id
      trustBundleId := (reviewBundle P state).id
      trustBundleSequence := 1 }
  { profile with id := deploymentProfileIdentity P profile }

def reviewApproval : DeploymentProfileApproval :=
  let approval : DeploymentProfileApproval :=
    { profileId := (reviewProfile P state).id
      signerServiceId := ascii "beta"
      signerKeyId := (reviewerKey P state).id
      authenticationTag := reviewTag }
  { approval with id := deploymentProfileApprovalIdentity P approval }

def reviewApprovalSet : DeploymentProfileApprovalSet :=
  let set : DeploymentProfileApprovalSet :=
    { profileId := (reviewProfile P state).id
      approvals := [reviewApproval P state] }
  { set with id := deploymentProfileApprovalSetIdentity P set }

def reviewOf : ReviewedDeploymentProfile :=
  ⟨reviewProfile P state, reviewApprovalSet P state⟩

variable {P state}

theorem decodeHex_reviewTag :
    decodeHex reviewTag kEd25519SignatureBytes = .ok (List.replicate 64 170) := by
  decide +kernel

theorem valid_reviewTag : validLowerHex reviewTag (kEd25519SignatureBytes * 2) = true := by
  decide +kernel

theorem valid_reviewDigest : validSha256 (List.replicate 64 97) = true := by
  decide

theorem verify_reviewTag
    (hcheck : ∀ signature key message, P.ed25519Check signature key message = true)
    (message : Bytes) (key : Vector UInt8 32) :
    ed25519Verify P message (List.replicate 64 170) key.toList = .ok () := by
  unfold ed25519Verify
  rw [if_neg, if_neg]
  · simp [hcheck]
  · simp [kEd25519PublicKeyBytes, kEd25519SignatureBytes]

theorem valid_reviewerKey (hstate : state = .active ∨ state = .retired) :
    validServicePublicKey P (reviewerKey P state) = true := by
  have hkey := valid_sampleKey P validIdentifier_services.2
  unfold validServicePublicKey at hkey ⊢
  simp only [Bool.and_eq_true] at hkey ⊢
  obtain ⟨⟨⟨⟨⟨h, -⟩, -⟩, hallow⟩, -⟩, hid⟩ := hkey
  refine ⟨⟨⟨⟨⟨h, rfl⟩, rfl⟩, hallow⟩, ?_⟩, hid⟩
  rcases hstate with rfl | rfl <;> rfl

theorem valid_reviewBundle (hstate : state = .active ∨ state = .retired) :
    (reviewBundle P state).valid P = true := by
  have hordered : strictlyOrdered ServicePublicKey.serviceId ServicePublicKey.id
      [sampleKey P (ascii "alpha"), reviewerKey P state] = true := by
    obtain ⟨hlt, hne⟩ := alpha_before_beta
    show (!(decide (ascii "beta" < ascii "alpha")
      || (ascii "alpha" == ascii "beta" && !_)) && _) = true
    rw [decide_eq_false (List.lt_asymm hlt), beq_eq_false_iff_ne.mpr hne]
    rfl
  have hkeys : (reviewBundle P state).keys.all (fun key =>
      validServicePublicKey P key
        && !((reviewBundle P state).storageSchema == 1 && key.allowRotate))
      = true := by
    show ((validServicePublicKey P (sampleKey P (ascii "alpha")) && true)
      && ((validServicePublicKey P (reviewerKey P state) && true) && true)) = true
    rw [valid_sampleKey P validIdentifier_services.1, valid_reviewerKey hstate]
    rfl
  rw [ServiceTrustBundle.valid, hkeys]
  simp only [Bool.and_eq_true, beq_iff_eq]
  exact ⟨⟨⟨⟨⟨⟨⟨⟨⟨⟨rfl, rfl⟩, rfl⟩, rfl⟩, rfl⟩, P.validSha256_digest _⟩, rfl⟩, rfl⟩,
    trivial⟩, hordered⟩, rfl⟩

theorem valid_reviewHistory (hstate : state = .active ∨ state = .retired) :
    (reviewHistory P state).valid P = true := by
  have hrecord : validRecordStructure P (reviewRecord P state) = true := by
    rw [validRecordStructure]
    simp only [Bool.and_eq_true, beq_iff_eq]
    exact ⟨⟨⟨⟨rfl, rfl⟩, P.validSha256_digest _⟩, P.validSha256_digest _⟩, rfl⟩
  have hentry : entryValid P kCurrentHistorySchema 0 none (reviewBundle P state)
      (reviewRecord P state) = true := by
    rw [entryValid]
    simp only [Bool.and_eq_true, beq_iff_eq]
    exact ⟨⟨⟨⟨⟨⟨⟨valid_reviewBundle hstate, rfl⟩, rfl⟩, rfl⟩, rfl⟩, rfl⟩, hrecord⟩,
      rfl⟩
  refine validHistory_iff.mpr ⟨reviewBundle P state, reviewBundle P state, rfl, rfl,
    rfl, rfl, P.validSha256_digest _, rfl, rfl, ?_⟩
  show (entryValid P kCurrentHistorySchema 0 none (reviewBundle P state)
    (reviewRecord P state) && true) = true
  rw [hentry]
  rfl

theorem injOn_reviewDocuments :
    Set.InjOn P.sha256 (bundleDocuments P.toLibc (reviewHistory P state)) := by
  have hone : ∀ document ∈ bundleDocuments P.toLibc (reviewHistory P state),
      document = (bundleJson (reviewBundle P state)).dump P.toLibc false 0 := by
    rintro document ⟨bundle, hbundle, heq⟩
    rw [heq, List.mem_singleton.mp hbundle]
  intro x hx y hy _
  rw [hone x hx, hone y hy]

/-- The bundle has either key. -/
theorem key_reviewBundle (hstate : state = .active ∨ state = .retired) :
    (reviewBundle P state).key P (ascii "alpha") (sampleKey P (ascii "alpha")).id
        = .ok (some (sampleKey P (ascii "alpha")))
      ∧ (reviewBundle P state).key P (ascii "beta") (reviewerKey P state).id
        = .ok (some (reviewerKey P state)) := by
  have hne : ascii "alpha" ≠ ascii "beta" := alpha_before_beta.2
  have hdigest : ∀ service, validSha256 (sampleKey P service).id = true :=
    fun service => P.validSha256_digest _
  have hreviewer : (reviewerKey P state).id = (sampleKey P (ascii "beta")).id := rfl
  have hservice : (reviewerKey P state).serviceId = ascii "beta" := rfl
  have hkeys : (reviewBundle P state).keys
      = [sampleKey P (ascii "alpha"), reviewerKey P state] := rfl
  unfold ServiceTrustBundle.key
  rw [valid_reviewBundle hstate, hreviewer, hdigest, hdigest,
    validIdentifier_services.1, validIdentifier_services.2, hkeys]
  simp only [Bool.not_true, Bool.or_self, Bool.false_eq_true, if_false]
  constructor
  · rw [List.find?_cons_of_pos]
    simp [sampleKey]
  · rw [List.find?_cons_of_neg, List.find?_cons_of_pos]
    · simp [hservice, hreviewer]
    · simp [sampleKey, hne]

theorem accepted_reviewCheckpoint (hstate : state = .active ∨ state = .retired)
    (hcheck : ∀ signature key message, P.ed25519Check signature key message = true) :
    Accepted P (reviewBundle P state).id (reviewBundle P state)
      (reviewRecord P state) (reviewCheckpoint P state) := by
  have hvalid : ∀ s ∈ (reviewCheckpoint P state).signatures,
      validServiceTrustCheckpointSignature s = true := by
    intro s hs
    rw [List.mem_singleton.mp hs]
    have hdigest : validSha256 (sampleKey P (ascii "alpha")).id = true :=
      P.validSha256_digest _
    simp only [validServiceTrustCheckpointSignature, validIdentifier_services.1,
      decodeHex_reviewTag, hdigest, Bool.true_and]
    rfl
  refine ⟨?_, rfl, rfl, rfl, rfl, ?_, rfl⟩
  · rw [ServiceTrustCheckpoint.valid, List.all_eq_true.mpr hvalid]
    simp only [Bool.and_eq_true, beq_iff_eq]
    exact ⟨⟨⟨⟨⟨⟨⟨⟨⟨rfl, P.validSha256_digest _⟩, P.validSha256_digest _⟩,
      P.validSha256_digest _⟩, rfl⟩, P.validSha256_digest _⟩, rfl⟩, trivial⟩, rfl⟩,
      rfl⟩
  · intro s hs
    rw [verifyCheckpointSignature, hvalid s hs]
    rw [List.mem_singleton.mp hs]
    have hauthorized : ¬((sampleKey P (ascii "alpha")).state ≠ .active
        ∨ !(sampleKey P (ascii "alpha")).allowRotate
        ∨ !sequenceAuthorized (sampleKey P (ascii "alpha"))
          (reviewCheckpoint P state).headSequence) := by
      have hsequence : sequenceAuthorized (sampleKey P (ascii "alpha"))
          (reviewCheckpoint P state).headSequence = true := rfl
      have hrotate : (sampleKey P (ascii "alpha")).allowRotate = true := rfl
      have hactive : (sampleKey P (ascii "alpha")).state = .active := rfl
      simp [hsequence, hrotate, hactive]
    simp only [(key_reviewBundle hstate).1, ok_bind, decodeHex_reviewTag,
      Bool.not_true, Bool.false_eq_true, if_false, if_neg hauthorized]
    exact verify_reviewTag hcheck _ _

theorem valid_reviewProfile : (reviewProfile P state).valid P = true := by
  unfold DeploymentProfile.valid
  simp only [Bool.and_eq_true, beq_iff_eq]
  exact ⟨⟨⟨⟨⟨⟨⟨⟨⟨⟨⟨⟨⟨rfl, validIdentifier_services.1⟩, valid_reviewDigest⟩,
    valid_reviewDigest⟩, valid_reviewDigest⟩, valid_reviewDigest⟩,
    P.validSha256_digest _⟩, P.validSha256_digest _⟩, P.validSha256_digest _⟩, rfl⟩,
    rfl⟩, rfl⟩, P.validSha256_digest _⟩, rfl⟩

theorem valid_reviewApprovalSet :
    validDeploymentProfileApprovalSet P (reviewApprovalSet P state) = true := by
  have happroval : validDeploymentProfileApproval P (reviewApproval P state)
      = true := by
    unfold validDeploymentProfileApproval
    simp only [Bool.and_eq_true, beq_iff_eq]
    exact ⟨⟨⟨⟨⟨⟨P.validSha256_digest _, P.validSha256_digest _⟩,
      validIdentifier_services.2⟩, P.validSha256_digest _⟩, rfl⟩, valid_reviewTag⟩,
      rfl⟩
  have hall : (reviewApprovalSet P state).approvals.all
      (validDeploymentProfileApproval P) = true := by
    show (validDeploymentProfileApproval P (reviewApproval P state) && true) = true
    rw [happroval]
    rfl
  have hsame : (reviewApprovalSet P state).approvals.all
      (fun a => a.profileId == (reviewApprovalSet P state).profileId) = true := by
    show (((reviewApproval P state).profileId == (reviewApproval P state).profileId)
      && true) = true
    rw [beq_self_eq_true]
    rfl
  unfold validDeploymentProfileApprovalSet
  rw [hall, hsame]
  simp only [Bool.and_eq_true, beq_iff_eq, decide_eq_true_eq]
  exact ⟨⟨⟨⟨⟨⟨⟨⟨P.validSha256_digest _, P.validSha256_digest _⟩, rfl⟩,
    show 1 ≤ kMaximumApprovals from by decide⟩, trivial⟩, rfl⟩, trivial⟩,
    List.nodup_singleton _⟩, rfl⟩

/-- A retired key is trusted to publish as an active one is. -/
theorem trusted_reviewerKey (hstate : state = .active ∨ state = .retired) :
    trustedServicePublicKey P (reviewBundle P state) (ascii "beta")
      (reviewerKey P state).id .publish 1 = .ok (reviewerKey P state) := by
  unfold trustedServicePublicKey
  rw [valid_reviewBundle hstate, if_neg (by decide), (key_reviewBundle hstate).2,
    ok_bind]
  rcases hstate with rfl | rfl <;> rfl

theorem create_review (hstate : state = .active ∨ state = .retired)
    (hcheck : ∀ signature key message, P.ed25519Check signature key message = true) :
    ReviewedDeploymentProfile.create P (reviewProfile P state)
      (reviewApprovalSet P state) (reviewHistory P state)
      (reviewCheckpoint P state) (reviewCheckpoint P state).id
      = .ok (reviewOf P state) := by
  have haccepted := accepted_reviewCheckpoint hstate hcheck
  have hhistory := valid_reviewHistory (P := P) hstate
  have hlimit : (reviewCheckpoint P state).signatures.length ≤ 100000 :=
    show 1 ≤ 100000 from by decide
  have hcheckpoint : verifyServiceTrustCheckpoint P (reviewHistory P state)
      (reviewCheckpoint P state) (reviewCheckpoint P state).id = .ok () :=
    (verifyServiceTrustCheckpoint_iff hhistory rfl rfl
      ⟨valid_reviewBundle hstate, rfl, rfl, rfl⟩ hlimit).mpr haccepted
  have hdigest : validSha256 (reviewBundle P state).id = true :=
    P.validSha256_digest _
  have hbundle : (reviewHistory P state).bundle P (reviewBundle P state).id
      = .ok (reviewBundle P state) :=
    bundle_lookup (i := 0) hhistory injOn_reviewDocuments rfl
  have hsigned : verifyProfileApprovals P (reviewProfile P state)
      (reviewBundle P state) [reviewApproval P state] = .ok () := by
    unfold verifyProfileApprovals
    show (do
      let trusted ← trustedServicePublicKey P (reviewBundle P state)
        (ascii "beta") (reviewerKey P state).id .publish 1
      let signature ← decodeHex reviewTag kEd25519SignatureBytes
      let _ ← ed25519Verify P _ signature trusted.publicKey.toList
      Except.ok ()) = .ok ()
    rw [trusted_reviewerKey hstate, ok_bind, decodeHex_reviewTag, ok_bind,
      verify_reviewTag hcheck]
    rfl
  have happroved : verifyDeploymentProfileApprovals P (reviewProfile P state)
      (reviewApprovalSet P state) (reviewBundle P state) = .ok () := by
    unfold verifyDeploymentProfileApprovals
    rw [valid_reviewProfile, valid_reviewBundle hstate, valid_reviewApprovalSet,
      show (reviewApprovalSet P state).approvals.isEmpty = false from rfl,
      if_neg (show ¬(!true || false || !true) = true from by decide),
      if_neg (show ¬(!true) = true from by decide), if_neg, check_eq_ok]
    · exact ⟨rfl, hsigned⟩
    · simp only [not_or, not_not]
      exact ⟨rfl, rfl, rfl⟩
  unfold ReviewedDeploymentProfile.create
  rw [valid_reviewProfile, valid_reviewApprovalSet, hhistory, haccepted.valid,
    (trustCheckpoint_valid haccepted.valid).2.1,
    if_neg (show ¬(!true || !true || !true || !true || !true) = true from by decide),
    check_eq_ok]
  refine ⟨hcheckpoint, ?_⟩
  rw [if_neg]
  · show (do
      let bundle ← (reviewHistory P state).bundle P (reviewBundle P state).id
      let _ ← verifyDeploymentProfileApprovals P (reviewProfile P state)
        (reviewApprovalSet P state) bundle
      Except.ok (reviewOf P state)) = _
    rw [hbundle, ok_bind, happroved]
    rfl
  · simp only [not_or, not_not]
    exact ⟨rfl, rfl, rfl, rfl⟩

theorem current_reviewHistory (hstate : state = .active ∨ state = .retired) :
    (reviewHistory P state).currentBundle P = .ok (reviewBundle P state) := by
  unfold ServiceTrustHistory.currentBundle
  rw [valid_reviewHistory hstate]
  rfl

theorem noneRetired_review : NoneRetired P (reviewBundle P .active)
    (reviewApprovalSet P .active).approvals := by
  intro a ha key hkey
  rw [List.mem_singleton.mp ha] at hkey
  have hsame : some key = some (reviewerKey P .active) :=
    Except.ok.inj (hkey.symm.trans (key_reviewBundle (Or.inl rfl)).2)
  cases hsame
  exact fun h => by cases h

theorem not_reviewedByActive :
    ¬ReviewedByActive P (reviewBundle P .retired) (reviewOf P .retired) := by
  intro h
  obtain ⟨key, hpublishes, hstate, -⟩ := h.active (reviewApproval P .retired)
    (List.mem_singleton_self _)
  have hsame : some key = some (reviewerKey P .retired) :=
    Except.ok.inj (hpublishes.found.symm.trans (key_reviewBundle (Or.inr rfl)).2)
  cases hsame
  cases hstate

end

-- === a session

section
variable (P : Platform) (state : ServiceKeyState) (offset : UInt64)

/-- Two commands, the second at some offset. -/
def reviewCommands : ExecutionCommandSequence :=
  let sequence : ExecutionCommandSequence :=
    { atlasId := List.replicate 64 97
      robotDigest := List.replicate 64 97
      sceneDigest := List.replicate 64 97
      connectivityCertificateId := List.replicate 64 97
      dimension := 1
      commands := [
        { index := 0, scheduledOffsetNs := 0,
          configuration := [.finite (.value 0)] },
        { index := 1, scheduledOffsetNs := offset,
          configuration := [.finite (.value 1)] }]
      regionSequence := [1] }
  { sequence with id := executionCommandSequenceIdentity P sequence }

def reviewEndpoint (serviceId : Bytes) (role : ExecutionEndpointRole) :
    ExecutionEndpointKey :=
  let key : ExecutionEndpointKey :=
    { serviceId := serviceId
      role := role
      publicKey := (sampleKey P serviceId).publicKey }
  { key with id := executionEndpointKeyIdentity P key }

def reviewRequest : ExecutionSessionRequest :=
  let request : ExecutionSessionRequest :=
    { sessionNonce := List.replicate 64 97
      reviewedProfileId := (reviewProfile P state).id
      reviewedProfileApprovalSetId := (reviewApprovalSet P state).id
      trustRootBundleId := (reviewBundle P state).id
      trustCheckpointId := (reviewCheckpoint P state).id
      trustBundleId := (reviewBundle P state).id
      trustBundleSequence := 1
      commandSequenceId := (reviewCommands P offset).id
      atlasId := List.replicate 64 97
      robotDigest := List.replicate 64 97
      sceneDigest := List.replicate 64 97
      commandCount := 2
      controller := reviewEndpoint P (ascii "alpha") .controller
      runtimeMonitor := reviewEndpoint P (ascii "beta") .runtimeMonitor }
  { request with id := executionSessionRequestIdentity P request }

def reviewSessionApproval : ExecutionSessionApproval :=
  let approval : ExecutionSessionApproval :=
    { requestId := (reviewRequest P state offset).id
      signerServiceId := ascii "beta"
      signerKeyId := (reviewerKey P state).id
      authenticationTag := reviewTag }
  { approval with id := executionSessionApprovalIdentity P approval }

def reviewSessionApprovalSet : ExecutionSessionApprovalSet :=
  let set : ExecutionSessionApprovalSet :=
    { requestId := (reviewRequest P state offset).id
      approvals := [reviewSessionApproval P state offset] }
  { set with id := executionSessionApprovalSetIdentity P set }

def reviewControllerAcknowledgement : ExecutionControllerAcknowledgement :=
  let acknowledgement : ExecutionControllerAcknowledgement :=
    { requestId := (reviewRequest P state offset).id
      commandSequenceId := (reviewCommands P offset).id
      controllerServiceId := ascii "alpha"
      controllerKeyId := (reviewEndpoint P (ascii "alpha") .controller).id
      acceptedCommandCount := 2
      authenticationTag := reviewTag }
  { acknowledgement with
    id := executionControllerAcknowledgementIdentity P acknowledgement }

/-- What the deployment of the profile looks like when it runs. -/
def reviewSnapshot : DeploymentRuntimeSnapshot where
  deploymentId := ascii "alpha"
  robotDigest := List.replicate 64 97
  controllerDigest := List.replicate 64 97
  platformDigest := List.replicate 64 97
  runtimeDigest := List.replicate 64 97
  controlPeriodNs := 1
  runtimeMonitorActive := true
  failClosedTransportActive := true
  authenticatedArtifacts := true

def reviewObservation : ExecutionRuntimeObservation :=
  let observation : ExecutionRuntimeObservation :=
    { requestId := (reviewRequest P state offset).id
      commandSequenceId := (reviewCommands P offset).id
      runtime := reviewSnapshot
      observationSequence := 1
      observedMonotonicNs := 1
      monitorState := .armedCertifiedSequence }
  { observation with id := executionRuntimeObservationIdentity P observation }

def reviewMonitorAcknowledgement : ExecutionMonitorAcknowledgement :=
  let acknowledgement : ExecutionMonitorAcknowledgement :=
    { observation := reviewObservation P state offset
      monitorServiceId := ascii "beta"
      monitorKeyId := (reviewEndpoint P (ascii "beta") .runtimeMonitor).id
      authenticationTag := reviewTag }
  { acknowledgement with
    id := executionMonitorAcknowledgementIdentity P acknowledgement }

/-- An atlas that certifies the commands in one region. -/
def reviewAtlas : SafeAtlas where
  dimension := 1
  versionId := List.replicate 64 97
  robotDigest := List.replicate 64 97
  sceneDigest := List.replicate 64 97
  audit _ := .ok ⟨.certified, [1], []⟩
  route _ _ := .ok (some
    ⟨List.replicate 64 97, .certifiedConnectivity, List.replicate 64 97⟩)

def reviewSession : BoundedExecutionSession :=
  let session : BoundedExecutionSession :=
    { request := reviewRequest P state offset
      commandSequence := reviewCommands P offset
      approvalSet := reviewSessionApprovalSet P state offset
      controllerAcknowledgement := reviewControllerAcknowledgement P state offset
      monitorAcknowledgement := reviewMonitorAcknowledgement P state offset
      validFromMonotonicNs := 1
      startDeadlineMonotonicNs := 10000001
      validThroughMonotonicNs := 100000001 }
  { session with id := boundedExecutionSessionIdentity P session }

variable {P state offset}

theorem valid_reviewCommands (hoffset : 0 < offset) :
    (reviewCommands P offset).valid P = true := by
  have hcommands : commandsValid 1 0 none (reviewCommands P offset).commands
      = true := by
    show (true && (true && true && decide (offset > 0) && true)) = true
    rw [decide_eq_true hoffset]
    rfl
  unfold ExecutionCommandSequence.valid
  simp only [Bool.and_eq_true, beq_iff_eq]
  exact ⟨⟨⟨⟨⟨⟨⟨⟨⟨⟨⟨⟨rfl, P.validSha256_digest _⟩, valid_reviewDigest⟩,
    valid_reviewDigest⟩, valid_reviewDigest⟩, valid_reviewDigest⟩, rfl⟩, rfl⟩, rfl⟩,
    show decide (2 ≤ kMaximumCommands) = true from by decide⟩, rfl⟩, hcommands⟩, rfl⟩

theorem valid_reviewEndpoint {serviceId : Bytes} {role : ExecutionEndpointRole}
    (h : validIdentifier serviceId = true) :
    validExecutionEndpointKey P (reviewEndpoint P serviceId role) = true := by
  unfold validExecutionEndpointKey
  simp only [Bool.and_eq_true, beq_iff_eq]
  exact ⟨⟨⟨P.validSha256_digest _, h⟩, rfl⟩, rfl⟩

section
variable (hkeys : (reviewEndpoint P (ascii "alpha") .controller).id
  ≠ (reviewEndpoint P (ascii "beta") .runtimeMonitor).id)
include hkeys

theorem valid_reviewRequest : (reviewRequest P state offset).valid P = true := by
  have hservice : ascii "alpha" ≠ ascii "beta" := alpha_before_beta.2
  unfold ExecutionSessionRequest.valid
  simp only [Bool.and_eq_true, beq_iff_eq, bne_iff_ne]
  exact ⟨⟨⟨⟨⟨⟨⟨⟨⟨⟨⟨⟨⟨⟨⟨⟨⟨⟨⟨⟨⟨⟨⟨rfl, P.validSha256_digest _⟩, valid_reviewDigest⟩,
    P.validSha256_digest _⟩, P.validSha256_digest _⟩, P.validSha256_digest _⟩,
    P.validSha256_digest _⟩, P.validSha256_digest _⟩, rfl⟩, P.validSha256_digest _⟩,
    valid_reviewDigest⟩, valid_reviewDigest⟩, valid_reviewDigest⟩, rfl⟩,
    show decide (2 ≤ kMaximumCommands) = true from by decide⟩,
    valid_reviewEndpoint validIdentifier_services.1⟩,
    valid_reviewEndpoint validIdentifier_services.2⟩, rfl⟩, rfl⟩, hservice⟩, hkeys⟩,
    show validExecutionSessionLimits {} = true from by decide⟩,
    show decide ((2 : Nat) ≤ 100000) = true from by decide⟩, rfl⟩

omit hkeys in
theorem valid_reviewSessionApprovalSet :
    validExecutionSessionApprovalSet P (reviewSessionApprovalSet P state offset)
      = true := by
  have happroval : validExecutionSessionApproval P
      (reviewSessionApproval P state offset) = true := by
    unfold validExecutionSessionApproval
    simp only [Bool.and_eq_true, beq_iff_eq]
    exact ⟨⟨⟨⟨⟨⟨P.validSha256_digest _, P.validSha256_digest _⟩,
      validIdentifier_services.2⟩, P.validSha256_digest _⟩, rfl⟩, valid_reviewTag⟩,
      rfl⟩
  have hall : (reviewSessionApprovalSet P state offset).approvals.all
      (validExecutionSessionApproval P) = true := by
    show (validExecutionSessionApproval P (reviewSessionApproval P state offset)
      && true) = true
    rw [happroval]
    rfl
  have hsame : (reviewSessionApprovalSet P state offset).approvals.all
      (fun a => a.requestId == (reviewSessionApprovalSet P state offset).requestId)
      = true := by
    show (((reviewSessionApproval P state offset).requestId
      == (reviewSessionApproval P state offset).requestId) && true) = true
    rw [beq_self_eq_true]
    rfl
  unfold validExecutionSessionApprovalSet
  rw [hall, hsame]
  simp only [Bool.and_eq_true, beq_iff_eq, decide_eq_true_eq]
  exact ⟨⟨⟨⟨⟨⟨⟨⟨P.validSha256_digest _, P.validSha256_digest _⟩, rfl⟩,
    show 1 ≤ kMaximumApprovals from by decide⟩, trivial⟩, rfl⟩, trivial⟩,
    List.nodup_singleton _⟩, rfl⟩

omit hkeys in
theorem valid_reviewAcknowledgements :
    validExecutionControllerAcknowledgement P
        (reviewControllerAcknowledgement P state offset) = true
      ∧ validExecutionMonitorAcknowledgement P
        (reviewMonitorAcknowledgement P state offset) = true := by
  have hsnapshot : validDeploymentRuntimeSnapshot reviewSnapshot = true := by
    unfold validDeploymentRuntimeSnapshot
    simp only [Bool.and_eq_true]
    exact ⟨⟨⟨⟨⟨validIdentifier_services.1, valid_reviewDigest⟩, valid_reviewDigest⟩,
      valid_reviewDigest⟩, valid_reviewDigest⟩, rfl⟩
  have hobservation : (reviewObservation P state offset).valid P = true := by
    unfold ExecutionRuntimeObservation.valid
    simp only [Bool.and_eq_true, beq_iff_eq]
    exact ⟨⟨⟨⟨⟨⟨P.validSha256_digest _, P.validSha256_digest _⟩,
      P.validSha256_digest _⟩, hsnapshot⟩, rfl⟩, rfl⟩, rfl⟩
  constructor
  · unfold validExecutionControllerAcknowledgement
    simp only [Bool.and_eq_true, beq_iff_eq]
    exact ⟨⟨⟨⟨⟨⟨⟨⟨⟨P.validSha256_digest _, P.validSha256_digest _⟩,
      P.validSha256_digest _⟩, validIdentifier_services.1⟩,
      P.validSha256_digest _⟩, rfl⟩,
      show decide (2 ≤ kMaximumCommands) = true from by decide⟩, rfl⟩,
      valid_reviewTag⟩, rfl⟩
  · unfold validExecutionMonitorAcknowledgement
    simp only [Bool.and_eq_true, beq_iff_eq]
    exact ⟨⟨⟨⟨⟨⟨P.validSha256_digest _, hobservation⟩, validIdentifier_services.2⟩,
      P.validSha256_digest _⟩, rfl⟩, valid_reviewTag⟩, rfl⟩

omit hkeys in
theorem valid_reviewOf : (reviewOf P state).valid P = true := by
  unfold ReviewedDeploymentProfile.valid reviewOf
  rw [valid_reviewProfile, valid_reviewApprovalSet]
  simp only [Bool.and_eq_true, beq_iff_eq]
  exact ⟨⟨trivial, trivial⟩, rfl⟩

omit hkeys in
/-- The atlas certifies the commands, whenever the second comes. -/
theorem compatible_reviewCommands (hoffset : 0 < offset) :
    (reviewCommands P offset).verifyCompatible P reviewAtlas = .ok () := by
  unfold ExecutionCommandSequence.verifyCompatible
  rw [valid_reviewCommands hoffset, if_neg, if_neg]
  · rfl
  · simp only [not_or, not_not]
    exact ⟨rfl, rfl, rfl, rfl⟩
  · show ¬(!true || (1 : Nat) == 0) = true
    decide

theorem approved_reviewSession (hstate : state = .active ∨ state = .retired)
    (hcheck : ∀ signature key message, P.ed25519Check signature key message = true) :
    verifyExecutionSessionApprovals P (reviewRequest P state offset)
      (reviewOf P state) (reviewSessionApprovalSet P state offset)
      (reviewBundle P state) = .ok () := by
  have hmatch : matchesProfileApproval (reviewOf P state)
      (reviewSessionApproval P state offset) = true := by
    show ((ascii "beta" == ascii "beta")
      && ((reviewerKey P state).id == (reviewerKey P state).id)
      && (DeploymentReviewRole.safety == .safety) || false) = true
    simp
  have hpolicy : validateSessionApprovalPolicy (reviewOf P state)
      [reviewSessionApproval P state offset] = .ok () := by
    unfold validateSessionApprovalPolicy
    rw [List.find?_cons_of_neg (by simp [hmatch])]
    rfl
  have hsigned : verifySessionApprovals P (reviewRequest P state offset)
      (reviewBundle P state) [reviewSessionApproval P state offset] = .ok () := by
    unfold verifySessionApprovals
    show (do
      let trusted ← trustedServicePublicKey P (reviewBundle P state)
        (ascii "beta") (reviewerKey P state).id .publish 1
      let signature ← decodeHex reviewTag kEd25519SignatureBytes
      let _ ← ed25519Verify P _ signature trusted.publicKey.toList
      Except.ok ()) = .ok ()
    rw [trusted_reviewerKey hstate, ok_bind, decodeHex_reviewTag, ok_bind,
      verify_reviewTag hcheck]
    rfl
  unfold verifyExecutionSessionApprovals
  rw [valid_reviewRequest hkeys, valid_reviewOf, valid_reviewBundle hstate,
    valid_reviewSessionApprovalSet,
    if_neg (show ¬(!true || !true || !true) = true from by decide),
    if_neg (show ¬(!true) = true from by decide), if_neg, check_eq_ok]
  · exact ⟨hpolicy, hsigned⟩
  · simp only [not_or, not_not]
    exact ⟨rfl, rfl, rfl, rfl, rfl⟩

theorem acknowledged_reviewSession
    (hcheck : ∀ signature key message, P.ed25519Check signature key message = true) :
    verifyExecutionControllerAcknowledgement P (reviewRequest P state offset)
        (reviewControllerAcknowledgement P state offset) = .ok ()
      ∧ verifyExecutionMonitorAcknowledgement P (reviewRequest P state offset)
        (reviewMonitorAcknowledgement P state offset) = .ok () := by
  obtain ⟨hcontroller, hmonitor⟩ :=
    @valid_reviewAcknowledgements P state offset
  constructor
  · unfold verifyExecutionControllerAcknowledgement
    rw [valid_reviewRequest hkeys, hcontroller,
      if_neg (show ¬(!true || !true) = true from by decide), if_neg]
    · show (do
        let signature ← decodeHex reviewTag kEd25519SignatureBytes
        ed25519Verify P _ signature (sampleKey P (ascii "alpha")).publicKey.toList)
        = .ok ()
      rw [decodeHex_reviewTag, ok_bind]
      exact verify_reviewTag hcheck _ _
    · simp only [not_or, not_not]
      exact ⟨rfl, rfl, rfl, rfl, rfl⟩
  · unfold verifyExecutionMonitorAcknowledgement
    rw [valid_reviewRequest hkeys, hmonitor,
      if_neg (show ¬(!true || !true) = true from by decide), if_neg]
    · show (do
        let signature ← decodeHex reviewTag kEd25519SignatureBytes
        ed25519Verify P _ signature (sampleKey P (ascii "beta")).publicKey.toList)
        = .ok ()
      rw [decodeHex_reviewTag, ok_bind]
      exact verify_reviewTag hcheck _ _
    · simp only [not_or, not_not]
      exact ⟨rfl, rfl, rfl, rfl⟩

theorem valid_reviewSession (hoffset : 0 < offset) :
    (reviewSession P state offset).valid P = true := by
  obtain ⟨hcontroller, hmonitor⟩ :=
    @valid_reviewAcknowledgements P state offset
  have hrequest : (reviewSession P state offset).request.valid P = true :=
    valid_reviewRequest hkeys
  have hcommands : (reviewSession P state offset).commandSequence.valid P = true :=
    valid_reviewCommands hoffset
  have hset : validExecutionSessionApprovalSet P
      (reviewSession P state offset).approvalSet = true :=
    valid_reviewSessionApprovalSet
  unfold BoundedExecutionSession.valid
  simp only [Bool.and_eq_true, beq_iff_eq]
  exact ⟨⟨⟨⟨⟨⟨⟨⟨⟨⟨⟨⟨⟨⟨P.validSha256_digest _, hrequest⟩, hcommands⟩, hset⟩,
    hcontroller⟩, hmonitor⟩, rfl⟩, rfl⟩, rfl⟩, rfl⟩, rfl⟩, rfl⟩, rfl⟩, rfl⟩, rfl⟩

/-- The session is created, whatever the schedule and whether the reviewer
is active or retired. -/
theorem create_reviewSession (hstate : state = .active ∨ state = .retired)
    (hcheck : ∀ signature key message, P.ed25519Check signature key message = true)
    (hoffset : 0 < offset) :
    BoundedExecutionSession.create P (reviewRequest P state offset)
      (reviewCommands P offset) (reviewSessionApprovalSet P state offset)
      (reviewControllerAcknowledgement P state offset)
      (reviewMonitorAcknowledgement P state offset) (reviewOf P state)
      (reviewBundle P state) reviewAtlas = .ok (reviewSession P state offset) := by
  obtain ⟨hcontroller, hmonitor⟩ :=
    @valid_reviewAcknowledgements P state offset
  obtain ⟨hcontroller', hmonitor'⟩ :=
    @acknowledged_reviewSession P state offset hkeys hcheck
  have hassess : ∃ assessment, (reviewOf P state).assess P reviewSnapshot
      = .ok assessment ∧ assessment.status = .conformant
      ∧ assessment.evidence = .unknown := by
    have hsnapshot : validDeploymentRuntimeSnapshot reviewSnapshot = true := by
      unfold validDeploymentRuntimeSnapshot
      simp only [Bool.and_eq_true]
      exact ⟨⟨⟨⟨⟨validIdentifier_services.1, valid_reviewDigest⟩,
        valid_reviewDigest⟩, valid_reviewDigest⟩, valid_reviewDigest⟩, rfl⟩
    have hnone : constraintViolations (reviewOf P state).profile reviewSnapshot
        = [] := by
      show constraintViolations { (reviewProfile P state) with
        deploymentId := ascii "alpha" } reviewSnapshot = []
      simp [constraintViolations, constraintChecks, reviewSnapshot, reviewProfile]
    unfold ReviewedDeploymentProfile.assess
    rw [valid_reviewOf, hsnapshot, hnone,
      if_neg (show ¬(!true || !true) = true from by decide)]
    exact ⟨_, rfl, rfl, rfl⟩
  obtain ⟨assessment, hassess, hstatus, hevidence⟩ := hassess
  unfold BoundedExecutionSession.create
  rw [valid_reviewRequest hkeys, valid_reviewCommands hoffset,
    valid_reviewSessionApprovalSet, hcontroller, hmonitor, valid_reviewOf,
    valid_reviewBundle hstate,
    if_neg (show ¬(!true || !true || !true || !true || !true || !true || !true)
      = true from by decide), if_neg]
  · rw [compatible_reviewCommands hoffset, ok_bind,
      approved_reviewSession hkeys hstate hcheck, ok_bind, hcontroller', ok_bind,
      hmonitor', ok_bind]
    have harmed : ¬(reviewMonitorAcknowledgement P state offset).observation.monitorState
        ≠ .armedCertifiedSequence := fun h => h rfl
    rw [if_neg harmed, bind_eq_ok]
    refine ⟨assessment, hassess, ?_⟩
    have hconformant : ¬(assessment.status ≠ .conformant
        ∨ assessment.evidence ≠ .unknown
        ∨ assessment.authorizesExecution = true) := by
      rw [hstatus, hevidence]
      rintro (h | h | h)
      · exact h rfl
      · exact h rfl
      · cases h
    have hdeadline : checkedAdd
        (reviewMonitorAcknowledgement P state offset).observation.observedMonotonicNs
        (reviewRequest P state offset).limits.maximumStartDelayNs = some 10000001 :=
      show checkedAdd 1 10000000 = some 10000001 from by decide
    have hthrough : checkedAdd
        (reviewMonitorAcknowledgement P state offset).observation.observedMonotonicNs
        (reviewRequest P state offset).limits.maximumDurationNs = some 100000001 :=
      show checkedAdd 1 100000000 = some 100000001 from by decide
    rw [if_neg hconformant, if_neg, hdeadline, hthrough]
    · exact if_neg (by
        rw [Bool.not_eq_true, Bool.not_eq_false']
        exact valid_reviewSession hkeys hoffset)
    · show ¬((0 : UInt64) > 100000000 ∨ (100000000 : UInt64) > 100000000 - 0)
      decide
  · simp only [not_or, not_not]
    exact ⟨rfl, rfl, rfl, rfl, rfl, rfl, rfl, rfl, rfl, rfl, rfl⟩

/-- The ledger takes a retired reviewer for inactive. -/
theorem inactive_retiredReviewer :
    inactiveReviewerKey P (reviewSession P .retired 1) (reviewBundle P .retired)
      = .ok (some (reviewerKey P .retired).id) := by
  unfold inactiveReviewerKey
  rw [valid_reviewSession hkeys (by decide), valid_reviewBundle (Or.inr rfl),
    if_neg (by decide)]
  show inactiveReviewer P (reviewBundle P .retired)
    [reviewSessionApproval P .retired 1] = _
  unfold inactiveReviewer
  show (do
    let key ← (reviewBundle P .retired).key P (ascii "beta")
      (reviewerKey P .retired).id
    if key.any (reviewerActive (reviewBundle P .retired)) then _
    else Except.ok (some (reviewerKey P .retired).id)) = _
  rw [(key_reviewBundle (Or.inr rfl)).2, ok_bind]
  rfl

end

end

-- === active, and retired since

/-- The endpoints of the session have different ids. -/
theorem endpoints_differ :
    (reviewEndpoint (host fun _ _ _ => true) (ascii "alpha") .controller).id
      ≠ (reviewEndpoint (host fun _ _ _ => true) (ascii "beta")
        .runtimeMonitor).id := by
  decide +kernel

theorem reviewed_by_active_iff_active :
    ∃ head, (reviewHistory (host fun _ _ _ => true) .active).currentBundle
        (host fun _ _ _ => true) = .ok head
      ∧ KeptByActive (host fun _ _ _ => true)
        (reviewHistory (host fun _ _ _ => true) .active) head
        (reviewOf (host fun _ _ _ => true) .active) := by
  have hcreated := @create_review (host fun _ _ _ => true) .active
    (Or.inl rfl) fun _ _ _ => rfl
  obtain ⟨head, hcurrent, -, hkept⟩ :=
    reviewed_by_active_iff injOn_reviewDocuments hcreated
  refine ⟨head, hcurrent, hkept.mpr ?_⟩
  rw [current_reviewHistory (Or.inl rfl), Except.ok.injEq] at hcurrent
  rw [← hcurrent]
  exact noneRetired_review

/-- A reviewer whose key is retired at the head: the profile is reviewed
and a session of it is created all the same, and the ledger finds the
reviewer inactive at that head. -/
theorem retired_reviewer_accepted :
    ReviewedDeploymentProfile.create (host fun _ _ _ => true)
        (reviewProfile (host fun _ _ _ => true) .retired)
        (reviewApprovalSet (host fun _ _ _ => true) .retired)
        (reviewHistory (host fun _ _ _ => true) .retired)
        (reviewCheckpoint (host fun _ _ _ => true) .retired)
        (reviewCheckpoint (host fun _ _ _ => true) .retired).id
      = .ok (reviewOf (host fun _ _ _ => true) .retired)
    ∧ BoundedExecutionSession.create (host fun _ _ _ => true)
        (reviewRequest (host fun _ _ _ => true) .retired 1)
        (reviewCommands (host fun _ _ _ => true) 1)
        (reviewSessionApprovalSet (host fun _ _ _ => true) .retired 1)
        (reviewControllerAcknowledgement (host fun _ _ _ => true) .retired 1)
        (reviewMonitorAcknowledgement (host fun _ _ _ => true) .retired 1)
        (reviewOf (host fun _ _ _ => true) .retired)
        (reviewBundle (host fun _ _ _ => true) .retired) reviewAtlas
      = .ok (reviewSession (host fun _ _ _ => true) .retired 1)
    ∧ inactiveReviewerKey (host fun _ _ _ => true)
        (reviewSession (host fun _ _ _ => true) .retired 1)
        (reviewBundle (host fun _ _ _ => true) .retired)
      = .ok (some (reviewerKey (host fun _ _ _ => true) .retired).id)
    ∧ ¬ReviewedByActive (host fun _ _ _ => true)
        (reviewBundle (host fun _ _ _ => true) .retired)
        (reviewOf (host fun _ _ _ => true) .retired) := by
  exact ⟨create_review (Or.inr rfl) fun _ _ _ => rfl,
    create_reviewSession endpoints_differ (Or.inr rfl) (fun _ _ _ => rfl)
      (by decide), inactive_retiredReviewer endpoints_differ, not_reviewedByActive⟩

end RbfSafe
