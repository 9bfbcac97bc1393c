/-
When the audit of verified gossip returns a report.

A message may name any listed checkpoint as the start of its proof, also
one that is not smaller than its own. Such a proof never verifies, its
conflict is not valid, and neither is the report: the audit ends in an
internal error. Where every proof starts from a smaller checkpoint, the
audit reports every failed proof and forgets the order of the messages
(`gossipAudit_iff`).

The results assume that the digests of the documents at hand do not
collide: those of the listed checkpoints, and those of the conflicts
between listed messages.
-/
import RbfSafe.Identity.Proofs.Checkpoint
import RbfSafe.Transparency.Proofs.Publication
import RbfSafe.Witness.Proofs.Conflicts

namespace RbfSafe

open Lib.Sorting

variable (P : Platform)

-- === the audit

/-- The options with which the audit starts. -/
def TransparencyGossipAuditOptions.Usable
    (options : TransparencyGossipAuditOptions) : Prop :=
  options.maximumGossipMessages ≠ 0 ∧ options.maximumUniqueCheckpoints ≠ 0 ∧
    options.maximumPairChecks ≠ 0 ∧ options.maximumGraphSteps ≠ 0

/-- Every listed proof that names a listed checkpoint starts from a
smaller one. -/
def ForwardProofs (gossip : List TransparencyCheckpointGossip) : Prop :=
  ∀ m ∈ gossip, ∀ n ∈ gossip, ∀ proof, n.consistencyProof = some proof →
    proof.oldCheckpointId = m.checkpoint.id →
    m.checkpoint.treeSize < n.checkpoint.treeSize

/-- The audit returns a valid report that names every failed proof, and
the same one for every order of the messages. -/
def GossipAudited (identity : TransparencyLogIdentity)
    (gossip : List TransparencyCheckpointGossip)
    (trustBundle : ServiceTrustBundle)
    (options : TransparencyGossipAuditOptions) : Prop :=
  ∃ report, auditTransparencyCheckpointGossip P identity gossip trustBundle
      options = .ok report ∧ report.valid P = true ∧
    (∀ m ∈ gossip, ∀ n ∈ gossip, ∀ proof, n.consistencyProof = some proof →
      proof.oldCheckpointId = m.checkpoint.id →
      verifyTransparencyCompactConsistency P identity m.checkpoint n.checkpoint
        proof ≠ .ok () →
      report.status = .splitView ∧ ∃ c ∈ report.conflicts,
        c.type = .invalidConsistencyProof ∧
          c.firstCheckpointId = m.checkpoint.id ∧ c.secondGossipId = n.id ∧
          c.secondCheckpointId = n.checkpoint.id ∧
          c.consistencyProofId = proof.id) ∧
    ∀ gossip', gossip.Perm gossip' →
      auditTransparencyCheckpointGossip P identity gossip' trustBundle options
        = .ok report

section
variable {identity : TransparencyLogIdentity}
  {gossip : List TransparencyCheckpointGossip}
  {trustBundle : ServiceTrustBundle}
  {options : TransparencyGossipAuditOptions}

theorem audit_ok {report : TransparencyGossipAuditReport}
    (h : auditTransparencyCheckpointGossip P identity gossip trustBundle options
      = .ok report) :
    identity.valid P = true ∧ trustBundle.valid P = true ∧ options.Usable ∧
      (∀ m ∈ gossip, verifyTransparencyCheckpointGossip P identity m trustBundle
        = .ok ()) ∧
      auditGroups P identity trustBundle options gossip.length
        (sortGroups (collect [] gossip)) = .ok report := by
  unfold auditTransparencyCheckpointGossip at h
  rw [ite_failure_eq_ok, ite_failure_eq_ok, ite_failure_eq_ok] at h
  obtain ⟨hinput, -, -, h⟩ := h
  obtain ⟨groups, hcollect, h⟩ := bind_eq_ok.mp h
  obtain ⟨rfl, hverified⟩ := collectGroups_ok hcollect
  simp only [Bool.or_eq_true, Bool.not_eq_true', beq_iff_eq, not_or,
    Bool.not_eq_false] at hinput
  obtain ⟨⟨⟨⟨⟨hidentity, hbundle⟩, hmessages⟩, hcheckpoints⟩, hpairs⟩, hsteps⟩ :=
    hinput
  exact ⟨hidentity, hbundle, ⟨hmessages, hcheckpoints, hpairs, hsteps⟩,
    hverified, h⟩

/-- Verified messages reach the passes, or a limit. -/
theorem audit_eq (hidentity : identity.valid P = true)
    (hbundle : trustBundle.valid P = true) (husable : options.Usable)
    (hcancelled : options.cancelled = false)
    (hverified : ∀ m ∈ gossip,
      verifyTransparencyCheckpointGossip P identity m trustBundle = .ok ())
    (hnodup : (gossip.map (·.id)).Nodup) :
    auditTransparencyCheckpointGossip P identity gossip trustBundle options
      = if gossip.length > options.maximumGossipMessages then
          failure .resourceLimit
            "transparency gossip message count exceeds configured limit"
        else if (collect [] gossip).length
            > options.maximumUniqueCheckpoints then
          failure .resourceLimit
            "transparency gossip unique checkpoint count exceeds configured limit"
        else
          auditGroups P identity trustBundle options gossip.length
            (sortGroups (collect [] gossip)) := by
  obtain ⟨hmessages, hcheckpoints, hpairs, hsteps⟩ := husable
  have hinput : (!identity.valid P || !trustBundle.valid P
      || options.maximumGossipMessages == 0
      || options.maximumUniqueCheckpoints == 0
      || options.maximumPairChecks == 0
      || options.maximumGraphSteps == 0) = false := by
    simp [hidentity, hbundle, hmessages, hcheckpoints, hpairs, hsteps]
  have hempty : ([] : List (Bytes × CheckpointGroup)).length
      ≤ options.maximumUniqueCheckpoints := Nat.zero_le _
  unfold auditTransparencyCheckpointGossip
  rw [hinput, if_neg Bool.false_ne_true, hcancelled, if_neg Bool.false_ne_true,
    collectGroups_eq hcancelled hverified hnodup
      (fun _ _ => List.not_mem_nil) hempty]
  by_cases hlength : gossip.length > options.maximumGossipMessages
  · rw [if_pos hlength, if_pos hlength]
  rw [if_neg hlength, if_neg hlength]
  by_cases hgroups : (collect [] gossip).length
      > options.maximumUniqueCheckpoints
  · rw [if_pos hgroups, if_pos hgroups]
    rfl
  · rw [if_neg hgroups, if_neg hgroups, ok_bind]

omit P in
theorem grouped_collect (gossip : List TransparencyCheckpointGossip) :
    Grouped gossip (sortGroups (collect [] gossip)) :=
  (collected gossip).grouped

omit P in
theorem length_groups_le {groups : List CheckpointGroup}
    (h : Grouped gossip groups) : groups.length ≤ gossip.length := by
  have hsub : groups.map (·.checkpoint.id) ⊆ gossip.map (·.checkpoint.id) := by
    intro id hid
    obtain ⟨group, hgroup, rfl⟩ := List.mem_map.mp hid
    obtain ⟨m, hm, hcheckpoint⟩ := h.checkpoint group hgroup
    exact List.mem_map.mpr ⟨m, h.mem hgroup hm, by rw [hcheckpoint]⟩
  simpa using (h.distinct.subperm hsub).length_le

/-- The audit is the same for every order of the messages. -/
theorem audit_perm {gossip' : List TransparencyCheckpointGossip}
    (hidentity : identity.valid P = true)
    (hbundle : trustBundle.valid P = true) (husable : options.Usable)
    (hcancelled : options.cancelled = false)
    (hverified : ∀ m ∈ gossip,
      verifyTransparencyCheckpointGossip P identity m trustBundle = .ok ())
    (hnodup : (gossip.map (·.id)).Nodup)
    (hcheckpoints : Set.InjOn P.sha256 (checkpointDocuments P.toLibc gossip))
    (hperm : gossip.Perm gossip') :
    auditTransparencyCheckpointGossip P identity gossip' trustBundle options
      = auditTransparencyCheckpointGossip P identity gossip trustBundle
        options := by
  have hvalid : ∀ m ∈ gossip, m.valid P = true :=
    fun m hm => (gossip_verified P (hverified m hm)).2.1
  have hcollected := collected gossip
  have hcollected' := collected gossip'
  have hgroups := sortGroups_congr hperm hcollected hcollected'
    (fun m hm n hn hid => List.inj_on_of_nodup_map hnodup hm hn hid)
    (checkpoint_inj P hvalid hcheckpoints)
  have hlength : (collect [] gossip).length = (collect [] gossip').length := by
    simpa using congrArg List.length (keys_congr hperm hcollected hcollected')
  rw [audit_eq P hidentity hbundle husable hcancelled hverified hnodup,
    audit_eq P hidentity hbundle husable hcancelled
      (fun m hm => hverified m (hperm.mem_iff.mpr hm))
      ((hperm.map _).nodup_iff.mp hnodup),
    hperm.length_eq, hgroups, hlength]

/-- With a proof that does not start from a smaller checkpoint there is
no report. -/
theorem not_audited (hverified : ∀ m ∈ gossip,
      verifyTransparencyCheckpointGossip P identity m trustBundle = .ok ())
    (hcheckpoints : Set.InjOn P.sha256 (checkpointDocuments P.toLibc gossip))
    (hconflicts : Set.InjOn P.sha256 (conflictDocuments P identity gossip))
    (hback : ¬ForwardProofs gossip) :
    ¬∃ report, auditTransparencyCheckpointGossip P identity gossip trustBundle
        options = .ok report ∧ report.valid P = true := by
  rintro ⟨report, haudit, hreport⟩
  apply hback
  intro m hm n hn proof hproof hold
  by_contra hlt
  have hvalid : ∀ m ∈ gossip, m.valid P = true :=
    fun m hm => (gossip_verified P (hverified m hm)).2.1
  have hsame := checkpoint_inj P hvalid hcheckpoints
  have hgrouped := grouped_collect gossip
  obtain ⟨-, -, -, -, hgroups⟩ := audit_ok P haudit
  have hfail : verifyTransparencyCompactConsistency P identity m.checkpoint
      n.checkpoint proof ≠ .ok () := fun h => hlt (compactConsistency_lt P h)
  obtain ⟨c, hc, htype, -, -, -, hfirst, hsecond, -⟩ :=
    failed_constructed P hgrouped hsame hm hn hproof hold hfail
  obtain ⟨c', hc', hid⟩ := key_mem_sortUnique TransparencyGossipConflict.id hc
  have hlisted := constructed_gossipConflict P hgrouped hsame hc
  have heq : c' = c := conflict_inj P hconflicts
    (constructed_gossipConflict P hgrouped hsame (mem_of_mem_sortUnique _ hc'))
    hlisted hid
  have hmem : c ∈ report.conflicts := by
    rw [(auditGroups_ok P hgroups).1, ← heq]
    exact hc'
  unfold TransparencyGossipAuditReport.valid at hreport
  simp only [Bool.and_eq_true, List.all_eq_true] at hreport
  have hforward := (hlisted.valid_iff P hvalid).mp (hreport.1.1.2 c hmem) htype
  rw [hfirst, hsecond] at hforward
  exact hlt hforward

theorem gossipStatus_of_mem {c : TransparencyGossipConflict}
    {conflicts : List TransparencyGossipConflict} (h : c ∈ conflicts)
    (unlinked : Nat) : gossipStatus conflicts unlinked = .splitView := by
  unfold gossipStatus
  rw [if_pos]
  cases conflicts with
  | nil => exact absurd h List.not_mem_nil
  | cons _ _ => rfl

/-- Within the limits the audit returns the report of its passes, if that
is valid. -/
theorem audit_outcome (hidentity : identity.valid P = true)
    (hbundle : trustBundle.valid P = true) (husable : options.Usable)
    (hcancelled : options.cancelled = false)
    (hverified : ∀ m ∈ gossip,
      verifyTransparencyCheckpointGossip P identity m trustBundle = .ok ())
    (hnodup : (gossip.map (·.id)).Nodup)
    (hlimit : ∀ e, auditTransparencyCheckpointGossip P identity gossip
      trustBundle options = .error e → e.code ≠ .resourceLimit) :
    ∃ counts, auditTransparencyCheckpointGossip P identity gossip trustBundle
        options
      = if (auditReport P identity trustBundle gossip.length
            (sortGroups (collect [] gossip)).length
            (constructedConflicts P identity (sortGroups (collect [] gossip)))
            counts).valid P then
          .ok (auditReport P identity trustBundle gossip.length
            (sortGroups (collect [] gossip)).length
            (constructedConflicts P identity (sortGroups (collect [] gossip)))
            counts)
        else failure .internalError
          "constructed transparency gossip audit report is invalid" := by
  rw [audit_eq P hidentity hbundle husable hcancelled hverified hnodup]
    at hlimit ⊢
  by_cases hlength : gossip.length > options.maximumGossipMessages
  · rw [if_pos hlength] at hlimit
    exact absurd rfl (hlimit _ rfl)
  rw [if_neg hlength] at hlimit ⊢
  by_cases hgroups : (collect [] gossip).length
      > options.maximumUniqueCheckpoints
  · rw [if_pos hgroups] at hlimit
    exact absurd rfl (hlimit _ rfl)
  rw [if_neg hgroups] at hlimit ⊢
  exact auditGroups_eq P hcancelled hlimit

/-- Where every proof starts from a smaller checkpoint, it is valid. -/
theorem audit_report (hidentity : identity.valid P = true)
    (hbundle : trustBundle.valid P = true) (husable : options.Usable)
    (hcancelled : options.cancelled = false)
    (hverified : ∀ m ∈ gossip,
      verifyTransparencyCheckpointGossip P identity m trustBundle = .ok ())
    (hnodup : (gossip.map (·.id)).Nodup)
    (hlimit : ∀ e, auditTransparencyCheckpointGossip P identity gossip
      trustBundle options = .error e → e.code ≠ .resourceLimit)
    (hcheckpoints : Set.InjOn P.sha256 (checkpointDocuments P.toLibc gossip))
    (hforward : ForwardProofs gossip) :
    ∃ report, auditTransparencyCheckpointGossip P identity gossip trustBundle
        options = .ok report ∧ report.valid P = true := by
  have hvalid : ∀ m ∈ gossip, m.valid P = true :=
    fun m hm => (gossip_verified P (hverified m hm)).2.1
  have hsame := checkpoint_inj P hvalid hcheckpoints
  have hgrouped := grouped_collect gossip
  have hconflicts : ∀ c ∈ sortConflicts (constructedConflicts P identity
      (sortGroups (collect [] gossip))), c.valid P = true := by
    intro c hc
    have hlisted := constructed_gossipConflict P hgrouped hsame
      (mem_of_mem_sortUnique _ hc)
    refine (hlisted.valid_iff P hvalid).mpr fun htype => ?_
    cases hlisted with
    | sameSize hm hn hsize hid => cases htype
    | @invalidProof m n proof hm hn hproof hold hfail =>
        exact hforward m hm n hn proof hproof hold
  obtain ⟨counts, heq⟩ := audit_outcome P hidentity hbundle husable hcancelled
    hverified hnodup hlimit
  have hreport := (@valid_auditReport P _ _ _ _ _ counts hidentity hbundle
    (length_groups_le hgrouped)).mpr hconflicts
  rw [heq, if_pos hreport]
  exact ⟨_, rfl, hreport⟩

/-- **When the audit of verified gossip returns.** For messages that
verify, with ids of their own and no limit exceeded, the audit returns a
valid report that names every failed proof and does not depend on their
order exactly when every proof that names a listed checkpoint starts from
a smaller one. -/
theorem gossipAudit_iff (hcancelled : options.cancelled = false)
    (hverified : ∀ m ∈ gossip,
      verifyTransparencyCheckpointGossip P identity m trustBundle = .ok ())
    (hnodup : (gossip.map (·.id)).Nodup)
    (hlimit : ∀ e, auditTransparencyCheckpointGossip P identity gossip
      trustBundle options = .error e → e.code ≠ .resourceLimit)
    (hcheckpoints : Set.InjOn P.sha256 (checkpointDocuments P.toLibc gossip))
    (hconflicts : Set.InjOn P.sha256 (conflictDocuments P identity gossip)) :
    GossipAudited P identity gossip trustBundle options ↔
      identity.valid P = true ∧ trustBundle.valid P = true ∧ options.Usable ∧
        ForwardProofs gossip := by
  constructor
  · rintro ⟨report, haudit, hreport, -, -⟩
    obtain ⟨hidentity, hbundle, husable, -, -⟩ := audit_ok P haudit
    refine ⟨hidentity, hbundle, husable, ?_⟩
    by_contra hback
    exact not_audited P hverified hcheckpoints hconflicts hback
      ⟨report, haudit, hreport⟩
  · rintro ⟨hidentity, hbundle, husable, hforward⟩
    have hvalid : ∀ m ∈ gossip, m.valid P = true :=
      fun m hm => (gossip_verified P (hverified m hm)).2.1
    have hsame := checkpoint_inj P hvalid hcheckpoints
    have hgrouped := grouped_collect gossip
    obtain ⟨report, haudit, hreport⟩ := audit_report P hidentity hbundle husable
      hcancelled hverified hnodup hlimit hcheckpoints hforward
    obtain ⟨-, -, -, -, hgroups⟩ := audit_ok P haudit
    obtain ⟨hreported, hstatus, -⟩ := auditGroups_ok P hgroups
    refine ⟨report, haudit, hreport, ?_, ?_⟩
    · intro m hm n hn proof hproof hold hfail
      obtain ⟨c, hc, htype, hfirst, hgossip, hsecond, -, -, hproofId⟩ :=
        failed_constructed P hgrouped hsame hm hn hproof hold hfail
      obtain ⟨c', hc', hid⟩ :=
        key_mem_sortUnique TransparencyGossipConflict.id hc
      have heq : c' = c := conflict_inj P hconflicts
        (constructed_gossipConflict P hgrouped hsame
          (mem_of_mem_sortUnique _ hc'))
        (constructed_gossipConflict P hgrouped hsame hc) hid
      have hmem : c ∈ report.conflicts := by
        rw [hreported, ← heq]
        exact hc'
      refine ⟨?_, c, hmem, htype, hfirst, hgossip, hsecond, hproofId⟩
      rw [hstatus]
      exact gossipStatus_of_mem hmem _
    · intro gossip' hperm
      rw [audit_perm P hidentity hbundle husable hcancelled hverified hnodup
        hcheckpoints hperm]
      exact haudit

end

-- === one message

/-- A proof from the checkpoint of its own message is no edge. -/
theorem verifiedEdge_single (identity : TransparencyLogIdentity)
    (message : TransparencyCheckpointGossip) :
    verifiedEdge P identity [message.group] ((message.group, 0), message)
      = none := by
  unfold verifiedEdge
  cases hold : oldGroup [message.group] message with
  | none => rfl
  | some found =>
      obtain ⟨old, proof⟩ := found
      obtain ⟨-, hfind⟩ := oldGroup_eq_some.mp hold
      have hgroup : old.1 = message.group := by
        have hget := (findGroup_eq_some hfind).1
        exact List.mem_singleton.mp (List.mem_of_getElem? hget)
      cases hverify : verifyTransparencyCompactConsistency P identity
          old.1.checkpoint message.group.checkpoint proof with
      | error _ => simp [hverify]
      | ok u =>
          have hlt := compactConsistency_lt P hverify
          rw [hgroup] at hlt
          exact absurd hlt (UInt64.lt_irrefl _)

/-- The passes over one group meet no limit. -/
theorem auditGroups_single {identity : TransparencyLogIdentity}
    {trustBundle : ServiceTrustBundle}
    {options : TransparencyGossipAuditOptions} {gossipCount : Nat}
    (hcancelled : options.cancelled = false)
    (message : TransparencyCheckpointGossip) :
    auditGroups P identity trustBundle options gossipCount [message.group]
      = if (auditReport P identity trustBundle gossipCount 1
            (constructedConflicts P identity [message.group])
            { pairChecks := 0 }).valid P then
          .ok (auditReport P identity trustBundle gossipCount 1
            (constructedConflicts P identity [message.group])
            { pairChecks := 0 })
        else failure .internalError
          "constructed transparency gossip audit report is invalid" := by
  have hpass : sameSizePass P options 0 [] [message.group] = .ok (0, []) := rfl
  have hedges : (proofPass P identity [message.group] []).edges = [[]] := by
    have hchecks : gossipChecks [message.group]
        = [((message.group, 0), message)] := rfl
    rw [proofPass_eq, hchecks, List.foldl_cons, List.foldl_nil]
    rw [proofStep_eq P identity _ ((message.group, 0), message),
      verifiedEdge_single]
    rfl
  have hsorted : [([] : List Nat)].map sortEdges = [[]] := by
    simp [sortEdges, sortUnique, sort]
  have hsearch : search options [[]] ⟨0, [true], [0]⟩ = .ok ⟨0, [true], []⟩ := by
    rw [search_cons hcancelled rfl rfl]
    exact search_nil rfl
  have htraverse : traverse options [[]] 0 { pairChecks := 0 }
      [message.group].zipIdx = .ok { pairChecks := 0 } := by
    show (search options [[]] ⟨0, [true], [0]⟩ >>= _) = _
    rw [hsearch]
    rfl
  unfold auditGroups
  rw [hpass, ok_bind]
  simp only [hedges, hsorted, htraverse, ok_bind, proofPass_conflicts]
  show (if !(auditReport P identity trustBundle gossipCount 1
    (constructedConflicts P identity [message.group])
    { pairChecks := 0 }).valid P then _ else _) = _
  cases (auditReport P identity trustBundle gossipCount 1
    (constructedConflicts P identity [message.group])
    { pairChecks := 0 }).valid P <;> rfl

theorem verified_single {identity : TransparencyLogIdentity}
    {message : TransparencyCheckpointGossip} {trustBundle : ServiceTrustBundle}
    (hverified : verifyTransparencyCheckpointGossip P identity message
      trustBundle = .ok ()) :
    ∀ m ∈ [message], verifyTransparencyCheckpointGossip P identity m trustBundle
      = .ok () := by
  intro m hm
  rw [List.mem_singleton.mp hm]
  exact hverified

omit P in
theorem usable_default : ({} : TransparencyGossipAuditOptions).Usable := by
  refine ⟨?_, ?_, ?_, ?_⟩ <;> decide

/-- Neither does the audit of one message. -/
theorem audit_single {identity : TransparencyLogIdentity}
    {message : TransparencyCheckpointGossip} {trustBundle : ServiceTrustBundle}
    (hverified : verifyTransparencyCheckpointGossip P identity message
      trustBundle = .ok ()) :
    auditTransparencyCheckpointGossip P identity [message] trustBundle {}
      = if (auditReport P identity trustBundle 1 1
            (constructedConflicts P identity [message.group])
            { pairChecks := 0 }).valid P then
          .ok (auditReport P identity trustBundle 1 1
            (constructedConflicts P identity [message.group])
            { pairChecks := 0 })
        else failure .internalError
          "constructed transparency gossip audit report is invalid" := by
  obtain ⟨hidentity, -, hbundle⟩ := gossip_verified P hverified
  have hgroups : sortGroups (collect [] [message]) = [message.group] := by
    simp [collect, addToGroup, sortGroups, sortGossip, sort,
      TransparencyCheckpointGossip.group]
  rw [audit_eq P hidentity hbundle usable_default rfl
    (verified_single P hverified) (List.nodup_singleton _), if_neg (by simp),
    if_neg (by simp [collect, addToGroup]), hgroups]
  exact auditGroups_single P rfl message

theorem limit_single {identity : TransparencyLogIdentity}
    {message : TransparencyCheckpointGossip} {trustBundle : ServiceTrustBundle}
    (hverified : verifyTransparencyCheckpointGossip P identity message
      trustBundle = .ok ()) :
    ∀ e, auditTransparencyCheckpointGossip P identity [message] trustBundle {}
      = .error e → e.code ≠ .resourceLimit := by
  intro e he
  rw [audit_single P hverified] at he
  split at he
  · cases he
  · cases he
    exact fun h => by cases h

/-- The documents of one message do not collide. -/
theorem injOn_single (identity : TransparencyLogIdentity)
    (message : TransparencyCheckpointGossip) :
    Set.InjOn P.sha256 (checkpointDocuments P.toLibc [message]) ∧
      Set.InjOn P.sha256 (conflictDocuments P identity [message]) := by
  constructor
  · rintro x ⟨m, hm, rfl⟩ y ⟨n, hn, rfl⟩ -
    rw [List.mem_singleton.mp hm, List.mem_singleton.mp hn]
  · have hconflict : ∀ c, GossipConflict P identity [message] c →
        ∃ proof, message.consistencyProof = some proof ∧
          c = invalidProofConflict P message.group message.group message
            proof := by
      rintro c (⟨hm, hn, -, hid⟩ | ⟨hm, hn, hproof, -, -⟩)
      · rw [List.mem_singleton.mp hm, List.mem_singleton.mp hn] at hid
        exact absurd rfl hid
      · rw [List.mem_singleton.mp hn] at hproof ⊢
        rw [List.mem_singleton.mp hm]
        exact ⟨_, hproof, rfl⟩
    rintro x ⟨c, hc, rfl⟩ y ⟨c', hc', rfl⟩ -
    obtain ⟨proof, hproof, rfl⟩ := hconflict c hc
    obtain ⟨proof', hproof', rfl⟩ := hconflict c' hc'
    rw [hproof, Option.some.injEq] at hproof'
    rw [hproof']

-- === a gossiped checkpoint

/-- A cosignature of the first service. -/
def sampleCosignature (checkpoint : TransparencyLogCheckpoint)
    (signature : Bytes) : TransparencyCheckpointCosignature :=
  let cosignature : TransparencyCheckpointCosignature :=
    { logId := (sampleIdentity P).id
      checkpointId := checkpoint.id
      treeSize := checkpoint.treeSize
      rootHash := checkpoint.rootHash
      trustBundleId := (sampleBundle P).id
      trustBundleSequence := 1
      witnessServiceId := ascii "alpha"
      witnessKeyId := (sampleKey P (ascii "alpha")).id
      authenticationTag := encodeHex signature }
  { cosignature with
    id := transparencyCheckpointCosignatureIdentity P cosignature }

/-- A checkpoint with this witness. -/
def sampleWitnessed (checkpoint : TransparencyLogCheckpoint)
    (signature : Bytes) : WitnessedTransparencyCheckpoint :=
  let witnessed : WitnessedTransparencyCheckpoint :=
    { logId := (sampleIdentity P).id
      trustBundleId := (sampleBundle P).id
      trustBundleSequence := 1
      policy := { minimumWitnesses := 1 }
      checkpoint := checkpoint
      cosignatures := [sampleCosignature P checkpoint signature] }
  { witnessed with id := witnessedTransparencyCheckpointIdentity P witnessed }

/-- A message of the second service about it. -/
def sampleMessage (checkpoint : TransparencyLogCheckpoint)
    (proof : Option TransparencyCompactConsistencyProof)
    (witnessSignature signature : Bytes) : TransparencyCheckpointGossip :=
  let gossip : TransparencyCheckpointGossip :=
    { logId := (sampleIdentity P).id
      senderSequence := 1
      recipientServiceId := ascii "alpha"
      senderServiceId := ascii "beta"
      senderKeyId := (sampleKey P (ascii "beta")).id
      trustBundleId := (sampleBundle P).id
      trustBundleSequence := 1
      witnessedCheckpoint := sampleWitnessed P checkpoint witnessSignature
      consistencyProof := proof
      authenticationTag := encodeHex signature }
  { gossip with id := transparencyCheckpointGossipIdentity P gossip }

/-- The proof of a leaf twice after that leaf, but from the checkpoint it
ends at. -/
def sampleSelfProof : TransparencyCompactConsistencyProof :=
  let hash := transparencyLeafHash P (sampleRecord₁ P).leaf.id
  let proof : TransparencyCompactConsistencyProof :=
    { logId := (sampleIdentity P).id
      oldCheckpointId := (sampleTwin P).id
      newCheckpointId := (sampleTwin P).id
      oldTreeSize := 1
      newTreeSize := 2
      oldRootHash := hash
      newRootHash := (sampleTwin P).rootHash
      oldFrontier := [⟨0, hash⟩]
      appendedSubtrees := [⟨0, hash⟩] }
  { proof with id := transparencyCompactConsistencyProofIdentity P proof }

def sampleWitnessSignature : Bytes :=
  [156, 201, 24, 209, 175, 246, 91, 179, 87, 182, 25, 34, 89, 171, 183,
    219, 192, 72, 228, 121, 88, 90, 249, 12, 106, 73, 73, 142, 57, 242, 19,
    63, 174, 252, 91, 79, 246, 211, 58, 109, 34, 165, 232, 96, 201, 3, 227,
    11, 143, 213, 131, 76, 134, 53, 161, 244, 103, 92, 133, 199, 132, 72, 0,
    15]

def sampleGossipSignature : Bytes :=
  [213, 234, 236, 106, 48, 247, 110, 118, 226, 10, 60, 73, 37, 41, 228,
    15, 30, 186, 74, 170, 164, 220, 211, 118, 188, 133, 215, 235, 128, 194,
    15, 31, 47, 39, 28, 126, 241, 153, 160, 166, 236, 189, 61, 62, 22, 212,
    180, 7, 173, 80, 1, 110, 198, 175, 129, 112, 201, 142, 54, 7, 102, 82,
    131, 14]

def sampleSelfSignature : Bytes :=
  [12, 43, 243, 37, 17, 236, 123, 160, 87, 241, 145, 196, 24, 105, 24, 7,
    179, 199, 61, 249, 229, 101, 43, 81, 215, 233, 165, 121, 111, 63, 236,
    110, 213, 48, 154, 12, 68, 119, 21, 188, 202, 63, 103, 235, 96, 112, 13,
    183, 95, 58, 203, 169, 12, 249, 111, 254, 40, 236, 11, 108, 236, 166,
    17, 0]

/-- A message without a proof. -/
def sampleGossip : TransparencyCheckpointGossip :=
  sampleMessage P (sampleTwin P) none sampleWitnessSignature
    sampleGossipSignature

/-- The message whose proof starts from the checkpoint it is about. -/
def sampleSelfGossip : TransparencyCheckpointGossip :=
  sampleMessage P (sampleTwin P) (some (sampleSelfProof P))
    sampleWitnessSignature sampleSelfSignature

/-- The ids are not part of what is hashed. -/
theorem transparencyCheckpointCosignatureIdentity_id
    (cosignature : TransparencyCheckpointCosignature) (id : Bytes) :
    transparencyCheckpointCosignatureIdentity P { cosignature with id := id }
      = transparencyCheckpointCosignatureIdentity P cosignature := by
  simp only [transparencyCheckpointCosignatureIdentity,
    checkpointCosignatureJson, withField_false]

theorem witnessedTransparencyCheckpointIdentity_id
    (witnessed : WitnessedTransparencyCheckpoint) (id : Bytes) :
    witnessedTransparencyCheckpointIdentity P { witnessed with id := id }
      = witnessedTransparencyCheckpointIdentity P witnessed := by
  simp only [witnessedTransparencyCheckpointIdentity, witnessedCheckpointJson,
    withField_false]

theorem transparencyCheckpointGossipIdentity_id
    (gossip : TransparencyCheckpointGossip) (id : Bytes) :
    transparencyCheckpointGossipIdentity P { gossip with id := id }
      = transparencyCheckpointGossipIdentity P gossip := by
  simp only [transparencyCheckpointGossipIdentity, checkpointGossipJson,
    withField_false]

theorem transparencyCompactConsistencyProofIdentity_id
    (proof : TransparencyCompactConsistencyProof) (id : Bytes) :
    transparencyCompactConsistencyProofIdentity P { proof with id := id }
      = transparencyCompactConsistencyProofIdentity P proof := by
  simp only [transparencyCompactConsistencyProofIdentity,
    compactConsistencyProofJson, withField_false]

theorem activePublicationKey_sample {serviceId : Bytes}
    (hservice : serviceId = ascii "alpha" ∨ serviceId = ascii "beta") :
    activePublicationKey P (sampleBundle P) serviceId (sampleKey P serviceId).id
      = .ok (sampleKey P serviceId) := by
  have hid : validIdentifier serviceId = true := by
    rcases hservice with rfl | rfl
    · exact validIdentifier_services.1
    · exact validIdentifier_services.2
  have hkey := key_sampleBundle P hid (find_sampleKeys P serviceId hservice)
  have hsequence : ((sampleBundle P).sequence == 0) = false := rfl
  have htrusted : trustedServicePublicKey P (sampleBundle P) serviceId
      (sampleKey P serviceId).id .publish (sampleBundle P).sequence
      = .ok (sampleKey P serviceId) := by
    unfold trustedServicePublicKey
    rw [valid_sampleBundle, hsequence, if_neg (by decide), hkey, ok_bind]
    rfl
  have hactive : (sampleKey P serviceId).state = .active := rfl
  unfold activePublicationKey
  rw [htrusted, ok_bind, if_neg (by simp [hactive])]

/-- A signature by a key of the bundle is accepted. -/
theorem ed25519Verify_sample (hcheck : ∀ signature key message,
      P.ed25519Check signature key message = true)
    {message signature : Bytes} (key : Vector UInt8 32)
    (hlength : signature.length = kEd25519SignatureBytes) :
    ed25519Verify P message signature key.toList = .ok () := by
  unfold ed25519Verify
  rw [if_neg, if_neg]
  · simp [hcheck]
  · simp [hlength, kEd25519PublicKeyBytes]

section
variable {checkpoint : TransparencyLogCheckpoint}
  {proof : Option TransparencyCompactConsistencyProof}
  {witnessSignature signature : Bytes}

theorem decodeHex_sample (hlength : signature.length = kEd25519SignatureBytes) :
    decodeHex (encodeHex signature) kEd25519SignatureBytes = .ok signature := by
  rw [← hlength]
  exact decodeHex_encodeHex signature

theorem verified_sampleCosignature (hcheck : ∀ signature key message,
      P.ed25519Check signature key message = true)
    (hcheckpoint : checkpoint.valid P = true)
    (hverified : verifyTransparencyLogCheckpoint P (sampleIdentity P) checkpoint
      = .ok ())
    (hlength : witnessSignature.length = kEd25519SignatureBytes) :
    (sampleCosignature P checkpoint witnessSignature).valid P = true ∧
      verifyTransparencyCheckpointWitness P (sampleIdentity P) checkpoint
        (sampleCosignature P checkpoint witnessSignature) (sampleBundle P)
        = .ok () := by
  obtain ⟨hid, hroot⟩ := checkpoint_valid hcheckpoint
  have hsize : checkpoint.treeSize > 0 := by
    rw [gt_iff_lt, UInt64.lt_iff_toNat_lt]
    have hne := (checkpoint_identity P hcheckpoint).1
    exact Nat.pos_of_ne_zero fun hzero => hne (UInt64.toNat_inj.mp hzero)
  have hvalid : (sampleCosignature P checkpoint witnessSignature).valid P
      = true := by
    unfold TransparencyCheckpointCosignature.valid
    simp only [Bool.and_eq_true, beq_iff_eq, decide_eq_true_eq]
    exact ⟨⟨⟨⟨⟨⟨⟨⟨⟨⟨⟨⟨rfl, P.validSha256_digest _⟩, P.validSha256_digest _⟩, hid⟩,
      hsize⟩, hroot⟩, P.validSha256_digest _⟩, by show (1 : UInt64) > 0; decide⟩,
      validIdentifier_services.1⟩, P.validSha256_digest _⟩, rfl⟩,
      validAuthenticationTag_encodeHex hlength⟩,
      (transparencyCheckpointCosignatureIdentity_id P _ _).symm⟩
  refine ⟨hvalid, ?_⟩
  unfold verifyTransparencyCheckpointWitness
  rw [if_neg (by simp [valid_sampleIdentity, hcheckpoint, hvalid,
    valid_sampleBundle]), hverified, ok_bind, if_neg]
  · have hkey := activePublicationKey_sample P (Or.inl rfl)
    have htag := decodeHex_sample hlength
    simp only [sampleCosignature, hkey, htag, ok_bind]
    exact ed25519Verify_sample P hcheck _ hlength
  · have hsequence : (sampleBundle P).sequence = 1 := rfl
    simp [sampleCosignature, hsequence]

theorem verified_sampleWitnessed (hcheck : ∀ signature key message,
      P.ed25519Check signature key message = true)
    (hcheckpoint : checkpoint.valid P = true)
    (hverified : verifyTransparencyLogCheckpoint P (sampleIdentity P) checkpoint
      = .ok ())
    (hlength : witnessSignature.length = kEd25519SignatureBytes) :
    (sampleWitnessed P checkpoint witnessSignature).valid P = true ∧
      verifyWitnessedTransparencyCheckpoint P (sampleIdentity P)
        (sampleWitnessed P checkpoint witnessSignature) (sampleBundle P)
        = .ok () := by
  obtain ⟨hcosignature, hwitness⟩ :=
    verified_sampleCosignature P hcheck hcheckpoint hverified hlength
  have hbinding : checkpoint.logId = (sampleIdentity P).id
      ∧ checkpoint.signerServiceId = ascii "log" := by
    have h := hverified
    unfold verifyTransparencyLogCheckpoint at h
    rw [ite_failure_eq_ok, ite_failure_eq_ok] at h
    simp only [not_or, not_not] at h
    exact ⟨h.2.1.1, h.2.1.2.1⟩
  have hsigner : ascii "alpha" ≠ ascii "log" := by decide
  have hsequence : (sampleBundle P).sequence = 1 := rfl
  have hvalid : (sampleWitnessed P checkpoint witnessSignature).valid P
      = true := by
    have hcosignatures : [sampleCosignature P checkpoint witnessSignature].all
        (fun c => c.valid P && c.logId == (sampleIdentity P).id
          && c.checkpointId == checkpoint.id
          && c.treeSize == checkpoint.treeSize
          && c.rootHash == checkpoint.rootHash
          && c.trustBundleId == (sampleBundle P).id
          && c.trustBundleSequence == 1
          && !(true && c.witnessServiceId == checkpoint.signerServiceId))
        = true := by
      rw [List.all_cons, List.all_nil, hcosignature]
      simp [sampleCosignature, hbinding.2, hsigner]
    unfold WitnessedTransparencyCheckpoint.valid
    simp only [Bool.and_eq_true, beq_iff_eq, decide_eq_true_eq]
    exact ⟨⟨⟨⟨⟨⟨⟨⟨⟨⟨⟨⟨rfl, P.validSha256_digest _⟩, P.validSha256_digest _⟩,
      P.validSha256_digest _⟩, by show (1 : UInt64) ≠ 0; decide⟩,
      by show validTransparencyCheckpointWitnessPolicy
          { minimumWitnesses := 1 } = true
         decide⟩,
      hcheckpoint⟩, hbinding.1⟩, by show 1 ≤ 1; decide⟩,
      by show 1 ≤ 100000; decide⟩,
      (witnessedTransparencyCheckpointIdentity_id P _ _).symm⟩,
      hcosignatures⟩, rfl⟩
  have hpolicy : validateWitnessPolicy
      (sampleWitnessed P checkpoint witnessSignature) = .ok () := by
    have hquorum : ¬(sampleWitnessed P checkpoint
        witnessSignature).cosignatures.length
        < (sampleWitnessed P checkpoint
          witnessSignature).policy.minimumWitnesses.toNat := by
      show ¬1 < 1
      decide
    unfold validateWitnessPolicy
    rw [if_neg hquorum]
    show validateWitnesses _ [] []
      [sampleCosignature P checkpoint witnessSignature] = .ok ()
    unfold validateWitnesses
    rw [if_neg List.not_mem_nil, if_neg (by simp), if_neg]
    · rfl
    · simp [sampleCosignature, sampleWitnessed, hbinding.2, hsigner]
  refine ⟨hvalid, ?_⟩
  unfold verifyWitnessedTransparencyCheckpoint
  rw [if_neg (by simp [valid_sampleIdentity, hvalid, valid_sampleBundle]),
    if_neg (by simp [sampleWitnessed, hsequence])]
  simp only [sampleWitnessed] at hpolicy ⊢
  rw [hverified, ok_bind, hpolicy, ok_bind]
  simp only [verifyCosignatures, hwitness, ok_bind]

/-- The message verifies if its proof is well formed. -/
theorem verified_sampleMessage (hcheck : ∀ signature key message,
      P.ed25519Check signature key message = true)
    (hcheckpoint : checkpoint.valid P = true)
    (hverified : verifyTransparencyLogCheckpoint P (sampleIdentity P) checkpoint
      = .ok ())
    (hproof : consistencyValid P (sampleMessage P checkpoint proof
      witnessSignature signature) = true)
    (hwitness : witnessSignature.length = kEd25519SignatureBytes)
    (hlength : signature.length = kEd25519SignatureBytes) :
    verifyTransparencyCheckpointGossip P (sampleIdentity P)
      (sampleMessage P checkpoint proof witnessSignature signature)
      (sampleBundle P) = .ok () := by
  obtain ⟨hwitnessed, hwitnessedVerified⟩ :=
    verified_sampleWitnessed P hcheck hcheckpoint hverified hwitness
  have hsequence : (sampleBundle P).sequence = 1 := rfl
  have hvalid : (sampleMessage P checkpoint proof witnessSignature
      signature).valid P = true := by
    unfold TransparencyCheckpointGossip.valid
    rw [hproof]
    simp only [Bool.and_eq_true, beq_iff_eq, decide_eq_true_eq]
    exact ⟨⟨⟨⟨⟨⟨⟨⟨⟨⟨⟨⟨⟨⟨⟨⟨⟨rfl, P.validSha256_digest _⟩,
      P.validSha256_digest _⟩, by show (1 : UInt64) > 0; decide⟩, rfl⟩,
      validIdentifier_services.1⟩, validIdentifier_services.2⟩,
      P.validSha256_digest _⟩, P.validSha256_digest _⟩,
      by show (1 : UInt64) > 0; decide⟩, hwitnessed⟩, rfl⟩, rfl⟩, rfl⟩, trivial⟩,
      rfl⟩, validAuthenticationTag_encodeHex hlength⟩,
      (transparencyCheckpointGossipIdentity_id P _ _).symm⟩
  have hkey := activePublicationKey_sample P (Or.inr rfl)
  have htag := decodeHex_sample hlength
  unfold verifyTransparencyCheckpointGossip
  rw [if_neg (by simp [valid_sampleIdentity, hvalid, valid_sampleBundle]),
    if_neg (by simp [sampleMessage, hsequence])]
  simp only [sampleMessage] at hvalid ⊢
  rw [hwitnessedVerified, ok_bind, hkey, ok_bind, htag, ok_bind]
  exact ed25519Verify_sample P hcheck _ hlength

end

theorem verified_sampleGossip (hcheck : ∀ signature key message,
    P.ed25519Check signature key message = true) :
    verifyTransparencyCheckpointGossip P (sampleIdentity P) (sampleGossip P)
      (sampleBundle P) = .ok () := by
  have htwin := checkpointOf_sampleTwin P hcheck
  exact verified_sampleMessage P hcheck htwin.valid htwin.verified rfl (by decide)
    (by decide)

theorem forward_sampleGossip : ForwardProofs [sampleGossip P] := by
  intro m hm n hn proof hproof
  rw [List.mem_singleton.mp hn] at hproof
  cases hproof

theorem valid_sampleSelfProof (hcheck : ∀ signature key message,
    P.ed25519Check signature key message = true) :
    (sampleSelfProof P).valid P = true := by
  have hroot : validSha256 (sampleTwin P).rootHash = true :=
    (checkpoint_valid (checkpointOf_sampleTwin P hcheck).valid).2
  have hhash : validSha256 (transparencyLeafHash P (sampleRecord₁ P).leaf.id)
      = true := P.validSha256_digest _
  have hsubtree : (⟨0, transparencyLeafHash P (sampleRecord₁ P).leaf.id⟩ :
      TransparencyMerkleSubtree).valid = true := by
    simp [TransparencyMerkleSubtree.valid, hhash]
  have hmatch : frontierMatches 1 64 0
      [⟨0, transparencyLeafHash P (sampleRecord₁ P).leaf.id⟩] = true := by
    have hrest : frontierMatches 1 63 1 [] = true := by decide
    rw [frontierMatches, if_neg (by decide), hsubtree]
    simpa using hrest
  have hreach : subtreesReach 2 1
      [⟨0, transparencyLeafHash P (sampleRecord₁ P).leaf.id⟩] = true := by
    have hsize : (⟨0, transparencyLeafHash P (sampleRecord₁ P).leaf.id⟩ :
        TransparencyMerkleSubtree).size = 1 := rfl
    rw [subtreesReach, hsubtree, hsize]
    rfl
  unfold TransparencyCompactConsistencyProof.valid
  simp only [Bool.and_eq_true, beq_iff_eq, decide_eq_true_eq]
  exact ⟨⟨⟨⟨⟨⟨⟨⟨⟨⟨⟨⟨⟨⟨⟨rfl, P.validSha256_digest _⟩, P.validSha256_digest _⟩,
    P.validSha256_digest _⟩, P.validSha256_digest _⟩,
    by show (1 : UInt64) ≠ 0; decide⟩, by show (1 : UInt64) < 2; decide⟩,
    hhash⟩, hroot⟩, rfl⟩, by show 1 ≤ 64; decide⟩, rfl⟩,
    by show 1 ≤ 128; decide⟩,
    (transparencyCompactConsistencyProofIdentity_id P _ _).symm⟩, hmatch⟩,
    hreach⟩

theorem verified_sampleSelfGossip (hcheck : ∀ signature key message,
    P.ed25519Check signature key message = true) :
    verifyTransparencyCheckpointGossip P (sampleIdentity P) (sampleSelfGossip P)
      (sampleBundle P) = .ok () := by
  have htwin := checkpointOf_sampleTwin P hcheck
  refine verified_sampleMessage P hcheck htwin.valid htwin.verified ?_ (by decide)
    (by decide)
  have hsize : (sampleTwin P).treeSize = 2 := by
    apply UInt64.toNat_inj.mp
    rw [htwin.treeSize]
    rfl
  unfold consistencyValid
  show ((sampleSelfProof P).valid P && _ && _ && _ && _) = true
  rw [valid_sampleSelfProof P hcheck]
  simp [sampleMessage, sampleSelfProof, sampleWitnessed,
    TransparencyCheckpointGossip.checkpoint, hsize]

/-- The audit of the second message ends in an internal error. -/
theorem audit_sampleSelfGossip (hcheck : ∀ signature key message,
    P.ed25519Check signature key message = true) :
    auditTransparencyCheckpointGossip P (sampleIdentity P) [sampleSelfGossip P]
        (sampleBundle P) {}
      = failure .internalError
        "constructed transparency gossip audit report is invalid" := by
  have hverified := verified_sampleSelfGossip P hcheck
  have hmessages := verified_single P hverified
  obtain ⟨hcheckpoints, hconflicts⟩ :=
    injOn_single P (sampleIdentity P) (sampleSelfGossip P)
  have hback : ¬ForwardProofs [sampleSelfGossip P] := by
    intro hforward
    exact absurd (hforward _ List.mem_cons_self _ List.mem_cons_self
      (sampleSelfProof P) rfl rfl) (UInt64.lt_irrefl _)
  have hnone : ¬∃ report, auditTransparencyCheckpointGossip P (sampleIdentity P)
      [sampleSelfGossip P] (sampleBundle P) {} = .ok report
        ∧ report.valid P = true :=
    not_audited P hmessages hcheckpoints hconflicts hback
  rw [audit_single P hverified] at hnone ⊢
  split at hnone
  · next hreport => exact absurd ⟨_, rfl, hreport⟩ hnone
  · next hreport => rw [if_neg hreport]

theorem gossipAudit_iff_single :
    let P := host fun _ _ _ => true
    GossipAudited P (sampleIdentity P) [sampleGossip P] (sampleBundle P) {} := by
  intro P
  have hverified := verified_sampleGossip P fun _ _ _ => rfl
  obtain ⟨hcheckpoints, hconflicts⟩ :=
    injOn_single P (sampleIdentity P) (sampleGossip P)
  exact (gossipAudit_iff P rfl (verified_single P hverified)
    (List.nodup_singleton _) (limit_single P hverified) hcheckpoints
    hconflicts).mpr ⟨valid_sampleIdentity P, valid_sampleBundle P,
      usable_default, forward_sampleGossip P⟩

/-- The message verifies, and its audit ends in an internal error. -/
theorem gossipAudit_selfProof :
    let P := host fun _ _ _ => true
    verifyTransparencyCheckpointGossip P (sampleIdentity P)
        (sampleSelfGossip P) (sampleBundle P) = .ok () ∧
      auditTransparencyCheckpointGossip P (sampleIdentity P)
          [sampleSelfGossip P] (sampleBundle P) {}
        = failure .internalError
          "constructed transparency gossip audit report is invalid" := by
  intro P
  exact ⟨verified_sampleSelfGossip P fun _ _ _ => rfl,
    audit_sampleSelfGossip P fun _ _ _ => rfl⟩

end RbfSafe
