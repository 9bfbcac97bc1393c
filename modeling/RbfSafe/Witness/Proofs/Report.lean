/-
What the proof pass adds and what the report says.

A message that carries a proof from a listed checkpoint gives an edge or
a conflict (`proofPass_conflicts`, `proofPass_edge`). The report is valid
exactly when its conflicts are (`valid_auditReport`), so the audit from
the sorted groups on is decided by the conflicts that were constructed
(`auditGroups_eq`).
-/
import RbfSafe.Witness.Proofs.Search

namespace RbfSafe

open Lib.Sorting

variable (P : Platform)

-- === proof pass

/-- Every message with the group it is in, in the order of the pass. -/
def gossipChecks (groups : List CheckpointGroup) :
    List ((CheckpointGroup × Nat) × TransparencyCheckpointGossip) :=
  groups.zipIdx.flatMap fun current =>
    current.1.gossip.map fun message => (current, message)

theorem mem_gossipChecks {groups : List CheckpointGroup}
    {check : (CheckpointGroup × Nat) × TransparencyCheckpointGossip} :
    check ∈ gossipChecks groups ↔
      groups[check.1.2]? = some check.1.1 ∧ check.2 ∈ check.1.1.gossip := by
  obtain ⟨⟨group, i⟩, message⟩ := check
  unfold gossipChecks
  rw [List.mem_flatMap]
  constructor
  · rintro ⟨current, hcurrent, hmem⟩
    obtain ⟨m, hm, heq⟩ := List.mem_map.mp hmem
    obtain ⟨rfl, rfl⟩ := Prod.mk.inj heq
    exact ⟨List.mk_mem_zipIdx_iff_getElem?.mp hcurrent, hm⟩
  · rintro ⟨hget, hm⟩
    exact ⟨(group, i), List.mk_mem_zipIdx_iff_getElem?.mpr hget,
      List.mem_map.mpr ⟨message, hm, rfl⟩⟩

/-- The listed checkpoint that the proof of a message starts from. -/
def oldGroup (groups : List CheckpointGroup)
    (message : TransparencyCheckpointGossip) :
    Option ((CheckpointGroup × Nat) × TransparencyCompactConsistencyProof) :=
  message.consistencyProof.bind fun proof =>
    (findGroup groups proof.oldCheckpointId).map fun old => (old, proof)

theorem oldGroup_eq_some {groups : List CheckpointGroup}
    {message : TransparencyCheckpointGossip} {old : CheckpointGroup × Nat}
    {proof : TransparencyCompactConsistencyProof} :
    oldGroup groups message = some (old, proof) ↔
      message.consistencyProof = some proof ∧
        findGroup groups proof.oldCheckpointId = some old := by
  unfold oldGroup
  cases message.consistencyProof with
  | none => simp
  | some found =>
      simp only [Option.bind_some, Option.map_eq_some_iff, Option.some.injEq,
        Prod.mk.injEq]
      constructor
      · rintro ⟨_, hfind, rfl, rfl⟩
        exact ⟨rfl, hfind⟩
      · rintro ⟨rfl, hfind⟩
        exact ⟨old, hfind, rfl, rfl⟩

/-- The conflict of a message, if its proof fails. -/
def failedConflict (identity : TransparencyLogIdentity)
    (groups : List CheckpointGroup)
    (check : (CheckpointGroup × Nat) × TransparencyCheckpointGossip) :
    Option TransparencyGossipConflict :=
  match oldGroup groups check.2 with
  | none => none
  | some (old, proof) =>
      match verifyTransparencyCompactConsistency P identity old.1.checkpoint
          check.1.1.checkpoint proof with
      | .ok _ => none
      | .error _ =>
          some (invalidProofConflict P old.1 check.1.1 check.2 proof)

/-- The edge of a message, if its proof verifies. -/
def verifiedEdge (identity : TransparencyLogIdentity)
    (groups : List CheckpointGroup)
    (check : (CheckpointGroup × Nat) × TransparencyCheckpointGossip) :
    Option (Nat × Nat) :=
  match oldGroup groups check.2 with
  | none => none
  | some (old, proof) =>
      match verifyTransparencyCompactConsistency P identity old.1.checkpoint
          check.1.1.checkpoint proof with
      | .ok _ => some (old.2, check.1.2)
      | .error _ => none

/-- One message adds its conflict and its edge. -/
theorem proofStep_eq (identity : TransparencyLogIdentity)
    (groups : List CheckpointGroup)
    (check : (CheckpointGroup × Nat) × TransparencyCheckpointGossip)
    (pass : ProofPass) :
    proofStep P identity groups check.1 pass check.2
      = { edges := match verifiedEdge P identity groups check with
            | some (i, j) => pass.edges.modify i fun out => out ++ [j]
            | none => pass.edges
          conflicts := pass.conflicts
            ++ (failedConflict P identity groups check).toList } := by
  unfold proofStep verifiedEdge failedConflict oldGroup
  cases check.2.consistencyProof with
  | none => simp
  | some proof =>
      cases hfind : findGroup groups proof.oldCheckpointId with
      | none => simp [hfind]
      | some old =>
          simp only [Option.bind_some, hfind, Option.map_some]
          cases verifyTransparencyCompactConsistency P identity
            old.1.checkpoint check.1.1.checkpoint proof with
          | ok _ => simp
          | error _ => simp

theorem proofPass_eq (identity : TransparencyLogIdentity)
    (groups : List CheckpointGroup)
    (conflicts : List TransparencyGossipConflict) :
    proofPass P identity groups conflicts
      = (gossipChecks groups).foldl (fun pass check =>
          proofStep P identity groups check.1 pass check.2)
        ⟨List.replicate groups.length [], conflicts⟩ := by
  unfold proofPass gossipChecks
  rw [List.foldl_flatMap]
  simp only [List.foldl_map]

/-- The conflicts of the pass are those of the failed proofs. -/
theorem proofPass_conflicts (identity : TransparencyLogIdentity)
    (groups : List CheckpointGroup)
    (conflicts : List TransparencyGossipConflict) :
    (proofPass P identity groups conflicts).conflicts
      = conflicts ++ (gossipChecks groups).filterMap
        (failedConflict P identity groups) := by
  have hfold : ∀ (checks : List ((CheckpointGroup × Nat)
      × TransparencyCheckpointGossip)) (pass : ProofPass),
      (checks.foldl (fun pass check =>
        proofStep P identity groups check.1 pass check.2) pass).conflicts
        = pass.conflicts
          ++ checks.filterMap (failedConflict P identity groups) := by
    intro checks
    induction checks with
    | nil => simp
    | cons check checks ih =>
        intro pass
        rw [List.foldl_cons, ih, proofStep_eq, List.filterMap_cons,
          List.append_assoc]
        cases failedConflict P identity groups check <;> rfl
  rw [proofPass_eq, hfold]

/-- A verified proof from one group to another. -/
def VerifiedLink (identity : TransparencyLogIdentity)
    (groups : List CheckpointGroup) (i j : Nat) : Prop :=
  ∃ check ∈ gossipChecks groups,
    verifiedEdge P identity groups check = some (i, j)

/-- An edge of the pass is that of a verified proof. -/
theorem proofPass_edge {identity : TransparencyLogIdentity}
    {groups : List CheckpointGroup}
    {conflicts : List TransparencyGossipConflict} {i j : Nat}
    (h : Edge (proofPass P identity groups conflicts).edges i j) :
    VerifiedLink P identity groups i j := by
  have hfold : ∀ (checks : List ((CheckpointGroup × Nat)
      × TransparencyCheckpointGossip)) (pass : ProofPass),
      Edge (checks.foldl (fun pass check =>
        proofStep P identity groups check.1 pass check.2) pass).edges i j →
      Edge pass.edges i j ∨ ∃ check ∈ checks,
        verifiedEdge P identity groups check = some (i, j) := by
    intro checks
    induction checks with
    | nil => exact fun pass h => Or.inl h
    | cons check checks ih =>
        intro pass h
        rcases ih _ h with h | ⟨check', hmem, hedge⟩
        · have h : Edge (proofStep P identity groups check.1 pass
              check.2).edges i j := h
          rw [proofStep_eq] at h
          cases hedge : verifiedEdge P identity groups check with
          | none =>
              rw [hedge] at h
              exact Or.inl h
          | some edge =>
              obtain ⟨k, l⟩ := edge
              rw [hedge] at h
              unfold Edge at h
              simp only [List.getD_eq_getElem?_getD, List.getElem?_modify] at h
              by_cases hki : k = i
              · subst hki
                cases hget : pass.edges[k]? with
                | none => simp [hget] at h
                | some out =>
                    have h : j ∈ out ++ [l] := by simpa [hget] using h
                    rcases List.mem_append.mp h with h | h
                    · left
                      unfold Edge
                      rw [List.getD_eq_getElem?_getD, hget]
                      exact h
                    · right
                      rw [List.mem_singleton.mp h]
                      exact ⟨check, List.mem_cons_self, hedge⟩
              · left
                unfold Edge
                rw [List.getD_eq_getElem?_getD]
                simpa [hki] using h
        · exact Or.inr ⟨check', List.mem_cons_of_mem _ hmem, hedge⟩
  rw [proofPass_eq] at h
  rcases hfold _ _ h with h | h
  · unfold Edge at h
    rw [List.getD_eq_getElem?_getD, List.getElem?_replicate] at h
    split at h
    · exact absurd h List.not_mem_nil
    · exact absurd h List.not_mem_nil
  · exact h

/-- Sorting the outgoing edges adds none. -/
theorem edge_sortEdges {edges : List (List Nat)} {i j : Nat}
    (h : Edge (edges.map sortEdges) i j) : Edge edges i j := by
  unfold Edge at h ⊢
  rw [List.getD_eq_getElem?_getD, List.getElem?_map] at h
  rw [List.getD_eq_getElem?_getD]
  cases hget : edges[i]? with
  | none => simp [hget] at h
  | some out =>
      rw [hget] at h
      exact mem_of_mem_sortUnique id h

-- === report

/-- Every conflict the passes construct. -/
def constructedConflicts (identity : TransparencyLogIdentity)
    (groups : List CheckpointGroup) : List TransparencyGossipConflict :=
  (sameSizePairs groups).map (fun p => sameSizeConflict P p.1 p.2)
    ++ (gossipChecks groups).filterMap (failedConflict P identity groups)

theorem adjacent_iff {α : Type} {r : α → α → Bool} : ∀ {l : List α},
    adjacent r l = true ↔ l.IsChain fun a b => r a b = true
  | [] => by simp [adjacent]
  | [_] => by simp [adjacent]
  | a :: b :: rest => by
      rw [adjacent, Bool.and_eq_true, adjacent_iff, List.isChain_cons_cons]

/-- **The report is valid exactly when its conflicts are.** -/
theorem valid_auditReport {identity : TransparencyLogIdentity}
    {trustBundle : ServiceTrustBundle} {gossipCount checkpointCount : Nat}
    {conflicts : List TransparencyGossipConflict} {counts : PairCounts}
    (hidentity : identity.valid P = true)
    (hbundle : trustBundle.valid P = true)
    (hcount : checkpointCount ≤ gossipCount) :
    (auditReport P identity trustBundle gossipCount checkpointCount conflicts
        counts).valid P = true ↔
      ∀ c ∈ sortConflicts conflicts, c.valid P = true := by
  have hlog : validSha256 identity.id = true := by
    simp only [TransparencyLogIdentity.valid, Bool.and_eq_true] at hidentity
    exact hidentity.1.1.1.1.2
  have htrust : validSha256 trustBundle.id = true ∧ trustBundle.sequence ≠ 0 := by
    simp only [ServiceTrustBundle.valid, Bool.and_eq_true, bne_iff_ne] at hbundle
    exact ⟨hbundle.1.1.1.1.1.2, hbundle.1.1.1.1.1.1.1.1.1.2⟩
  have hordered : adjacent (fun a b : TransparencyGossipConflict =>
      decide (a.id < b.id)) (sortConflicts conflicts) = true := by
    rw [adjacent_iff]
    simp only [decide_eq_true_eq]
    exact strict_sortUnique _ conflicts
  unfold TransparencyGossipAuditReport.valid
  simp only [auditReport, hlog, htrust, hcount, hordered, Bool.and_true,
    decide_true, beq_self_eq_true, List.all_eq_true, ne_eq, not_false_eq_true,
    Bool.and_eq_true, beq_iff_eq]
  constructor
  · exact fun h => h.2
  · exact fun h => ⟨⟨P.validSha256_digest _, rfl⟩, h⟩

/-- The audit from the sorted groups on: an error of a limit, or the
report if it is valid. -/
theorem auditGroups_eq {identity : TransparencyLogIdentity}
    {trustBundle : ServiceTrustBundle}
    {options : TransparencyGossipAuditOptions} {gossipCount : Nat}
    {groups : List CheckpointGroup} (hcancelled : options.cancelled = false)
    (hlimit : ∀ e, auditGroups P identity trustBundle options gossipCount groups
      = .error e → e.code ≠ .resourceLimit) :
    ∃ counts, auditGroups P identity trustBundle options gossipCount groups
      = if (auditReport P identity trustBundle gossipCount groups.length
            (constructedConflicts P identity groups) counts).valid P then
          .ok (auditReport P identity trustBundle gossipCount groups.length
            (constructedConflicts P identity groups) counts)
        else failure .internalError
          "constructed transparency gossip audit report is invalid" := by
  unfold auditGroups at hlimit ⊢
  rcases limited_sameSizePass P groups 0 [] with ⟨⟨pairChecks, conflicts⟩, hpass⟩
    | ⟨e, he, hcode⟩
  · have hconflicts := sameSizePass_ok P hpass
    simp only [List.nil_append] at hconflicts
    rw [hpass, ok_bind] at hlimit ⊢
    simp only [proofPass_conflicts, hconflicts] at hlimit ⊢
    rcases limited_traverse hcancelled groups.zipIdx 0
        { pairChecks := pairChecks } with ⟨counts, hcounts⟩ | ⟨e, he, hcode⟩
    · refine ⟨counts, ?_⟩
      rw [hcounts, ok_bind]
      show (if !(auditReport P identity trustBundle gossipCount groups.length
        (constructedConflicts P identity groups) counts).valid P then _ else _)
        = _
      cases (auditReport P identity trustBundle gossipCount groups.length
        (constructedConflicts P identity groups) counts).valid P <;> rfl
    · rw [he, error_bind] at hlimit
      exact absurd hcode (hlimit e rfl)
  · rw [he, error_bind] at hlimit
    exact absurd hcode (hlimit e rfl)

/-- A report that is returned comes from a traversal that counted its
pairs. -/
theorem auditGroups_ok {identity : TransparencyLogIdentity}
    {trustBundle : ServiceTrustBundle}
    {options : TransparencyGossipAuditOptions} {gossipCount : Nat}
    {groups : List CheckpointGroup} {report : TransparencyGossipAuditReport}
    (h : auditGroups P identity trustBundle options gossipCount groups
      = .ok report) :
    report.conflicts = sortConflicts (constructedConflicts P identity groups) ∧
      report.status
        = gossipStatus report.conflicts report.unlinkedCheckpointPairs ∧
      (report.unlinkedCheckpointPairs = 0 → ∀ start next,
        [start, next].Sublist groups.zipIdx →
        start.1.checkpoint.treeSize < next.1.checkpoint.treeSize →
        Relation.ReflTransGen (VerifiedLink P identity groups) start.2
          next.2) := by
  unfold auditGroups at h
  obtain ⟨⟨pairChecks, conflicts⟩, hpass, h⟩ := bind_eq_ok.mp h
  obtain ⟨counts, hcounts, h⟩ := bind_eq_ok.mp h
  rw [ite_failure_eq_ok] at h
  have hreport := Except.ok.inj h.2
  have hconflicts := sameSizePass_ok P hpass
  simp only [List.nil_append] at hconflicts
  rw [proofPass_conflicts, hconflicts] at hreport
  refine ⟨by rw [← hreport]; rfl, by rw [← hreport]; rfl, fun hzero start next
    hsub hlt => ?_⟩
  have hunlinked : counts.unlinked = 0 := by
    rw [← hreport] at hzero
    exact hzero
  have hpath := (traverse_ok hcounts).2 hunlinked start next hsub hlt
  refine Relation.ReflTransGen.mono (fun i j hedge => ?_) _ _ hpath
  exact proofPass_edge P (edge_sortEdges hedge)

end RbfSafe
