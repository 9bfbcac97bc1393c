/-
The conflicts between listed messages, and those the passes construct.

`GossipConflict` says on the messages alone which conflicts there are.
Where checkpoints of one id are one checkpoint, the passes construct only
such conflicts (`constructed_gossipConflict`), and one for every proof
that fails (`failed_constructed`). A conflict is valid unless its proof
starts from a checkpoint that is not smaller (`GossipConflict.valid_iff`).

Checkpoints and conflicts are told apart by their ids where the digests
of their documents do not collide (`checkpoint_inj`, `conflict_inj`).
-/
import RbfSafe.Transparency.Proofs.Log
import RbfSafe.Witness.Proofs.Documents
import RbfSafe.Witness.Proofs.Report

namespace RbfSafe

open Lib.Sorting

variable (P : Platform)

-- === verified messages

theorem gossip_verified {identity : TransparencyLogIdentity}
    {message : TransparencyCheckpointGossip} {trustBundle : ServiceTrustBundle}
    (h : verifyTransparencyCheckpointGossip P identity message trustBundle
      = .ok ()) :
    identity.valid P = true ∧ message.valid P = true
      ∧ trustBundle.valid P = true := by
  unfold verifyTransparencyCheckpointGossip at h
  rw [ite_failure_eq_ok] at h
  simpa [and_assoc] using h.1

theorem gossip_valid {message : TransparencyCheckpointGossip}
    (h : message.valid P = true) :
    validSha256 message.id = true ∧ message.checkpoint.valid P = true
      ∧ consistencyValid P message = true := by
  unfold TransparencyCheckpointGossip.valid at h
  simp only [Bool.and_eq_true] at h
  have hwitnessed := h.1.1.1.1.1.1.1.2
  unfold WitnessedTransparencyCheckpoint.valid at hwitnessed
  simp only [Bool.and_eq_true] at hwitnessed
  exact ⟨h.1.1.1.1.1.1.1.1.1.1.1.1.1.1.1.1.2, hwitnessed.1.1.1.1.1.1.2,
    h.1.1.1.2⟩

theorem checkpoint_identity {checkpoint : TransparencyLogCheckpoint}
    (h : checkpoint.valid P = true) :
    checkpoint.treeSize ≠ 0 ∧
      checkpoint.id = P.sha256 (checkpointDocument P.toLibc checkpoint) := by
  unfold TransparencyLogCheckpoint.valid at h
  simp only [Bool.and_eq_true, beq_iff_eq, decide_eq_true_eq] at h
  refine ⟨fun hzero => ?_, h.2⟩
  have hpositive := h.1.1.1.1.1.1.1.2
  rw [hzero] at hpositive
  exact absurd hpositive (by decide)

/-- A proof that verifies starts from a smaller checkpoint. -/
theorem compactConsistency_lt {identity : TransparencyLogIdentity}
    {oldCheckpoint newCheckpoint : TransparencyLogCheckpoint}
    {proof : TransparencyCompactConsistencyProof}
    (h : verifyTransparencyCompactConsistency P identity oldCheckpoint
      newCheckpoint proof = .ok ()) :
    oldCheckpoint.treeSize < newCheckpoint.treeSize := by
  unfold verifyTransparencyCompactConsistency at h
  rw [ite_failure_eq_ok] at h
  obtain ⟨hvalid, h⟩ := h
  obtain ⟨-, -, h⟩ := bind_eq_ok.mp h
  obtain ⟨-, -, h⟩ := bind_eq_ok.mp h
  rw [ite_failure_eq_ok] at h
  simp only [not_or, not_not] at h
  obtain ⟨⟨-, -, -, hold, hnew, -, -⟩, -⟩ := h
  simp only [Bool.or_eq_true, Bool.not_eq_true', not_or, Bool.not_eq_false]
    at hvalid
  have hproof := hvalid.2
  unfold TransparencyCompactConsistencyProof.valid at hproof
  simp only [Bool.and_eq_true, decide_eq_true_eq] at hproof
  rw [← hold, ← hnew]
  exact hproof.1.1.1.1.1.1.1.1.1.2

-- === what may collide

/-- The documents of the listed checkpoints. -/
def checkpointDocuments (L : Libc)
    (gossip : List TransparencyCheckpointGossip) : Set Bytes :=
  {document | ∃ m ∈ gossip, document = checkpointDocument L m.checkpoint}

/-- A message as a group of its own. -/
def TransparencyCheckpointGossip.group (m : TransparencyCheckpointGossip) :
    CheckpointGroup :=
  ⟨m.checkpoint, [m]⟩

/-- The conflicts there are between listed messages. -/
inductive GossipConflict (identity : TransparencyLogIdentity)
    (gossip : List TransparencyCheckpointGossip) :
    TransparencyGossipConflict → Prop
  | sameSize {m n : TransparencyCheckpointGossip} (hm : m ∈ gossip)
      (hn : n ∈ gossip) (hsize : m.checkpoint.treeSize = n.checkpoint.treeSize)
      (hid : m.checkpoint.id ≠ n.checkpoint.id) :
      GossipConflict identity gossip (sameSizeConflict P m.group n.group)
  | invalidProof {m n : TransparencyCheckpointGossip}
      {proof : TransparencyCompactConsistencyProof} (hm : m ∈ gossip)
      (hn : n ∈ gossip) (hproof : n.consistencyProof = some proof)
      (hold : proof.oldCheckpointId = m.checkpoint.id)
      (hfail : verifyTransparencyCompactConsistency P identity m.checkpoint
        n.checkpoint proof ≠ .ok ()) :
      GossipConflict identity gossip
        (invalidProofConflict P m.group n.group n proof)

/-- The documents of these conflicts. -/
def conflictDocuments (identity : TransparencyLogIdentity)
    (gossip : List TransparencyCheckpointGossip) : Set Bytes :=
  {document | ∃ c, GossipConflict P identity gossip c ∧
    document = gossipConflictDocument P.toLibc c}

/-- The digest of a conflict is its id. -/
theorem GossipConflict.identity {identity : TransparencyLogIdentity}
    {gossip : List TransparencyCheckpointGossip} {c : TransparencyGossipConflict}
    (h : GossipConflict P identity gossip c) :
    c.id = P.sha256 (gossipConflictDocument P.toLibc c) := by
  cases h <;> rfl

/-- Conflicts between listed messages are told apart by their ids. -/
theorem conflict_inj {identity : TransparencyLogIdentity}
    {gossip : List TransparencyCheckpointGossip}
    (hconflicts : Set.InjOn P.sha256 (conflictDocuments P identity gossip))
    {c c' : TransparencyGossipConflict}
    (h : GossipConflict P identity gossip c)
    (h' : GossipConflict P identity gossip c') (hid : c.id = c'.id) :
    c = c' := by
  refine conflict_ext P.toLibc hid (hconflicts ⟨c, h, rfl⟩ ⟨c', h', rfl⟩ ?_)
  rw [← h.identity, ← h'.identity, hid]

/-- So are listed checkpoints. -/
theorem checkpoint_inj {gossip : List TransparencyCheckpointGossip}
    (hvalid : ∀ m ∈ gossip, m.valid P = true)
    (hcheckpoints : Set.InjOn P.sha256 (checkpointDocuments P.toLibc gossip)) :
    ∀ m ∈ gossip, ∀ n ∈ gossip, m.checkpoint.id = n.checkpoint.id →
      m.checkpoint = n.checkpoint := by
  intro m hm n hn hid
  refine checkpoint_ext P.toLibc hid
    (hcheckpoints ⟨m, hm, rfl⟩ ⟨n, hn, rfl⟩ ?_)
  rw [← (checkpoint_identity P (gossip_valid P (hvalid m hm)).2.1).2,
    ← (checkpoint_identity P (gossip_valid P (hvalid n hn)).2.1).2, hid]

/-- A conflict between listed messages is valid unless it is of a proof
from a checkpoint that is not smaller. -/
theorem GossipConflict.valid_iff {identity : TransparencyLogIdentity}
    {gossip : List TransparencyCheckpointGossip}
    (hvalid : ∀ m ∈ gossip, m.valid P = true) {c : TransparencyGossipConflict}
    (h : GossipConflict P identity gossip c) :
    c.valid P = true ↔ (c.type = .invalidConsistencyProof →
      c.firstTreeSize < c.secondTreeSize) := by
  have hfacts : ∀ m ∈ gossip, validSha256 m.id = true
      ∧ validSha256 m.checkpoint.id = true ∧ m.checkpoint.treeSize ≠ 0 := by
    intro m hm
    obtain ⟨hid, hcheckpoint, -⟩ := gossip_valid P (hvalid m hm)
    exact ⟨hid, (checkpoint_valid hcheckpoint).1,
      (checkpoint_identity P hcheckpoint).1⟩
  have hidentity := h.identity
  cases h with
  | @sameSize m n hm hn hsize hid =>
      obtain ⟨hm₁, hm₂, hm₃⟩ := hfacts m hm
      obtain ⟨hn₁, hn₂, hn₃⟩ := hfacts n hn
      have hdigest : validSha256 (sameSizeConflict P m.group n.group).id = true :=
        P.validSha256_digest _
      have htype : (sameSizeConflict P m.group n.group).type
          ≠ .invalidConsistencyProof := by
        show TransparencyGossipConflictType.sameSizeEquivocation ≠ _
        decide
      refine iff_of_true ?_ fun h => absurd h htype
      unfold TransparencyGossipConflict.valid
      simp only [Bool.and_eq_true, decide_eq_true_eq, beq_iff_eq]
      refine ⟨⟨⟨⟨⟨⟨⟨⟨hdigest, hm₁⟩, hn₁⟩, hm₂⟩, hn₂⟩, hm₃⟩, hn₃⟩, hidentity⟩, ?_⟩
      show (m.checkpoint.treeSize == n.checkpoint.treeSize
        && m.checkpoint.id != n.checkpoint.id && true) = true
      simp [hsize, hid]
  | @invalidProof m n proof hm hn hproof hold hfail =>
      obtain ⟨hm₁, hm₂, hm₃⟩ := hfacts m hm
      obtain ⟨hn₁, hn₂, hn₃⟩ := hfacts n hn
      have hdigest : validSha256
          (invalidProofConflict P m.group n.group n proof).id = true :=
        P.validSha256_digest _
      have hproofId : validSha256 proof.id = true := by
        have hconsistency := (gossip_valid P (hvalid n hn)).2.2
        unfold consistencyValid at hconsistency
        rw [hproof] at hconsistency
        simp only [Bool.and_eq_true] at hconsistency
        have hproofValid := hconsistency.1.1.1.1
        unfold TransparencyCompactConsistencyProof.valid at hproofValid
        simp only [Bool.and_eq_true] at hproofValid
        exact hproofValid.1.1.1.1.1.1.1.1.1.1.1.1.1.1.2
      unfold TransparencyGossipConflict.valid
      simp only [Bool.and_eq_true, decide_eq_true_eq, beq_iff_eq]
      constructor
      · intro hconflict _
        have hlast : (decide (m.checkpoint.treeSize < n.checkpoint.treeSize)
          && validSha256 proof.id) = true := hconflict.2
        exact of_decide_eq_true (Bool.and_eq_true_iff.mp hlast).1
      · intro hlt
        refine ⟨⟨⟨⟨⟨⟨⟨⟨hdigest, hm₁⟩, hn₁⟩, hm₂⟩, hn₂⟩, hm₃⟩, hn₃⟩, hidentity⟩, ?_⟩
        show (decide (m.checkpoint.treeSize < n.checkpoint.treeSize)
          && validSha256 proof.id) = true
        rw [Bool.and_eq_true]
        exact ⟨decide_eq_true (hlt rfl), hproofId⟩

-- === the groups of a list

section
variable {identity : TransparencyLogIdentity}
  {gossip : List TransparencyCheckpointGossip} {groups : List CheckpointGroup}

omit P in
theorem Grouped.mem (h : Grouped gossip groups) {group : CheckpointGroup}
    (hgroup : group ∈ groups) {m : TransparencyCheckpointGossip}
    (hm : m ∈ group.gossip) : m ∈ gossip :=
  ((h.messages group hgroup m).mp hm).1

omit P in
/-- The checkpoint of a group is that of each of its messages. -/
theorem Grouped.checkpoint_eq (h : Grouped gossip groups)
    (hsame : ∀ m ∈ gossip, ∀ n ∈ gossip, m.checkpoint.id = n.checkpoint.id →
      m.checkpoint = n.checkpoint)
    {group : CheckpointGroup} (hgroup : group ∈ groups)
    {m : TransparencyCheckpointGossip} (hm : m ∈ gossip)
    (hid : m.checkpoint.id = group.checkpoint.id) :
    m.checkpoint = group.checkpoint := by
  obtain ⟨n, hn, hcheckpoint⟩ := h.checkpoint group hgroup
  rw [← hcheckpoint] at hid ⊢
  exact hsame m hm n (h.mem hgroup hn) hid

omit P in
/-- A group is named by its first message. -/
theorem Grouped.front (h : Grouped gossip groups)
    (hsame : ∀ m ∈ gossip, ∀ n ∈ gossip, m.checkpoint.id = n.checkpoint.id →
      m.checkpoint = n.checkpoint)
    {group : CheckpointGroup} (hgroup : group ∈ groups) :
    ∃ m ∈ gossip, group.frontId = m.id ∧ group.checkpoint = m.checkpoint := by
  obtain ⟨n, hn, -⟩ := h.checkpoint group hgroup
  cases hgossip : group.gossip with
  | nil =>
      rw [hgossip] at hn
      exact absurd hn List.not_mem_nil
  | cons m rest =>
      have hm : m ∈ group.gossip := by
        rw [hgossip]
        exact List.mem_cons_self
      obtain ⟨hmem, hid⟩ := (h.messages group hgroup m).mp hm
      refine ⟨m, hmem, ?_, (h.checkpoint_eq hsame hgroup hmem hid).symm⟩
      unfold CheckpointGroup.frontId
      rw [hgossip]

omit P in
/-- The index of a listed checkpoint. -/
theorem findGroup_eq_some {id : Bytes} {old : CheckpointGroup × Nat}
    (hfind : findGroup groups id = some old) :
    groups[old.2]? = some old.1 ∧ old.1.checkpoint.id = id := by
  unfold findGroup at hfind
  exact ⟨List.mk_mem_zipIdx_iff_getElem?.mp (List.mem_of_find?_eq_some hfind),
    by simpa using List.find?_some hfind⟩

omit P in
theorem findGroup_complete (h : Grouped gossip groups)
    {m : TransparencyCheckpointGossip} (hm : m ∈ gossip) :
    ∃ old, findGroup groups m.checkpoint.id = some old := by
  obtain ⟨group, hgroup, hid⟩ := h.cover m hm
  obtain ⟨i, hi⟩ := List.mem_iff_getElem?.mp hgroup
  cases hfind : findGroup groups m.checkpoint.id with
  | some old => exact ⟨old, rfl⟩
  | none =>
      have hnone := List.find?_eq_none.mp hfind (group, i)
        (List.mk_mem_zipIdx_iff_getElem?.mpr hi)
      simp [hid] at hnone

/-- What is constructed is a conflict between listed messages. -/
theorem constructed_gossipConflict (h : Grouped gossip groups)
    (hsame : ∀ m ∈ gossip, ∀ n ∈ gossip, m.checkpoint.id = n.checkpoint.id →
      m.checkpoint = n.checkpoint)
    {c : TransparencyGossipConflict}
    (hc : c ∈ constructedConflicts P identity groups) :
    GossipConflict P identity gossip c := by
  unfold constructedConflicts at hc
  rcases List.mem_append.mp hc with hc | hc
  · obtain ⟨⟨first, second⟩, hpair, rfl⟩ := List.mem_map.mp hc
    obtain ⟨hsub, hsize⟩ := mem_sameSizePairs hpair
    have hfirst : first ∈ groups := hsub.subset List.mem_cons_self
    have hsecond : second ∈ groups :=
      hsub.subset (List.mem_cons_of_mem _ List.mem_cons_self)
    obtain ⟨m, hm, hmid, hmcheckpoint⟩ := h.front hsame hfirst
    obtain ⟨n, hn, hnid, hncheckpoint⟩ := h.front hsame hsecond
    have hne : first.checkpoint.id ≠ second.checkpoint.id := by
      have hnodup := h.distinct.sublist (hsub.map (·.checkpoint.id))
      simpa using hnodup
    have hconflict : sameSizeConflict P first second
        = sameSizeConflict P m.group n.group := by
      unfold sameSizeConflict
      rw [hmid, hnid, hmcheckpoint, hncheckpoint]
      rfl
    rw [hmcheckpoint, hncheckpoint] at hsize hne
    rw [hconflict]
    exact .sameSize hm hn hsize hne
  · obtain ⟨⟨⟨group, i⟩, n⟩, hcheck, hfailed⟩ := List.mem_filterMap.mp hc
    obtain ⟨hget, hmem⟩ := mem_gossipChecks.mp hcheck
    have hgroup : group ∈ groups := List.mem_of_getElem? hget
    unfold failedConflict at hfailed
    cases hold : oldGroup groups n with
    | none => simp [hold] at hfailed
    | some found =>
        obtain ⟨old, proof⟩ := found
        obtain ⟨hproof, hfind⟩ := oldGroup_eq_some.mp hold
        obtain ⟨hgetOld, hidOld⟩ := findGroup_eq_some hfind
        have hgroupOld : old.1 ∈ groups := List.mem_of_getElem? hgetOld
        obtain ⟨m, hm, hmid, hmcheckpoint⟩ := h.front hsame hgroupOld
        obtain ⟨hn, hnid⟩ := (h.messages group hgroup n).mp hmem
        have hncheckpoint := h.checkpoint_eq hsame hgroup hn hnid
        simp only [hold] at hfailed
        rw [hmcheckpoint, ← hncheckpoint] at hfailed
        cases hverify : verifyTransparencyCompactConsistency P identity
            m.checkpoint n.checkpoint proof with
        | ok _ => simp [hverify] at hfailed
        | error e =>
            simp only [hverify, Option.some.injEq] at hfailed
            have hconflict : invalidProofConflict P old.1 group n proof
                = invalidProofConflict P m.group n.group n proof := by
              unfold invalidProofConflict
              rw [hmid, hmcheckpoint, ← hncheckpoint]
              rfl
            rw [← hfailed, hconflict]
            refine .invalidProof hm hn hproof ?_ ?_
            · rw [← hidOld, hmcheckpoint]
            · rw [hverify]
              exact fun hok => by cases hok

/-- A proof that fails is constructed. -/
theorem failed_constructed (h : Grouped gossip groups)
    (hsame : ∀ m ∈ gossip, ∀ n ∈ gossip, m.checkpoint.id = n.checkpoint.id →
      m.checkpoint = n.checkpoint)
    {m n : TransparencyCheckpointGossip}
    {proof : TransparencyCompactConsistencyProof} (hm : m ∈ gossip)
    (hn : n ∈ gossip) (hproof : n.consistencyProof = some proof)
    (hold : proof.oldCheckpointId = m.checkpoint.id)
    (hfail : verifyTransparencyCompactConsistency P identity m.checkpoint
      n.checkpoint proof ≠ .ok ()) :
    ∃ c ∈ constructedConflicts P identity groups,
      c.type = .invalidConsistencyProof ∧
        c.firstCheckpointId = m.checkpoint.id ∧ c.secondGossipId = n.id ∧
        c.secondCheckpointId = n.checkpoint.id ∧
        c.firstTreeSize = m.checkpoint.treeSize ∧
        c.secondTreeSize = n.checkpoint.treeSize ∧
        c.consistencyProofId = proof.id := by
  obtain ⟨group, hgroup, hgroupId⟩ := h.cover n hn
  obtain ⟨i, hi⟩ := List.mem_iff_getElem?.mp hgroup
  obtain ⟨old, hfind⟩ := findGroup_complete h hm
  obtain ⟨hgetOld, hidOld⟩ := findGroup_eq_some hfind
  have hcheckpoint := h.checkpoint_eq hsame hgroup hn hgroupId.symm
  have hcheckpointOld := h.checkpoint_eq hsame (List.mem_of_getElem? hgetOld)
    hm hidOld.symm
  have holdGroup : oldGroup groups n = some (old, proof) :=
    oldGroup_eq_some.mpr ⟨hproof, by rw [hold]; exact hfind⟩
  have hcheck : ((group, i), n) ∈ gossipChecks groups :=
    mem_gossipChecks.mpr ⟨hi, (h.messages group hgroup n).mpr
      ⟨hn, hgroupId.symm⟩⟩
  refine ⟨invalidProofConflict P old.1 group n proof, ?_, rfl, ?_, rfl, ?_, ?_,
    ?_, rfl⟩
  · refine List.mem_append_right _ (List.mem_filterMap.mpr ⟨_, hcheck, ?_⟩)
    unfold failedConflict
    simp only [holdGroup]
    rw [← hcheckpointOld, ← hcheckpoint]
    cases hverify : verifyTransparencyCompactConsistency P identity
        m.checkpoint n.checkpoint proof with
    | ok u =>
        cases u
        exact absurd hverify hfail
    | error e => rfl
  · rw [hcheckpointOld]
    rfl
  · rw [hcheckpoint]
    rfl
  · rw [hcheckpointOld]
    rfl
  · rw [hcheckpoint]
    rfl

end

end RbfSafe
