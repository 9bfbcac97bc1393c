/-
A consistent audit is of one log.

A verified proof makes the older leaf list a prefix of the newer one, and
prefixes compose along a path, so whatever the search links is one log
(`prefix_of_path`). Where no pair is unlinked and no conflict is
reported, all sizes differ and every pair is linked.
-/
import RbfSafe.Transparency.Proofs.Consistency
import RbfSafe.Witness.Proofs.Gossip

namespace RbfSafe

open Lib.Sorting Lib.Forest

/-- Two places of a list, in order. -/
theorem pair_sublist {α : Type} {a b : α} : ∀ {l : List α} {i j : Nat}, i < j →
    l[i]? = some a → l[j]? = some b → [a, b].Sublist l
  | [], i, _, _, hi, _ => by simp at hi
  | x :: l, 0, j + 1, _, hi, hj => by
      have hx : x = a := by simpa using hi
      rw [hx]
      exact (List.singleton_sublist.mpr
        (List.mem_of_getElem? (by simpa using hj))).cons_cons _
  | x :: l, i + 1, j + 1, hlt, hi, hj =>
      (pair_sublist (Nat.lt_of_succ_lt_succ hlt) (by simpa using hi)
        (by simpa using hj)).cons _

variable (P : Platform)

/-- Leaf lists for the gossiped checkpoints, by id, of their sizes and
roots. -/
structure LeafAssignment (gossip : List TransparencyCheckpointGossip)
    (leafIds : Bytes → List Bytes) : Prop where
  treeSize : ∀ m ∈ gossip,
    m.checkpoint.treeSize.toNat = (leafIds m.checkpoint.id).length
  rootHash : ∀ m ∈ gossip, m.checkpoint.rootHash
    = transparencyMerkleRoot P (leafIds m.checkpoint.id)

/-- The assigned leaf ids. -/
def assignedLeafIds (gossip : List TransparencyCheckpointGossip)
    (leafIds : Bytes → List Bytes) : Set Bytes :=
  {l | ∃ m ∈ gossip, l ∈ leafIds m.checkpoint.id}

/-- The pairs hashed for the assigned trees and by the verifier of the
gossiped proofs. -/
def assignedPairs (gossip : List TransparencyCheckpointGossip)
    (leafIds : Bytes → List Bytes) : Set (Bytes × Bytes) :=
  {p | ∃ m ∈ gossip, ∃ n ∈ gossip, ∃ proof, n.consistencyProof = some proof ∧
    proof.oldCheckpointId = m.checkpoint.id ∧
    p ∈ consistencyPairs P proof (leafIds m.checkpoint.id)
      (leafIds n.checkpoint.id)}

section
variable {identity : TransparencyLogIdentity}
  {gossip : List TransparencyCheckpointGossip} {groups : List CheckpointGroup}
  {leafIds : Bytes → List Bytes}

/-- A verified proof is between a prefix and its extension. -/
theorem prefix_of_link (hgrouped : Grouped gossip groups)
    (hassigned : LeafAssignment P gossip leafIds)
    (hleaf : Set.InjOn (transparencyLeafHash P)
      (assignedLeafIds gossip leafIds))
    (hnode : NodeInj (merkleNodeHash P) (assignedPairs P gossip leafIds))
    {i j : Nat} (h : VerifiedLink P identity groups i j) :
    ∃ old new, groups[i]? = some old ∧ groups[j]? = some new ∧
      leafIds old.checkpoint.id <+: leafIds new.checkpoint.id := by
  obtain ⟨⟨⟨new, k⟩, n⟩, hcheck, hedge⟩ := h
  obtain ⟨hnew, hn⟩ := mem_gossipChecks.mp hcheck
  unfold verifiedEdge at hedge
  cases hold : oldGroup groups n with
  | none => simp [hold] at hedge
  | some found =>
      obtain ⟨old, proof⟩ := found
      obtain ⟨hproof, hfind⟩ := oldGroup_eq_some.mp hold
      obtain ⟨hgetOld, hidOld⟩ := findGroup_eq_some hfind
      simp only [hold] at hedge
      cases hverify : verifyTransparencyCompactConsistency P identity
          old.1.checkpoint new.checkpoint proof with
      | error _ => simp [hverify] at hedge
      | ok u =>
          simp only [hverify, Option.some.injEq, Prod.mk.injEq] at hedge
          obtain ⟨rfl, rfl⟩ := hedge
          refine ⟨old.1, new, hgetOld, hnew, ?_⟩
          have hgroupOld := List.mem_of_getElem? hgetOld
          have hgroupNew := List.mem_of_getElem? hnew
          obtain ⟨a, ha, hacheckpoint⟩ := hgrouped.checkpoint _ hgroupOld
          obtain ⟨b, hb, hbcheckpoint⟩ := hgrouped.checkpoint _ hgroupNew
          have ha := hgrouped.mem hgroupOld ha
          have hb := hgrouped.mem hgroupNew hb
          obtain ⟨hn, hnid⟩ := (hgrouped.messages _ hgroupNew n).mp hn
          rw [← hacheckpoint, ← hbcheckpoint] at hverify
          rw [← hbcheckpoint] at hnid
          rw [← hacheckpoint, ← hbcheckpoint]
          obtain ⟨hmatch, hreach, hroot, size, happend⟩ :=
            compactConsistency_accepted P hverify
          refine prefix_of_replay P (hassigned.treeSize a ha)
            (hassigned.treeSize b hb) (hassigned.rootHash a ha)
            (hassigned.rootHash b hb) (hleaf.mono ?_) (hnode.mono ?_) hmatch
            hreach hroot happend
          · rintro l (hl | hl)
            · exact ⟨a, ha, hl⟩
            · exact ⟨b, hb, hl⟩
          · intro p hp
            rw [← hnid] at hp
            exact ⟨a, ha, n, hn, proof, hproof, by rw [hacheckpoint, hidOld], hp⟩

/-- **What the search links is one log.** -/
theorem prefix_of_path (hgrouped : Grouped gossip groups)
    (hassigned : LeafAssignment P gossip leafIds)
    (hleaf : Set.InjOn (transparencyLeafHash P)
      (assignedLeafIds gossip leafIds))
    (hnode : NodeInj (merkleNodeHash P) (assignedPairs P gossip leafIds))
    {i j : Nat} {old : CheckpointGroup} (hi : groups[i]? = some old)
    (h : Relation.ReflTransGen (VerifiedLink P identity groups) i j) :
    ∃ new, groups[j]? = some new ∧
      leafIds old.checkpoint.id <+: leafIds new.checkpoint.id := by
  induction h with
  | refl => exact ⟨old, hi, List.prefix_rfl⟩
  | @tail k j _ hlink ih =>
      obtain ⟨middle, hmiddle, hprefix⟩ := ih
      obtain ⟨middle', new, hmiddle', hnew, hprefix'⟩ :=
        prefix_of_link P hgrouped hassigned hleaf hnode hlink
      rw [hmiddle, Option.some.injEq] at hmiddle'
      rw [← hmiddle'] at hprefix'
      exact ⟨new, hnew, hprefix.trans hprefix'⟩

omit P in
/-- Two groups of one size are a pair of the same-size pass. -/
theorem sameSize_listed (hgrouped : Grouped gossip groups)
    {first second : CheckpointGroup} (hfirst : first ∈ groups)
    (hsecond : second ∈ groups)
    (hsize : first.checkpoint.treeSize = second.checkpoint.treeSize)
    (hid : first.checkpoint.id ≠ second.checkpoint.id) :
    (first, second) ∈ sameSizePairs groups ∨
      (second, first) ∈ sameSizePairs groups := by
  obtain ⟨i, hi⟩ := List.mem_iff_getElem?.mp hfirst
  obtain ⟨j, hj⟩ := List.mem_iff_getElem?.mp hsecond
  rcases Nat.lt_trichotomy i j with hlt | heq | hlt
  · exact Or.inl (sameSizePairs_complete hsize hgrouped.ordered
      (pair_sublist hlt hi hj))
  · rw [heq, hj, Option.some.injEq] at hi
    exact absurd (by rw [hi]) hid
  · exact Or.inr (sameSizePairs_complete hsize.symm hgrouped.ordered
      (pair_sublist hlt hj hi))

omit P in
theorem gossipStatus_consistent {conflicts : List TransparencyGossipConflict}
    {unlinked : Nat} (h : gossipStatus conflicts unlinked = .consistent) :
    conflicts = [] ∧ unlinked = 0 := by
  unfold gossipStatus at h
  split at h
  · cases h
  split at h
  · cases h
  · next hconflicts hunlinked =>
      exact ⟨by simpa using hconflicts, by omega⟩

variable {trustBundle : ServiceTrustBundle}
  {options : TransparencyGossipAuditOptions}
  {report : TransparencyGossipAuditReport}

/-- In a consistent report every larger group is linked. -/
theorem consistent_linked
    (hgroups : auditGroups P identity trustBundle options gossip.length groups
      = .ok report) (hgrouped : Grouped gossip groups)
    (hstatus : report.status = .consistent) {first second : CheckpointGroup}
    {i j : Nat} (hi : groups[i]? = some first) (hj : groups[j]? = some second)
    (hid : first.checkpoint.id ≠ second.checkpoint.id)
    (hsize : first.checkpoint.treeSize ≤ second.checkpoint.treeSize) :
    Relation.ReflTransGen (VerifiedLink P identity groups) i j := by
  obtain ⟨hconflicts, hreported, hlinked⟩ := auditGroups_ok P hgroups
  rw [hreported] at hstatus
  obtain ⟨hnone, hunlinked⟩ := gossipStatus_consistent hstatus
  have hconstructed : ∀ c, c ∉ constructedConflicts P identity groups := by
    intro c hc
    obtain ⟨c', hc', -⟩ := key_mem_sortUnique TransparencyGossipConflict.id hc
    have hmem : c' ∈ report.conflicts := by
      rw [hconflicts]
      exact hc'
    rw [hnone] at hmem
    exact List.not_mem_nil hmem
  have hlt : first.checkpoint.treeSize < second.checkpoint.treeSize := by
    refine UInt64.lt_of_le_of_ne hsize fun heq => ?_
    rcases sameSize_listed hgrouped (List.mem_of_getElem? hi)
      (List.mem_of_getElem? hj) heq hid with hpair | hpair
    · exact hconstructed _ (List.mem_append_left _
        (List.mem_map.mpr ⟨_, hpair, rfl⟩))
    · exact hconstructed _ (List.mem_append_left _
        (List.mem_map.mpr ⟨_, hpair, rfl⟩))
  have horder : i < j := by
    by_contra hle
    rcases Nat.lt_or_eq_of_le (Nat.not_lt.mp hle) with hji | hji
    · obtain ⟨hjl, hj'⟩ := List.getElem?_eq_some_iff.mp hj
      obtain ⟨hil, hi'⟩ := List.getElem?_eq_some_iff.mp hi
      have hback := List.pairwise_iff_getElem.mp hgrouped.ordered j i hjl hil hji
      rw [hj', hi'] at hback
      exact absurd hlt (UInt64.not_lt.mpr hback)
    · rw [hji, hi, Option.some.injEq] at hj
      exact hid (by rw [hj])
  refine hlinked hunlinked (first, i) (second, j) (pair_sublist horder ?_ ?_) hlt
  · simp [List.getElem?_zipIdx, hi]
  · simp [List.getElem?_zipIdx, hj]

end

/-- The message without a proof is reported as consistent. -/
theorem audit_sampleGossip (hcheck : ∀ signature key message,
    P.ed25519Check signature key message = true) :
    ∃ report, auditTransparencyCheckpointGossip P (sampleIdentity P)
        [sampleGossip P] (sampleBundle P) {} = .ok report ∧
      report.status = .consistent := by
  have hnone : constructedConflicts P (sampleIdentity P)
      [(sampleGossip P).group] = [] := rfl
  have hsorted : sortConflicts [] = [] := by
    simp [sortConflicts, sortUnique, sort]
  have hreport := (@valid_auditReport P (sampleIdentity P) (sampleBundle P) 1 1
    [] { pairChecks := 0 } (valid_sampleIdentity P) (valid_sampleBundle P)
    le_rfl).mpr fun c hc => by rw [hsorted] at hc; cases hc
  refine ⟨auditReport P (sampleIdentity P) (sampleBundle P) 1 1 []
    { pairChecks := 0 }, ?_, ?_⟩
  · rw [audit_single P (verified_sampleGossip P hcheck), hnone, if_pos hreport]
  · show gossipStatus (sortConflicts []) 0 = .consistent
    rw [hsorted]
    rfl

end RbfSafe
