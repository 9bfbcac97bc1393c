/-
The compact consistency proof is sound against any prover.

The two root comparisons of the verifier are the hypotheses of
`Lib.Forest.take_of_carryBlocks`, for the frontier and the subtrees that
`Subtrees` has put into shape. The digest function cannot be injective,
so collision freedom is asked only of the pairs that are hashed: those
of the two trees and those the verifier itself joins.
-/
import RbfSafe.Transparency.Proofs.Prover

namespace RbfSafe

open Lib.Forest

variable (P : Platform)

-- === acceptance

/-- What the verifier has checked when it accepts a proof. -/
theorem compactConsistency_accepted {identity : TransparencyLogIdentity}
    {oldCheckpoint newCheckpoint : TransparencyLogCheckpoint}
    {proof : TransparencyCompactConsistencyProof}
    (h : verifyTransparencyCompactConsistency P identity oldCheckpoint
      newCheckpoint proof = .ok ()) :
    frontierMatches oldCheckpoint.treeSize 64 0 proof.oldFrontier = true ∧
      subtreesReach newCheckpoint.treeSize oldCheckpoint.treeSize
        proof.appendedSubtrees = true ∧
      transparencyMerkleFrontierRoot P
          (loadFrontier emptyFrontier proof.oldFrontier)
        = oldCheckpoint.rootHash ∧
      ∃ size, appendSubtrees P (loadFrontier emptyFrontier proof.oldFrontier)
          oldCheckpoint.treeSize oldCheckpoint.rootHash proof.appendedSubtrees
        = some (newCheckpoint.rootHash, size) := by
  rw [verifyTransparencyCompactConsistency, ite_failure_eq_ok] at h
  obtain ⟨hvalid, h⟩ := h
  obtain ⟨-, -, h⟩ := bind_eq_ok.mp h
  obtain ⟨-, -, h⟩ := bind_eq_ok.mp h
  rw [ite_failure_eq_ok] at h
  obtain ⟨hbinding, h⟩ := h
  simp only [not_or, not_not] at hbinding
  obtain ⟨-, -, -, hold, hnew, -, -⟩ := hbinding
  rw [ite_failure_eq_ok] at h
  obtain ⟨hroot, h⟩ := h
  simp only [Bool.or_eq_true, Bool.not_eq_true', not_or, Bool.not_eq_false]
    at hvalid
  obtain ⟨-, hproof⟩ := hvalid
  simp only [TransparencyCompactConsistencyProof.valid, Bool.and_eq_true]
    at hproof
  obtain ⟨⟨-, hmatch⟩, hreach⟩ := hproof
  rw [hold] at hmatch
  rw [hold, hnew] at hreach
  refine ⟨hmatch, hreach, not_not.mp hroot, ?_⟩
  rw [hold] at h
  cases happend : appendSubtrees P (loadFrontier emptyFrontier proof.oldFrontier)
      oldCheckpoint.treeSize oldCheckpoint.rootHash proof.appendedSubtrees with
  | none =>
      rw [happend] at h
      simp at h
  | some result =>
      rw [happend] at h
      obtain ⟨hfinal, -⟩ := ite_failure_eq_ok.mp h
      simp only [not_or, not_not] at hfinal
      exact ⟨result.2, by rw [← hfinal.2]⟩

/-- The pairs hashed for the two trees and by the verifier. -/
def consistencyPairs (proof : TransparencyCompactConsistencyProof)
    (oldLeafIds newLeafIds : List Bytes) : List (Bytes × Bytes) :=
  let node := merkleNodeHash P
  let frontier := slots (loadFrontier emptyFrontier proof.oldFrontier)
  let blocks := blocksOf proof.appendedSubtrees
  treePairs node (leafHashes P oldLeafIds)
    ++ treePairs node (leafHashes P newLeafIds)
    ++ foldPairs node frontier none
    ++ blockPairs node frontier blocks
    ++ foldPairs node (carryBlocks node frontier blocks) none

/-- Between the checkpoints of two leaf lists, a frontier with the old root
and subtrees that carry it to the new one make the old list a prefix. -/
theorem prefix_of_replay {oldCheckpoint newCheckpoint : TransparencyLogCheckpoint}
    {proof : TransparencyCompactConsistencyProof}
    {oldLeafIds newLeafIds : List Bytes} {size : UInt64}
    (holdSize : oldCheckpoint.treeSize.toNat = oldLeafIds.length)
    (hnewSize : newCheckpoint.treeSize.toNat = newLeafIds.length)
    (holdRoot : oldCheckpoint.rootHash = transparencyMerkleRoot P oldLeafIds)
    (hnewRoot : newCheckpoint.rootHash = transparencyMerkleRoot P newLeafIds)
    (hleaf : Set.InjOn (transparencyLeafHash P)
      {l | l ∈ oldLeafIds ∨ l ∈ newLeafIds})
    (hnode : NodeInj (merkleNodeHash P)
      {p | p ∈ consistencyPairs P proof oldLeafIds newLeafIds})
    (hmatch : frontierMatches oldCheckpoint.treeSize 64 0 proof.oldFrontier
      = true)
    (hreach : subtreesReach newCheckpoint.treeSize oldCheckpoint.treeSize
      proof.appendedSubtrees = true)
    (hroot : transparencyMerkleFrontierRoot P
      (loadFrontier emptyFrontier proof.oldFrontier) = oldCheckpoint.rootHash)
    (happend : appendSubtrees P (loadFrontier emptyFrontier proof.oldFrontier)
      oldCheckpoint.treeSize oldCheckpoint.rootHash proof.appendedSubtrees
      = some (newCheckpoint.rootHash, size)) :
    oldLeafIds <+: newLeafIds := by
  have hshape := shaped_loadFrontier hmatch
  have hcover := covers_of_subtreesReach hreach
  obtain ⟨frontier', happend', hslots'⟩ :=
    appendSubtrees_spec P proof.appendedSubtrees _ _ hshape hreach
  rw [hroot, happend] at happend'
  simp only [Option.some.injEq, Prod.mk.injEq] at happend'
  rw [holdSize] at hshape
  rw [holdSize, hnewSize] at hcover
  have hnewLt : newLeafIds.length < 2 ^ 64 := by
    rw [← hnewSize]
    exact newCheckpoint.treeSize.toNat_lt
  have hcheckpointRoot : ∀ {leafIds : List Bytes} {frontier : Frontier},
      Shaped leafIds.length (slots frontier) →
      transparencyMerkleFrontierRoot P frontier
        = transparencyMerkleRoot P leafIds →
      foldRoot (merkleNodeHash P) (slots frontier) none
        = treeRoot (merkleNodeHash P) (leafHashes P leafIds) := by
    intro leafIds frontier hs hr
    rw [← slot_frontierRoot, hr]
    cases leafIds with
    | nil => simp [transparencyMerkleRoot, merkleRootLoop, leafHashes]
    | cons l leafIds =>
        rw [treeRoot_leafHashes P (by simp), slot_of_ne_nil]
        exact validSha256_ne_nil (validSha256_transparencyMerkleRoot P (by simp))
  have hfinal : Shaped newLeafIds.length (slots frontier') := by
    rw [hslots']
    exact hcover.shaped _ hshape (by simpa using hnewLt)
  have htake := take_of_carryBlocks (merkleNodeHash P) hnode (N := 64)
    (l := leafHashes P oldLeafIds) (u := leafHashes P newLeafIds)
    (by simpa using hnewLt)
    (fun p hp => by simp [consistencyPairs, hp])
    (fun p hp => by simp [consistencyPairs, hp])
    (by simpa using hcover) (by simpa using hshape) (length_slots _)
    (fun p hp => by simp [consistencyPairs, hp])
    (fun p hp => by simp [consistencyPairs, hp])
    (fun p hp => by simp [consistencyPairs, hp])
    (hcheckpointRoot hshape (hroot.trans holdRoot))
    (by
      rw [← hslots']
      exact hcheckpointRoot hfinal (happend'.1.symm.trans hnewRoot))
  rw [List.length_map, leafHashes, leafHashes, ← List.map_take] at htake
  have hstart := eq_of_map_eq hleaf (fun x hx => Or.inl hx)
    (fun x hx => Or.inr (List.mem_of_mem_take hx)) htake
  rw [hstart]
  exact List.take_prefix _ _

/-- **Soundness of the compact consistency proof.** If the verifier
accepts any proof between the checkpoints of two leaf lists, the old
list is a prefix of the new one, unless two of the inputs that were
hashed collide. -/
theorem compactConsistency_sound {identity : TransparencyLogIdentity}
    {oldCheckpoint newCheckpoint : TransparencyLogCheckpoint}
    {proof : TransparencyCompactConsistencyProof}
    {oldLeafIds newLeafIds : List Bytes}
    (holdSize : oldCheckpoint.treeSize.toNat = oldLeafIds.length)
    (hnewSize : newCheckpoint.treeSize.toNat = newLeafIds.length)
    (holdRoot : oldCheckpoint.rootHash = transparencyMerkleRoot P oldLeafIds)
    (hnewRoot : newCheckpoint.rootHash = transparencyMerkleRoot P newLeafIds)
    (hleaf : Set.InjOn (transparencyLeafHash P)
      {l | l ∈ oldLeafIds ∨ l ∈ newLeafIds})
    (hnode : NodeInj (merkleNodeHash P)
      {p | p ∈ consistencyPairs P proof oldLeafIds newLeafIds})
    (haccept : verifyTransparencyCompactConsistency P identity oldCheckpoint
      newCheckpoint proof = .ok ()) :
    oldLeafIds <+: newLeafIds := by
  obtain ⟨hmatch, hreach, hroot, size, happend⟩ :=
    compactConsistency_accepted P haccept
  exact prefix_of_replay P holdSize hnewSize holdRoot hnewRoot hleaf hnode hmatch
    hreach hroot happend

/-- A proof between a leaf and the same leaf twice, and all it joins. -/
theorem twin_accepted (hcheck : ∀ signature key message,
    P.ed25519Check signature key message = true) :
    let leafId := (sampleRecord₁ P).leaf.id
    let leafHash := transparencyLeafHash P leafId
    ∃ proof, verifyTransparencyCompactConsistency P (sampleIdentity P)
        (sampleRecord₁ P).checkpoint (sampleTwin P) proof = .ok () ∧
      ∀ p ∈ consistencyPairs P proof [leafId] [leafId, leafId],
        p = (leafHash, leafHash) := by
  intro leafId leafHash
  have hid : validSha256 leafId = true := P.validSha256_digest _
  have hroom : 0 + 1 < 2 ^ 64 := by decide
  obtain ⟨frontier, -, htracks⟩ := (tracks_empty P).append_leaf hid hroom
  rw [List.nil_append] at htracks
  let subtrees : List TransparencyMerkleSubtree := [⟨0, leafHash⟩]
  have hreach : subtreesReach 2 1 subtrees = true := by
    have hsubtree : (⟨0, leafHash⟩ : TransparencyMerkleSubtree).valid = true := by
      simp [TransparencyMerkleSubtree.valid, leafHash,
        validSha256_transparencyLeafHash]
    have hsize : (⟨0, leafHash⟩ : TransparencyMerkleSubtree).size = 1 := by
      rw [TransparencyMerkleSubtree.size]
      rfl
    rw [subtreesReach, hsubtree, hsize]
    rfl
  have hcarry : carryBlocks (merkleNodeHash P) (slots frontier)
      (blocksOf subtrees)
      = peaks (merkleNodeHash P) 64 (leafHashes P [leafId, leafId]) := by
    rw [htracks]
    exact (peaks_snoc (merkleNodeHash P) 64 [leafHash] leafHash).symm
  have hold : CheckpointOf P (sampleIdentity P)
      ([leafId, leafId].take (1 : UInt64).toNat) (sampleRecord₁ P).checkpoint :=
    checkpointOf_sample₁ P hcheck
  obtain ⟨-, -, haccept⟩ := assembled_accepted (m := 1) (n := 2)
    (valid_sampleIdentity P) hold (checkpointOf_sampleTwin P hcheck) (by decide) (by decide) rfl htracks
    hreach hcarry (by simp [subtrees]) (by simp [subtrees])
  refine ⟨_, haccept, fun p hp => ?_⟩
  have htree : treePairs (merkleNodeHash P) (leafHashes P [leafId, leafId])
      = [(leafHash, leafHash)] := by
    simp [treePairs, levelPairs, pairUp, leafHashes, leafHash]
  have hone : treePairs (merkleNodeHash P) (leafHashes P [leafId]) = [] := by
    simp [treePairs, leafHashes]
  -- every step of the verifier is a step of the counter
  have hfold : ∀ leafIds : List Bytes, foldPairs (merkleNodeHash P)
      (peaks (merkleNodeHash P) 64 (leafHashes P leafIds)) none
        ⊆ treePairs (merkleNodeHash P) (leafHashes P leafIds) := by
    intro leafIds
    have h := foldPairs_peaks_subset (merkleNodeHash P) 64
      (leafHashes P leafIds) none
    rwa [Option.toList_none, List.append_nil] at h
  have hblock : blockPairs (merkleNodeHash P)
      (peaks (merkleNodeHash P) 64 (leafHashes P [leafId])) (blocksOf subtrees)
        ⊆ treePairs (merkleNodeHash P) (leafHashes P [leafId, leafId]) := by
    have h := List.Subset.trans
      (carryPairs_peaks_subset (merkleNodeHash P) 64 [leafHash] leafHash)
      (fullPairs_subset_treePairs (merkleNodeHash P) _ [])
    rw [List.append_nil] at h
    simpa [blocksOf, subtrees, blockPairs, leafHashes] using h
  have hload : loadFrontier emptyFrontier (frontierEntries frontier 64 0)
      = frontier := htracks.reload hroom
  have hfoldOne := hfold [leafId]
  have hfoldTwo := hfold [leafId, leafId]
  rw [hone, ← htracks] at hfoldOne
  rw [htree] at hfoldTwo
  rw [htree, ← htracks] at hblock
  simp only [consistencyPairs, assembleCompactProof, hload, hcarry, htree, hone,
    List.mem_append, List.nil_append] at hp
  rcases hp with ((hp | hp) | hp) | hp
  · exact List.mem_singleton.mp hp
  · exact absurd (hfoldOne hp) List.not_mem_nil
  · exact List.mem_singleton.mp (hblock hp)
  · exact List.mem_singleton.mp (hfoldTwo hp)

theorem compactConsistency_sound_twin :
    let P := host fun _ _ _ => true
    let leafId := (sampleRecord₁ P).leaf.id
    ∃ proof, verifyTransparencyCompactConsistency P (sampleIdentity P)
        (sampleRecord₁ P).checkpoint (sampleTwin P) proof = .ok () ∧
      [leafId] <+: [leafId, leafId] := by
  intro P leafId
  obtain ⟨proof, haccept, hpairs⟩ := twin_accepted P fun _ _ _ => rfl
  have hold := checkpointOf_sample₁ P fun _ _ _ => rfl
  have hnew := checkpointOf_sampleTwin P fun _ _ _ => rfl
  refine ⟨proof, haccept, compactConsistency_sound P hold.treeSize
    hnew.treeSize hold.rootHash hnew.rootHash ?_ ?_ haccept⟩
  · intro x hx y hy _
    have hx' : x = leafId := by simpa using hx
    have hy' : y = leafId := by simpa using hy
    rw [hx', hy']
  · intro p hp q hq _
    rw [hpairs p hp, hpairs q hq]

end RbfSafe
