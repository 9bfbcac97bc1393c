/-
Verification of checkpoints, inclusion proofs and compact consistency
proofs, check by check in the order of the code.
-/
import RbfSafe.Transparency.Merkle

namespace RbfSafe

section
variable (P : Platform)

/-- `verify_transparency_log_checkpoint`. -/
def verifyTransparencyLogCheckpoint (identity : TransparencyLogIdentity)
    (checkpoint : TransparencyLogCheckpoint) : Result Unit :=
  if !identity.valid P || !checkpoint.valid P then
    failure .invalidArgument
      "transparency checkpoint verification input is invalid"
  else if checkpoint.logId ≠ identity.id
      ∨ checkpoint.signerServiceId ≠ identity.signerServiceId
      ∨ checkpoint.signerKeyId ≠ identity.signerKeyId then
    failure .identityMismatch
      "transparency checkpoint signer or log identity mismatch" checkpoint.id
  else do
    let signature ← decodeHex checkpoint.authenticationTag
      kEd25519SignatureBytes
    ed25519Verify P (transparencyLogCheckpointMessage P checkpoint) signature
      identity.signerPublicKey.toList

-- === inclusion

/-- The loop of `verify_transparency_inclusion`: climb from `index` in a
level of `width` entries, consuming the siblings. `none` is a truncated
path. -/
def inclusionLoop (index width : UInt64) (hash : Bytes)
    (siblings : List Bytes) : Option (Bytes × List Bytes) :=
  if h : width > 1 then
    if index &&& 1 ≠ 0 then
      match siblings with
      | [] => none
      | sibling :: siblings =>
          inclusionLoop (index / 2) ((width + 1) / 2)
            (merkleNodeHash P sibling hash) siblings
    else if index + 1 < width then
      match siblings with
      | [] => none
      | sibling :: siblings =>
          inclusionLoop (index / 2) ((width + 1) / 2)
            (merkleNodeHash P hash sibling) siblings
    else inclusionLoop (index / 2) ((width + 1) / 2) hash siblings
  else some (hash, siblings)
termination_by width.toNat
decreasing_by
  all_goals
    have hw : 1 < width.toNat := UInt64.lt_iff_toNat_lt.mp h
    rw [UInt64.toNat_div, UInt64.toNat_add]
    have : (width.toNat + UInt64.toNat 1) % 2 ^ 64 ≤ width.toNat + 1 :=
      Nat.mod_le _ _
    show _ / 2 < _
    omega

/-- `verify_transparency_inclusion`. -/
def verifyTransparencyInclusion (identity : TransparencyLogIdentity)
    (checkpoint : TransparencyLogCheckpoint) (leaf : TransparencyLogLeaf)
    (proof : TransparencyInclusionProof) : Result Unit :=
  if !identity.valid P || !checkpoint.valid P || !leaf.valid P
      || !proof.valid P then
    failure .invalidArgument
      "transparency inclusion verification input is invalid"
  else do
  let _ ← verifyTransparencyLogCheckpoint P identity checkpoint
  if leaf.logId ≠ identity.id ∨ proof.logId ≠ identity.id
      ∨ proof.checkpointId ≠ checkpoint.id ∨ proof.leafId ≠ leaf.id
      ∨ proof.leafIndex ≠ leaf.index ∨ proof.treeSize ≠ checkpoint.treeSize
      ∨ proof.rootHash ≠ checkpoint.rootHash then
    failure .identityMismatch
      "transparency inclusion proof binding mismatch" proof.id
  else match (inclusionLoop P proof.leafIndex proof.treeSize
      (transparencyLeafHash P leaf.id) proof.siblingHashes) with
  | none =>
      failure .corruptData "transparency inclusion proof is truncated" proof.id
  | some (hash, siblings) =>
      if !siblings.isEmpty ∨ hash ≠ checkpoint.rootHash then
        failure .identityMismatch
          "transparency inclusion proof root mismatch" proof.id
      else .ok ()

-- === compact consistency

/-- `frontier[subtree.level] = subtree.hash` over the old frontier. -/
def loadFrontier (frontier : Frontier)
    (entries : List TransparencyMerkleSubtree) : Frontier :=
  entries.foldl (fun frontier entry =>
    if h : entry.level.toNat < 64 then frontier.set entry.level.toNat entry.hash
    else frontier) frontier

/-- The loop of `verify_transparency_compact_consistency`: the root and
the size after the subtrees; `none` when an append fails. -/
def appendSubtrees (frontier : Frontier) (representedSize : UInt64)
    (root : Bytes) :
    List TransparencyMerkleSubtree → Option (Bytes × UInt64)
  | [] => some (root, representedSize)
  | subtree :: rest =>
      let (root, frontier) := transparencyAppendMerkleSubtree P frontier
        subtree.hash subtree.level representedSize
      if root.isEmpty then none
      else appendSubtrees frontier (representedSize + subtree.size) root rest

/-- `verify_transparency_compact_consistency`. -/
def verifyTransparencyCompactConsistency (identity : TransparencyLogIdentity)
    (oldCheckpoint newCheckpoint : TransparencyLogCheckpoint)
    (proof : TransparencyCompactConsistencyProof) : Result Unit :=
  if !identity.valid P || !oldCheckpoint.valid P || !newCheckpoint.valid P
      || !proof.valid P then
    failure .invalidArgument
      "compact transparency consistency verification input is invalid"
  else do
  let _ ← verifyTransparencyLogCheckpoint P identity oldCheckpoint
  let _ ← verifyTransparencyLogCheckpoint P identity newCheckpoint
  if proof.logId ≠ identity.id ∨ proof.oldCheckpointId ≠ oldCheckpoint.id
      ∨ proof.newCheckpointId ≠ newCheckpoint.id
      ∨ proof.oldTreeSize ≠ oldCheckpoint.treeSize
      ∨ proof.newTreeSize ≠ newCheckpoint.treeSize
      ∨ proof.oldRootHash ≠ oldCheckpoint.rootHash
      ∨ proof.newRootHash ≠ newCheckpoint.rootHash then
    failure .identityMismatch
      "compact transparency consistency proof binding mismatch" proof.id
  else if transparencyMerkleFrontierRoot P
      (loadFrontier emptyFrontier proof.oldFrontier) ≠ oldCheckpoint.rootHash then
    failure .identityMismatch
      "compact transparency consistency old frontier root mismatch" proof.id
  else match (appendSubtrees P (loadFrontier emptyFrontier proof.oldFrontier)
      proof.oldTreeSize oldCheckpoint.rootHash proof.appendedSubtrees) with
  | none =>
      failure .corruptData
        "compact transparency consistency subtree sequence is invalid" proof.id
  | some (root, representedSize) =>
      if representedSize ≠ proof.newTreeSize ∨ root ≠ newCheckpoint.rootHash then
        failure .identityMismatch
          "compact transparency consistency new root mismatch" proof.id
      else .ok ()

end

end RbfSafe
