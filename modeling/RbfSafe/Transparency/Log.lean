/-
The open log: the replay that `valid` performs over all records, and the
two provers.

A log in memory is never changed in place by a prover, so each is a
function of the log. The loops of the compact prover run on 64-bit
cursors; that the block chosen never exceeds what is left is part of
the cursor loop's definition, since it is why the loop ends.
-/
import RbfSafe.Transparency.Verify

namespace RbfSafe

/-- `TransparencyLogLoadOptions`, less the cancellation token. -/
structure TransparencyLogLoadOptions where
  maximumRecords : Nat := 1000000
  maximumAttestationsPerObservation : Nat := 100000
  maximumTotalAttestations : Nat := 1000000
  maximumManifestBytes : Nat := 65536
  maximumRecordBytes : Nat := 16777216

/-- `TransparencyLog`. -/
structure TransparencyLog where
  directory : Bytes
  identity : TransparencyLogIdentity
  records : List TransparencyLogRecord := []
  currentCheckpointId : Bytes := []
  currentRootHash : Bytes := []
  merkleFrontier : Frontier := emptyFrontier
  options : TransparencyLogLoadOptions := {}

/-- The variables of the loop of `TransparencyLog::valid`. -/
structure LogReplay where
  parentRecord : Bytes := []
  previousCheckpoint : Bytes := []
  totalAttestations : Nat := 0
  frontier : Frontier := emptyFrontier

section
variable (P : Platform)

/-- The attestation budget of `TransparencyLog::valid`. -/
def countAttestations (options : TransparencyLogLoadOptions) (total : Nat)
    (leaf : TransparencyLogLeaf) : Option Nat :=
  match leaf.runtimeObservation with
  | none => some total
  | some observation =>
      let count := observation.attestations.length
      if count > options.maximumAttestationsPerObservation
          ∨ total > options.maximumTotalAttestations
          ∨ count > options.maximumTotalAttestations - total then none
      else some (total + count)

/-- One round of the loop of `TransparencyLog::valid`. -/
def replayRecord (identity : TransparencyLogIdentity)
    (options : TransparencyLogLoadOptions) (index : Nat) (state : LogReplay)
    (record : TransparencyLogRecord) : Option LogReplay :=
  if !record.valid P ∨ record.sequence.toNat ≠ index
      ∨ record.parentId ≠ state.parentRecord ∨ record.logId ≠ identity.id
      ∨ record.checkpoint.previousCheckpointId ≠ state.previousCheckpoint
      ∨ verifyTransparencyLogCheckpoint P identity record.checkpoint ≠ .ok () then
    none
  else match countAttestations options state.totalAttestations record.leaf with
  | none => none
  | some total =>
      let (root, frontier) := transparencyAppendMerkleLeaf P state.frontier
        record.leaf.id (UInt64.ofNat index)
      if root.isEmpty ∨ record.checkpoint.rootHash ≠ root then none
      else some
        { parentRecord := record.id
          previousCheckpoint := record.checkpoint.id
          totalAttestations := total
          frontier := frontier }

/-- The loop of `TransparencyLog::valid`. -/
def replayRecords (identity : TransparencyLogIdentity)
    (options : TransparencyLogLoadOptions) :
    Nat → LogReplay → List TransparencyLogRecord → Option LogReplay
  | _, state, [] => some state
  | index, state, record :: rest =>
      (replayRecord P identity options index state record).bind fun state =>
        replayRecords identity options (index + 1) state rest

/-- `TransparencyLog::valid`. -/
def TransparencyLog.valid (log : TransparencyLog) : Bool :=
  if log.directory.isEmpty || !log.identity.valid P
      || decide (log.records.length > log.options.maximumRecords) then false
  else match log.records.getLast? with
  | none =>
      log.currentCheckpointId.isEmpty && log.currentRootHash.isEmpty
        && log.merkleFrontier.toList.all List.isEmpty
  | some last =>
      match replayRecords P log.identity log.options 0 {} log.records with
      | none => false
      | some state =>
          log.currentCheckpointId == last.checkpoint.id
            && log.currentRootHash == last.checkpoint.rootHash
            && log.merkleFrontier == state.frontier

/-- The leaf ids of a log, oldest first. -/
def TransparencyLog.leafIds (log : TransparencyLog) : List Bytes :=
  log.records.map fun record => record.leaf.id

-- === publication

/-- The leaf `TransparencyLog::publish_leaf` makes of a payload. -/
def TransparencyLog.nextLeaf (log : TransparencyLog)
    (leaf : TransparencyLogLeaf) : TransparencyLogLeaf :=
  let leaf := { leaf with
    index := UInt64.ofNat log.records.length
    logId := log.identity.id }
  { leaf with id := transparencyLogLeafIdentity P leaf }

/-- The checkpoint `sign_checkpoint` is given, before it is signed. -/
def TransparencyLog.unsignedCheckpoint (log : TransparencyLog)
    (leafId : Bytes) : TransparencyLogCheckpoint :=
  { logId := log.identity.id
    treeSize := UInt64.ofNat log.records.length + 1
    rootHash := (transparencyAppendMerkleLeaf P log.merkleFrontier leafId
      (UInt64.ofNat log.records.length)).1
    previousCheckpointId := log.currentCheckpointId
    signerServiceId := log.identity.signerServiceId
    signerKeyId := log.identity.signerKeyId }

/-- The checkpoint `sign_checkpoint` returns for a signature. -/
def signedCheckpoint (checkpoint : TransparencyLogCheckpoint)
    (signature : Bytes) : TransparencyLogCheckpoint :=
  let checkpoint := { checkpoint with authenticationTag := encodeHex signature }
  { checkpoint with id := transparencyLogCheckpointIdentity P checkpoint }

/-- The id of the last record, empty for an empty log. -/
def parentRecordId (records : List TransparencyLogRecord) : Bytes :=
  (records.getLast?.map fun last => last.id).getD []

/-- The record `TransparencyLog::publish_leaf` writes. -/
def TransparencyLog.nextRecord (log : TransparencyLog)
    (leaf : TransparencyLogLeaf) (signature : Bytes) : TransparencyLogRecord :=
  let leaf := log.nextLeaf P leaf
  let record : TransparencyLogRecord :=
    { sequence := leaf.index
      parentId := parentRecordId log.records
      logId := log.identity.id
      leaf := leaf
      checkpoint := signedCheckpoint P (log.unsignedCheckpoint P leaf.id) signature }
  { record with id := transparencyLogRecordIdentity P record }

/-- The log `TransparencyLog::publish_leaf` holds afterwards. -/
def TransparencyLog.appended (log : TransparencyLog)
    (record : TransparencyLogRecord) : TransparencyLog :=
  { log with
    records := log.records ++ [record]
    currentCheckpointId := record.checkpoint.id
    currentRootHash := record.checkpoint.rootHash
    merkleFrontier := (transparencyAppendMerkleLeaf P log.merkleFrontier
      record.leaf.id (UInt64.ofNat log.records.length)).2 }

-- === inclusion

/-- The loop of `TransparencyLog::inclusion_proof`: the siblings of entry
`index`, level after level. -/
def siblingLoop : List Bytes → UInt64 → List Bytes
  | [], _ => []
  | [_], _ => []
  | a :: b :: rest, index =>
      let level := a :: b :: rest
      let sibling :=
        if index &&& 1 ≠ 0 then [level.getD (index.toNat - 1) []]
        else if index.toNat + 1 < level.length then
          [level.getD (index.toNat + 1) []]
        else []
      sibling ++ siblingLoop (merkleLevelUp P level) (index / 2)
termination_by level => level.length
decreasing_by
  rw [length_merkleLevelUp]
  simp only [List.length_cons]
  omega

/-- The siblings `TransparencyLog::inclusion_proof` emits for a list of
leaf ids. -/
def emittedSiblings (leafIds : List Bytes) (index : UInt64) : List Bytes :=
  siblingLoop P (leafIds.map (transparencyLeafHash P)) index

/-- The proof `TransparencyLog::inclusion_proof` fills in, with its
identity. -/
def assembleInclusionProof (logId checkpointId rootHash : Bytes)
    (treeSize : UInt64) (leafIds : List Bytes) (leafId : Bytes)
    (leafIndex : UInt64) : TransparencyInclusionProof :=
  let proof : TransparencyInclusionProof :=
    { logId := logId
      checkpointId := checkpointId
      leafId := leafId
      leafIndex := leafIndex
      treeSize := treeSize
      rootHash := rootHash
      siblingHashes := emittedSiblings P leafIds leafIndex }
  { proof with id := transparencyInclusionProofIdentity P proof }

/-- `TransparencyLog::inclusion_proof`. -/
def TransparencyLog.inclusionProof (log : TransparencyLog)
    (leafIndex : UInt64) : Result TransparencyInclusionProof :=
  if !log.valid P || decide (leafIndex.toNat ≥ log.records.length) then
    failure .invalidArgument "transparency inclusion leaf index is invalid"
  else match log.records[leafIndex.toNat]?, log.records.getLast? with
  | some record, some last =>
      let proof := assembleInclusionProof P log.identity.id
        log.currentCheckpointId log.currentRootHash
        (UInt64.ofNat log.records.length) log.leafIds record.leaf.id leafIndex
      do
        let _ ← verifyTransparencyInclusion P log.identity last.checkpoint
          record.leaf proof
        return proof
  | _, _ =>
      failure .invalidArgument "transparency inclusion leaf index is invalid"

-- === compact consistency

/-- The inner loop of `TransparencyLog::compact_consistency_proof`: the
level of the largest aligned block that still fits. -/
def blockLevel (cursor remaining : UInt64) (level : Nat) : Nat :=
  if level < 63 then
    if (1 : UInt64) <<< UInt64.ofNat (level + 1) > remaining
        ∨ cursor &&& ((1 : UInt64) <<< UInt64.ofNat (level + 1) - 1) ≠ 0 then
      level
    else blockLevel cursor remaining (level + 1)
  else level
termination_by 63 - level

/-- Reconstruct the old frontier from the leaves. -/
def rebuildFrontier (frontier : Frontier) (index : UInt64) :
    List Bytes → Option Frontier
  | [] => some frontier
  | leafId :: rest =>
      let (root, frontier) := transparencyAppendMerkleLeaf P frontier leafId index
      if root.isEmpty then none else rebuildFrontier frontier (index + 1) rest

/-- The occupied slots from `level` up, lowest first. -/
def frontierEntries (frontier : Frontier) :
    Nat → Nat → List TransparencyMerkleSubtree
  | 0, _ => []
  | left + 1, level =>
      if (frontier.toList.getD level []).isEmpty then
        frontierEntries frontier left (level + 1)
      else
        { level := UInt8.ofNat level, hash := frontier.toList.getD level [] }
          :: frontierEntries frontier left (level + 1)

end

/-- A power of two below `2 ^ 64` as the source shifts it. -/
theorem toNat_shiftLeft_ofNat {k : Nat} (h : k < 64) :
    ((1 : UInt64) <<< UInt64.ofNat k).toNat = 2 ^ k := by
  have hlt : 2 ^ k < 2 ^ 64 := Nat.pow_lt_pow_right (by omega) h
  have hk : (UInt64.ofNat k).toNat = k := UInt64.toNat_ofNat_of_lt' (by
    show k < 2 ^ 64
    omega)
  rw [UInt64.toNat_shiftLeft, hk, Nat.mod_eq_of_lt h, UInt64.toNat_one,
    Nat.shiftLeft_eq, one_mul, Nat.mod_eq_of_lt hlt]

/-- The block chosen fits into what is left. -/
theorem blockLevel_fits (cursor remaining : UInt64) : ∀ level : Nat,
    level ≤ 63 → 2 ^ level ≤ remaining.toNat →
    blockLevel cursor remaining level ≤ 63 ∧
      2 ^ blockLevel cursor remaining level ≤ remaining.toNat := by
  intro level
  induction hm : 63 - level generalizing level with
  | zero =>
      intro hle hfit
      rw [blockLevel, if_neg (by omega)]
      exact ⟨hle, hfit⟩
  | succ m ih =>
      intro hle hfit
      rw [blockLevel, if_pos (by omega)]
      split
      · exact ⟨hle, hfit⟩
      · next hstop =>
          rw [not_or, gt_iff_lt, UInt64.lt_iff_toNat_lt,
            toNat_shiftLeft_ofNat (by omega)] at hstop
          exact ih (level + 1) (by omega) (by omega) (by omega)

section
variable (P : Platform)

/-- The cursor loop of `TransparencyLog::compact_consistency_proof`. -/
def cursorLoop (leafIds : List Bytes) (newTreeSize : UInt64)
    (frontier : Frontier) (cursor : UInt64) :
    Option (List TransparencyMerkleSubtree) :=
  if _h : cursor < newTreeSize then
    let level := blockLevel cursor (newTreeSize - cursor) 0
    let subtreeSize : UInt64 := 1 <<< UInt64.ofNat level
    let block := (leafIds.drop cursor.toNat).take subtreeSize.toNat
    let subtreeHash := transparencyMerkleRoot P block
    let (root, frontier) := transparencyAppendMerkleSubtree P frontier
      subtreeHash (UInt8.ofNat level) cursor
    if subtreeHash.isEmpty ∨ root.isEmpty then none
    else match cursorLoop leafIds newTreeSize frontier (cursor + subtreeSize) with
      | none => none
      | some rest => some ({ level := UInt8.ofNat level, hash := subtreeHash } :: rest)
  else some []
termination_by newTreeSize.toNat - cursor.toNat
decreasing_by
  have hlt := UInt64.lt_iff_toNat_lt.mp _h
  have hrem : (newTreeSize - cursor).toNat = newTreeSize.toNat - cursor.toNat :=
    UInt64.toNat_sub_of_le _ _ (UInt64.le_iff_toNat_le.mpr (by omega))
  obtain ⟨hle, hfit⟩ := blockLevel_fits cursor (newTreeSize - cursor) 0
    (by omega) (by rw [hrem]; omega)
  have hsize := toNat_shiftLeft_ofNat
    (k := blockLevel cursor (newTreeSize - cursor) 0) (by omega)
  have hpos := Nat.two_pow_pos (blockLevel cursor (newTreeSize - cursor) 0)
  have hbound := newTreeSize.toNat_lt
  rw [UInt64.toNat_add, hsize, Nat.mod_eq_of_lt (by omega)]
  omega

/-- The proof `TransparencyLog::compact_consistency_proof` fills in, with
its identity. -/
def assembleCompactProof (identity : TransparencyLogIdentity)
    (old new : TransparencyLogCheckpoint) (oldTreeSize newTreeSize : UInt64)
    (frontier : Frontier) (subtrees : List TransparencyMerkleSubtree) :
    TransparencyCompactConsistencyProof :=
  let proof : TransparencyCompactConsistencyProof :=
    { logId := identity.id
      oldCheckpointId := old.id
      newCheckpointId := new.id
      oldTreeSize := oldTreeSize
      newTreeSize := newTreeSize
      oldRootHash := old.rootHash
      newRootHash := new.rootHash
      oldFrontier := frontierEntries frontier 64 0
      appendedSubtrees := subtrees }
  { proof with id := transparencyCompactConsistencyProofIdentity P proof }

/-- `TransparencyLog::compact_consistency_proof`. -/
def TransparencyLog.compactConsistencyProof (log : TransparencyLog)
    (oldTreeSize : UInt64) : Result TransparencyCompactConsistencyProof :=
  if !log.valid P || oldTreeSize == 0
      || decide (oldTreeSize.toNat ≥ log.records.length) then
    failure .invalidArgument
      "compact transparency consistency old tree size is invalid"
  else match log.records[oldTreeSize.toNat - 1]?, log.records.getLast? with
  | some old, some new =>
      match rebuildFrontier P emptyFrontier 0
          (log.leafIds.take oldTreeSize.toNat) with
      | none =>
          failure .internalError
            "failed to reconstruct compact consistency old frontier"
      | some frontier =>
      match cursorLoop P log.leafIds (UInt64.ofNat log.records.length) frontier
          oldTreeSize with
      | none =>
          failure .internalError
            "failed to construct compact consistency appended subtree"
      | some subtrees =>
      let proof := assembleCompactProof P log.identity old.checkpoint
        new.checkpoint oldTreeSize (UInt64.ofNat log.records.length) frontier
        subtrees
      do
        let _ ← verifyTransparencyCompactConsistency P log.identity
          old.checkpoint new.checkpoint proof
        return proof
  | _, _ =>
      failure .invalidArgument
        "compact transparency consistency old tree size is invalid"

end

end RbfSafe
