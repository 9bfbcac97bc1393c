/-
Publishing keeps a log valid.

Replaying one more record is one more round at the end
(`replayRecords_snoc`), and the record `publish_leaf` makes passes every
check of that round: its identities are digests of its own fields, its
root is the batch root by `Tracks`, and its signature is the signer's.
`valid_nextRecord` and `valid_appended` together are the induction step
for logs, which the log of two anchors at the end takes twice.
-/
import RbfSafe.Transparency.Proofs.Log

namespace RbfSafe

open Lib.Forest

variable {P : Platform}

-- === publication

/-- A record that passes the checks is replayed, and the frontier stays
in step. -/
theorem replayRecord_complete {identity : TransparencyLogIdentity}
    {options : TransparencyLogLoadOptions} {before : List Bytes}
    {state : LogReplay} {record : TransparencyLogRecord} {total : Nat}
    (htracks : Tracks P state.frontier before)
    (hlen : before.length + 1 < 2 ^ 64)
    (hvalid : record.valid P = true)
    (hsequence : record.sequence.toNat = before.length)
    (hparent : record.parentId = state.parentRecord)
    (hlogId : record.logId = identity.id)
    (hprevious : record.checkpoint.previousCheckpointId
      = state.previousCheckpoint)
    (hverified : verifyTransparencyLogCheckpoint P identity record.checkpoint
      = .ok ())
    (htotal : countAttestations options state.totalAttestations record.leaf
      = some total)
    (hid : validSha256 record.leaf.id = true)
    (hroot : record.checkpoint.rootHash
      = transparencyMerkleRoot P (before ++ [record.leaf.id])) :
    replayRecord P identity options before.length state record = some
      { parentRecord := record.id
        previousCheckpoint := record.checkpoint.id
        totalAttestations := total
        frontier := (transparencyAppendMerkleLeaf P state.frontier
          record.leaf.id (UInt64.ofNat before.length)).2 } := by
  obtain ⟨frontier', hcall, htracks'⟩ := htracks.append_leaf hid hlen
  have hsame := htracks'.root (by simp) (by simp; omega)
  have hids : before ++ [record.leaf.id] ≠ [] := by simp
  have hne := validSha256_ne_nil (validSha256_transparencyMerkleRoot P hids)
  rw [replayRecord, if_neg (by
    simp [hvalid, hsequence, hparent, hlogId, hprevious, hverified])]
  simp only [htotal, hcall]
  rw [if_neg (by simp [hsame, hroot, hne])]

/-- A replay goes on with one more record. -/
theorem replayRecords_snoc {identity : TransparencyLogIdentity}
    {options : TransparencyLogLoadOptions} {middle final : LogReplay}
    {record : TransparencyLogRecord} (records : List TransparencyLogRecord) :
    ∀ (index : Nat) (state : LogReplay),
      replayRecords P identity options index state records = some middle →
      replayRecord P identity options (index + records.length) middle record
        = some final →
      replayRecords P identity options index state (records ++ [record])
        = some final := by
  induction records with
  | nil =>
      intro index state h hstep
      rw [replayRecords_nil, Option.some.injEq] at h
      show (replayRecord P identity options index state record).bind _ = _
      rw [h]
      rw [List.length_nil, Nat.add_zero] at hstep
      rw [hstep]
      rfl
  | cons first records ih =>
      intro index state h hstep
      obtain ⟨next, hnext, hrest⟩ := replayRecords_cons h
      show (replayRecord P identity options index state first).bind _ = _
      rw [hnext, Option.bind_some]
      refine ih (index + 1) next hrest ?_
      rwa [Nat.add_assoc, Nat.add_comm 1]

/-- The head of a replay is its last record. -/
theorem replayRecords_last {identity : TransparencyLogIdentity}
    {options : TransparencyLogLoadOptions} {state' : LogReplay}
    (records : List TransparencyLogRecord) :
    ∀ (index : Nat) (state : LogReplay),
      replayRecords P identity options index state records = some state' →
      ∀ {last : TransparencyLogRecord}, records.getLast? = some last →
        state'.parentRecord = last.id ∧
          state'.previousCheckpoint = last.checkpoint.id := by
  induction records with
  | nil =>
      intro index state _ last hlast
      cases hlast
  | cons record rest ih =>
      intro index state h last hlast
      obtain ⟨next, hnext, hrest⟩ := replayRecords_cons h
      cases rest with
      | cons r rest =>
          exact ih _ next hrest (by simpa using hlast)
      | nil =>
          have hrecord : record = last := by simpa using hlast
          rw [replayRecords_nil, Option.some.injEq] at hrest
          subst hrecord
          rw [← hrest]
          rw [replayRecord] at hnext
          split at hnext
          · cases hnext
          · split at hnext
            · cases hnext
            · simp only at hnext
              split at hnext
              · cases hnext
              · rw [Option.some.injEq] at hnext
                rw [← hnext]
                exact ⟨rfl, rfl⟩

theorem parentRecordId_of_last {records : List TransparencyLogRecord}
    {last : TransparencyLogRecord} (h : records.getLast? = some last) :
    parentRecordId records = last.id := by
  rw [parentRecordId, h]
  rfl

/-- The replay of a valid log, also when it has no record yet. -/
theorem valid_replay {log : TransparencyLog} (h : log.valid P = true) :
    ∃ state, replayRecords P log.identity log.options 0 {} log.records
        = some state ∧
      log.merkleFrontier = state.frontier ∧
      log.currentCheckpointId = state.previousCheckpoint ∧
      parentRecordId log.records = state.parentRecord := by
  have hvalid := valid_log h
  rw [TransparencyLog.valid] at h
  split at h
  · simp at h
  · split at h
    · next hlast =>
        have hnil : log.records = [] := List.getLast?_eq_none_iff.mp hlast
        simp only [Bool.and_eq_true, List.isEmpty_iff] at h
        refine ⟨{}, by rw [hnil]; rfl, ?_, h.1.1, by rw [hnil]; rfl⟩
        have htracks := hvalid.frontier
        have hids : log.leafIds = [] := by simp [TransparencyLog.leafIds, hnil]
        rw [hids] at htracks
        exact slots_inj (htracks.trans slots_emptyFrontier.symm)
    · next last hlast =>
        split at h
        · simp at h
        · next state hreplay =>
            simp only [Bool.and_eq_true, beq_iff_eq] at h
            obtain ⟨hparent, hprevious⟩ :=
              replayRecords_last log.records 0 {} hreplay hlast
            exact ⟨state, hreplay, h.2, by rw [h.1.1, hprevious], by
              rw [parentRecordId_of_last hlast, hparent]⟩

/-- **Publishing keeps a log valid**: the record made of a valid payload
and a verified signature extends it. -/
theorem valid_appended {log : TransparencyLog} {leaf : TransparencyLogLeaf}
    {signature : Bytes} (hlog : log.valid P = true)
    (hcap : log.records.length + 1 ≤ log.options.maximumRecords)
    (hroom : log.records.length + 1 < 2 ^ 64)
    (hrecord : (log.nextRecord P leaf signature).valid P = true)
    (hverified : verifyTransparencyLogCheckpoint P log.identity
      (log.nextRecord P leaf signature).checkpoint = .ok ())
    (hbudget : ∀ total', ∃ total, countAttestations log.options total'
      (log.nextRecord P leaf signature).leaf = some total) :
    (log.appended P (log.nextRecord P leaf signature)).valid P = true := by
  have hvalid := valid_log hlog
  obtain ⟨state, hreplay, hfrontier, hprevious, hparent⟩ := valid_replay hlog
  set record := log.nextRecord P leaf signature with hdef
  have hid : validSha256 record.leaf.id = true := P.validSha256_digest _
  have hlen := length_leafIds log
  have htracks : Tracks P state.frontier log.leafIds := by
    rw [← hfrontier]
    exact hvalid.frontier
  obtain ⟨total, htotal⟩ := hbudget state.totalAttestations
  have hroot : record.checkpoint.rootHash
      = transparencyMerkleRoot P (log.leafIds ++ [record.leaf.id]) := by
    obtain ⟨frontier', hcall, htracks'⟩ :=
      hvalid.frontier.append_leaf hid (by omega)
    rw [hlen] at hcall
    show (transparencyAppendMerkleLeaf P log.merkleFrontier record.leaf.id
      (UInt64.ofNat log.records.length)).1 = _
    rw [hcall]
    exact htracks'.root (by simp) (by simp; omega)
  have hsequence : record.sequence.toNat = log.leafIds.length := by
    show (UInt64.ofNat log.records.length).toNat = _
    rw [toNat_ofNat_length (by omega), hlen]
  have hlogId : record.logId = log.identity.id := rfl
  have hstep := replayRecord_complete htracks (by omega) hrecord hsequence
    hparent hlogId hprevious hverified htotal hid hroot
  rw [hlen] at hstep
  have hrun := replayRecords_snoc log.records 0 {} hreplay
    (by rw [Nat.zero_add]; exact hstep)
  have hdirectory : log.directory.isEmpty = false := by
    rw [TransparencyLog.valid] at hlog
    split at hlog
    · simp at hlog
    · next hchecks =>
        simp only [Bool.or_eq_true, not_or] at hchecks
        simpa using hchecks.1.1
  rw [TransparencyLog.valid, if_neg]
  · simp only [TransparencyLog.appended, List.getLast?_append,
      List.getLast?_singleton, Option.some_or, hrun, hfrontier, beq_self_eq_true,
      Bool.and_self]
  · simp only [TransparencyLog.appended, hdirectory, hvalid.identity,
      List.length_append, List.length_singleton]
    simpa using hcap

/-- The payload check of a leaf. -/
def TransparencyLogLeaf.payloadValid (P : Platform)
    (leaf : TransparencyLogLeaf) : Prop :=
  (∃ anchor, leaf.kind = .deploymentAnchor ∧
      leaf.deploymentAnchor = some anchor ∧ leaf.runtimeObservation = none ∧
      anchor.valid P = true) ∨
    ∃ observation, leaf.kind = .runtimeObservation ∧
      leaf.deploymentAnchor = none ∧
      leaf.runtimeObservation = some observation ∧ observation.valid P = true

/-- The leaf made of a valid payload is valid. -/
theorem valid_nextLeaf {log : TransparencyLog} {leaf : TransparencyLogLeaf}
    (hlog : log.valid P = true) (hschema : leaf.storageSchema = kStorageSchema)
    (hpayload : leaf.payloadValid P) : (log.nextLeaf P leaf).valid P = true := by
  have hid : validSha256 (log.nextLeaf P leaf).id = true :=
    P.validSha256_digest _
  have hlogId : validSha256 (log.nextLeaf P leaf).logId = true :=
    identity_valid (valid_log hlog).identity
  have hkind : (log.nextLeaf P leaf).kind = leaf.kind := rfl
  have hanchor : (log.nextLeaf P leaf).deploymentAnchor
      = leaf.deploymentAnchor := rfl
  have hobservation : (log.nextLeaf P leaf).runtimeObservation
      = leaf.runtimeObservation := rfl
  simp only [TransparencyLogLeaf.valid, Bool.and_eq_true, beq_iff_eq]
  refine ⟨⟨⟨⟨hschema, hid⟩, hlogId⟩, ?_⟩, rfl⟩
  rcases hpayload with ⟨a, hk, ha, ho, h⟩ | ⟨o, hk, ha, ho, h⟩
  · rw [hkind, hanchor, hobservation, hk, ha, ho]
    exact h
  · rw [hkind, hanchor, hobservation, hk, ha, ho]
    exact h

theorem validAuthenticationTag_encodeHex {signature : Bytes}
    (h : signature.length = kEd25519SignatureBytes) :
    validAuthenticationTag (encodeHex signature) = true := by
  simp [validAuthenticationTag, length_encodeHex, all_isLowerHex_encodeHex, h,
    Nat.mul_comm]

/-- The current head of a valid log is a checkpoint id, and absent
exactly when there is no record. -/
theorem valid_head {log : TransparencyLog} (hlog : log.valid P = true) :
    (log.records = [] ∧ log.currentCheckpointId = []) ∨
      (log.records ≠ [] ∧ validSha256 log.currentCheckpointId = true) := by
  have hvalid := valid_log hlog
  cases hlast : log.records.getLast? with
  | none =>
      left
      have hnil : log.records = [] := List.getLast?_eq_none_iff.mp hlast
      obtain ⟨state, hreplay, -, hprevious, -⟩ := valid_replay hlog
      rw [hnil, replayRecords_nil, Option.some.injEq] at hreplay
      exact ⟨hnil, by rw [hprevious, ← hreplay]⟩
  | some last =>
      right
      have hget := hlast
      rw [List.getLast?_eq_getElem?] at hget
      refine ⟨?_, ?_⟩
      · intro hnil
        rw [hnil] at hlast
        cases hlast
      · rw [(hvalid.head hlast).1]
        exact (checkpoint_valid (record_valid (hvalid.record hget).valid).2.1).1

/-- The root a publication signs is the batch root of the longer log. -/
theorem rootHash_unsignedCheckpoint {log : TransparencyLog} {leafId : Bytes}
    (hlog : log.valid P = true) (hid : validSha256 leafId = true)
    (hroom : log.records.length + 1 < 2 ^ 64) :
    (log.unsignedCheckpoint P leafId).rootHash
      = transparencyMerkleRoot P (log.leafIds ++ [leafId]) := by
  have hlen := length_leafIds log
  obtain ⟨frontier', hcall, htracks'⟩ :=
    (valid_log hlog).frontier.append_leaf hid (by omega)
  rw [hlen] at hcall
  show (transparencyAppendMerkleLeaf P log.merkleFrontier leafId
    (UInt64.ofNat log.records.length)).1 = _
  rw [hcall]
  exact htracks'.root (by simp) (by simp; omega)

theorem toNat_nextSize {log : TransparencyLog}
    (hroom : log.records.length + 1 < 2 ^ 64) :
    (UInt64.ofNat log.records.length + 1).toNat = log.records.length + 1 := by
  rw [UInt64.toNat_add, toNat_ofNat_length (by omega), UInt64.toNat_one,
    Nat.mod_eq_of_lt hroom]

/-- A checkpoint that its log's signer signs is valid and verifies. -/
theorem valid_signed {identity : TransparencyLogIdentity}
    {checkpoint : TransparencyLogCheckpoint} {signature : Bytes}
    (hidentity : identity.valid P = true)
    (hschema : checkpoint.storageSchema = kStorageSchema)
    (halgorithm : checkpoint.algorithm = .ed25519)
    (hlogId : checkpoint.logId = identity.id)
    (hservice : checkpoint.signerServiceId = identity.signerServiceId)
    (hkey : checkpoint.signerKeyId = identity.signerKeyId)
    (hsize : checkpoint.treeSize > 0)
    (hroot : validSha256 checkpoint.rootHash = true)
    (hprevious : (if checkpoint.treeSize = 1 then
      checkpoint.previousCheckpointId.isEmpty
      else validSha256 checkpoint.previousCheckpointId) = true)
    (hsignature : signature.length = kEd25519SignatureBytes)
    (hcheck : ∀ message, P.ed25519Check signature
      identity.signerPublicKey.toList message = true) :
    let signed := signedCheckpoint P checkpoint signature
    signed.valid P = true ∧
      verifyTransparencyLogCheckpoint P identity signed = .ok () := by
  intro signed
  have hfields := hidentity
  simp only [TransparencyLogIdentity.valid, Bool.and_eq_true] at hfields
  obtain ⟨⟨⟨⟨⟨-, hidentityId⟩, -⟩, hserviceId⟩, hkeyId⟩, -⟩ := hfields
  have htag := validAuthenticationTag_encodeHex hsignature
  have hlogId' : validSha256 checkpoint.logId = true := by rwa [hlogId]
  have hservice' : validIdentifier checkpoint.signerServiceId = true := by
    rwa [hservice]
  have hkey' : validSha256 checkpoint.signerKeyId = true := by rwa [hkey]
  have hvalid : signed.valid P = true := by
    simp only [TransparencyLogCheckpoint.valid, Bool.and_eq_true, beq_iff_eq,
      decide_eq_true_eq]
    exact ⟨⟨⟨⟨⟨⟨⟨⟨⟨⟨hschema, P.validSha256_digest _⟩, hlogId'⟩, hsize⟩, hroot⟩,
      hprevious⟩, hservice'⟩, hkey'⟩, halgorithm⟩, htag⟩, rfl⟩
  refine ⟨hvalid, ?_⟩
  rw [verifyTransparencyLogCheckpoint, if_neg (by simp [hidentity, hvalid]),
    if_neg]
  · have hdecode : decodeHex signed.authenticationTag kEd25519SignatureBytes
        = .ok signature := by
      rw [← hsignature]
      exact decodeHex_encodeHex signature
    rw [hdecode, ok_bind, ed25519Verify, if_neg, if_neg]
    · simp [hcheck]
    · simp [hsignature, kEd25519PublicKeyBytes]
  · show ¬(checkpoint.logId ≠ identity.id
      ∨ checkpoint.signerServiceId ≠ identity.signerServiceId
      ∨ checkpoint.signerKeyId ≠ identity.signerKeyId)
    simp [hlogId, hservice, hkey]

/-- So is the checkpoint a valid log publishes next. -/
theorem valid_signedCheckpoint {log : TransparencyLog} {leafId signature : Bytes}
    (hlog : log.valid P = true) (hid : validSha256 leafId = true)
    (hroom : log.records.length + 1 < 2 ^ 64)
    (hsignature : signature.length = kEd25519SignatureBytes)
    (hcheck : ∀ message, P.ed25519Check signature
      log.identity.signerPublicKey.toList message = true) :
    let checkpoint := signedCheckpoint P (log.unsignedCheckpoint P leafId)
      signature
    checkpoint.valid P = true ∧
      verifyTransparencyLogCheckpoint P log.identity checkpoint = .ok () := by
  let checkpoint := log.unsignedCheckpoint P leafId
  have hsize : checkpoint.treeSize.toNat = log.records.length + 1 :=
    toNat_nextSize hroom
  have hpositive : checkpoint.treeSize > 0 := by
    rw [gt_iff_lt, UInt64.lt_iff_toNat_lt, hsize]
    exact Nat.succ_pos _
  have hroot : validSha256 checkpoint.rootHash = true := by
    show validSha256 (log.unsignedCheckpoint P leafId).rootHash = true
    rw [rootHash_unsignedCheckpoint hlog hid hroom]
    exact validSha256_transparencyMerkleRoot P (by simp)
  refine valid_signed (valid_log hlog).identity rfl rfl rfl rfl rfl hpositive
    hroot ?_ hsignature hcheck
  show (if checkpoint.treeSize = 1 then log.currentCheckpointId.isEmpty
    else validSha256 log.currentCheckpointId) = true
  rcases valid_head hlog with ⟨hnil, hhead⟩ | ⟨hne, hhead⟩
  · rw [if_pos]
    · simp [hhead]
    · apply UInt64.toNat_inj.mp
      rw [hsize, hnil]
      rfl
  · rw [if_neg]
    · exact hhead
    · intro hone
      rw [hone] at hsize
      have := List.length_pos_iff.mpr hne
      have h1 : (1 : UInt64).toNat = 1 := rfl
      omega

/-- It is a checkpoint of the longer list. -/
theorem checkpointOf_signed {log : TransparencyLog} {leafId signature : Bytes}
    (hlog : log.valid P = true) (hid : validSha256 leafId = true)
    (hroom : log.records.length + 1 < 2 ^ 64)
    (hsignature : signature.length = kEd25519SignatureBytes)
    (hcheck : ∀ message, P.ed25519Check signature
      log.identity.signerPublicKey.toList message = true) :
    CheckpointOf P log.identity (log.leafIds ++ [leafId])
      (signedCheckpoint P (log.unsignedCheckpoint P leafId) signature) := by
  obtain ⟨hvalid, hverified⟩ :=
    valid_signedCheckpoint hlog hid hroom hsignature hcheck
  refine ⟨hvalid, hverified, ?_, rootHash_unsignedCheckpoint hlog hid hroom⟩
  rw [List.length_append, length_leafIds, List.length_singleton]
  exact toNat_nextSize hroom

/-- The record of a publication is valid. -/
theorem valid_nextRecord {log : TransparencyLog} {leaf : TransparencyLogLeaf}
    {signature : Bytes} (hlog : log.valid P = true)
    (hschema : leaf.storageSchema = kStorageSchema)
    (hpayload : leaf.payloadValid P)
    (hroom : log.records.length + 1 < 2 ^ 64)
    (hsignature : signature.length = kEd25519SignatureBytes)
    (hcheck : ∀ message, P.ed25519Check signature
      log.identity.signerPublicKey.toList message = true) :
    (log.nextRecord P leaf signature).valid P = true ∧
      verifyTransparencyLogCheckpoint P log.identity
        (log.nextRecord P leaf signature).checkpoint = .ok () := by
  have hvalid := valid_log hlog
  have hid : validSha256 (log.nextLeaf P leaf).id = true :=
    P.validSha256_digest _
  obtain ⟨hcheckpoint, hverified⟩ :=
    valid_signedCheckpoint hlog hid hroom hsignature hcheck
  have hleaf := valid_nextLeaf hlog hschema hpayload
  have hparent : (if (log.nextRecord P leaf signature).sequence = 0 then
      (log.nextRecord P leaf signature).parentId.isEmpty
      else validSha256 (log.nextRecord P leaf signature).parentId) = true := by
    show (if UInt64.ofNat log.records.length = 0 then
      (parentRecordId log.records).isEmpty
      else validSha256 (parentRecordId log.records)) = true
    cases hlast : log.records.getLast? with
    | none =>
        have hnil : log.records = [] := List.getLast?_eq_none_iff.mp hlast
        rw [hnil]
        rfl
    | some last =>
        have hget := hlast
        rw [List.getLast?_eq_getElem?] at hget
        have hne : UInt64.ofNat log.records.length ≠ 0 := by
          intro hzero
          have hn := congrArg UInt64.toNat hzero
          rw [toNat_ofNat_length (by omega)] at hn
          have hnil : log.records = [] := List.length_eq_zero_iff.mp hn
          rw [hnil] at hlast
          cases hlast
        have hrecord := (hvalid.record hget).valid
        simp only [TransparencyLogRecord.valid, Bool.and_eq_true] at hrecord
        rw [if_neg hne, parentRecordId_of_last hlast]
        exact hrecord.1.1.1.1.1.1.1.1.1.2
  refine ⟨?_, hverified⟩
  simp only [TransparencyLogRecord.valid, Bool.and_eq_true, beq_iff_eq]
  exact ⟨⟨⟨⟨⟨⟨⟨⟨⟨⟨rfl, P.validSha256_digest _⟩, identity_valid hvalid.identity⟩,
    hparent⟩, hleaf⟩, hcheckpoint⟩, rfl⟩, rfl⟩, rfl⟩, rfl⟩, rfl⟩

-- === a log of two anchors

variable (P)

/-- A log identity. -/
def sampleIdentity : TransparencyLogIdentity :=
  let identity : TransparencyLogIdentity :=
    { logNamespace := ascii "cell"
      signerServiceId := ascii "log"
      signerKeyId := P.sha256 (ascii "key")
      signerPublicKey := samplePublicKey }
  { identity with id := transparencyLogIdentityValue P identity }

/-- The deployment anchor of both leaves. -/
def sampleAnchor : DeploymentTransparencyAnchor :=
  let anchor : DeploymentTransparencyAnchor :=
    { deploymentId := ascii "arm"
      reviewedProfileId := P.sha256 (ascii "profile")
      approvalSetId := P.sha256 (ascii "approvals")
      robotDigest := P.sha256 (ascii "robot")
      controllerDigest := P.sha256 (ascii "controller")
      platformDigest := P.sha256 (ascii "platform")
      runtimeDigest := P.sha256 (ascii "runtime")
      trustRootBundleId := P.sha256 (ascii "root")
      trustCheckpointId := P.sha256 (ascii "checkpoint")
      trustBundleId := P.sha256 (ascii "bundle")
      trustBundleSequence := 1
      trustHeadRecordId := P.sha256 (ascii "head") }
  { anchor with id := deploymentTransparencyAnchorIdentity P anchor }

def samplePayload : TransparencyLogLeaf :=
  { logId := [], deploymentAnchor := some (sampleAnchor P) }

def sampleSignature₁ : Bytes :=
  [149, 165, 217, 16, 107, 86, 250, 230, 200, 126, 34, 166, 168, 62, 54, 70,
    129, 133, 254, 221, 86, 245, 205, 191, 143, 57, 188, 224, 86, 5, 14,
    182, 225, 159, 167, 209, 180, 78, 142, 88, 151, 8, 181, 35, 99, 214, 48,
    64, 249, 34, 177, 153, 238, 214, 162, 221, 253, 135, 17, 131, 159, 82,
    99, 3]

def sampleSignature₂ : Bytes :=
  [170, 94, 191, 114, 107, 162, 33, 194, 81, 100, 22, 165, 254, 88, 175,
    117, 168, 150, 55, 65, 213, 218, 246, 126, 153, 110, 70, 29, 197, 219,
    32, 95, 208, 117, 204, 244, 10, 251, 244, 25, 249, 97, 39, 16, 175, 223,
    143, 27, 97, 166, 116, 220, 103, 187, 185, 11, 209, 139, 175, 111, 103,
    156, 173, 13]

def sampleLog₀ : TransparencyLog :=
  { directory := ascii "log", identity := sampleIdentity P }

def sampleRecord₁ : TransparencyLogRecord :=
  (sampleLog₀ P).nextRecord P (samplePayload P) sampleSignature₁

def sampleLog₁ : TransparencyLog := (sampleLog₀ P).appended P (sampleRecord₁ P)

def sampleRecord₂ : TransparencyLogRecord :=
  (sampleLog₁ P).nextRecord P (samplePayload P) sampleSignature₂

/-- A log of two published anchors. -/
def sampleLog₂ : TransparencyLog := (sampleLog₁ P).appended P (sampleRecord₂ P)

def sampleTwinSignature : Bytes :=
  [36, 50, 136, 195, 155, 27, 140, 94, 124, 31, 248, 135, 126, 99, 206, 32,
    53, 170, 183, 8, 18, 183, 123, 176, 55, 125, 24, 127, 89, 249, 141, 156,
    228, 39, 194, 210, 186, 45, 135, 73, 2, 171, 149, 9, 84, 12, 141, 202,
    240, 171, 101, 15, 88, 86, 153, 196, 229, 231, 189, 128, 172, 14, 211,
    5]

/-- A second checkpoint after the first leaf, of that leaf twice. -/
def sampleTwin : TransparencyLogCheckpoint :=
  signedCheckpoint P
    ((sampleLog₁ P).unsignedCheckpoint P (sampleRecord₁ P).leaf.id)
    sampleTwinSignature

theorem valid_sampleIdentity : (sampleIdentity P).valid P = true := by
  simp only [TransparencyLogIdentity.valid, Bool.and_eq_true, beq_iff_eq]
  refine ⟨⟨⟨⟨⟨rfl, P.validSha256_digest _⟩, ?_⟩, ?_⟩,
    P.validSha256_digest _⟩, rfl⟩
  · show validIdentifier (ascii "cell") = true
    decide
  · show validIdentifier (ascii "log") = true
    decide

/-- An identity is not part of what is hashed. -/
theorem deploymentTransparencyAnchorIdentity_id
    (anchor : DeploymentTransparencyAnchor) (id : Bytes) :
    deploymentTransparencyAnchorIdentity P { anchor with id := id }
      = deploymentTransparencyAnchorIdentity P anchor := by
  simp only [deploymentTransparencyAnchorIdentity, deploymentAnchorJson,
    withField_false]

theorem valid_sampleAnchor : (sampleAnchor P).valid P = true := by
  have hname : validIdentifier (ascii "arm") = true := by decide
  simp only [DeploymentTransparencyAnchor.valid, Bool.and_eq_true, beq_iff_eq,
    decide_eq_true_eq]
  exact ⟨⟨⟨⟨⟨⟨⟨⟨⟨⟨⟨⟨⟨⟨rfl, P.validSha256_digest _⟩, hname⟩,
    P.validSha256_digest _⟩, P.validSha256_digest _⟩, P.validSha256_digest _⟩,
    P.validSha256_digest _⟩, P.validSha256_digest _⟩, P.validSha256_digest _⟩,
    P.validSha256_digest _⟩, P.validSha256_digest _⟩, P.validSha256_digest _⟩,
    by show (1 : UInt64) > 0; decide⟩, P.validSha256_digest _⟩,
    (deploymentTransparencyAnchorIdentity_id P _ _).symm⟩

theorem valid_sampleLog₀ : (sampleLog₀ P).valid P = true := by
  have hdirectory : (sampleLog₀ P).directory.isEmpty = false := by
    show (ascii "log").isEmpty = false
    decide
  have hvacant : (sampleLog₀ P).merkleFrontier.toList.all List.isEmpty = true := by
    show emptyFrontier.toList.all List.isEmpty = true
    simp [emptyFrontier]
  have hlast : (sampleLog₀ P).records.getLast? = none := rfl
  have hidentity : (sampleLog₀ P).identity.valid P = true :=
    valid_sampleIdentity P
  have hcap : ¬(sampleLog₀ P).records.length
      > (sampleLog₀ P).options.maximumRecords := Nat.not_lt_zero _
  have hempty : (sampleLog₀ P).currentCheckpointId.isEmpty = true
      ∧ (sampleLog₀ P).currentRootHash.isEmpty = true := ⟨rfl, rfl⟩
  rw [TransparencyLog.valid, hdirectory, hidentity, decide_eq_false hcap,
    if_neg (by decide), hlast]
  simp only [hempty, hvacant, Bool.and_self]

/-- On a platform that accepts the signatures, publishing the sample
payload keeps a small log valid. -/
theorem valid_sample_appended {log : TransparencyLog} {signature : Bytes}
    (hcheck : ∀ signature key message, P.ed25519Check signature key message
      = true)
    (hlog : log.valid P = true)
    (hcap : log.records.length + 1 ≤ log.options.maximumRecords)
    (hroom : log.records.length + 1 < 2 ^ 64)
    (hsignature : signature.length = kEd25519SignatureBytes) :
    (log.appended P (log.nextRecord P (samplePayload P) signature)).valid P
      = true := by
  have hpayload : (samplePayload P).payloadValid P :=
    Or.inl ⟨sampleAnchor P, rfl, rfl, rfl, valid_sampleAnchor P⟩
  obtain ⟨hrecord, hverified⟩ := valid_nextRecord hlog rfl hpayload hroom
    hsignature (fun _ => hcheck _ _ _)
  exact valid_appended hlog hcap hroom hrecord hverified
    fun total => ⟨total, rfl⟩

theorem valid_sampleLog₁ (hcheck : ∀ signature key message,
    P.ed25519Check signature key message = true) :
    (sampleLog₁ P).valid P = true := by
  have hcap : 0 + 1 ≤ 1000000 := by decide
  have hroom : 0 + 1 < 2 ^ 64 := by decide
  exact valid_sample_appended P hcheck (valid_sampleLog₀ P) hcap hroom
    (by decide)

theorem valid_sampleLog₂ (hcheck : ∀ signature key message,
    P.ed25519Check signature key message = true) :
    (sampleLog₂ P).valid P = true := by
  have hcap : 1 + 1 ≤ 1000000 := by decide
  have hroom : 1 + 1 < 2 ^ 64 := by decide
  exact valid_sample_appended P hcheck (valid_sampleLog₁ P hcheck) hcap hroom
    (by decide)

theorem valid_sampleLeaf (hcheck : ∀ signature key message,
    P.ed25519Check signature key message = true) :
    (sampleRecord₁ P).leaf.valid P = true := by
  have hrecord : (sampleLog₁ P).records[0]? = some (sampleRecord₁ P) := rfl
  exact (record_valid
    ((valid_log (valid_sampleLog₁ P hcheck)).record hrecord).valid).1

theorem logId_sampleLeaf :
    (sampleRecord₁ P).leaf.logId = (sampleIdentity P).id := rfl

theorem index_sampleLeaf : (sampleRecord₁ P).leaf.index.toNat = 0 := rfl

theorem leafIds_sampleLog₁ :
    (sampleLog₁ P).leafIds = [(sampleRecord₁ P).leaf.id] := rfl

theorem checkpointOf_sample₁ (hcheck : ∀ signature key message,
    P.ed25519Check signature key message = true) :
    CheckpointOf P (sampleIdentity P) [(sampleRecord₁ P).leaf.id]
      (sampleRecord₁ P).checkpoint := by
  have hrecord : (sampleLog₁ P).records[0]? = some (sampleRecord₁ P) := rfl
  have hlen : 0 < (sampleLog₁ P).leafIds.length := by
    rw [leafIds_sampleLog₁]
    exact Nat.zero_lt_one
  have h := ((valid_log (valid_sampleLog₁ P hcheck)).record hrecord).checkpointOf
    hlen
  rwa [leafIds_sampleLog₁] at h

theorem checkpointOf_sampleTwin (hcheck : ∀ signature key message,
    P.ed25519Check signature key message = true) :
    CheckpointOf P (sampleIdentity P)
      [(sampleRecord₁ P).leaf.id, (sampleRecord₁ P).leaf.id]
      (sampleTwin P) := by
  have hid : validSha256 (sampleRecord₁ P).leaf.id = true :=
    P.validSha256_digest _
  have hroom : 1 + 1 < 2 ^ 64 := by decide
  have hsignature : sampleTwinSignature.length = kEd25519SignatureBytes := by
    decide
  have h := checkpointOf_signed (valid_sampleLog₁ P hcheck) hid hroom
    hsignature fun _ => hcheck _ _ _
  rwa [leafIds_sampleLog₁] at h

end RbfSafe
