/-
Checkpoints of a trust history, verified twice over.

`verify_service_trust_checkpoint` takes the history as it is now: it
assembles the checkpoint again from its signatures and compares ids.
`verify_historical_checkpoint`, of the execution ledger, takes a history
that may have grown since, and looks the head up in it.
-/
import RbfSafe.Identity.History

namespace RbfSafe

section
variable (P : Platform)

/-- The `sequence_authorized` of both verifications. -/
def sequenceAuthorized (key : ServicePublicKey) (sequence : UInt64) : Bool :=
  decide (sequence ≥ key.validFromSequence)
    && (key.validThroughSequence == 0
      || decide (sequence ≤ key.validThroughSequence))

/-- `verify_checkpoint_signature`. -/
def verifyCheckpointSignature (checkpoint : ServiceTrustCheckpoint)
    (signature : ServiceTrustCheckpointSignature)
    (headBundle : ServiceTrustBundle) : Result Unit :=
  if !validServiceTrustCheckpointSignature signature then
    failure .corruptData "trust-checkpoint signature is structurally invalid"
  else do
    let found ← headBundle.key P signature.signerServiceId signature.signerKeyId
    match found with
    | none =>
        failure .identityMismatch
          "service key is not authorized to sign the trust checkpoint"
          signature.signerKeyId
    | some key =>
        if key.state ≠ .active ∨ !key.allowRotate
            ∨ !sequenceAuthorized key checkpoint.headSequence then
          failure .identityMismatch
            "service key is not authorized to sign the trust checkpoint"
            signature.signerKeyId
        else do
          let decoded ← decodeHex signature.authenticationTag
            kEd25519SignatureBytes
          ed25519Verify P
            (serviceTrustCheckpointSignatureMessage P checkpoint signature)
            decoded key.publicKey.toList

/-- The order of signers, as the comparator of `std::sort`. -/
def signatureBefore (a b : ServiceTrustCheckpointSignature) : Bool :=
  !signerBefore b.signerServiceId b.signerKeyId a.signerServiceId a.signerKeyId

/-- The loop of `assemble_service_trust_checkpoint` over the sorted
signatures. -/
def verifySignatures (checkpoint : ServiceTrustCheckpoint)
    (headBundle : ServiceTrustBundle) :
    Option ServiceTrustCheckpointSignature →
    List ServiceTrustCheckpointSignature → Result Unit
  | _, [] => .ok ()
  | previous, current :: rest =>
      if previous.any fun p => p.signerServiceId == current.signerServiceId
          && p.signerKeyId == current.signerKeyId then
        failure .invalidArgument
          "trust checkpoint contains a duplicate signer" current.signerKeyId
      else do
        let _ ← verifyCheckpointSignature P checkpoint current headBundle
        verifySignatures checkpoint headBundle (some current) rest

/-- `assemble_service_trust_checkpoint`. -/
def assembleServiceTrustCheckpoint (history : ServiceTrustHistory)
    (signatures : List ServiceTrustCheckpointSignature) :
    Result ServiceTrustCheckpoint :=
  if !history.valid P || signatures.isEmpty then
    failure .invalidArgument "trust-checkpoint assembly input is invalid"
  else if signatures.length > 100000 then
    failure .resourceLimit
      "trust-checkpoint signature count exceeds the supported limit"
  else do
    let head ← history.currentBundle P
    match history.records.getLast? with
    | none =>
        failure .invalidArgument "trust-checkpoint assembly input is invalid"
    | some headRecord =>
        let checkpoint : ServiceTrustCheckpoint :=
          { rootBundleId := history.rootBundleId
            headBundleId := history.currentBundleId
            headSequence := head.sequence
            headRecordId := headRecord.id }
        let sorted := signatures.mergeSort signatureBefore
        do
        let _ ← verifySignatures P checkpoint head none sorted
        if !satisfiesPolicy head.rotationPolicy
            (sorted.map fun s => s.signerServiceId) then
          failure .identityMismatch
            "trust-checkpoint signatures do not satisfy the bundle policy"
            head.id
        else
          let checkpoint := { checkpoint with signatures := sorted }
          let checkpoint := { checkpoint with
            id := serviceTrustCheckpointIdentity P checkpoint }
          if !checkpoint.valid P then
            failure .internalError "generated trust checkpoint is invalid"
          else .ok checkpoint

/-- `verify_service_trust_checkpoint`. -/
def verifyServiceTrustCheckpoint (history : ServiceTrustHistory)
    (checkpoint : ServiceTrustCheckpoint) (expectedCheckpointId : Bytes) :
    Result Unit :=
  if !history.valid P || !checkpoint.valid P
      || !validSha256 expectedCheckpointId then
    failure .invalidArgument "trust-checkpoint verification input is invalid"
  else if checkpoint.id ≠ expectedCheckpointId
      ∨ checkpoint.rootBundleId ≠ history.rootBundleId
      ∨ checkpoint.headBundleId ≠ history.currentBundleId
      ∨ checkpoint.headSequence.toNat ≠ history.records.length
      ∨ history.records.getLast?.map (fun record => record.id)
        ≠ some checkpoint.headRecordId then
    failure .identityMismatch
      "trust checkpoint does not match caller pins or replayed history"
      checkpoint.id
  else do
    let assembled ← assembleServiceTrustCheckpoint P history
      checkpoint.signatures
    if assembled.id ≠ checkpoint.id then
      failure .identityMismatch "trust checkpoint is not canonical"
        checkpoint.id
    else .ok ()

-- === in a longer history

/-- The signature loop of `verify_historical_checkpoint`. -/
def verifyHistoricalSignatures (checkpoint : ServiceTrustCheckpoint)
    (headBundle : ServiceTrustBundle) :
    List ServiceTrustCheckpointSignature → Result Unit
  | [] => .ok ()
  | signature :: rest => do
      let found ← headBundle.key P signature.signerServiceId
        signature.signerKeyId
      match found with
      | none =>
          failure .identityMismatch
            "execution-ledger checkpoint signer is not active at the historical head"
            signature.signerKeyId
      | some key =>
          if key.state ≠ .active ∨ !key.allowRotate
              ∨ !sequenceAuthorized key checkpoint.headSequence then
            failure .identityMismatch
              "execution-ledger checkpoint signer is not active at the historical head"
              signature.signerKeyId
          else do
            let decoded ← decodeHex signature.authenticationTag
              kEd25519SignatureBytes
            let _ ← ed25519Verify P
              (serviceTrustCheckpointSignatureMessage P checkpoint signature)
              decoded key.publicKey.toList
            verifyHistoricalSignatures checkpoint headBundle rest

/-- `verify_historical_checkpoint`. -/
def verifyHistoricalCheckpoint (history : ServiceTrustHistory)
    (checkpoint : ServiceTrustCheckpoint) : Result Unit :=
  if !history.valid P || !checkpoint.valid P then
    failure .invalidArgument "execution-ledger checkpoint input is invalid"
  else if checkpoint.rootBundleId ≠ history.rootBundleId
      ∨ checkpoint.headSequence = 0
      ∨ checkpoint.headSequence.toNat > history.records.length then
    failure .identityMismatch
      "execution-ledger checkpoint is outside the supplied trust history"
      checkpoint.id
  else match history.records[checkpoint.headSequence.toNat - 1]? with
  | none =>
      failure .identityMismatch
        "execution-ledger checkpoint is outside the supplied trust history"
        checkpoint.id
  | some headRecord =>
      if headRecord.sequence ≠ checkpoint.headSequence
          ∨ headRecord.id ≠ checkpoint.headRecordId
          ∨ headRecord.bundleId ≠ checkpoint.headBundleId then
        failure .identityMismatch
          "execution-ledger checkpoint does not match its historical trust record"
          checkpoint.id
      else do
        let headBundle ← history.bundle P checkpoint.headBundleId
        if headBundle.sequence ≠ checkpoint.headSequence then
          failure .identityMismatch
            "execution-ledger checkpoint sequence does not match its trust bundle"
            checkpoint.id
        else do
          let _ ← verifyHistoricalSignatures P checkpoint headBundle
            checkpoint.signatures
          if !satisfiesPolicy headBundle.rotationPolicy
              (checkpoint.signatures.map fun s => s.signerServiceId) then
            failure .identityMismatch
              "execution-ledger checkpoint signatures do not satisfy the historical policy"
              checkpoint.id
          else .ok ()

end

end RbfSafe
