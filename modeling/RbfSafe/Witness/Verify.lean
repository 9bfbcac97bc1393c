/-
Verification of cosignatures, witnessed checkpoints and gossip messages,
check by check in the order of the code.
-/
import RbfSafe.Transparency.Verify
import RbfSafe.Witness.Types

namespace RbfSafe

section
variable (P : Platform)

/-- `active_publication_key`. -/
def activePublicationKey (trustBundle : ServiceTrustBundle)
    (serviceId keyId : Bytes) : Result ServicePublicKey := do
  let trusted ← trustedServicePublicKey P trustBundle serviceId keyId .publish
    trustBundle.sequence
  if trusted.state ≠ .active then
    failure .identityMismatch
      "transparency witness or gossip key is not active" trusted.id
  else .ok trusted

/-- The loop of `validate_witness_policy`, with the services and the keys
seen so far. -/
def validateWitnesses (witnessed : WitnessedTransparencyCheckpoint) :
    List Bytes → List (Bytes × Bytes) →
    List TransparencyCheckpointCosignature → Result Unit
  | _, _, [] => .ok ()
  | services, keys, cosignature :: rest =>
      if (cosignature.witnessServiceId, cosignature.witnessKeyId) ∈ keys then
        failure .identityMismatch
          "transparency checkpoint contains a duplicate witness key"
          cosignature.witnessKeyId
      else if witnessed.policy.requireDistinctServices
          ∧ cosignature.witnessServiceId ∈ services then
        failure .identityMismatch
          "transparency checkpoint witnesses are not service-distinct"
          cosignature.witnessServiceId
      else if witnessed.policy.excludeLogSigner
          ∧ cosignature.witnessServiceId
            = witnessed.checkpoint.signerServiceId then
        failure .identityMismatch
          "transparency log signer cannot satisfy the independent witness quorum"
          cosignature.witnessServiceId
      else
        validateWitnesses witnessed (cosignature.witnessServiceId :: services)
          ((cosignature.witnessServiceId, cosignature.witnessKeyId) :: keys)
          rest

/-- `validate_witness_policy`. -/
def validateWitnessPolicy (witnessed : WitnessedTransparencyCheckpoint) :
    Result Unit :=
  if witnessed.cosignatures.length
      < witnessed.policy.minimumWitnesses.toNat then
    failure .identityMismatch
      "transparency checkpoint witness quorum is not satisfied" witnessed.id
  else validateWitnesses witnessed [] [] witnessed.cosignatures

/-- `verify_transparency_checkpoint_witness`. -/
def verifyTransparencyCheckpointWitness (identity : TransparencyLogIdentity)
    (checkpoint : TransparencyLogCheckpoint)
    (cosignature : TransparencyCheckpointCosignature)
    (trustBundle : ServiceTrustBundle) : Result Unit :=
  if !identity.valid P || !checkpoint.valid P || !cosignature.valid P
      || !trustBundle.valid P then
    failure .invalidArgument
      "transparency checkpoint witness verification input is invalid"
  else do
  let _ ← verifyTransparencyLogCheckpoint P identity checkpoint
  if cosignature.logId ≠ identity.id ∨ cosignature.checkpointId ≠ checkpoint.id
      ∨ cosignature.treeSize ≠ checkpoint.treeSize
      ∨ cosignature.rootHash ≠ checkpoint.rootHash
      ∨ cosignature.trustBundleId ≠ trustBundle.id
      ∨ cosignature.trustBundleSequence ≠ trustBundle.sequence then
    failure .identityMismatch
      "transparency checkpoint witness binding mismatch" cosignature.id
  else do
  let trusted ← activePublicationKey P trustBundle cosignature.witnessServiceId
    cosignature.witnessKeyId
  let signature ← decodeHex cosignature.authenticationTag kEd25519SignatureBytes
  ed25519Verify P (transparencyCheckpointCosignatureMessage P cosignature)
    signature trusted.publicKey.toList

/-- The cosignature loop of `verify_witnessed_transparency_checkpoint`. -/
def verifyCosignatures (identity : TransparencyLogIdentity)
    (checkpoint : TransparencyLogCheckpoint)
    (trustBundle : ServiceTrustBundle) :
    List TransparencyCheckpointCosignature → Result Unit
  | [] => .ok ()
  | cosignature :: rest => do
      let _ ← verifyTransparencyCheckpointWitness P identity checkpoint
        cosignature trustBundle
      verifyCosignatures identity checkpoint trustBundle rest

/-- `verify_witnessed_transparency_checkpoint`. -/
def verifyWitnessedTransparencyCheckpoint (identity : TransparencyLogIdentity)
    (witnessed : WitnessedTransparencyCheckpoint)
    (trustBundle : ServiceTrustBundle) : Result Unit :=
  if !identity.valid P || !witnessed.valid P || !trustBundle.valid P then
    failure .invalidArgument
      "witnessed transparency checkpoint verification input is invalid"
  else if witnessed.logId ≠ identity.id
      ∨ witnessed.trustBundleId ≠ trustBundle.id
      ∨ witnessed.trustBundleSequence ≠ trustBundle.sequence then
    failure .identityMismatch
      "witnessed transparency checkpoint trust or log binding mismatch"
      witnessed.id
  else do
  let _ ← verifyTransparencyLogCheckpoint P identity witnessed.checkpoint
  let _ ← validateWitnessPolicy witnessed
  verifyCosignatures P identity witnessed.checkpoint trustBundle
    witnessed.cosignatures

/-- `verify_transparency_checkpoint_gossip`. -/
def verifyTransparencyCheckpointGossip (identity : TransparencyLogIdentity)
    (gossip : TransparencyCheckpointGossip)
    (trustBundle : ServiceTrustBundle) : Result Unit :=
  if !identity.valid P || !gossip.valid P || !trustBundle.valid P then
    failure .invalidArgument
      "transparency checkpoint gossip verification input is invalid"
  else if gossip.logId ≠ identity.id ∨ gossip.trustBundleId ≠ trustBundle.id
      ∨ gossip.trustBundleSequence ≠ trustBundle.sequence then
    failure .identityMismatch
      "transparency checkpoint gossip trust or log binding mismatch" gossip.id
  else do
  let _ ← verifyWitnessedTransparencyCheckpoint P identity
    gossip.witnessedCheckpoint trustBundle
  let trusted ← activePublicationKey P trustBundle gossip.senderServiceId
    gossip.senderKeyId
  let signature ← decodeHex gossip.authenticationTag kEd25519SignatureBytes
  ed25519Verify P (transparencyCheckpointGossipMessage P gossip) signature
    trusted.publicKey.toList

end

end RbfSafe
