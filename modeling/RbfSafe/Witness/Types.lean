/-
Witnessed checkpoints, the gossip about them, and what an audit of the
gossip reports.

A witness cosigns a checkpoint of the log; a checkpoint with enough
cosignatures is passed between services in gossip messages, each signed
by its sender and optionally carrying a consistency proof that ends at
the checkpoint of the message. The checkpoint the proof starts from is
only named in it, so nothing here bounds its size.
-/
import RbfSafe.Transparency.Types

namespace RbfSafe

open Json

-- === witnesses

/-- `TransparencyCheckpointWitnessPolicy`. -/
structure TransparencyCheckpointWitnessPolicy where
  minimumWitnesses : UInt32 := 2
  requireDistinctServices : Bool := true
  excludeLogSigner : Bool := true

/-- `TransparencyCheckpointCosignature`. -/
structure TransparencyCheckpointCosignature where
  storageSchema : UInt32 := 1
  id : Bytes := []
  logId : Bytes
  checkpointId : Bytes
  treeSize : UInt64 := 0
  rootHash : Bytes
  trustBundleId : Bytes
  trustBundleSequence : UInt64 := 0
  witnessServiceId : Bytes
  witnessKeyId : Bytes
  algorithm : ArtifactAuthenticationAlgorithm := .ed25519
  authenticationTag : Bytes := []

/-- `WitnessedTransparencyCheckpoint`. -/
structure WitnessedTransparencyCheckpoint where
  storageSchema : UInt32 := 1
  id : Bytes := []
  logId : Bytes
  trustBundleId : Bytes
  trustBundleSequence : UInt64 := 0
  policy : TransparencyCheckpointWitnessPolicy := {}
  checkpoint : TransparencyLogCheckpoint
  cosignatures : List TransparencyCheckpointCosignature := []

-- === gossip

/-- `TransparencyCheckpointGossip`. -/
structure TransparencyCheckpointGossip where
  storageSchema : UInt32 := 1
  id : Bytes := []
  logId : Bytes
  senderSequence : UInt64 := 0
  parentGossipId : Bytes := []
  recipientServiceId : Bytes
  senderServiceId : Bytes
  senderKeyId : Bytes
  trustBundleId : Bytes
  trustBundleSequence : UInt64 := 0
  witnessedCheckpoint : WitnessedTransparencyCheckpoint
  consistencyProof : Option TransparencyCompactConsistencyProof := none
  algorithm : ArtifactAuthenticationAlgorithm := .ed25519
  authenticationTag : Bytes := []

/-- The checkpoint a message is about. -/
def TransparencyCheckpointGossip.checkpoint
    (g : TransparencyCheckpointGossip) : TransparencyLogCheckpoint :=
  g.witnessedCheckpoint.checkpoint

/-- `TransparencyGossipConflictType`. -/
inductive TransparencyGossipConflictType where
  | sameSizeEquivocation
  | invalidConsistencyProof
deriving DecidableEq, Repr

def TransparencyGossipConflictType.toNat :
    TransparencyGossipConflictType → Nat
  | .sameSizeEquivocation => 0
  | .invalidConsistencyProof => 1

/-- `TransparencyGossipConflict`. -/
structure TransparencyGossipConflict where
  id : Bytes := []
  type : TransparencyGossipConflictType := .sameSizeEquivocation
  firstGossipId : Bytes
  secondGossipId : Bytes
  firstCheckpointId : Bytes
  secondCheckpointId : Bytes
  firstTreeSize : UInt64 := 0
  secondTreeSize : UInt64 := 0
  consistencyProofId : Bytes := []

/-- `TransparencyGossipStatus`. -/
inductive TransparencyGossipStatus where
  | consistent
  | incomplete
  | splitView
deriving DecidableEq, Repr

def TransparencyGossipStatus.toNat : TransparencyGossipStatus → Nat
  | .consistent => 0
  | .incomplete => 1
  | .splitView => 2

/-- `TransparencyGossipAuditReport`. -/
structure TransparencyGossipAuditReport where
  id : Bytes := []
  logId : Bytes
  trustBundleId : Bytes
  trustBundleSequence : UInt64 := 0
  status : TransparencyGossipStatus := .incomplete
  authenticatedGossipCount : Nat := 0
  uniqueCheckpointCount : Nat := 0
  linkedCheckpointPairs : Nat := 0
  unlinkedCheckpointPairs : Nat := 0
  conflicts : List TransparencyGossipConflict := []

/-- `TransparencyGossipAuditOptions`; the cancellation token is read as
cancelled or not for the whole call. -/
structure TransparencyGossipAuditOptions where
  maximumGossipMessages : Nat := 100000
  maximumUniqueCheckpoints : Nat := 10000
  maximumPairChecks : Nat := 1000000
  maximumGraphSteps : Nat := 10000000
  cancelled : Bool := false

-- === documents

/-- `witness_policy_json`. -/
def witnessPolicyJson (p : TransparencyCheckpointWitnessPolicy) : Json :=
  object (obj [
    ("exclude_log_signer", bool p.excludeLogSigner),
    ("minimum_witnesses", uint p.minimumWitnesses.toNat),
    ("require_distinct_services", bool p.requireDistinctServices)])

/-- `checkpoint_cosignature_json`. -/
def checkpointCosignatureJson (c : TransparencyCheckpointCosignature)
    (includeId includeTag : Bool) : Json :=
  object (withField includeId "id" c.id
    (withField includeTag "authentication_tag" c.authenticationTag (obj [
      ("algorithm", num c.algorithm.toNat),
      ("checkpoint_id", string c.checkpointId),
      ("log_id", string c.logId),
      ("root_hash", string c.rootHash),
      ("storage_schema", uint c.storageSchema.toNat),
      ("tree_size", uint c.treeSize.toNat),
      ("trust_bundle_id", string c.trustBundleId),
      ("trust_bundle_sequence", uint c.trustBundleSequence.toNat),
      ("witness_key_id", string c.witnessKeyId),
      ("witness_service_id", string c.witnessServiceId)])))

/-- `witnessed_checkpoint_json`. -/
def witnessedCheckpointJson (w : WitnessedTransparencyCheckpoint)
    (includeId : Bool) : Json :=
  object (withField includeId "id" w.id (obj [
    ("checkpoint_id", string w.checkpoint.id),
    ("cosignatures", array (w.cosignatures.map fun c =>
      checkpointCosignatureJson c true true)),
    ("log_id", string w.logId),
    ("policy", witnessPolicyJson w.policy),
    ("storage_schema", uint w.storageSchema.toNat),
    ("trust_bundle_id", string w.trustBundleId),
    ("trust_bundle_sequence", uint w.trustBundleSequence.toNat)]))

/-- `checkpoint_gossip_json`. -/
def checkpointGossipJson (g : TransparencyCheckpointGossip)
    (includeId includeTag : Bool) : Json :=
  object (withField includeId "id" g.id
    (withField includeTag "authentication_tag" g.authenticationTag (obj [
      ("algorithm", num g.algorithm.toNat),
      ("consistency_proof_id", string (match g.consistencyProof with
        | some proof => proof.id
        | none => [])),
      ("log_id", string g.logId),
      ("parent_gossip_id", string g.parentGossipId),
      ("recipient_service_id", string g.recipientServiceId),
      ("sender_key_id", string g.senderKeyId),
      ("sender_sequence", uint g.senderSequence.toNat),
      ("sender_service_id", string g.senderServiceId),
      ("storage_schema", uint g.storageSchema.toNat),
      ("trust_bundle_id", string g.trustBundleId),
      ("trust_bundle_sequence", uint g.trustBundleSequence.toNat),
      ("witnessed_checkpoint_id", string g.witnessedCheckpoint.id)])))

/-- `gossip_conflict_json`. -/
def gossipConflictJson (c : TransparencyGossipConflict) (includeId : Bool) :
    Json :=
  object (withField includeId "id" c.id (obj [
    ("consistency_proof_id", string c.consistencyProofId),
    ("first_checkpoint_id", string c.firstCheckpointId),
    ("first_gossip_id", string c.firstGossipId),
    ("first_tree_size", uint c.firstTreeSize.toNat),
    ("second_checkpoint_id", string c.secondCheckpointId),
    ("second_gossip_id", string c.secondGossipId),
    ("second_tree_size", uint c.secondTreeSize.toNat),
    ("type", num c.type.toNat)]))

/-- `gossip_audit_report_json`. -/
def gossipAuditReportJson (r : TransparencyGossipAuditReport)
    (includeId : Bool) : Json :=
  object (withField includeId "id" r.id (obj [
    ("authenticated_gossip_count", uint r.authenticatedGossipCount),
    ("conflicts", array (r.conflicts.map fun c => gossipConflictJson c true)),
    ("linked_checkpoint_pairs", uint r.linkedCheckpointPairs),
    ("log_id", string r.logId),
    ("status", num r.status.toNat),
    ("trust_bundle_id", string r.trustBundleId),
    ("trust_bundle_sequence", uint r.trustBundleSequence.toNat),
    ("unique_checkpoint_count", uint r.uniqueCheckpointCount),
    ("unlinked_checkpoint_pairs", uint r.unlinkedCheckpointPairs)]))

-- === identities

section
variable (P : Platform)

/-- `transparency_checkpoint_cosignature_message`. -/
def transparencyCheckpointCosignatureMessage
    (c : TransparencyCheckpointCosignature) : Bytes :=
  ascii "rbfsafe-transparency-checkpoint-witness-signature-v1\n"
    ++ (checkpointCosignatureJson c false false).dump P.toLibc false 0

/-- `transparency_checkpoint_cosignature_identity`. -/
def transparencyCheckpointCosignatureIdentity
    (c : TransparencyCheckpointCosignature) : Bytes :=
  P.sha256 (ascii "rbfsafe-transparency-checkpoint-witness-identity-v1\n"
    ++ (checkpointCosignatureJson c false true).dump P.toLibc false 0)

/-- `witnessed_transparency_checkpoint_identity`. -/
def witnessedTransparencyCheckpointIdentity
    (w : WitnessedTransparencyCheckpoint) : Bytes :=
  P.sha256 (ascii "rbfsafe-witnessed-transparency-checkpoint-identity-v1\n"
    ++ (witnessedCheckpointJson w false).dump P.toLibc false 0)

/-- `transparency_checkpoint_gossip_message`. -/
def transparencyCheckpointGossipMessage
    (g : TransparencyCheckpointGossip) : Bytes :=
  ascii "rbfsafe-transparency-checkpoint-gossip-signature-v1\n"
    ++ (checkpointGossipJson g false false).dump P.toLibc false 0

/-- `transparency_checkpoint_gossip_identity`. -/
def transparencyCheckpointGossipIdentity
    (g : TransparencyCheckpointGossip) : Bytes :=
  P.sha256 (ascii "rbfsafe-transparency-checkpoint-gossip-identity-v1\n"
    ++ (checkpointGossipJson g false true).dump P.toLibc false 0)

/-- What the identity of a conflict is the digest of. -/
def gossipConflictDocument (L : Libc) (c : TransparencyGossipConflict) :
    Bytes :=
  ascii "rbfsafe-transparency-gossip-conflict-identity-v1\n"
    ++ (gossipConflictJson c false).dump L false 0

/-- `transparency_gossip_conflict_identity`. -/
def transparencyGossipConflictIdentity (c : TransparencyGossipConflict) :
    Bytes :=
  P.sha256 (gossipConflictDocument P.toLibc c)

/-- `transparency_gossip_audit_report_identity`. -/
def transparencyGossipAuditReportIdentity
    (r : TransparencyGossipAuditReport) : Bytes :=
  P.sha256 (ascii "rbfsafe-transparency-gossip-audit-report-identity-v1\n"
    ++ (gossipAuditReportJson r false).dump P.toLibc false 0)

-- === validity

/-- `kMaximumWitnesses`. -/
def kMaximumWitnesses : Nat := 100000

/-- `valid_transparency_checkpoint_witness_policy`. -/
def validTransparencyCheckpointWitnessPolicy
    (p : TransparencyCheckpointWitnessPolicy) : Bool :=
  decide (p.minimumWitnesses > 0)
    && decide (p.minimumWitnesses.toNat ≤ kMaximumWitnesses)

/-- `TransparencyCheckpointCosignature::valid`. -/
def TransparencyCheckpointCosignature.valid
    (c : TransparencyCheckpointCosignature) : Bool :=
  c.storageSchema == kStorageSchema && validSha256 c.id
    && validSha256 c.logId && validSha256 c.checkpointId
    && decide (c.treeSize > 0) && validSha256 c.rootHash
    && validSha256 c.trustBundleId && decide (c.trustBundleSequence > 0)
    && validIdentifier c.witnessServiceId && validSha256 c.witnessKeyId
    && c.algorithm == .ed25519 && validAuthenticationTag c.authenticationTag
    && c.id == transparencyCheckpointCosignatureIdentity P c

/-- `WitnessedTransparencyCheckpoint::valid`. -/
def WitnessedTransparencyCheckpoint.valid
    (w : WitnessedTransparencyCheckpoint) : Bool :=
  w.storageSchema == kStorageSchema && validSha256 w.id
    && validSha256 w.logId && validSha256 w.trustBundleId
    && decide (w.trustBundleSequence ≠ 0)
    && validTransparencyCheckpointWitnessPolicy w.policy
    && w.checkpoint.valid P && w.checkpoint.logId == w.logId
    && decide (w.policy.minimumWitnesses.toNat ≤ w.cosignatures.length)
    && decide (w.cosignatures.length ≤ kMaximumWitnesses)
    && w.id == witnessedTransparencyCheckpointIdentity P w
    && w.cosignatures.all (fun c =>
      c.valid P && c.logId == w.logId && c.checkpointId == w.checkpoint.id
        && c.treeSize == w.checkpoint.treeSize
        && c.rootHash == w.checkpoint.rootHash
        && c.trustBundleId == w.trustBundleId
        && c.trustBundleSequence == w.trustBundleSequence
        && !(w.policy.excludeLogSigner
          && c.witnessServiceId == w.checkpoint.signerServiceId))
    && adjacent (fun a b =>
      tieLt (a.witnessServiceId, a.witnessKeyId)
          (b.witnessServiceId, b.witnessKeyId)
        && !(w.policy.requireDistinctServices
          && a.witnessServiceId == b.witnessServiceId)) w.cosignatures

/-- `consistency_valid` of `TransparencyCheckpointGossip::valid`. -/
def consistencyValid (g : TransparencyCheckpointGossip) : Bool :=
  match g.consistencyProof with
  | none => true
  | some proof =>
      proof.valid P && proof.logId == g.logId
        && proof.newCheckpointId == g.checkpoint.id
        && proof.newTreeSize == g.checkpoint.treeSize
        && proof.newRootHash == g.checkpoint.rootHash

/-- `TransparencyCheckpointGossip::valid`. -/
def TransparencyCheckpointGossip.valid (g : TransparencyCheckpointGossip) :
    Bool :=
  g.storageSchema == kStorageSchema && validSha256 g.id
    && validSha256 g.logId && decide (g.senderSequence > 0)
    && (if g.senderSequence = 1 then g.parentGossipId.isEmpty
        else validSha256 g.parentGossipId)
    && validIdentifier g.recipientServiceId
    && validIdentifier g.senderServiceId && validSha256 g.senderKeyId
    && validSha256 g.trustBundleId && decide (g.trustBundleSequence > 0)
    && g.witnessedCheckpoint.valid P
    && g.witnessedCheckpoint.logId == g.logId
    && g.witnessedCheckpoint.trustBundleId == g.trustBundleId
    && g.witnessedCheckpoint.trustBundleSequence == g.trustBundleSequence
    && consistencyValid P g && g.algorithm == .ed25519
    && validAuthenticationTag g.authenticationTag
    && g.id == transparencyCheckpointGossipIdentity P g

/-- `TransparencyGossipConflict::valid`. -/
def TransparencyGossipConflict.valid (c : TransparencyGossipConflict) : Bool :=
  validSha256 c.id && validSha256 c.firstGossipId
    && validSha256 c.secondGossipId && validSha256 c.firstCheckpointId
    && validSha256 c.secondCheckpointId && decide (c.firstTreeSize ≠ 0)
    && decide (c.secondTreeSize ≠ 0)
    && c.id == transparencyGossipConflictIdentity P c
    && match c.type with
      | .sameSizeEquivocation =>
          c.firstTreeSize == c.secondTreeSize
            && c.firstCheckpointId != c.secondCheckpointId
            && c.consistencyProofId.isEmpty
      | .invalidConsistencyProof =>
          decide (c.firstTreeSize < c.secondTreeSize)
            && validSha256 c.consistencyProofId

/-- The status that the conflicts and the unlinked pairs leave. -/
def gossipStatus (conflicts : List TransparencyGossipConflict)
    (unlinkedCheckpointPairs : Nat) : TransparencyGossipStatus :=
  if !conflicts.isEmpty then .splitView
  else if unlinkedCheckpointPairs > 0 then .incomplete
  else .consistent

/-- `TransparencyGossipAuditReport::valid`. -/
def TransparencyGossipAuditReport.valid (r : TransparencyGossipAuditReport) :
    Bool :=
  validSha256 r.id && validSha256 r.logId && validSha256 r.trustBundleId
    && decide (r.trustBundleSequence ≠ 0)
    && decide (r.uniqueCheckpointCount ≤ r.authenticatedGossipCount)
    && r.id == transparencyGossipAuditReportIdentity P r
    && r.conflicts.all (·.valid P)
    && adjacent (fun a b => decide (a.id < b.id)) r.conflicts
    && r.status == gossipStatus r.conflicts r.unlinkedCheckpointPairs

end

end RbfSafe
