/-
The records of a transparency log: leaves and their payloads,
checkpoints, log records and the three kinds of proof.

Every record carries the digest of its own JSON document as `id`, and
`valid` recomputes it. The documents are written field by field as the
source names them; the key order is the map's, not the reader's concern.
-/
import RbfSafe.Execution.Types

namespace RbfSafe

open Json

-- === payloads

/-- `DeploymentTransparencyAnchor`. -/
structure DeploymentTransparencyAnchor where
  storageSchema : UInt32 := 1
  id : Bytes := []
  deploymentId : Bytes
  reviewedProfileId : Bytes
  approvalSetId : Bytes
  robotDigest : Bytes
  controllerDigest : Bytes
  platformDigest : Bytes
  runtimeDigest : Bytes
  trustRootBundleId : Bytes
  trustCheckpointId : Bytes
  trustBundleId : Bytes
  trustBundleSequence : UInt64 := 0
  trustHeadRecordId : Bytes

/-- `IndependentRuntimeObservation`. -/
structure IndependentRuntimeObservation where
  storageSchema : UInt32 := 1
  id : Bytes := []
  sessionId : Bytes
  ledgerId : Bytes
  ledgerRecordId : Bytes
  authorizationId : Bytes
  commandSequenceId : Bytes
  commandIndex : UInt64 := 0
  commandDigest : Bytes
  runtime : DeploymentRuntimeSnapshot
  observationSequence : UInt64 := 0
  observedMonotonicNs : UInt64 := 0
  monitorState : ExecutionMonitorState := .disarmed
  configurationDigest : Bytes

/-- `RuntimeObservationAttestation`. -/
structure RuntimeObservationAttestation where
  storageSchema : UInt32 := 1
  id : Bytes := []
  observationId : Bytes
  sourceServiceId : Bytes
  sourceKeyId : Bytes
  algorithm : ArtifactAuthenticationAlgorithm := .ed25519
  authenticationTag : Bytes := []

/-- `RuntimeObservationPolicy`. -/
structure RuntimeObservationPolicy where
  minimumAttestations : UInt32 := 1
  requireDistinctServices : Bool := true
  excludeControllerService : Bool := true

/-- `RuntimeObservationAttestationSet`. -/
structure RuntimeObservationAttestationSet where
  storageSchema : UInt32 := 1
  id : Bytes := []
  observation : IndependentRuntimeObservation
  policy : RuntimeObservationPolicy
  attestations : List RuntimeObservationAttestation

-- === the log

/-- `TransparencyLogIdentity`. -/
structure TransparencyLogIdentity where
  storageSchema : UInt32 := 1
  id : Bytes := []
  logNamespace : Bytes
  signerServiceId : Bytes
  signerKeyId : Bytes
  signerPublicKey : Vector UInt8 32

/-- `TransparencyLeafKind`. -/
inductive TransparencyLeafKind where
  | deploymentAnchor
  | runtimeObservation
deriving DecidableEq, Repr

def TransparencyLeafKind.toNat : TransparencyLeafKind → Nat
  | .deploymentAnchor => 0
  | .runtimeObservation => 1

/-- `TransparencyLogLeaf`. -/
structure TransparencyLogLeaf where
  storageSchema : UInt32 := 1
  index : UInt64 := 0
  id : Bytes := []
  logId : Bytes
  kind : TransparencyLeafKind := .deploymentAnchor
  deploymentAnchor : Option DeploymentTransparencyAnchor := none
  runtimeObservation : Option RuntimeObservationAttestationSet := none

/-- `TransparencyLogCheckpoint`. -/
structure TransparencyLogCheckpoint where
  storageSchema : UInt32 := 1
  id : Bytes := []
  logId : Bytes
  treeSize : UInt64 := 0
  rootHash : Bytes
  previousCheckpointId : Bytes
  signerServiceId : Bytes
  signerKeyId : Bytes
  algorithm : ArtifactAuthenticationAlgorithm := .ed25519
  authenticationTag : Bytes := []

/-- `TransparencyLogRecord`. -/
structure TransparencyLogRecord where
  storageSchema : UInt32 := 1
  sequence : UInt64 := 0
  id : Bytes := []
  parentId : Bytes
  logId : Bytes
  leaf : TransparencyLogLeaf
  checkpoint : TransparencyLogCheckpoint

/-- `TransparencyInclusionProof`. -/
structure TransparencyInclusionProof where
  storageSchema : UInt32 := 1
  id : Bytes := []
  logId : Bytes
  checkpointId : Bytes
  leafId : Bytes
  leafIndex : UInt64 := 0
  treeSize : UInt64 := 0
  rootHash : Bytes
  siblingHashes : List Bytes

/-- `TransparencyMerkleSubtree`. -/
structure TransparencyMerkleSubtree where
  level : UInt8 := 0
  hash : Bytes

/-- `TransparencyCompactConsistencyProof`. -/
structure TransparencyCompactConsistencyProof where
  storageSchema : UInt32 := 1
  id : Bytes := []
  logId : Bytes
  oldCheckpointId : Bytes
  newCheckpointId : Bytes
  oldTreeSize : UInt64 := 0
  newTreeSize : UInt64 := 0
  oldRootHash : Bytes
  newRootHash : Bytes
  oldFrontier : List TransparencyMerkleSubtree
  appendedSubtrees : List TransparencyMerkleSubtree

-- === documents

/-- `runtime_snapshot_json`. -/
def runtimeSnapshotJson (s : DeploymentRuntimeSnapshot) : Json :=
  object (obj [
    ("authenticated_artifacts", bool s.authenticatedArtifacts),
    ("command_latency_ns", uint s.commandLatencyNs.toNat),
    ("consecutive_missed_cycles", uint s.consecutiveMissedCycles.toNat),
    ("controller_digest", string s.controllerDigest),
    ("control_period_ns", uint s.controlPeriodNs.toNat),
    ("deployment_id", string s.deploymentId),
    ("fail_closed_transport_active", bool s.failClosedTransportActive),
    ("observation_age_ns", uint s.observationAgeNs.toNat),
    ("platform_digest", string s.platformDigest),
    ("robot_digest", string s.robotDigest),
    ("runtime_digest", string s.runtimeDigest),
    ("runtime_monitor_active", bool s.runtimeMonitorActive)])

/-- `object.emplace("id", …)` when `include_id` asks for it. -/
def withField (present : Bool) (key : String) (value : Bytes)
    (fields : List (Bytes × Json)) : List (Bytes × Json) :=
  if present then emplace (ascii key) (string value) fields else fields

@[simp] theorem withField_false (key : String) (value : Bytes)
    (fields : List (Bytes × Json)) :
    withField false key value fields = fields := rfl

/-- `deployment_anchor_json`. -/
def deploymentAnchorJson (a : DeploymentTransparencyAnchor)
    (includeId : Bool) : Json :=
  object (withField includeId "id" a.id (obj [
    ("approval_set_id", string a.approvalSetId),
    ("controller_digest", string a.controllerDigest),
    ("deployment_id", string a.deploymentId),
    ("platform_digest", string a.platformDigest),
    ("reviewed_profile_id", string a.reviewedProfileId),
    ("robot_digest", string a.robotDigest),
    ("runtime_digest", string a.runtimeDigest),
    ("storage_schema", uint a.storageSchema.toNat),
    ("trust_bundle_id", string a.trustBundleId),
    ("trust_bundle_sequence", uint a.trustBundleSequence.toNat),
    ("trust_checkpoint_id", string a.trustCheckpointId),
    ("trust_head_record_id", string a.trustHeadRecordId),
    ("trust_root_bundle_id", string a.trustRootBundleId)]))

/-- `independent_observation_json`. -/
def independentObservationJson (o : IndependentRuntimeObservation)
    (includeId : Bool) : Json :=
  object (withField includeId "id" o.id (obj [
    ("authorization_id", string o.authorizationId),
    ("command_digest", string o.commandDigest),
    ("command_index", uint o.commandIndex.toNat),
    ("command_sequence_id", string o.commandSequenceId),
    ("configuration_digest", string o.configurationDigest),
    ("ledger_id", string o.ledgerId),
    ("ledger_record_id", string o.ledgerRecordId),
    ("monitor_state", num o.monitorState.toNat),
    ("observation_sequence", uint o.observationSequence.toNat),
    ("observed_monotonic_ns", uint o.observedMonotonicNs.toNat),
    ("runtime", runtimeSnapshotJson o.runtime),
    ("session_id", string o.sessionId),
    ("storage_schema", uint o.storageSchema.toNat)]))

/-- `runtime_policy_json`. -/
def runtimePolicyJson (p : RuntimeObservationPolicy) : Json :=
  object (obj [
    ("exclude_controller_service", bool p.excludeControllerService),
    ("minimum_attestations", uint p.minimumAttestations.toNat),
    ("require_distinct_services", bool p.requireDistinctServices)])

/-- `runtime_attestation_json`. -/
def runtimeAttestationJson (a : RuntimeObservationAttestation)
    (includeId includeTag : Bool) : Json :=
  object (withField includeId "id" a.id
    (withField includeTag "authentication_tag" a.authenticationTag (obj [
      ("algorithm", num a.algorithm.toNat),
      ("observation_id", string a.observationId),
      ("source_key_id", string a.sourceKeyId),
      ("source_service_id", string a.sourceServiceId),
      ("storage_schema", uint a.storageSchema.toNat)])))

/-- `runtime_attestation_set_json`. -/
def runtimeAttestationSetJson (s : RuntimeObservationAttestationSet)
    (includeId : Bool) : Json :=
  object (withField includeId "id" s.id (obj [
    ("attestations", array (s.attestations.map fun a =>
      runtimeAttestationJson a true true)),
    ("observation", independentObservationJson s.observation true),
    ("policy", runtimePolicyJson s.policy),
    ("storage_schema", uint s.storageSchema.toNat)]))

/-- `transparency_identity_json`. -/
def transparencyIdentityJson (i : TransparencyLogIdentity)
    (includeId : Bool) : Json :=
  object (withField includeId "id" i.id (obj [
    ("log_namespace", string i.logNamespace),
    ("signer_key_id", string i.signerKeyId),
    ("signer_public_key", string (encodeHex i.signerPublicKey.toList)),
    ("signer_service_id", string i.signerServiceId),
    ("storage_schema", uint i.storageSchema.toNat)]))

/-- `transparency_leaf_json`. -/
def transparencyLeafJson (l : TransparencyLogLeaf) (includeId : Bool) :
    Json :=
  object (withField includeId "id" l.id (obj [
    ("deployment_anchor", match l.deploymentAnchor with
      | some a => deploymentAnchorJson a true
      | none => null),
    ("index", uint l.index.toNat),
    ("kind", num l.kind.toNat),
    ("log_id", string l.logId),
    ("runtime_observation", match l.runtimeObservation with
      | some o => runtimeAttestationSetJson o true
      | none => null),
    ("storage_schema", uint l.storageSchema.toNat)]))

/-- `transparency_checkpoint_json`. -/
def transparencyCheckpointJson (c : TransparencyLogCheckpoint)
    (includeId includeTag : Bool) : Json :=
  object (withField includeId "id" c.id
    (withField includeTag "authentication_tag" c.authenticationTag (obj [
      ("algorithm", num c.algorithm.toNat),
      ("log_id", string c.logId),
      ("previous_checkpoint_id", string c.previousCheckpointId),
      ("root_hash", string c.rootHash),
      ("signer_key_id", string c.signerKeyId),
      ("signer_service_id", string c.signerServiceId),
      ("storage_schema", uint c.storageSchema.toNat),
      ("tree_size", uint c.treeSize.toNat)])))

/-- `transparency_record_json`. -/
def transparencyRecordJson (r : TransparencyLogRecord) (includeId : Bool) :
    Json :=
  object (withField includeId "id" r.id (obj [
    ("checkpoint", transparencyCheckpointJson r.checkpoint true true),
    ("leaf", transparencyLeafJson r.leaf true),
    ("log_id", string r.logId),
    ("parent_id", string r.parentId),
    ("sequence", uint r.sequence.toNat),
    ("storage_schema", uint r.storageSchema.toNat)]))

/-- `inclusion_proof_json`. -/
def inclusionProofJson (p : TransparencyInclusionProof) (includeId : Bool) :
    Json :=
  object (withField includeId "id" p.id (obj [
    ("checkpoint_id", string p.checkpointId),
    ("leaf_id", string p.leafId),
    ("leaf_index", uint p.leafIndex.toNat),
    ("log_id", string p.logId),
    ("root_hash", string p.rootHash),
    ("sibling_hashes", array (p.siblingHashes.map string)),
    ("storage_schema", uint p.storageSchema.toNat),
    ("tree_size", uint p.treeSize.toNat)]))

/-- `merkle_subtree_json`. -/
def merkleSubtreeJson (s : TransparencyMerkleSubtree) : Json :=
  object (obj [
    ("hash", string s.hash),
    ("level", uint s.level.toNat)])

/-- `compact_consistency_proof_json`. -/
def compactConsistencyProofJson (p : TransparencyCompactConsistencyProof)
    (includeId : Bool) : Json :=
  object (withField includeId "id" p.id (obj [
    ("appended_subtrees", array (p.appendedSubtrees.map merkleSubtreeJson)),
    ("log_id", string p.logId),
    ("new_checkpoint_id", string p.newCheckpointId),
    ("new_root_hash", string p.newRootHash),
    ("new_tree_size", uint p.newTreeSize.toNat),
    ("old_checkpoint_id", string p.oldCheckpointId),
    ("old_frontier", array (p.oldFrontier.map merkleSubtreeJson)),
    ("old_root_hash", string p.oldRootHash),
    ("old_tree_size", uint p.oldTreeSize.toNat),
    ("storage_schema", uint p.storageSchema.toNat)]))

-- === identities

section
variable (P : Platform)

/-- `deployment_transparency_anchor_identity`. -/
def deploymentTransparencyAnchorIdentity
    (a : DeploymentTransparencyAnchor) : Bytes :=
  P.sha256 (ascii "rbfsafe-deployment-transparency-anchor-identity-v1\n"
    ++ (deploymentAnchorJson a false).dump P.toLibc false 0)

/-- `independent_runtime_observation_identity`. -/
def independentRuntimeObservationIdentity
    (o : IndependentRuntimeObservation) : Bytes :=
  P.sha256 (ascii "rbfsafe-independent-runtime-observation-identity-v1\n"
    ++ (independentObservationJson o false).dump P.toLibc false 0)

/-- `runtime_observation_attestation_identity`. -/
def runtimeObservationAttestationIdentity
    (a : RuntimeObservationAttestation) : Bytes :=
  P.sha256 (ascii "rbfsafe-runtime-observation-attestation-identity-v1\n"
    ++ (runtimeAttestationJson a false true).dump P.toLibc false 0)

/-- `runtime_observation_attestation_set_identity`. -/
def runtimeObservationAttestationSetIdentity
    (s : RuntimeObservationAttestationSet) : Bytes :=
  P.sha256 (ascii "rbfsafe-runtime-observation-attestation-set-identity-v1\n"
    ++ (runtimeAttestationSetJson s false).dump P.toLibc false 0)

/-- `transparency_log_identity_value`. -/
def transparencyLogIdentityValue (i : TransparencyLogIdentity) : Bytes :=
  P.sha256 (ascii "rbfsafe-transparency-log-identity-v1\n"
    ++ (transparencyIdentityJson i false).dump P.toLibc false 0)

/-- `transparency_log_leaf_identity`. -/
def transparencyLogLeafIdentity (l : TransparencyLogLeaf) : Bytes :=
  P.sha256 (ascii "rbfsafe-transparency-log-leaf-identity-v1\n"
    ++ (transparencyLeafJson l false).dump P.toLibc false 0)

/-- `transparency_log_checkpoint_message`. -/
def transparencyLogCheckpointMessage (c : TransparencyLogCheckpoint) : Bytes :=
  ascii "rbfsafe-transparency-log-checkpoint-signature-v1\n"
    ++ (transparencyCheckpointJson c false false).dump P.toLibc false 0

/-- `transparency_log_checkpoint_identity`. -/
def transparencyLogCheckpointIdentity (c : TransparencyLogCheckpoint) : Bytes :=
  P.sha256 (ascii "rbfsafe-transparency-log-checkpoint-identity-v1\n"
    ++ (transparencyCheckpointJson c false true).dump P.toLibc false 0)

/-- `transparency_log_record_identity`. -/
def transparencyLogRecordIdentity (r : TransparencyLogRecord) : Bytes :=
  P.sha256 (ascii "rbfsafe-transparency-log-record-identity-v1\n"
    ++ (transparencyRecordJson r false).dump P.toLibc false 0)

/-- `transparency_inclusion_proof_identity`. -/
def transparencyInclusionProofIdentity
    (p : TransparencyInclusionProof) : Bytes :=
  P.sha256 (ascii "rbfsafe-transparency-inclusion-proof-identity-v1\n"
    ++ (inclusionProofJson p false).dump P.toLibc false 0)

/-- `transparency_compact_consistency_proof_identity`. -/
def transparencyCompactConsistencyProofIdentity
    (p : TransparencyCompactConsistencyProof) : Bytes :=
  P.sha256 (ascii "rbfsafe-transparency-compact-consistency-proof-identity-v1\n"
    ++ (compactConsistencyProofJson p false).dump P.toLibc false 0)

-- === validity

/-- `kStorageSchema`. -/
def kStorageSchema : UInt32 := 1

/-- `kMaximumAttestations`. -/
def kMaximumAttestations : Nat := 100000

/-- The check of an authentication tag: a hexadecimal signature. -/
def validAuthenticationTag (tag : Bytes) : Bool :=
  tag.length == kEd25519SignatureBytes * 2 && tag.all isLowerHex

/-- `DeploymentTransparencyAnchor::valid`. -/
def DeploymentTransparencyAnchor.valid (a : DeploymentTransparencyAnchor) :
    Bool :=
  a.storageSchema == kStorageSchema && validSha256 a.id
    && validIdentifier a.deploymentId && validSha256 a.reviewedProfileId
    && validSha256 a.approvalSetId && validSha256 a.robotDigest
    && validSha256 a.controllerDigest && validSha256 a.platformDigest
    && validSha256 a.runtimeDigest && validSha256 a.trustRootBundleId
    && validSha256 a.trustCheckpointId && validSha256 a.trustBundleId
    && decide (a.trustBundleSequence > 0) && validSha256 a.trustHeadRecordId
    && a.id == deploymentTransparencyAnchorIdentity P a

/-- `IndependentRuntimeObservation::valid`. -/
def IndependentRuntimeObservation.valid
    (o : IndependentRuntimeObservation) : Bool :=
  o.storageSchema == kStorageSchema && validSha256 o.id
    && validSha256 o.sessionId && validSha256 o.ledgerId
    && validSha256 o.ledgerRecordId && validSha256 o.authorizationId
    && validSha256 o.commandSequenceId && validSha256 o.commandDigest
    && validDeploymentRuntimeSnapshot o.runtime
    && decide (o.observationSequence > 0) && decide (o.observedMonotonicNs > 0)
    && validSha256 o.configurationDigest
    && o.id == independentRuntimeObservationIdentity P o

/-- `RuntimeObservationAttestation::valid`. -/
def RuntimeObservationAttestation.valid
    (a : RuntimeObservationAttestation) : Bool :=
  a.storageSchema == kStorageSchema && validSha256 a.id
    && validSha256 a.observationId && validIdentifier a.sourceServiceId
    && validSha256 a.sourceKeyId && a.algorithm == .ed25519
    && validAuthenticationTag a.authenticationTag
    && a.id == runtimeObservationAttestationIdentity P a

/-- `valid_runtime_observation_policy`. -/
def validRuntimeObservationPolicy (p : RuntimeObservationPolicy) : Bool :=
  decide (p.minimumAttestations > 0)
    && decide (p.minimumAttestations.toNat ≤ kMaximumAttestations)

/-- `std::tie(…) < std::tie(…)` on two pairs of strings. -/
def tieLt (a b : Bytes × Bytes) : Bool :=
  decide (a.1 < b.1) || (a.1 == b.1 && decide (a.2 < b.2))

/-- Every entry of a list is related to the next one. -/
def adjacent {α : Type} (r : α → α → Bool) : List α → Bool
  | a :: b :: rest => r a b && adjacent r (b :: rest)
  | _ => true

/-- `RuntimeObservationAttestationSet::valid`. -/
def RuntimeObservationAttestationSet.valid
    (s : RuntimeObservationAttestationSet) : Bool :=
  s.storageSchema == kStorageSchema && validSha256 s.id
    && s.observation.valid P && validRuntimeObservationPolicy s.policy
    && decide (s.policy.minimumAttestations.toNat ≤ s.attestations.length)
    && decide (s.attestations.length ≤ kMaximumAttestations)
    && s.id == runtimeObservationAttestationSetIdentity P s
    && s.attestations.all (fun a =>
      a.valid P && a.observationId == s.observation.id)
    && adjacent (fun a b =>
      tieLt (a.sourceServiceId, a.sourceKeyId)
          (b.sourceServiceId, b.sourceKeyId)
        && !(s.policy.requireDistinctServices
          && a.sourceServiceId == b.sourceServiceId)) s.attestations

/-- `TransparencyLogIdentity::valid`. -/
def TransparencyLogIdentity.valid (i : TransparencyLogIdentity) : Bool :=
  i.storageSchema == kStorageSchema && validSha256 i.id
    && validIdentifier i.logNamespace && validIdentifier i.signerServiceId
    && validSha256 i.signerKeyId && i.id == transparencyLogIdentityValue P i

/-- `TransparencyLogLeaf::valid`. -/
def TransparencyLogLeaf.valid (l : TransparencyLogLeaf) : Bool :=
  let payloadValid := match l.kind, l.deploymentAnchor, l.runtimeObservation with
    | .deploymentAnchor, some a, none => a.valid P
    | .runtimeObservation, none, some o => o.valid P
    | _, _, _ => false
  l.storageSchema == kStorageSchema && validSha256 l.id
    && validSha256 l.logId && payloadValid
    && l.id == transparencyLogLeafIdentity P l

/-- `TransparencyLogCheckpoint::valid`. -/
def TransparencyLogCheckpoint.valid (c : TransparencyLogCheckpoint) : Bool :=
  c.storageSchema == kStorageSchema && validSha256 c.id
    && validSha256 c.logId && decide (c.treeSize > 0)
    && validSha256 c.rootHash
    && (if c.treeSize = 1 then c.previousCheckpointId.isEmpty
        else validSha256 c.previousCheckpointId)
    && validIdentifier c.signerServiceId && validSha256 c.signerKeyId
    && c.algorithm == .ed25519 && validAuthenticationTag c.authenticationTag
    && c.id == transparencyLogCheckpointIdentity P c

/-- `TransparencyLogRecord::valid`. -/
def TransparencyLogRecord.valid (r : TransparencyLogRecord) : Bool :=
  r.storageSchema == kStorageSchema && validSha256 r.id
    && validSha256 r.logId
    && (if r.sequence = 0 then r.parentId.isEmpty else validSha256 r.parentId)
    && r.leaf.valid P && r.checkpoint.valid P && r.leaf.index == r.sequence
    && r.leaf.logId == r.logId && r.checkpoint.logId == r.logId
    && r.checkpoint.treeSize == r.sequence + 1
    && r.id == transparencyLogRecordIdentity P r

/-- `TransparencyInclusionProof::valid`. -/
def TransparencyInclusionProof.valid (p : TransparencyInclusionProof) : Bool :=
  p.storageSchema == kStorageSchema && validSha256 p.id
    && validSha256 p.logId && validSha256 p.checkpointId
    && validSha256 p.leafId && decide (p.treeSize ≠ 0)
    && decide (p.leafIndex < p.treeSize) && validSha256 p.rootHash
    && decide (p.siblingHashes.length ≤ 64)
    && p.id == transparencyInclusionProofIdentity P p
    && p.siblingHashes.all validSha256

/-- `TransparencyMerkleSubtree::valid`. -/
def TransparencyMerkleSubtree.valid (s : TransparencyMerkleSubtree) : Bool :=
  decide (s.level < 64) && validSha256 s.hash

/-- `std::uint64_t{1} << level`. -/
def TransparencyMerkleSubtree.size (s : TransparencyMerkleSubtree) : UInt64 :=
  1 <<< s.level.toUInt64

/-- The frontier loop of `TransparencyCompactConsistencyProof::valid`:
the set bits of `treeSize` from `level` up, against the entries left. -/
def frontierMatches (treeSize : UInt64) :
    Nat → Nat → List TransparencyMerkleSubtree → Bool
  | 0, _, entries => entries.isEmpty
  | left + 1, level, entries =>
      if (treeSize >>> UInt64.ofNat level) &&& 1 = 0 then
        frontierMatches treeSize left (level + 1) entries
      else match entries with
        | [] => false
        | entry :: entries =>
            entry.level.toNat == level && entry.valid
              && frontierMatches treeSize left (level + 1) entries

/-- The subtree loop of `TransparencyCompactConsistencyProof::valid`. -/
def subtreesReach (newTreeSize : UInt64) :
    UInt64 → List TransparencyMerkleSubtree → Bool
  | represented, [] => represented == newTreeSize
  | represented, subtree :: rest =>
      subtree.valid && decide (represented &&& (subtree.size - 1) = 0)
        && decide (represented ≤ 0xffffffffffffffff - subtree.size)
        && decide (represented + subtree.size ≤ newTreeSize)
        && subtreesReach newTreeSize (represented + subtree.size) rest

/-- `TransparencyCompactConsistencyProof::valid`. -/
def TransparencyCompactConsistencyProof.valid
    (p : TransparencyCompactConsistencyProof) : Bool :=
  p.storageSchema == kStorageSchema && validSha256 p.id
    && validSha256 p.logId && validSha256 p.oldCheckpointId
    && validSha256 p.newCheckpointId && decide (p.oldTreeSize ≠ 0)
    && decide (p.oldTreeSize < p.newTreeSize) && validSha256 p.oldRootHash
    && validSha256 p.newRootHash && !p.oldFrontier.isEmpty
    && decide (p.oldFrontier.length ≤ 64) && !p.appendedSubtrees.isEmpty
    && decide (p.appendedSubtrees.length ≤ 128)
    && p.id == transparencyCompactConsistencyProofIdentity P p
    && frontierMatches p.oldTreeSize 64 0 p.oldFrontier
    && subtreesReach p.newTreeSize p.oldTreeSize p.appendedSubtrees

end

end RbfSafe
