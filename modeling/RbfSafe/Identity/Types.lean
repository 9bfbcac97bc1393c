/-
Service trust: public keys, bundles of keys with a rotation policy,
rotation records and signed checkpoints of a history.

Keys and signatures are kept sorted by service and key id, so equal
contents have equal documents and equal ids.
-/
import RbfSafe.Core.Json

namespace RbfSafe

open Json

/-- `ServiceKeyState`. -/
inductive ServiceKeyState where
  | pending
  | active
  | retired
  | revoked
deriving DecidableEq, Repr

def ServiceKeyState.toNat : ServiceKeyState → Nat
  | .pending => 0
  | .active => 1
  | .retired => 2
  | .revoked => 3

/-- `ServicePublicKey`. -/
structure ServicePublicKey where
  id : Bytes := []
  serviceId : Bytes
  algorithm : ArtifactAuthenticationAlgorithm := .ed25519
  publicKey : Vector UInt8 32
  validFromSequence : UInt64 := 1
  validThroughSequence : UInt64 := 0
  state : ServiceKeyState := .pending
  allowFetch : Bool := true
  allowPublish : Bool := true
  allowRotate : Bool := false

/-- `ServiceTrustRotationPolicy`. -/
structure ServiceTrustRotationPolicy where
  minimumSignatures : UInt32 := 1
  requireDistinctServices : Bool := false
deriving DecidableEq

/-- `ServiceTrustBundle`. -/
structure ServiceTrustBundle where
  sequence : UInt64 := 0
  storageSchema : UInt32 := 2
  id : Bytes := []
  parentId : Bytes := []
  keys : List ServicePublicKey := []
  rotationPolicy : ServiceTrustRotationPolicy := {}

/-- `ServiceTrustBundleAuthorization`. -/
structure ServiceTrustBundleAuthorization where
  id : Bytes := []
  predecessorBundleId : Bytes
  successorBundleId : Bytes
  predecessorSequence : UInt64 := 0
  successorSequence : UInt64 := 0
  signerServiceId : Bytes
  signerKeyId : Bytes
  algorithm : ArtifactAuthenticationAlgorithm := .ed25519
  authenticationTag : Bytes := []

/-- `ServiceTrustBundleAuthorizationSet`. -/
structure ServiceTrustBundleAuthorizationSet where
  id : Bytes := []
  predecessorBundleId : Bytes
  successorBundleId : Bytes
  predecessorSequence : UInt64 := 0
  successorSequence : UInt64 := 0
  authorizations : List ServiceTrustBundleAuthorization

/-- `ServiceTrustRotationEventType`. -/
inductive ServiceTrustRotationEventType where
  | rootPinned
  | successorAuthorized
deriving DecidableEq, Repr

def ServiceTrustRotationEventType.toNat : ServiceTrustRotationEventType → Nat
  | .rootPinned => 0
  | .successorAuthorized => 1

/-- `ServiceTrustRotationRecord`. -/
structure ServiceTrustRotationRecord where
  storageSchema : UInt32 := 1
  sequence : UInt64 := 0
  id : Bytes := []
  parentId : Bytes := []
  type : ServiceTrustRotationEventType := .rootPinned
  bundleId : Bytes
  authorization : Option ServiceTrustBundleAuthorization := none
  authorizationSet : Option ServiceTrustBundleAuthorizationSet := none

/-- `ServiceTrustCheckpointSignature`. -/
structure ServiceTrustCheckpointSignature where
  signerServiceId : Bytes
  signerKeyId : Bytes
  algorithm : ArtifactAuthenticationAlgorithm := .ed25519
  authenticationTag : Bytes := []

/-- `ServiceTrustCheckpoint`. -/
structure ServiceTrustCheckpoint where
  storageSchema : UInt32 := 1
  id : Bytes := []
  rootBundleId : Bytes
  headBundleId : Bytes
  headSequence : UInt64 := 0
  headRecordId : Bytes
  signatures : List ServiceTrustCheckpointSignature := []

-- === documents

/-- `key_material_json`. -/
def keyMaterialJson (key : ServicePublicKey) : Json :=
  object (obj [
    ("algorithm", num key.algorithm.toNat),
    ("format", string (ascii "rbfsafe-service-public-key")),
    ("public_key", string (encodeHex key.publicKey.toList)),
    ("schema", num 1),
    ("service_id", string key.serviceId)])

/-- `key_json`. -/
def keyJson (key : ServicePublicKey) (schema : UInt32) : Json :=
  let fields := obj [
    ("algorithm", num key.algorithm.toNat),
    ("allow_fetch", bool key.allowFetch),
    ("allow_publish", bool key.allowPublish),
    ("id", string key.id),
    ("public_key", string (encodeHex key.publicKey.toList)),
    ("service_id", string key.serviceId),
    ("state", num key.state.toNat),
    ("valid_from_sequence", uint key.validFromSequence.toNat),
    ("valid_through_sequence", uint key.validThroughSequence.toNat)]
  object (if schema ≥ 2 then
    emplace (ascii "allow_rotate") (bool key.allowRotate) fields else fields)

/-- `rotation_policy_json`. -/
def rotationPolicyJson (policy : ServiceTrustRotationPolicy) : Json :=
  object (obj [
    ("minimum_signatures", num policy.minimumSignatures.toNat),
    ("require_distinct_services", bool policy.requireDistinctServices)])

/-- The document of `service_trust_bundle_identity`. -/
def bundleJson (bundle : ServiceTrustBundle) : Json :=
  let fields := obj [
    ("format", string (ascii "rbfsafe-service-trust-bundle")),
    ("keys", array (bundle.keys.map fun key => keyJson key bundle.storageSchema)),
    ("parent_id", string bundle.parentId),
    ("schema", num bundle.storageSchema.toNat),
    ("sequence", uint bundle.sequence.toNat)]
  object (if bundle.storageSchema ≥ 3 then
    emplace (ascii "rotation_policy") (rotationPolicyJson bundle.rotationPolicy)
      fields else fields)

/-- The document of `service_trust_bundle_authorization_message`. -/
def authorizationJson (a : ServiceTrustBundleAuthorization) : Json :=
  object (obj [
    ("algorithm", num a.algorithm.toNat),
    ("format", string (ascii "rbfsafe-service-trust-bundle-authorization")),
    ("predecessor_bundle_id", string a.predecessorBundleId),
    ("predecessor_sequence", uint a.predecessorSequence.toNat),
    ("schema", num 1),
    ("signer_key_id", string a.signerKeyId),
    ("signer_service_id", string a.signerServiceId),
    ("successor_bundle_id", string a.successorBundleId),
    ("successor_sequence", uint a.successorSequence.toNat)])

/-- The document of `service_trust_bundle_authorization_set_identity`. -/
def authorizationSetJson (set : ServiceTrustBundleAuthorizationSet) : Json :=
  object (obj [
    ("authorization_ids", array (set.authorizations.map fun a => string a.id)),
    ("format", string (ascii "rbfsafe-service-trust-bundle-authorization-set")),
    ("predecessor_bundle_id", string set.predecessorBundleId),
    ("predecessor_sequence", uint set.predecessorSequence.toNat),
    ("schema", num 1),
    ("successor_bundle_id", string set.successorBundleId),
    ("successor_sequence", uint set.successorSequence.toNat)])

/-- The documents of `service_trust_rotation_record_identity`, by schema. -/
def rotationRecordJson (record : ServiceTrustRotationRecord) : Json :=
  if record.storageSchema ≥ 2 then
    object (obj [
      ("authorization_set_id", string (match record.authorizationSet with
        | some set => set.id
        | none => [])),
      ("bundle_id", string record.bundleId),
      ("format", string (ascii "rbfsafe-service-trust-rotation-record")),
      ("parent_id", string record.parentId),
      ("schema", num record.storageSchema.toNat),
      ("sequence", uint record.sequence.toNat),
      ("type", num record.type.toNat)])
  else
    object (obj [
      ("authorization_id", string (match record.authorization with
        | some a => a.id
        | none => [])),
      ("bundle_id", string record.bundleId),
      ("format", string (ascii "rbfsafe-service-trust-rotation-record")),
      ("parent_id", string record.parentId),
      ("schema", num 1),
      ("sequence", uint record.sequence.toNat),
      ("type", num record.type.toNat)])

/-- `signature_json`. -/
def checkpointSignatureJson (s : ServiceTrustCheckpointSignature) : Json :=
  object (obj [
    ("algorithm", num s.algorithm.toNat),
    ("authentication_tag", string s.authenticationTag),
    ("signer_key_id", string s.signerKeyId),
    ("signer_service_id", string s.signerServiceId)])

/-- `checkpoint_payload`. -/
def checkpointPayload (c : ServiceTrustCheckpoint) : List (Bytes × Json) :=
  obj [
    ("format", string (ascii "rbfsafe-service-trust-checkpoint")),
    ("head_bundle_id", string c.headBundleId),
    ("head_record_id", string c.headRecordId),
    ("head_sequence", uint c.headSequence.toNat),
    ("root_bundle_id", string c.rootBundleId),
    ("schema", num c.storageSchema.toNat),
    ("signatures", array (c.signatures.map checkpointSignatureJson))]

/-- The document of `service_trust_checkpoint_signature_message`. -/
def checkpointSignatureMessageJson (c : ServiceTrustCheckpoint)
    (s : ServiceTrustCheckpointSignature) : Json :=
  object (obj [
    ("algorithm", num s.algorithm.toNat),
    ("format", string (ascii "rbfsafe-service-trust-checkpoint-signature")),
    ("head_bundle_id", string c.headBundleId),
    ("head_record_id", string c.headRecordId),
    ("head_sequence", uint c.headSequence.toNat),
    ("root_bundle_id", string c.rootBundleId),
    ("schema", num 1),
    ("signer_key_id", string s.signerKeyId),
    ("signer_service_id", string s.signerServiceId)])

-- === identities

section
variable (P : Platform)

/-- `service_public_key_identity`. -/
def servicePublicKeyIdentity (key : ServicePublicKey) : Bytes :=
  P.sha256 (ascii "rbfsafe-service-public-key-v1\n"
    ++ (keyMaterialJson key).dump P.toLibc false 0)

/-- `service_trust_bundle_identity`. -/
def serviceTrustBundleIdentity (bundle : ServiceTrustBundle) : Bytes :=
  P.sha256 ((bundleJson bundle).dump P.toLibc false 0)

/-- `service_trust_bundle_authorization_message`. -/
def serviceTrustBundleAuthorizationMessage
    (a : ServiceTrustBundleAuthorization) : Bytes :=
  ascii "rbfsafe-service-trust-bundle-authorization-v1\n"
    ++ (authorizationJson a).dump P.toLibc false 0

/-- `service_trust_bundle_authorization_identity`. -/
def serviceTrustBundleAuthorizationIdentity
    (a : ServiceTrustBundleAuthorization) : Bytes :=
  P.sha256 (ascii "rbfsafe-service-trust-bundle-authorization-identity-v1\n"
    ++ serviceTrustBundleAuthorizationMessage P a ++ ascii "\n"
    ++ a.authenticationTag)

/-- `service_trust_bundle_authorization_set_identity`. -/
def serviceTrustBundleAuthorizationSetIdentity
    (set : ServiceTrustBundleAuthorizationSet) : Bytes :=
  P.sha256 ((authorizationSetJson set).dump P.toLibc false 0)

/-- `service_trust_rotation_record_identity`. -/
def serviceTrustRotationRecordIdentity
    (record : ServiceTrustRotationRecord) : Bytes :=
  P.sha256 ((rotationRecordJson record).dump P.toLibc false 0)

/-- `service_trust_checkpoint_signature_message`. -/
def serviceTrustCheckpointSignatureMessage (c : ServiceTrustCheckpoint)
    (s : ServiceTrustCheckpointSignature) : Bytes :=
  ascii "rbfsafe-service-trust-checkpoint-signature-v1\n"
    ++ (checkpointSignatureMessageJson c s).dump P.toLibc false 0

/-- `service_trust_checkpoint_identity`. -/
def serviceTrustCheckpointIdentity (c : ServiceTrustCheckpoint) : Bytes :=
  P.sha256 (ascii "rbfsafe-service-trust-checkpoint-identity-v1\n"
    ++ (object (checkpointPayload c)).dump P.toLibc false 0)

end

-- === validity

/-- The order the source sorts by: service id first, then key id. -/
def signerBefore (service key service' key' : Bytes) : Bool :=
  if service = service' then decide (key < key') else decide (service < service')

/-- The check a loop makes of each item after the first: the item before
it comes strictly first. -/
def strictlyOrdered {α : Type} (service key : α → Bytes) : List α → Bool
  | previous :: current :: rest =>
      !(decide (service current < service previous)
          || (service previous == service current
            && !decide (key previous < key current)))
        && strictlyOrdered service key (current :: rest)
  | _ => true

section
variable (P : Platform)

/-- `valid_service_public_key`. -/
def validServicePublicKey (key : ServicePublicKey) : Bool :=
  validSha256 key.id && validIdentifier key.serviceId
    && key.algorithm == .ed25519 && key.publicKey.toList.any (· != 0)
    && decide (key.validFromSequence > 0)
    && (key.validThroughSequence == 0
      || decide (key.validThroughSequence ≥ key.validFromSequence))
    && (key.allowFetch || key.allowPublish || key.allowRotate)
    && (key.state != .retired || key.validThroughSequence != 0)
    && servicePublicKeyIdentity P key == key.id

/-- `valid_service_trust_rotation_policy`. -/
def validServiceTrustRotationPolicy (policy : ServiceTrustRotationPolicy) :
    Bool :=
  decide (policy.minimumSignatures > 0)
    && decide (policy.minimumSignatures ≤ 100000)

/-- `ServiceTrustBundle::valid`. -/
def ServiceTrustBundle.valid (b : ServiceTrustBundle) : Bool :=
  (b.storageSchema == 1 || b.storageSchema == 2 || b.storageSchema == 3)
    && b.sequence != 0 && !b.keys.isEmpty
    && (b.sequence != 1 || b.parentId.isEmpty)
    && (!decide (b.sequence > 1) || validSha256 b.parentId)
    && validSha256 b.id && validServiceTrustRotationPolicy b.rotationPolicy
    && (!decide (b.storageSchema < 3)
      || (b.rotationPolicy.minimumSignatures == 1
        && !b.rotationPolicy.requireDistinctServices))
    && b.keys.all (fun key => validServicePublicKey P key
      && !(b.storageSchema == 1 && key.allowRotate))
    && strictlyOrdered ServicePublicKey.serviceId ServicePublicKey.id b.keys
    && serviceTrustBundleIdentity P b == b.id

/-- `ServiceTrustBundle::key`. -/
def ServiceTrustBundle.key (b : ServiceTrustBundle) (serviceId keyId : Bytes) :
    Result (Option ServicePublicKey) :=
  if !b.valid P || !validIdentifier serviceId || !validSha256 keyId then
    failure .invalidArgument "service trust-bundle lookup input is invalid"
  else .ok (b.keys.find? fun candidate =>
    candidate.serviceId == serviceId && candidate.id == keyId)

/-- `valid_service_trust_bundle_authorization`. -/
def validServiceTrustBundleAuthorization
    (a : ServiceTrustBundleAuthorization) : Bool :=
  a.predecessorSequence != 0xffffffffffffffff && validSha256 a.id
    && validSha256 a.predecessorBundleId && validSha256 a.successorBundleId
    && decide (a.predecessorSequence > 0)
    && a.successorSequence == a.predecessorSequence + 1
    && validIdentifier a.signerServiceId && validSha256 a.signerKeyId
    && a.algorithm == .ed25519
    && (decodeHex a.authenticationTag kEd25519SignatureBytes).isOk
    && serviceTrustBundleAuthorizationIdentity P a == a.id

/-- `valid_service_trust_bundle_authorization_set`. -/
def validServiceTrustBundleAuthorizationSet
    (set : ServiceTrustBundleAuthorizationSet) : Bool :=
  validSha256 set.id && validSha256 set.predecessorBundleId
    && validSha256 set.successorBundleId && set.predecessorSequence != 0
    && set.predecessorSequence != 0xffffffffffffffff
    && set.successorSequence == set.predecessorSequence + 1
    && !set.authorizations.isEmpty
    && set.authorizations.all (fun a =>
      validServiceTrustBundleAuthorization P a
        && a.predecessorBundleId == set.predecessorBundleId
        && a.successorBundleId == set.successorBundleId
        && a.predecessorSequence == set.predecessorSequence
        && a.successorSequence == set.successorSequence)
    && strictlyOrdered ServiceTrustBundleAuthorization.signerServiceId
      ServiceTrustBundleAuthorization.signerKeyId set.authorizations
    && serviceTrustBundleAuthorizationSetIdentity P set == set.id

/-- `valid_service_trust_checkpoint_signature`. -/
def validServiceTrustCheckpointSignature
    (s : ServiceTrustCheckpointSignature) : Bool :=
  validIdentifier s.signerServiceId && validSha256 s.signerKeyId
    && s.algorithm == .ed25519
    && (decodeHex s.authenticationTag kEd25519SignatureBytes).isOk

/-- `ServiceTrustCheckpoint::valid`. -/
def ServiceTrustCheckpoint.valid (c : ServiceTrustCheckpoint) : Bool :=
  c.storageSchema == 1 && validSha256 c.id && validSha256 c.rootBundleId
    && validSha256 c.headBundleId && c.headSequence != 0
    && validSha256 c.headRecordId && !c.signatures.isEmpty
    && c.signatures.all validServiceTrustCheckpointSignature
    && strictlyOrdered ServiceTrustCheckpointSignature.signerServiceId
      ServiceTrustCheckpointSignature.signerKeyId c.signatures
    && serviceTrustCheckpointIdentity P c == c.id

end

end RbfSafe
