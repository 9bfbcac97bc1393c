/-
Rotation of trust bundles: the link a successor must have to its
predecessor, and the signatures that authorize it.
-/
import RbfSafe.Identity.Types

namespace RbfSafe

/-- `same_immutable_key_policy`. -/
def sameImmutableKeyPolicy (previous next : ServicePublicKey) : Bool :=
  previous.id == next.id && previous.serviceId == next.serviceId
    && previous.algorithm == next.algorithm
    && previous.publicKey == next.publicKey
    && previous.validFromSequence == next.validFromSequence
    && previous.allowFetch == next.allowFetch
    && previous.allowPublish == next.allowPublish
    && previous.allowRotate == next.allowRotate

/-- `valid_state_transition`. -/
def validStateTransition : ServiceKeyState → ServiceKeyState → Bool
  | .pending, next => next == .pending || next == .active || next == .revoked
  | .active, next => next == .active || next == .retired || next == .revoked
  | .retired, next => next == .retired || next == .revoked
  | .revoked, next => next == .revoked

/-- `validate_rotation`. -/
def validateRotation (previous next : ServicePublicKey) : Result Unit :=
  if !sameImmutableKeyPolicy previous next
      || !validStateTransition previous.state next.state then
    failure .identityMismatch
      "service trust-bundle key policy or state transition is invalid"
      previous.id
  else if previous.validThroughSequence ≠ 0
      ∧ next.validThroughSequence ≠ previous.validThroughSequence then
    failure .identityMismatch
      "service key validity cannot change after its upper bound is fixed"
      previous.id
  else if previous.validThroughSequence = 0 ∧ next.validThroughSequence ≠ 0
      ∧ next.validThroughSequence < next.validFromSequence then
    failure .identityMismatch
      "service key rotation introduced an invalid sequence window" previous.id
  else if next.state = .retired ∧ next.validThroughSequence = 0 then
    failure .identityMismatch
      "retired service keys require a finite validity window" previous.id
  else .ok ()

/-- `rotation_key_is_authorized`. -/
def rotationKeyIsAuthorized (key : ServicePublicKey)
    (successorSequence : UInt64) : Bool :=
  key.state == .active && key.allowRotate
    && decide (successorSequence ≥ key.validFromSequence)
    && (key.validThroughSequence == 0
      || decide (successorSequence ≤ key.validThroughSequence))

section
variable (P : Platform)

/-- The key loop of `validate_service_trust_bundle_rotation`. -/
def validateKeys (successor : ServiceTrustBundle) :
    List ServicePublicKey → Result Unit
  | [] => .ok ()
  | oldKey :: rest => do
      let replacement ← successor.key P oldKey.serviceId oldKey.id
      match replacement with
      | none =>
          failure .identityMismatch
            "service trust-bundle rotation removed an existing key" oldKey.id
      | some replacement => do
          let _ ← validateRotation oldKey replacement
          validateKeys successor rest

/-- `validate_service_trust_bundle_rotation`. -/
def validateServiceTrustBundleRotation
    (predecessor successor : ServiceTrustBundle) : Result Unit :=
  if !predecessor.valid P || !successor.valid P then
    failure .invalidArgument "service trust-bundle rotation input is invalid"
  else if predecessor.sequence = 0xffffffffffffffff
      ∨ successor.sequence ≠ predecessor.sequence + 1
      ∨ successor.parentId ≠ predecessor.id
      ∨ successor.storageSchema ≠ predecessor.storageSchema
      ∨ successor.rotationPolicy.minimumSignatures
        ≠ predecessor.rotationPolicy.minimumSignatures
      ∨ successor.rotationPolicy.requireDistinctServices
        ≠ predecessor.rotationPolicy.requireDistinctServices then
    failure .identityMismatch
      "service trust-bundle successor link is invalid" successor.id
  else validateKeys P successor predecessor.keys

/-- `verify_rotation_authorization_binding`. -/
def verifyRotationAuthorizationBinding
    (predecessor successor : ServiceTrustBundle)
    (authorization : ServiceTrustBundleAuthorization) : Result Unit :=
  if !validServiceTrustBundleAuthorization P authorization then
    failure .corruptData "trust-bundle authorization identity is invalid"
  else if authorization.predecessorBundleId ≠ predecessor.id
      ∨ authorization.successorBundleId ≠ successor.id
      ∨ authorization.predecessorSequence ≠ predecessor.sequence
      ∨ authorization.successorSequence ≠ successor.sequence then
    failure .identityMismatch
      "trust-bundle authorization is bound to another successor"
      authorization.id
  else do
    let found ← predecessor.key P authorization.signerServiceId
      authorization.signerKeyId
    match found with
    | none =>
        failure .identityMismatch
          "service key is not authorized for trust-bundle rotation"
          authorization.signerKeyId
    | some key =>
        if !rotationKeyIsAuthorized key successor.sequence then
          failure .identityMismatch
            "service key is not authorized for trust-bundle rotation"
            authorization.signerKeyId
        else do
          let signature ← decodeHex authorization.authenticationTag
            kEd25519SignatureBytes
          ed25519Verify P (serviceTrustBundleAuthorizationMessage P authorization)
            signature key.publicKey.toList

/-- `verify_service_trust_bundle_successor`, for one authorization. -/
def verifyServiceTrustBundleSuccessor
    (predecessor successor : ServiceTrustBundle)
    (authorization : ServiceTrustBundleAuthorization) : Result Unit := do
  let _ ← validateServiceTrustBundleRotation P predecessor successor
  if predecessor.storageSchema < 2 then
    failure .incompatibleFormat
      "legacy trust bundles cannot implicitly authorize signed successors"
      predecessor.id
  else if predecessor.rotationPolicy.minimumSignatures ≠ 1 then
    failure .identityMismatch
      "single authorization does not satisfy the rotation quorum"
      predecessor.id
  else verifyRotationAuthorizationBinding P predecessor successor authorization

/-- The order of signers, as the comparator of `std::sort`. -/
def authorizationBefore (a b : ServiceTrustBundleAuthorization) : Bool :=
  !signerBefore b.signerServiceId b.signerKeyId a.signerServiceId a.signerKeyId

/-- The loop of `assemble_service_trust_bundle_authorizations` over the
sorted authorizations. -/
def verifyAuthorizations (predecessor successor : ServiceTrustBundle) :
    Option ServiceTrustBundleAuthorization →
    List ServiceTrustBundleAuthorization → Result Unit
  | _, [] => .ok ()
  | previous, current :: rest =>
      if previous.any fun p => p.signerServiceId == current.signerServiceId
          && p.signerKeyId == current.signerKeyId then
        failure .invalidArgument
          "authorization set contains a duplicate signer" current.signerKeyId
      else do
        let _ ← verifyRotationAuthorizationBinding P predecessor successor current
        verifyAuthorizations predecessor successor (some current) rest

/-- Whether a list of signer services meets a rotation policy: the test
both assemblies end with. -/
def satisfiesPolicy (policy : ServiceTrustRotationPolicy)
    (services : List Bytes) : Bool :=
  !(decide (services.length < policy.minimumSignatures.toNat)
    || (policy.requireDistinctServices
      && decide (services.dedup.length < policy.minimumSignatures.toNat)))

/-- `assemble_service_trust_bundle_authorizations`. -/
def assembleServiceTrustBundleAuthorizations
    (predecessor successor : ServiceTrustBundle)
    (authorizations : List ServiceTrustBundleAuthorization) :
    Result ServiceTrustBundleAuthorizationSet := do
  let _ ← validateServiceTrustBundleRotation P predecessor successor
  if predecessor.storageSchema < 2 ∨ authorizations.isEmpty then
    failure .invalidArgument "trust-bundle authorization-set input is invalid"
  else if authorizations.length > 100000 then
    failure .resourceLimit
      "trust-bundle authorization count exceeds the supported limit"
  else
    let sorted := authorizations.mergeSort authorizationBefore
    do
    let _ ← verifyAuthorizations P predecessor successor none sorted
    if !satisfiesPolicy predecessor.rotationPolicy
        (sorted.map fun a => a.signerServiceId) then
      failure .identityMismatch
        "authorization set does not satisfy the rotation policy" predecessor.id
    else
      let set : ServiceTrustBundleAuthorizationSet :=
        { predecessorBundleId := predecessor.id
          successorBundleId := successor.id
          predecessorSequence := predecessor.sequence
          successorSequence := successor.sequence
          authorizations := sorted }
      let set := { set with
        id := serviceTrustBundleAuthorizationSetIdentity P set }
      if !validServiceTrustBundleAuthorizationSet P set then
        failure .internalError
          "generated trust-bundle authorization set is invalid"
      else .ok set

/-- `verify_service_trust_bundle_successor`, for an authorization set. -/
def verifyServiceTrustBundleSuccessorSet
    (predecessor successor : ServiceTrustBundle)
    (set : ServiceTrustBundleAuthorizationSet) : Result Unit :=
  if !validServiceTrustBundleAuthorizationSet P set then
    failure .corruptData "trust-bundle authorization-set identity is invalid"
  else do
    let assembled ← assembleServiceTrustBundleAuthorizations P predecessor
      successor set.authorizations
    if assembled.id ≠ set.id then
      failure .identityMismatch
        "trust-bundle authorization set is not canonical" set.id
    else .ok ()

end

end RbfSafe
