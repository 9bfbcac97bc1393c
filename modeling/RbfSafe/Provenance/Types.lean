/-
Provenance: statements about the hardware a key lives in, assertions of
external time, the policies both are judged by, and the bundle that
carries them.

Lists of a policy are sorted and come once; a statement, an assertion, a
policy and a bundle each carry the digest of their own document.
-/
import RbfSafe.Lib.Sorting
import RbfSafe.Transparency.Types

namespace RbfSafe

open Json
open Lib.Sorting (Tie sort sortUnique)

-- === records

/-- `HardwareAttestationScope`. -/
inductive HardwareAttestationScope where
  | artifactFetch
  | artifactPublish
  | trustRotation
  | deploymentReview
  | executionControl
  | runtimeObservation
  | transparencyLog
  | transparencyWitness
  | externalTime
deriving DecidableEq, Repr

def HardwareAttestationScope.toNat : HardwareAttestationScope → Nat
  | .artifactFetch => 0
  | .artifactPublish => 1
  | .trustRotation => 2
  | .deploymentReview => 3
  | .executionControl => 4
  | .runtimeObservation => 5
  | .transparencyLog => 6
  | .transparencyWitness => 7
  | .externalTime => 8

/-- `HardwareAttestationAdapterPin`. -/
structure HardwareAttestationAdapterPin where
  adapterId : Bytes
  adapterVersion : Bytes
  statementFormat : Bytes
deriving DecidableEq

/-- `HardwareAttestationAuthority`. -/
structure HardwareAttestationAuthority where
  serviceId : Bytes
  keyId : Bytes
deriving DecidableEq

/-- `HardwareKeyAttestationStatement`. -/
structure HardwareKeyAttestationStatement where
  storageSchema : UInt32 := 1
  sequence : UInt64 := 0
  id : Bytes := []
  parentStatementId : Bytes := []
  subjectServiceId : Bytes
  subjectKeyId : Bytes
  subjectPublicKey : Vector UInt8 32
  adapter : HardwareAttestationAdapterPin
  vendorId : Bytes
  productId : Bytes
  evidenceDigest : Bytes
  nonceDigest : Bytes
  scopes : List HardwareAttestationScope
  trustBundleId : Bytes
  trustBundleSequence : UInt64 := 0
  attesterServiceId : Bytes
  attesterKeyId : Bytes
  algorithm : ArtifactAuthenticationAlgorithm := .ed25519
  authenticationTag : Bytes := []

/-- `HardwareKeyProvenancePolicy`. -/
structure HardwareKeyProvenancePolicy where
  storageSchema : UInt32 := 1
  id : Bytes := []
  minimumStatements : UInt32 := 1
  requireDistinctAttesters : Bool := true
  maximumChainLength : UInt64 := 1000
  requiredScopes : List HardwareAttestationScope := []
  allowedAdapters : List HardwareAttestationAdapterPin := []
  allowedAuthorities : List HardwareAttestationAuthority := []
  allowedVendorIds : List Bytes := []

/-- `ExternalTimeAssertion`. -/
structure ExternalTimeAssertion where
  storageSchema : UInt32 := 1
  id : Bytes := []
  sourceSequence : UInt64 := 0
  parentAssertionId : Bytes := []
  subjectId : Bytes
  clockId : Bytes
  assertedTimeNs : UInt64 := 0
  uncertaintyNs : UInt64 := 0
  trustBundleId : Bytes
  trustBundleSequence : UInt64 := 0
  sourceServiceId : Bytes
  sourceKeyId : Bytes
  algorithm : ArtifactAuthenticationAlgorithm := .ed25519
  authenticationTag : Bytes := []

/-- `ExternalTimeSource`. -/
structure ExternalTimeSource where
  serviceId : Bytes
  keyId : Bytes
deriving DecidableEq

/-- `ExternalTimeFreshnessPolicy`. -/
structure ExternalTimeFreshnessPolicy where
  storageSchema : UInt32 := 1
  id : Bytes := []
  clockId : Bytes := []
  maximumAgeNs : UInt64 := 0
  maximumFutureSkewNs : UInt64 := 0
  maximumUncertaintyNs : UInt64 := 0
  minimumSources : UInt32 := 1
  requireDistinctServices : Bool := true
  maximumAssertions : UInt64 := 10000
  allowedSources : List ExternalTimeSource := []

/-- `ExternalTimeFreshnessStatus`. -/
inductive ExternalTimeFreshnessStatus where
  | fresh
  | incomplete
  | stale
  | future
  | inconsistent
deriving DecidableEq, Repr

def ExternalTimeFreshnessStatus.toNat : ExternalTimeFreshnessStatus → Nat
  | .fresh => 0
  | .incomplete => 1
  | .stale => 2
  | .future => 3
  | .inconsistent => 4

/-- `ExternalTimeFreshnessReport`. -/
structure ExternalTimeFreshnessReport where
  id : Bytes := []
  subjectId : Bytes
  trustBundleId : Bytes
  policyId : Bytes
  clockId : Bytes
  status : ExternalTimeFreshnessStatus := .incomplete
  evaluatedAtNs : UInt64 := 0
  intersectionLowerNs : UInt64 := 0
  intersectionUpperNs : UInt64 := 0
  authenticatedSourceCount : Nat := 0
  assertionIds : List Bytes := []

/-- `VerifiableProvenanceBundle`. -/
structure VerifiableProvenanceBundle where
  storageSchema : UInt32 := 1
  id : Bytes := []
  trustBundleId : Bytes
  trustBundleSequence : UInt64 := 0
  subjectKey : ServicePublicKey
  hardwarePolicy : HardwareKeyProvenancePolicy
  freshnessPolicy : ExternalTimeFreshnessPolicy
  hardwareStatements : List HardwareKeyAttestationStatement := []
  timeAssertions : List ExternalTimeAssertion := []

-- === keys

/-- What the adapters of a policy are sorted by. -/
def HardwareAttestationAdapterPin.sortKey (a : HardwareAttestationAdapterPin) :
    Tie Bytes (Tie Bytes Bytes) :=
  ⟨a.adapterId, a.adapterVersion, a.statementFormat⟩

/-- What the authorities of a policy are sorted by. -/
def HardwareAttestationAuthority.sortKey (a : HardwareAttestationAuthority) :
    Tie Bytes Bytes :=
  ⟨a.serviceId, a.keyId⟩

/-- What the sources of a policy are sorted by. -/
def ExternalTimeSource.sortKey (s : ExternalTimeSource) : Tie Bytes Bytes :=
  ⟨s.serviceId, s.keyId⟩

/-- What the statements of a bundle are sorted by. -/
def HardwareKeyAttestationStatement.sortKey (s : HardwareKeyAttestationStatement) :
    Tie Nat Bytes :=
  ⟨s.sequence.toNat, s.id⟩

/-- The source of an assertion. -/
def ExternalTimeAssertion.source (a : ExternalTimeAssertion) : Tie Bytes Bytes :=
  ⟨a.sourceServiceId, a.sourceKeyId⟩

/-- What the assertions of one source are sorted by. -/
def ExternalTimeAssertion.chainKey (a : ExternalTimeAssertion) : Tie Nat Bytes :=
  ⟨a.sourceSequence.toNat, a.id⟩

/-- What the assertions of a bundle are sorted by. -/
def ExternalTimeAssertion.sortKey (a : ExternalTimeAssertion) :
    Tie Bytes (Tie Bytes (Tie Nat Bytes)) :=
  ⟨a.sourceServiceId, a.sourceKeyId, a.chainKey⟩

/-- `sorted_unique`. -/
def sortedUnique {α κ : Type} [LT κ] [DecidableLT κ] (key : α → κ) :
    List α → Bool
  | previous :: current :: rest =>
      decide (key previous < key current) && sortedUnique key (current :: rest)
  | _ => true

-- === documents

/-- `adapter_json`. -/
def adapterJson (a : HardwareAttestationAdapterPin) : Json :=
  object (obj [
    ("adapter_id", string a.adapterId),
    ("adapter_version", string a.adapterVersion),
    ("statement_format", string a.statementFormat)])

/-- `authority_json`. -/
def authorityJson (a : HardwareAttestationAuthority) : Json :=
  object (obj [("key_id", string a.keyId), ("service_id", string a.serviceId)])

/-- `scope_json`. -/
def scopeJson (scopes : List HardwareAttestationScope) : Json :=
  array (scopes.map fun scope => num scope.toNat)

/-- The brace list of `hardware_statement_json`. -/
def hardwareStatementFields (s : HardwareKeyAttestationStatement) :
    List (String × Json) :=
  [("adapter", adapterJson s.adapter),
    ("algorithm", num s.algorithm.toNat),
    ("attester_key_id", string s.attesterKeyId),
    ("attester_service_id", string s.attesterServiceId),
    ("evidence_digest", string s.evidenceDigest),
    ("nonce_digest", string s.nonceDigest),
    ("parent_statement_id", string s.parentStatementId),
    ("product_id", string s.productId),
    ("scopes", scopeJson s.scopes),
    ("sequence", uint s.sequence.toNat),
    ("storage_schema", uint s.storageSchema.toNat),
    ("subject_key_id", string s.subjectKeyId),
    ("subject_public_key", string (encodeHex s.subjectPublicKey.toList)),
    ("subject_service_id", string s.subjectServiceId),
    ("trust_bundle_id", string s.trustBundleId),
    ("trust_bundle_sequence", uint s.trustBundleSequence.toNat),
    ("vendor_id", string s.vendorId)]

/-- `hardware_statement_json`. -/
def hardwareStatementJson (s : HardwareKeyAttestationStatement)
    (includeId includeTag : Bool) : Json :=
  object (withField includeTag "authentication_tag" s.authenticationTag
    (withField includeId "id" s.id (obj (hardwareStatementFields s))))

/-- The brace list of `hardware_policy_json`. -/
def hardwarePolicyFields (p : HardwareKeyProvenancePolicy) :
    List (String × Json) :=
  [("allowed_adapters", array (p.allowedAdapters.map adapterJson)),
    ("allowed_authorities", array (p.allowedAuthorities.map authorityJson)),
    ("allowed_vendor_ids", array (p.allowedVendorIds.map string)),
    ("maximum_chain_length", uint p.maximumChainLength.toNat),
    ("minimum_statements", uint p.minimumStatements.toNat),
    ("required_scopes", scopeJson p.requiredScopes),
    ("require_distinct_attesters", bool p.requireDistinctAttesters),
    ("storage_schema", uint p.storageSchema.toNat)]

/-- `hardware_policy_json`. -/
def hardwarePolicyJson (p : HardwareKeyProvenancePolicy) (includeId : Bool) :
    Json :=
  object (withField includeId "id" p.id (obj (hardwarePolicyFields p)))

/-- The brace list of `time_assertion_json`. -/
def timeAssertionFields (a : ExternalTimeAssertion) : List (String × Json) :=
  [("algorithm", num a.algorithm.toNat),
    ("asserted_time_ns", uint a.assertedTimeNs.toNat),
    ("clock_id", string a.clockId),
    ("parent_assertion_id", string a.parentAssertionId),
    ("source_key_id", string a.sourceKeyId),
    ("source_sequence", uint a.sourceSequence.toNat),
    ("source_service_id", string a.sourceServiceId),
    ("storage_schema", uint a.storageSchema.toNat),
    ("subject_id", string a.subjectId),
    ("trust_bundle_id", string a.trustBundleId),
    ("trust_bundle_sequence", uint a.trustBundleSequence.toNat),
    ("uncertainty_ns", uint a.uncertaintyNs.toNat)]

/-- `time_assertion_json`. -/
def timeAssertionJson (a : ExternalTimeAssertion) (includeId includeTag : Bool) :
    Json :=
  object (withField includeTag "authentication_tag" a.authenticationTag
    (withField includeId "id" a.id (obj (timeAssertionFields a))))

/-- `time_source_json`. -/
def timeSourceJson (s : ExternalTimeSource) : Json :=
  object (obj [("key_id", string s.keyId), ("service_id", string s.serviceId)])

/-- The brace list of `freshness_policy_json`. -/
def freshnessPolicyFields (p : ExternalTimeFreshnessPolicy) :
    List (String × Json) :=
  [("allowed_sources", array (p.allowedSources.map timeSourceJson)),
    ("clock_id", string p.clockId),
    ("maximum_age_ns", uint p.maximumAgeNs.toNat),
    ("maximum_assertions", uint p.maximumAssertions.toNat),
    ("maximum_future_skew_ns", uint p.maximumFutureSkewNs.toNat),
    ("maximum_uncertainty_ns", uint p.maximumUncertaintyNs.toNat),
    ("minimum_sources", uint p.minimumSources.toNat),
    ("require_distinct_services", bool p.requireDistinctServices),
    ("storage_schema", uint p.storageSchema.toNat)]

/-- `freshness_policy_json`. -/
def freshnessPolicyJson (p : ExternalTimeFreshnessPolicy) (includeId : Bool) :
    Json :=
  object (withField includeId "id" p.id (obj (freshnessPolicyFields p)))

/-- `freshness_report_json`. -/
def freshnessReportJson (r : ExternalTimeFreshnessReport) (includeId : Bool) :
    Json :=
  object (withField includeId "id" r.id (obj [
    ("assertion_ids", array (r.assertionIds.map string)),
    ("authenticated_source_count", uint r.authenticatedSourceCount),
    ("clock_id", string r.clockId),
    ("evaluated_at_ns", uint r.evaluatedAtNs.toNat),
    ("intersection_lower_ns", uint r.intersectionLowerNs.toNat),
    ("intersection_upper_ns", uint r.intersectionUpperNs.toNat),
    ("policy_id", string r.policyId),
    ("status", num r.status.toNat),
    ("subject_id", string r.subjectId),
    ("trust_bundle_id", string r.trustBundleId)]))

/-- The brace list of `service_public_key_json`. -/
def servicePublicKeyFields (key : ServicePublicKey) : List (String × Json) :=
  [("algorithm", num key.algorithm.toNat),
    ("allow_fetch", bool key.allowFetch),
    ("allow_publish", bool key.allowPublish),
    ("allow_rotate", bool key.allowRotate),
    ("id", string key.id),
    ("public_key", string (encodeHex key.publicKey.toList)),
    ("service_id", string key.serviceId),
    ("state", num key.state.toNat),
    ("valid_from_sequence", uint key.validFromSequence.toNat),
    ("valid_through_sequence", uint key.validThroughSequence.toNat)]

/-- `service_public_key_json`. -/
def servicePublicKeyJson (key : ServicePublicKey) : Json :=
  object (obj (servicePublicKeyFields key))

/-- The document of `verifiable_provenance_bundle_identity`. -/
def provenanceBundleIdentityJson (b : VerifiableProvenanceBundle) : Json :=
  object (obj [
    ("freshness_policy_id", string b.freshnessPolicy.id),
    ("hardware_policy_id", string b.hardwarePolicy.id),
    ("hardware_statement_ids",
      array (b.hardwareStatements.map fun s => string s.id)),
    ("storage_schema", uint b.storageSchema.toNat),
    ("subject_key", servicePublicKeyJson b.subjectKey),
    ("time_assertion_ids", array (b.timeAssertions.map fun a => string a.id)),
    ("trust_bundle_id", string b.trustBundleId),
    ("trust_bundle_sequence", uint b.trustBundleSequence.toNat)])

-- === identities

section
variable (P : Platform)

/-- `hardware_key_attestation_identity`. -/
def hardwareKeyAttestationIdentity (s : HardwareKeyAttestationStatement) : Bytes :=
  P.sha256 (ascii "rbfsafe.hardware-key-attestation.identity.v1\n"
    ++ (hardwareStatementJson s false true).dump P.toLibc false 0)

/-- `hardware_key_provenance_policy_identity`. -/
def hardwareKeyProvenancePolicyIdentity (p : HardwareKeyProvenancePolicy) :
    Bytes :=
  P.sha256 (ascii "rbfsafe.hardware-key-provenance-policy.v1\n"
    ++ (hardwarePolicyJson p false).dump P.toLibc false 0)

/-- `external_time_assertion_message`. -/
def externalTimeAssertionMessage (a : ExternalTimeAssertion) : Bytes :=
  ascii "rbfsafe.external-time-assertion.signature.v1\n"
    ++ (timeAssertionJson a false false).dump P.toLibc false 0

/-- `external_time_assertion_identity`. -/
def externalTimeAssertionIdentity (a : ExternalTimeAssertion) : Bytes :=
  P.sha256 (ascii "rbfsafe.external-time-assertion.identity.v1\n"
    ++ (timeAssertionJson a false true).dump P.toLibc false 0)

/-- `external_time_freshness_policy_identity`. -/
def externalTimeFreshnessPolicyIdentity (p : ExternalTimeFreshnessPolicy) : Bytes :=
  P.sha256 (ascii "rbfsafe.external-time-freshness-policy.v1\n"
    ++ (freshnessPolicyJson p false).dump P.toLibc false 0)

/-- `external_time_freshness_report_identity`. -/
def externalTimeFreshnessReportIdentity (r : ExternalTimeFreshnessReport) : Bytes :=
  P.sha256 (ascii "rbfsafe.external-time-freshness-report.v1\n"
    ++ (freshnessReportJson r false).dump P.toLibc false 0)

/-- `verifiable_provenance_bundle_identity`. -/
def verifiableProvenanceBundleIdentity (b : VerifiableProvenanceBundle) : Bytes :=
  P.sha256 (ascii "rbfsafe.verifiable-provenance-bundle.v1\n"
    ++ (provenanceBundleIdentityJson b).dump P.toLibc false 0)

end

-- === validity

/-- `kMaximumPolicyEntries`. -/
def kMaximumPolicyEntries : Nat := 10000

/-- `HardwareAttestationAdapterPin::valid`. -/
def HardwareAttestationAdapterPin.valid (a : HardwareAttestationAdapterPin) :
    Bool :=
  validIdentifier a.adapterId && validIdentifier a.adapterVersion
    && validIdentifier a.statementFormat

/-- `HardwareAttestationAuthority::valid`. -/
def HardwareAttestationAuthority.valid (a : HardwareAttestationAuthority) : Bool :=
  validIdentifier a.serviceId && validSha256 a.keyId

/-- `ExternalTimeSource::valid`. -/
def ExternalTimeSource.valid (s : ExternalTimeSource) : Bool :=
  validIdentifier s.serviceId && validSha256 s.keyId

/-- `sorted_unique_scopes`. -/
def sortedUniqueScopes (scopes : List HardwareAttestationScope) : Bool :=
  !scopes.isEmpty && sortedUnique HardwareAttestationScope.toNat scopes

section
variable (P : Platform)

/-- `HardwareKeyAttestationStatement::valid`. -/
def HardwareKeyAttestationStatement.valid (s : HardwareKeyAttestationStatement) :
    Bool :=
  s.storageSchema == 1 && decide (s.sequence > 0) && validSha256 s.id
    && (if s.sequence = 1 then s.parentStatementId.isEmpty
      else validSha256 s.parentStatementId)
    && validIdentifier s.subjectServiceId && validSha256 s.subjectKeyId
    && s.adapter.valid && validIdentifier s.vendorId
    && validIdentifier s.productId && validSha256 s.evidenceDigest
    && validSha256 s.nonceDigest && sortedUniqueScopes s.scopes
    && validSha256 s.trustBundleId && decide (s.trustBundleSequence > 0)
    && validIdentifier s.attesterServiceId && validSha256 s.attesterKeyId
    && s.algorithm == .ed25519 && validAuthenticationTag s.authenticationTag
    && s.id == hardwareKeyAttestationIdentity P s

/-- `HardwareKeyProvenancePolicy::valid`. -/
def HardwareKeyProvenancePolicy.valid (p : HardwareKeyProvenancePolicy) : Bool :=
  p.storageSchema == 1 && validSha256 p.id && p.minimumStatements != 0
    && p.maximumChainLength != 0 && decide (p.maximumChainLength ≤ 1000000)
    && decide (p.minimumStatements.toNat ≤ p.maximumChainLength.toNat)
    && !p.requiredScopes.isEmpty && !p.allowedAdapters.isEmpty
    && !p.allowedAuthorities.isEmpty && !p.allowedVendorIds.isEmpty
    && decide (p.requiredScopes.length ≤ kMaximumPolicyEntries)
    && decide (p.allowedAdapters.length ≤ kMaximumPolicyEntries)
    && decide (p.allowedAuthorities.length ≤ kMaximumPolicyEntries)
    && decide (p.allowedVendorIds.length ≤ kMaximumPolicyEntries)
    && sortedUniqueScopes p.requiredScopes
    && sortedUnique HardwareAttestationAdapterPin.sortKey p.allowedAdapters
    && p.allowedAdapters.all (fun value => value.valid)
    && sortedUnique HardwareAttestationAuthority.sortKey p.allowedAuthorities
    && p.allowedAuthorities.all (fun value => value.valid)
    && sortedUnique (fun vendor => vendor) p.allowedVendorIds
    && p.allowedVendorIds.all validIdentifier
    && p.id == hardwareKeyProvenancePolicyIdentity P p

/-- `HardwareKeyProvenancePolicy::create`. -/
def HardwareKeyProvenancePolicy.create (minimumStatements : UInt32)
    (requireDistinctAttesters : Bool) (maximumChainLength : UInt64)
    (requiredScopes : List HardwareAttestationScope)
    (allowedAdapters : List HardwareAttestationAdapterPin)
    (allowedAuthorities : List HardwareAttestationAuthority)
    (allowedVendorIds : List Bytes) : Result HardwareKeyProvenancePolicy :=
  let policy : HardwareKeyProvenancePolicy :=
    { minimumStatements, requireDistinctAttesters, maximumChainLength
      requiredScopes := sortUnique HardwareAttestationScope.toNat requiredScopes
      allowedAdapters :=
        sortUnique HardwareAttestationAdapterPin.sortKey allowedAdapters
      allowedAuthorities :=
        sortUnique HardwareAttestationAuthority.sortKey allowedAuthorities
      allowedVendorIds := sortUnique (fun vendor => vendor) allowedVendorIds }
  let policy :=
    { policy with id := hardwareKeyProvenancePolicyIdentity P policy }
  if !policy.valid P then
    failure .invalidArgument "hardware-key provenance policy is invalid"
  else .ok policy

/-- `ExternalTimeAssertion::valid`. -/
def ExternalTimeAssertion.valid (a : ExternalTimeAssertion) : Bool :=
  a.storageSchema == 1 && validSha256 a.id && decide (a.sourceSequence > 0)
    && (if a.sourceSequence = 1 then a.parentAssertionId.isEmpty
      else validSha256 a.parentAssertionId)
    && validSha256 a.subjectId && validIdentifier a.clockId
    && validSha256 a.trustBundleId && decide (a.trustBundleSequence > 0)
    && validIdentifier a.sourceServiceId && validSha256 a.sourceKeyId
    && a.algorithm == .ed25519 && validAuthenticationTag a.authenticationTag
    && a.id == externalTimeAssertionIdentity P a

/-- `ExternalTimeFreshnessPolicy::valid`. -/
def ExternalTimeFreshnessPolicy.valid (p : ExternalTimeFreshnessPolicy) : Bool :=
  p.storageSchema == 1 && validSha256 p.id && validIdentifier p.clockId
    && p.minimumSources != 0 && p.maximumAssertions != 0
    && decide (p.maximumAssertions ≤ 1000000) && !p.allowedSources.isEmpty
    && decide (p.allowedSources.length ≤ kMaximumPolicyEntries)
    && decide (p.minimumSources.toNat ≤ p.allowedSources.length)
    && sortedUnique ExternalTimeSource.sortKey p.allowedSources
    && p.allowedSources.all (fun source => source.valid)
    && (!p.requireDistinctServices
      || decide (p.minimumSources.toNat
        ≤ (p.allowedSources.map fun source => source.serviceId).dedup.length))
    && p.id == externalTimeFreshnessPolicyIdentity P p

/-- `ExternalTimeFreshnessPolicy::create`. -/
def ExternalTimeFreshnessPolicy.create (clockId : Bytes)
    (maximumAgeNs maximumFutureSkewNs maximumUncertaintyNs : UInt64)
    (minimumSources : UInt32) (requireDistinctServices : Bool)
    (maximumAssertions : UInt64) (allowedSources : List ExternalTimeSource) :
    Result ExternalTimeFreshnessPolicy :=
  let policy : ExternalTimeFreshnessPolicy :=
    { clockId, maximumAgeNs, maximumFutureSkewNs, maximumUncertaintyNs
      minimumSources, requireDistinctServices, maximumAssertions
      allowedSources := sortUnique ExternalTimeSource.sortKey allowedSources }
  let policy :=
    { policy with id := externalTimeFreshnessPolicyIdentity P policy }
  if !policy.valid P then
    failure .invalidArgument "external time freshness policy is invalid"
  else .ok policy

/-- `ExternalTimeFreshnessReport::valid`. -/
def ExternalTimeFreshnessReport.valid (r : ExternalTimeFreshnessReport) : Bool :=
  validSha256 r.id && validSha256 r.subjectId && validSha256 r.trustBundleId
    && validSha256 r.policyId && validIdentifier r.clockId
    && sortedUnique (fun id => id) r.assertionIds
    && r.assertionIds.all validSha256
    && (if r.status = .inconsistent then
        decide (r.intersectionLowerNs > r.intersectionUpperNs)
      else decide (r.intersectionLowerNs ≤ r.intersectionUpperNs))
    && r.id == externalTimeFreshnessReportIdentity P r

/-- `VerifiableProvenanceBundle::valid`. -/
def VerifiableProvenanceBundle.valid (b : VerifiableProvenanceBundle) : Bool :=
  b.storageSchema == 1 && validSha256 b.id && validSha256 b.trustBundleId
    && b.trustBundleSequence != 0 && validServicePublicKey P b.subjectKey
    && b.hardwarePolicy.valid P && b.freshnessPolicy.valid P
    && decide (b.hardwareStatements.length
      ≤ b.hardwarePolicy.maximumChainLength.toNat)
    && decide (b.timeAssertions.length
      ≤ b.freshnessPolicy.maximumAssertions.toNat)
    && b.hardwareStatements.all (fun statement =>
      statement.valid P && statement.trustBundleId == b.trustBundleId
        && statement.trustBundleSequence == b.trustBundleSequence)
    && b.timeAssertions.all (fun assertion =>
      assertion.valid P && assertion.trustBundleId == b.trustBundleId
        && assertion.trustBundleSequence == b.trustBundleSequence
        && assertion.subjectId == b.subjectKey.id)
    && b.id == verifiableProvenanceBundleIdentity P b

/-- `VerifiableProvenanceBundle::create`. -/
def VerifiableProvenanceBundle.create (subjectKey : ServicePublicKey)
    (hardwarePolicy : HardwareKeyProvenancePolicy)
    (freshnessPolicy : ExternalTimeFreshnessPolicy)
    (hardwareStatements : List HardwareKeyAttestationStatement)
    (timeAssertions : List ExternalTimeAssertion)
    (trustBundle : ServiceTrustBundle) : Result VerifiableProvenanceBundle :=
  if !validServicePublicKey P subjectKey || !hardwarePolicy.valid P
      || !freshnessPolicy.valid P || !trustBundle.valid P then
    failure .invalidArgument "verifiable provenance bundle input is invalid"
  else
    let bundle : VerifiableProvenanceBundle :=
      { trustBundleId := trustBundle.id
        trustBundleSequence := trustBundle.sequence
        subjectKey, hardwarePolicy, freshnessPolicy
        hardwareStatements :=
          sort HardwareKeyAttestationStatement.sortKey hardwareStatements
        timeAssertions := sort ExternalTimeAssertion.sortKey timeAssertions }
    let bundle := { bundle with id := verifiableProvenanceBundleIdentity P bundle }
    if !bundle.valid P then
      failure .invalidArgument
        "verifiable provenance bundle is not structurally valid"
    else .ok bundle

end

end RbfSafe
