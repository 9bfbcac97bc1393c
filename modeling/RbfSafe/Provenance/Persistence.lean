/-
The file of a provenance bundle.

The file spells the bundle out in full, with a checksum of its payload.
Saving stages the file, loads it back under limits taken from the bundle
itself, and publishes it if it is the bundle again. Only what the code
decides is modelled: a file operation itself succeeds.

A decoder reads all the fields of a part before it looks at any of them,
and answers one error for all that may be missing; so the fields of a
part are a function of their own.
-/
import RbfSafe.Core.Files
import RbfSafe.Provenance.Types

namespace RbfSafe

open Json

namespace ProvenanceFile

/-- `kMaximumStorageStringBytes`. -/
def kMaximumStorageStringBytes : Nat := 4096

/-- `VerifiableProvenanceBundleLoadOptions`, less the cancellation. -/
structure VerifiableProvenanceBundleLoadOptions where
  maximumStatements : Nat := 1000
  maximumTimeAssertions : Nat := 10000
  maximumPolicyEntries : Nat := 10000
  maximumPayloadBytes : Nat := 16777216

-- === documents

/-- The brace list of `provenance_bundle_payload_json`. -/
def payloadFields (b : VerifiableProvenanceBundle) : List (String × Json) :=
  [("freshness_policy", freshnessPolicyJson b.freshnessPolicy true),
    ("hardware_policy", hardwarePolicyJson b.hardwarePolicy true),
    ("hardware_statements",
      array (b.hardwareStatements.map fun s => hardwareStatementJson s true true)),
    ("id", string b.id),
    ("storage_schema", uint b.storageSchema.toNat),
    ("subject_key", servicePublicKeyJson b.subjectKey),
    ("time_assertions",
      array (b.timeAssertions.map fun a => timeAssertionJson a true true)),
    ("trust_bundle_id", string b.trustBundleId),
    ("trust_bundle_sequence", uint b.trustBundleSequence.toNat)]

/-- `provenance_bundle_payload_json`. -/
def provenanceBundlePayloadJson (b : VerifiableProvenanceBundle) : Json :=
  object (obj (payloadFields b))

/-- The brace list of `provenance_bundle_document`. -/
def documentFields (P : Platform) (b : VerifiableProvenanceBundle) :
    List (String × Json) :=
  [("checksum", string
      (P.sha256 ((provenanceBundlePayloadJson b).dump P.toLibc false 0))),
    ("format", string (ascii "rbfsafe-verifiable-provenance-bundle")),
    ("library_version", string (ascii kVersion)),
    ("payload", provenanceBundlePayloadJson b),
    ("schema", num 1)]

/-- `provenance_bundle_document`. -/
def provenanceBundleDocument (P : Platform) (b : VerifiableProvenanceBundle) :
    Json :=
  object (obj (documentFields P b))

/-- What is written to the file of a bundle. -/
def fileText (P : Platform) (b : VerifiableProvenanceBundle) : Bytes :=
  (provenanceBundleDocument P b).dump P.toLibc true 0 ++ ascii "\n"

-- === fields

/-- The texts of this unit's readers. -/
def texts : FieldTexts where
  notAnObject := "provenance value is not an object"
  stringField := "provenance string field is invalid"
  numberField := "provenance enum field is invalid"
  boolField := "provenance Boolean field is invalid"
  decimalField := "provenance decimal field is invalid"

/-- `provenance_string_field`. -/
def provenanceStringField (document : Json) (key : String)
    (allowEmpty : Bool := false) (maximum : Nat := kMaximumStorageStringBytes) :
    Result Bytes :=
  readStringField texts maximum document key allowEmpty

/-- `provenance_decimal_field`. -/
def provenanceDecimalField (document : Json) (key : String) : Result UInt64 :=
  readDecimalField texts 32 document key

/-- `provenance_enum_field`. -/
def provenanceEnumField (document : Json) (key : String) (maximum : Nat) :
    Result Nat := do
  let value ← readNumberField texts document key
  if !integralUpTo value maximum then
    failure .corruptData "provenance enum field is invalid" (ascii key)
  else .ok value.num.toNat

/-- `provenance_bool_field`. -/
def provenanceBoolField (document : Json) (key : String) : Result Bool :=
  readBoolField texts document key

/-- `provenance_array_field`. -/
def provenanceArrayField (document : Json) (key : String) (maximum : Nat) :
    Result (List Json) :=
  match document with
  | object _ =>
      match document.find (ascii key) with
      | some (array items) =>
          if items.length > maximum then
            failure .resourceLimit
              "provenance array exceeds configured entry limit" (ascii key)
          else .ok items
      | _ =>
          failure .corruptData "provenance array field is invalid" (ascii key)
  | _ => failure .corruptData "provenance value is not an object"

/-- The loops that decode the items of an array one by one. -/
def decodeAll {α : Type} (decode : Json → Result α) : List Json → Result (List α)
  | [] => .ok []
  | item :: rest => do
      let value ← decode item
      let values ← decodeAll decode rest
      .ok (value :: values)

/-- The cast of an enumeration from its number. -/
def scopeFromNat : Nat → HardwareAttestationScope
  | 0 => .artifactFetch
  | 1 => .artifactPublish
  | 2 => .trustRotation
  | 3 => .deploymentReview
  | 4 => .executionControl
  | 5 => .runtimeObservation
  | 6 => .transparencyLog
  | 7 => .transparencyWitness
  | _ => .externalTime

/-- The cast of an enumeration from its number. -/
def keyStateFromNat : Nat → ServiceKeyState
  | 0 => .pending
  | 1 => .active
  | 2 => .retired
  | _ => .revoked

/-- The bytes of a key: `std::memcpy` of what `decode_hex` returns. -/
def keyBytes (bytes : Bytes) : Vector UInt8 32 :=
  Vector.ofFn fun k => bytes.getD k 0

-- === decoding

/-- `decode_provenance_adapter`. -/
def decodeProvenanceAdapter (document : Json) :
    Result HardwareAttestationAdapterPin :=
  match (do
    let id ← provenanceStringField document "adapter_id"
    let version ← provenanceStringField document "adapter_version"
    let format ← provenanceStringField document "statement_format"
    Except.ok (HardwareAttestationAdapterPin.mk id version format)) with
  | .error _ =>
      failure .corruptData "hardware attestation adapter pin is incomplete"
  | .ok result =>
      if !result.valid then
        failure .corruptData "hardware attestation adapter pin is invalid"
      else .ok result

/-- `decode_provenance_authority`. -/
def decodeProvenanceAuthority (document : Json) :
    Result HardwareAttestationAuthority :=
  match (do
    let service ← provenanceStringField document "service_id"
    let key ← provenanceStringField document "key_id"
    Except.ok (HardwareAttestationAuthority.mk service key)) with
  | .error _ =>
      failure .corruptData "hardware attestation authority is incomplete"
  | .ok result =>
      if !result.valid then
        failure .corruptData "hardware attestation authority is invalid"
      else .ok result

/-- An item of `decode_provenance_scopes`. -/
def decodeScope : Json → Result HardwareAttestationScope
  | number value =>
      if integralUpTo value.toRat HardwareAttestationScope.externalTime.toNat then
        .ok (scopeFromNat value.toRat.num.toNat)
      else failure .corruptData "hardware attestation scope is invalid"
  | _ => failure .corruptData "hardware attestation scope is invalid"

/-- `decode_provenance_scopes`. -/
def decodeProvenanceScopes (document : Json) (key : String) (maximum : Nat) :
    Result (List HardwareAttestationScope) := do
  let items ← provenanceArrayField document key maximum
  decodeAll decodeScope items

/-- The fields of a key, if all are there; the key itself is still in
hexadecimal. -/
def serviceKeyHeader (document : Json) : Result (ServicePublicKey × Bytes) := do
  let id ← provenanceStringField document "id"
  let service ← provenanceStringField document "service_id"
  let algorithm ← provenanceEnumField document "algorithm"
    ArtifactAuthenticationAlgorithm.ed25519.toNat
  let publicText ← provenanceStringField document "public_key"
  let validFrom ← provenanceDecimalField document "valid_from_sequence"
  let validThrough ← provenanceDecimalField document "valid_through_sequence"
  let state ← provenanceEnumField document "state" ServiceKeyState.revoked.toNat
  let allowFetch ← provenanceBoolField document "allow_fetch"
  let allowPublish ← provenanceBoolField document "allow_publish"
  let allowRotate ← provenanceBoolField document "allow_rotate"
  .ok ({
    id := id
    serviceId := service
    algorithm := .fromNat algorithm
    publicKey := Vector.replicate 32 0
    validFromSequence := validFrom
    validThroughSequence := validThrough
    state := keyStateFromNat state
    allowFetch := allowFetch
    allowPublish := allowPublish
    allowRotate := allowRotate }, publicText)

/-- The adapter of a statement. -/
def statementAdapter (document : Json) : Result HardwareAttestationAdapterPin :=
  match document.find (ascii "adapter") with
  | none => failure .corruptData "hardware attestation adapter is missing"
  | some value => decodeProvenanceAdapter value

/-- The fields of a statement, if all are there; the subject's key is still
in hexadecimal. -/
def statementHeader (document : Json) (maximumScopes : Nat) :
    Result (HardwareKeyAttestationStatement × Bytes) := do
  let schema ← provenanceDecimalField document "storage_schema"
  let sequence ← provenanceDecimalField document "sequence"
  let id ← provenanceStringField document "id"
  let parent ← provenanceStringField document "parent_statement_id" true
  let subjectService ← provenanceStringField document "subject_service_id"
  let subjectKey ← provenanceStringField document "subject_key_id"
  let subjectPublic ← provenanceStringField document "subject_public_key"
  let adapter ← statementAdapter document
  let vendor ← provenanceStringField document "vendor_id"
  let product ← provenanceStringField document "product_id"
  let evidence ← provenanceStringField document "evidence_digest"
  let nonce ← provenanceStringField document "nonce_digest"
  let scopes ← decodeProvenanceScopes document "scopes" maximumScopes
  let trust ← provenanceStringField document "trust_bundle_id"
  let trustSequence ← provenanceDecimalField document "trust_bundle_sequence"
  let attesterService ← provenanceStringField document "attester_service_id"
  let attesterKey ← provenanceStringField document "attester_key_id"
  let algorithm ← provenanceEnumField document "algorithm"
    ArtifactAuthenticationAlgorithm.ed25519.toNat
  let tag ← provenanceStringField document "authentication_tag"
  .ok ({
    storageSchema := .ofNat schema.toNat
    sequence := sequence
    id := id
    parentStatementId := parent
    subjectServiceId := subjectService
    subjectKeyId := subjectKey
    subjectPublicKey := Vector.replicate 32 0
    adapter := adapter
    vendorId := vendor
    productId := product
    evidenceDigest := evidence
    nonceDigest := nonce
    scopes := scopes
    trustBundleId := trust
    trustBundleSequence := trustSequence
    attesterServiceId := attesterService
    attesterKeyId := attesterKey
    algorithm := .fromNat algorithm
    authenticationTag := tag }, subjectPublic)

/-- The fields of an assertion, if all are there. -/
def timeAssertionHeader (document : Json) : Result ExternalTimeAssertion := do
  let schema ← provenanceDecimalField document "storage_schema"
  let id ← provenanceStringField document "id"
  let sequence ← provenanceDecimalField document "source_sequence"
  let parent ← provenanceStringField document "parent_assertion_id" true
  let subject ← provenanceStringField document "subject_id"
  let clock ← provenanceStringField document "clock_id"
  let asserted ← provenanceDecimalField document "asserted_time_ns"
  let uncertainty ← provenanceDecimalField document "uncertainty_ns"
  let trust ← provenanceStringField document "trust_bundle_id"
  let trustSequence ← provenanceDecimalField document "trust_bundle_sequence"
  let service ← provenanceStringField document "source_service_id"
  let key ← provenanceStringField document "source_key_id"
  let algorithm ← provenanceEnumField document "algorithm"
    ArtifactAuthenticationAlgorithm.ed25519.toNat
  let tag ← provenanceStringField document "authentication_tag"
  .ok {
    storageSchema := .ofNat schema.toNat
    id := id
    sourceSequence := sequence
    parentAssertionId := parent
    subjectId := subject
    clockId := clock
    assertedTimeNs := asserted
    uncertaintyNs := uncertainty
    trustBundleId := trust
    trustBundleSequence := trustSequence
    sourceServiceId := service
    sourceKeyId := key
    algorithm := .fromNat algorithm
    authenticationTag := tag }

/-- `decode_provenance_time_source`. -/
def decodeProvenanceTimeSource (document : Json) : Result ExternalTimeSource :=
  match (do
    let service ← provenanceStringField document "service_id"
    let key ← provenanceStringField document "key_id"
    Except.ok (ExternalTimeSource.mk service key)) with
  | .error _ => failure .corruptData "external time source is incomplete"
  | .ok result =>
      if !result.valid then
        failure .corruptData "external time source is invalid"
      else .ok result

/-- An item of the vendor loop. -/
def decodeVendor : Json → Result Bytes
  | string value =>
      if value.isEmpty ∨ value.length > kMaximumStorageStringBytes then
        failure .corruptData "hardware-key provenance vendor is invalid"
      else .ok value
  | _ => failure .corruptData "hardware-key provenance vendor is invalid"

/-- The scalar fields of a hardware policy. -/
structure HardwarePolicyHeader where
  schema : UInt64
  id : Bytes
  minimum : UInt64
  distinct : Bool
  maximum : UInt64

/-- The scalar fields of a hardware policy, if all are there. -/
def hardwarePolicyHeader (document : Json) : Result HardwarePolicyHeader := do
  let schema ← provenanceDecimalField document "storage_schema"
  let id ← provenanceStringField document "id"
  let minimum ← provenanceDecimalField document "minimum_statements"
  let distinct ← provenanceBoolField document "require_distinct_attesters"
  let maximum ← provenanceDecimalField document "maximum_chain_length"
  if minimum.toNat ≥ 2 ^ 32 then
    failure .corruptData "hardware-key provenance policy is incomplete"
  else .ok ⟨schema, id, minimum, distinct, maximum⟩

/-- The scalar fields of a freshness policy. -/
structure FreshnessPolicyHeader where
  schema : UInt64
  id : Bytes
  clock : Bytes
  maximumAge : UInt64
  future : UInt64
  uncertainty : UInt64
  minimum : UInt64
  distinct : Bool
  maximumAssertions : UInt64

/-- The scalar fields of a freshness policy, if all are there. -/
def freshnessPolicyHeader (document : Json) : Result FreshnessPolicyHeader := do
  let schema ← provenanceDecimalField document "storage_schema"
  let id ← provenanceStringField document "id"
  let clock ← provenanceStringField document "clock_id"
  let maximumAge ← provenanceDecimalField document "maximum_age_ns"
  let future ← provenanceDecimalField document "maximum_future_skew_ns"
  let uncertainty ← provenanceDecimalField document "maximum_uncertainty_ns"
  let minimum ← provenanceDecimalField document "minimum_sources"
  let distinct ← provenanceBoolField document "require_distinct_services"
  let maximumAssertions ← provenanceDecimalField document "maximum_assertions"
  if minimum.toNat ≥ 2 ^ 32 then
    failure .corruptData "external time freshness policy is incomplete"
  else .ok ⟨schema, id, clock, maximumAge, future, uncertainty, minimum,
    distinct, maximumAssertions⟩

section
variable (P : Platform)

/-- `decode_provenance_service_key`. -/
def decodeProvenanceServiceKey (document : Json) : Result ServicePublicKey :=
  match serviceKeyHeader document with
  | .error _ =>
      failure .corruptData "provenance subject service key is incomplete"
  | .ok (header, publicText) => do
      let publicKey ← decodeHex publicText kEd25519PublicKeyBytes
      let result := { header with publicKey := keyBytes publicKey }
      if !validServicePublicKey P result then
        failure .corruptData "provenance subject service key is invalid" result.id
      else .ok result

/-- `decode_provenance_statement`. -/
def decodeProvenanceStatement (maximumScopes : Nat) (document : Json) :
    Result HardwareKeyAttestationStatement :=
  match statementHeader document maximumScopes with
  | .error _ =>
      failure .corruptData "hardware-key attestation statement is incomplete"
  | .ok (header, subjectPublic) => do
      let decodedPublic ← decodeHex subjectPublic kEd25519PublicKeyBytes
      let result := { header with subjectPublicKey := keyBytes decodedPublic }
      if !result.valid P then
        failure .corruptData
          "hardware-key attestation statement identity is invalid" result.id
      else .ok result

/-- `decode_provenance_hardware_policy`. -/
def decodeProvenanceHardwarePolicy (maximumEntries : Nat) (document : Json) :
    Result HardwareKeyProvenancePolicy := do
  let scopes ← decodeProvenanceScopes document "required_scopes" maximumEntries
  let adaptersJson ←
    provenanceArrayField document "allowed_adapters" maximumEntries
  let authoritiesJson ←
    provenanceArrayField document "allowed_authorities" maximumEntries
  let vendorsJson ←
    provenanceArrayField document "allowed_vendor_ids" maximumEntries
  match hardwarePolicyHeader document with
  | .error _ =>
      failure .corruptData "hardware-key provenance policy is incomplete"
  | .ok header => do
      let adapters ← decodeAll decodeProvenanceAdapter adaptersJson
      let authorities ← decodeAll decodeProvenanceAuthority authoritiesJson
      let vendors ← decodeAll decodeVendor vendorsJson
      match HardwareKeyProvenancePolicy.create P (.ofNat header.minimum.toNat)
          header.distinct header.maximum scopes adapters authorities vendors with
      | .error _ =>
          failure .corruptData "hardware-key provenance policy is invalid"
      | .ok policy =>
          if header.schema.toNat ≠ policy.storageSchema.toNat
              ∨ header.id ≠ policy.id then
            failure .corruptData
              "hardware-key provenance policy identity mismatch" header.id
          else .ok policy

/-- `decode_provenance_freshness_policy`. -/
def decodeProvenanceFreshnessPolicy (maximumEntries : Nat) (document : Json) :
    Result ExternalTimeFreshnessPolicy := do
  let sourcesJson ←
    provenanceArrayField document "allowed_sources" maximumEntries
  match freshnessPolicyHeader document with
  | .error _ =>
      failure .corruptData "external time freshness policy is incomplete"
  | .ok header => do
      let sources ← decodeAll decodeProvenanceTimeSource sourcesJson
      match ExternalTimeFreshnessPolicy.create P header.clock header.maximumAge
          header.future header.uncertainty (.ofNat header.minimum.toNat)
          header.distinct header.maximumAssertions sources with
      | .error _ =>
          failure .corruptData "external time freshness policy is invalid"
      | .ok policy =>
          if header.schema.toNat ≠ policy.storageSchema.toNat
              ∨ header.id ≠ policy.id then
            failure .corruptData
              "external time freshness policy identity mismatch" header.id
          else .ok policy

/-- `decode_provenance_time_assertion`. -/
def decodeProvenanceTimeAssertion (document : Json) :
    Result ExternalTimeAssertion :=
  match timeAssertionHeader document with
  | .error _ => failure .corruptData "external time assertion is incomplete"
  | .ok result =>
      if !result.valid P then
        failure .corruptData "external time assertion identity is invalid"
          result.id
      else .ok result

-- === loading

/-- `read_bounded_provenance_json`. No file is longer than a stream can
count, so the limits of `std::size_t` and `std::streamsize` refuse none. -/
def readBoundedProvenanceJson (path content : Bytes)
    (options : VerifiableProvenanceBundleLoadOptions) : Result Json :=
  if content.length > options.maximumPayloadBytes then
    failure .resourceLimit "provenance bundle exceeds configured byte limit" path
  else parse P.toLibc content

/-- What a document holds around its payload. -/
structure DocumentHeader where
  format : Bytes
  schema : Nat
  checksum : Bytes
  payload : Json

/-- The fields of a document, if all are there. -/
def documentHeader (document : Json) : Result DocumentHeader := do
  let format ← provenanceStringField document "format"
  let schema ← provenanceEnumField document "schema" (2 ^ 32 - 1)
  let checksum ← provenanceStringField document "checksum"
  match document.find (ascii "payload") with
  | some (object fields) => .ok ⟨format, schema, checksum, object fields⟩
  | _ => failure .corruptData "provenance bundle document is incomplete"

/-- What a payload holds besides its two lists. -/
structure PayloadHeader where
  storage : UInt64
  id : Bytes
  trust : Bytes
  trustSequence : UInt64
  subject : Json
  hardwarePolicy : Json
  freshnessPolicy : Json

/-- The fields of a payload, if all are there. -/
def payloadHeader (payload : Json) : Result PayloadHeader := do
  let storage ← provenanceDecimalField payload "storage_schema"
  let id ← provenanceStringField payload "id"
  let trust ← provenanceStringField payload "trust_bundle_id"
  let trustSequence ← provenanceDecimalField payload "trust_bundle_sequence"
  match payload.find (ascii "subject_key"), payload.find (ascii "hardware_policy"),
      payload.find (ascii "freshness_policy") with
  | some subject, some hardwarePolicy, some freshnessPolicy =>
      .ok ⟨storage, id, trust, trustSequence, subject, hardwarePolicy,
        freshnessPolicy⟩
  | _, _, _ =>
      failure .corruptData "provenance bundle payload is incomplete"

/-- The part of `load_verifiable_provenance_bundle` after the checksum. -/
def decodePayload (options : VerifiableProvenanceBundleLoadOptions)
    (payload : Json) : Result VerifiableProvenanceBundle := do
  let statementsJson ← provenanceArrayField payload "hardware_statements"
    options.maximumStatements
  let assertionsJson ← provenanceArrayField payload "time_assertions"
    options.maximumTimeAssertions
  match payloadHeader payload with
  | .error _ => failure .corruptData "provenance bundle payload is incomplete"
  | .ok header => do
      let subject ← decodeProvenanceServiceKey P header.subject
      let hardwarePolicy ← decodeProvenanceHardwarePolicy P
        options.maximumPolicyEntries header.hardwarePolicy
      let freshnessPolicy ← decodeProvenanceFreshnessPolicy P
        options.maximumPolicyEntries header.freshnessPolicy
      let statements ← decodeAll
        (decodeProvenanceStatement P options.maximumPolicyEntries) statementsJson
      let assertions ← decodeAll (decodeProvenanceTimeAssertion P) assertionsJson
      if header.storage ≠ 1 then
        failure .incompatibleFormat
          "provenance payload storage schema is unsupported"
      else
        let bundle : VerifiableProvenanceBundle := {
          storageSchema := .ofNat header.storage.toNat
          id := header.id
          trustBundleId := header.trust
          trustBundleSequence := header.trustSequence
          subjectKey := subject
          hardwarePolicy := hardwarePolicy
          freshnessPolicy := freshnessPolicy
          hardwareStatements := statements
          timeAssertions := assertions }
        if !bundle.valid P then
          failure .corruptData
            "provenance bundle identity or structure is invalid" bundle.id
        else .ok bundle

/-- `load_verifiable_provenance_bundle`, of a file with the contents. -/
def loadVerifiableProvenanceBundle (path content : Bytes)
    (options : VerifiableProvenanceBundleLoadOptions) :
    Result VerifiableProvenanceBundle :=
  if path.isEmpty ∨ options.maximumStatements = 0
      ∨ options.maximumTimeAssertions = 0 ∨ options.maximumPolicyEntries = 0
      ∨ options.maximumPayloadBytes = 0 then
    failure .invalidArgument
      "provenance bundle path or load options are invalid"
  else do
    let document ← readBoundedProvenanceJson P path content options
    match documentHeader document with
    | .error _ =>
        failure .corruptData "provenance bundle document is incomplete"
    | .ok header =>
        if header.format ≠ ascii "rbfsafe-verifiable-provenance-bundle" then
          failure .incompatibleFormat
            "provenance bundle format is not recognized" header.format
        else if header.schema ≠ 1 then
          failure .incompatibleFormat "provenance bundle schema is not supported"
        else if validSha256 header.checksum = false
            ∨ header.checksum
              ≠ P.sha256 (header.payload.dump P.toLibc false 0) then
          failure .corruptData "provenance bundle checksum mismatch" path
        else decodePayload P options header.payload

-- === saving

/-- The limit `save_verifiable_provenance_bundle` takes for the entries of a
list. -/
def policyEntries (b : VerifiableProvenanceBundle) : Nat :=
  max 1 (max b.hardwarePolicy.requiredScopes.length
    (max b.hardwarePolicy.allowedAdapters.length
      (max b.hardwarePolicy.allowedAuthorities.length
        (max b.hardwarePolicy.allowedVendorIds.length
          b.freshnessPolicy.allowedSources.length))))

/-- The limits under which a staged file is loaded back. -/
def verifyOptions (b : VerifiableProvenanceBundle) (document : Bytes) :
    VerifiableProvenanceBundleLoadOptions where
  maximumStatements := max 1 b.hardwareStatements.length
  maximumTimeAssertions := max 1 b.timeAssertions.length
  maximumPolicyEntries := policyEntries b
  maximumPayloadBytes := max document.length 1

/-- `save_verifiable_provenance_bundle`: what is in the file afterwards. The
destination is given by whether it exists, and the staged file by its
name. -/
def saveVerifiableProvenanceBundle (bundle : VerifiableProvenanceBundle)
    (path temporary : Bytes) (destinationExists overwrite : Bool) :
    Result Bytes :=
  if !bundle.valid P || path.isEmpty then
    failure .invalidArgument
      "verifiable provenance bundle or destination is invalid"
  else if destinationExists && !overwrite then
    failure .ioError "provenance bundle destination already exists" path
  else do
    let document := fileText P bundle
    let verified ← loadVerifiableProvenanceBundle P temporary document
      (verifyOptions bundle document)
    if verified.id ≠ bundle.id then
      failure .corruptData "staged provenance bundle identity changed"
    else .ok document

end

end ProvenanceFile

end RbfSafe
