/-
The files of a ledger: a manifest, and one file for each record.

A directory is the contents of its manifest and the files of its
`records/` in the order the file system lists them, which the source
does not rely on: `open` sorts what it has decoded. Leftover `.tmp-`
siblings are passed over by the source and left out here.
-/
import RbfSafe.Core.Files
import RbfSafe.Ledger.Audit

namespace RbfSafe

open Json

/-- The directory of a ledger. -/
structure LedgerDirectory where
  manifest : Bytes
  records : List (Bytes × Bytes)

/-- What the file system answers during a call: whether the writer lock is
free and whether a file can be published. -/
structure FileSystem where
  lockFree : Bool
  writable : Bool

/-- `kSchema`. -/
def kLedgerSchema : Nat := 1

-- === documents

/-- `authorization_json`. -/
def authorizationRecordJson (a : ExecutionCommandAuthorization) : Json :=
  object (obj [
    ("command_digest", string a.commandDigest),
    ("command_index", uint a.commandIndex.toNat),
    ("command_sequence_id", string a.commandSequenceId),
    ("dispatch_monotonic_ns", uint a.dispatchMonotonicNs.toNat),
    ("evidence", num a.evidence.toNat),
    ("id", string a.id),
    ("session_id", string a.sessionId),
    ("valid_from_monotonic_ns", uint a.validFromMonotonicNs.toNat),
    ("valid_through_monotonic_ns", uint a.validThroughMonotonicNs.toNat)])

/-- `completion_json`. -/
def completionJson (c : ExecutionControllerCompletion) : Json :=
  object (obj [
    ("algorithm", num c.algorithm.toNat),
    ("authentication_tag", string c.authenticationTag),
    ("authorization_id", string c.authorizationId),
    ("command_digest", string c.commandDigest),
    ("command_index", uint c.commandIndex.toNat),
    ("command_sequence_id", string c.commandSequenceId),
    ("completed_monotonic_ns", uint c.completedMonotonicNs.toNat),
    ("controller_key_id", string c.controllerKeyId),
    ("controller_service_id", string c.controllerServiceId),
    ("id", string c.id),
    ("outcome", num c.outcome.toNat),
    ("result_digest", string c.resultDigest),
    ("session_id", string c.sessionId),
    ("storage_schema", num c.storageSchema.toNat)])

/-- `checkpoint_json`. -/
def checkpointJson (c : ServiceTrustCheckpoint) : Json :=
  object (obj [
    ("head_bundle_id", string c.headBundleId),
    ("head_record_id", string c.headRecordId),
    ("head_sequence", uint c.headSequence.toNat),
    ("id", string c.id),
    ("root_bundle_id", string c.rootBundleId),
    ("signatures", array (c.signatures.map checkpointSignatureJson)),
    ("storage_schema", num c.storageSchema.toNat)])

/-- The fields of `record_payload`, in the order of the source. -/
def recordFields (r : ExecutionLedgerRecord) : List (String × Json) := [
  ("authorization", (r.authorization.map authorizationRecordJson).getD null),
  ("completion", (r.completion.map completionJson).getD null),
  ("detail", string r.detail),
  ("format", string (ascii "rbfsafe-execution-ledger-record")),
  ("id", string r.id),
  ("ledger_id", string r.ledgerId),
  ("observed_monotonic_ns", uint r.observedMonotonicNs.toNat),
  ("parent_id", string r.parentId),
  ("revocation", (r.revocation.map revocationJson).getD null),
  ("schema", num r.storageSchema.toNat),
  ("sequence", uint r.sequence.toNat),
  ("session_id", string r.sessionId),
  ("trust_checkpoint", (r.trustCheckpoint.map checkpointJson).getD null),
  ("type", num r.type.toNat)]

/-- `record_payload`. -/
def recordPayload (r : ExecutionLedgerRecord) : Json :=
  object (obj (recordFields r))

/-- `manifest_payload`. -/
def manifestPayload (ledgerId : Bytes) (session : BoundedExecutionSession)
    (rootRecordId : Bytes) : List (Bytes × Json) :=
  obj [
    ("command_count", uint session.commandSequence.commands.length),
    ("format", string (ascii "rbfsafe-execution-ledger")),
    ("id", string ledgerId),
    ("root_record_id", string rootRecordId),
    ("schema", num kLedgerSchema),
    ("session_id", string session.id),
    ("valid_from_monotonic_ns", uint session.validFromMonotonicNs.toNat),
    ("valid_through_monotonic_ns", uint session.validThroughMonotonicNs.toNat)]

section
variable (P : Platform)

/-- `record_document`. -/
def recordDocument (r : ExecutionLedgerRecord) : Json :=
  object (emplace (ascii "library_version") (string (ascii kVersion))
    (emplace (ascii "identity")
      (string (P.sha256 ((recordPayload r).dump P.toLibc false 0)))
      (obj (recordFields r))))

/-- `manifest_document`. -/
def manifestDocument (ledgerId : Bytes) (session : BoundedExecutionSession)
    (rootRecordId : Bytes) : Json :=
  let payload := manifestPayload ledgerId session rootRecordId
  object (emplace (ascii "library_version") (string (ascii kVersion))
    (emplace (ascii "identity")
      (string (P.sha256 ((object payload).dump P.toLibc false 0))) payload))

/-- `record_filename`. -/
def recordFilename (r : ExecutionLedgerRecord) : Bytes :=
  padSequence r.sequence.toNat ++ ascii "-" ++ r.id ++ ascii ".json"

/-- The file of a record: its name and what `write_immutable_file` is given
to write. -/
def recordFile (r : ExecutionLedgerRecord) : Bytes × Bytes :=
  (recordFilename r, (recordDocument P r).dump P.toLibc true 0 ++ ascii "\n")

end

-- === fields

/-- `read_bounded_json`. -/
def readBoundedJson (L : Libc) (path content : Bytes) (maximumBytes : Nat) :
    Result Json :=
  if content.length > maximumBytes then
    failure .resourceLimit
      "execution-ledger file exceeds configured byte limit" path
  else if content.length > kMaximumJsonFileBytes then
    failure .resourceLimit "JSON file exceeds 64 MiB limit" path
  else match parse L content with
  | .error e => .error { e with context := path ++ ascii ": " ++ e.context }
  | .ok document => .ok document

/-- `string_field`. -/
def stringField (document : Json) (key : String) (allowEmpty : Bool := false) :
    Result Bytes :=
  match document with
  | object _ =>
      match document.find (ascii key) with
      | some (string value) =>
          if value.length > kMaximumStringBytes
              ∨ (!allowEmpty && value.isEmpty) then
            failure .corruptData "execution-ledger string field is invalid"
              (ascii key)
          else .ok value
      | _ =>
          failure .corruptData "execution-ledger string field is invalid"
            (ascii key)
  | _ => failure .corruptData "execution-ledger record is not an object"

/-- `number_field`; every reader of it compares the value, so `-0.0` and `0.0`
are one. -/
def numberField (document : Json) (key : String) : Result ℚ :=
  match document with
  | object _ =>
      match document.find (ascii key) with
      | some (number value) => .ok value.toRat
      | _ =>
          failure .corruptData "execution-ledger number field is invalid"
            (ascii key)
  | _ => failure .corruptData "execution-ledger record is not an object"

/-- `decimal_field`. -/
def decimalField (document : Json) (key : String) : Result UInt64 := do
  let text ← stringField document key
  match fromChars text with
  | none =>
      failure .corruptData "execution-ledger decimal field is invalid"
        (ascii key)
  | some value => .ok value

/-- `enum_field`. -/
def enumField (document : Json) (key : String) (maximum : Nat) : Result Nat :=
  match numberField document key with
  | .error _ =>
      failure .corruptData "execution-ledger enum field is invalid" (ascii key)
  | .ok value =>
      if value < 0 ∨ value.den ≠ 1 ∨ value > maximum then
        failure .corruptData "execution-ledger enum field is invalid" (ascii key)
      else .ok value.num.toNat

/-- The cast of an enumeration from its number. -/
def EvidenceLevel.fromNat : Nat → EvidenceLevel
  | 0 => .unknown
  | 1 => .pointChecked
  | 2 => .certifiedRegion
  | 3 => .certifiedConnectivity
  | _ => .runtimeExecutable

def ExecutionCompletionOutcome.fromNat : Nat → ExecutionCompletionOutcome
  | 0 => .completed
  | 1 => .failed
  | _ => .rejected

def ExecutionDependencyKind.fromNat : Nat → ExecutionDependencyKind
  | 0 => .reviewedProfile
  | 1 => .atlas
  | 2 => .scene
  | 3 => .controllerKey
  | 4 => .runtimeMonitorKey
  | 5 => .reviewerKey
  | _ => .trustCheckpoint

def ExecutionLedgerRecordType.fromNat : Nat → ExecutionLedgerRecordType
  | 0 => .sessionOpened
  | 1 => .commandAuthorized
  | 2 => .controllerCompletion
  | 3 => .sessionCancelled
  | 4 => .sessionExpired
  | _ => .dependencyRevoked

-- === decoding

/-- The fields of an authorization, if all are there. -/
def authorizationFields (document : Json) :
    Result ExecutionCommandAuthorization := do
  let id ← stringField document "id"
  let session ← stringField document "session_id"
  let sequence ← stringField document "command_sequence_id"
  let index ← decimalField document "command_index"
  let digest ← stringField document "command_digest"
  let dispatch ← decimalField document "dispatch_monotonic_ns"
  let validFrom ← decimalField document "valid_from_monotonic_ns"
  let validThrough ← decimalField document "valid_through_monotonic_ns"
  let evidence ← enumField document "evidence" EvidenceLevel.runtimeExecutable.toNat
  .ok {
    id := id
    sessionId := session
    commandSequenceId := sequence
    commandIndex := index
    commandDigest := digest
    dispatchMonotonicNs := dispatch
    validFromMonotonicNs := validFrom
    validThroughMonotonicNs := validThrough
    evidence := .fromNat evidence }

/-- The fields of a completion, if all are there. -/
def completionFields (document : Json) :
    Result ExecutionControllerCompletion := do
  let storage ← enumField document "storage_schema" 1
  let id ← stringField document "id"
  let session ← stringField document "session_id"
  let authorization ← stringField document "authorization_id"
  let sequence ← stringField document "command_sequence_id"
  let index ← decimalField document "command_index"
  let digest ← stringField document "command_digest"
  let service ← stringField document "controller_service_id"
  let key ← stringField document "controller_key_id"
  let outcome ← enumField document "outcome" ExecutionCompletionOutcome.rejected.toNat
  let completed ← decimalField document "completed_monotonic_ns"
  let resultDigest ← stringField document "result_digest"
  let algorithm ← enumField document "algorithm"
    ArtifactAuthenticationAlgorithm.ed25519.toNat
  let tag ← stringField document "authentication_tag"
  .ok {
    storageSchema := .ofNat storage
    id := id
    sessionId := session
    authorizationId := authorization
    commandSequenceId := sequence
    commandIndex := index
    commandDigest := digest
    controllerServiceId := service
    controllerKeyId := key
    outcome := .fromNat outcome
    completedMonotonicNs := completed
    resultDigest := resultDigest
    algorithm := .fromNat algorithm
    authenticationTag := tag }

/-- The fields of a checkpoint but the signatures, if all are there. -/
def checkpointFields (document : Json) : Result ServiceTrustCheckpoint := do
  let storage ← enumField document "storage_schema" 1
  let id ← stringField document "id"
  let root ← stringField document "root_bundle_id"
  let head ← stringField document "head_bundle_id"
  let sequence ← decimalField document "head_sequence"
  let record ← stringField document "head_record_id"
  .ok {
    storageSchema := .ofNat storage
    id := id
    rootBundleId := root
    headBundleId := head
    headSequence := sequence
    headRecordId := record }

/-- The fields of a checkpoint signature, if all are there. -/
def checkpointSignatureFields (document : Json) :
    Result ServiceTrustCheckpointSignature := do
  let service ← stringField document "signer_service_id"
  let key ← stringField document "signer_key_id"
  let algorithm ← enumField document "algorithm"
    ArtifactAuthenticationAlgorithm.ed25519.toNat
  let tag ← stringField document "authentication_tag"
  .ok {
    signerServiceId := service
    signerKeyId := key
    algorithm := .fromNat algorithm
    authenticationTag := tag }

/-- The signature loop of `decode_checkpoint`. -/
def decodeSignatures :
    List Json → Result (List ServiceTrustCheckpointSignature)
  | [] => .ok []
  | value :: rest =>
      match checkpointSignatureFields value with
      | .error _ =>
          failure .corruptData
            "execution-ledger checkpoint signature is incomplete"
      | .ok signature => do
          let signatures ← decodeSignatures rest
          .ok (signature :: signatures)

/-- The fields of a revocation, if all are there. -/
def revocationFields (document : Json) :
    Result ExecutionDependencyRevocation := do
  let kind ← enumField document "kind" ExecutionDependencyKind.trustCheckpoint.toNat
  let subject ← stringField document "subject_id"
  let detail ← stringField document "detail"
  .ok {
    kind := .fromNat kind
    subjectId := subject
    detail := detail }

section
variable (P : Platform)

/-- `decode_authorization`. -/
def decodeAuthorization (document : Json) :
    Result ExecutionCommandAuthorization :=
  match authorizationFields document with
  | .error _ =>
      failure .corruptData "execution-ledger authorization is incomplete"
  | .ok result =>
      if !result.valid P then
        failure .corruptData
          "execution-ledger authorization identity is invalid" result.id
      else .ok result

/-- `decode_completion`. -/
def decodeCompletion (document : Json) : Result ExecutionControllerCompletion :=
  match completionFields document with
  | .error _ =>
      failure .corruptData
        "execution-ledger controller completion is incomplete"
  | .ok result =>
      if !result.valid P then
        failure .corruptData
          "execution-ledger controller-completion identity is invalid" result.id
      else .ok result

/-- `decode_checkpoint`, with the count of signatures decoded so far. -/
def decodeCheckpoint (options : ExecutionLedgerLoadOptions)
    (totalSignatures : Nat) (document : Json) :
    Result (ServiceTrustCheckpoint × Nat) :=
  match checkpointFields document, document.find (ascii "signatures") with
  | .ok result, some (array values) =>
      if values.isEmpty then
        failure .corruptData "execution-ledger checkpoint is incomplete"
      else if values.length > options.maximumSignaturesPerCheckpoint
          ∨ values.length
            > options.maximumTotalCheckpointSignatures - totalSignatures then
        failure .resourceLimit
          "execution-ledger checkpoint signature count exceeds configured limits"
      else do
        let signatures ← decodeSignatures values
        let result := { result with signatures := signatures }
        if !result.valid P then
          failure .corruptData
            "execution-ledger checkpoint identity is invalid" result.id
        else .ok (result, totalSignatures + signatures.length)
  | _, _ => failure .corruptData "execution-ledger checkpoint is incomplete"

/-- `decode_revocation`. -/
def decodeRevocation (document : Json) : Result ExecutionDependencyRevocation :=
  match revocationFields document with
  | .error _ =>
      failure .corruptData
        "execution-ledger dependency revocation is incomplete"
  | .ok result =>
      if !validExecutionDependencyRevocation result then
        failure .corruptData
          "execution-ledger dependency revocation is invalid"
      else .ok result

/-- Decoding of a part that may be `null`. -/
def decodeOptional {α : Type} (decode : Json → Result α) :
    Json → Result (Option α)
  | null => .ok none
  | document => do
      let value ← decode document
      .ok (some value)

/-- `decode_checkpoint` of a part that may be `null`. -/
def decodeOptionalCheckpoint (options : ExecutionLedgerLoadOptions)
    (totalSignatures : Nat) :
    Json → Result (Option ServiceTrustCheckpoint × Nat)
  | null => .ok (none, totalSignatures)
  | document => do
      let (checkpoint, total) ← decodeCheckpoint P options totalSignatures
        document
      .ok (some checkpoint, total)

/-- What `decode_record` reads before it looks at the parts. -/
structure RecordHeader where
  format : Bytes
  schema : Nat
  identity : Bytes
  record : ExecutionLedgerRecord
  authorization : Json
  completion : Json
  checkpoint : Json
  revocation : Json

/-- The fields of a record, if all are there. -/
def recordHeader (document : Json) : Result RecordHeader := do
  let format ← stringField document "format"
  let schema ← enumField document "schema" kMaximumRecognizableSchema
  let _ ← stringField document "library_version"
  let identity ← stringField document "identity"
  let id ← stringField document "id"
  let sequence ← decimalField document "sequence"
  let parent ← stringField document "parent_id" true
  let ledger ← stringField document "ledger_id"
  let session ← stringField document "session_id"
  let type ← enumField document "type"
    ExecutionLedgerRecordType.dependencyRevoked.toNat
  let observed ← decimalField document "observed_monotonic_ns"
  let detail ← stringField document "detail" true
  match document.find (ascii "authorization"), document.find (ascii "completion"),
      document.find (ascii "trust_checkpoint"), document.find (ascii "revocation") with
  | some authorization, some completion, some checkpoint, some revocation =>
      .ok {
        format := format
        schema := schema
        identity := identity
        record := {
          storageSchema := .ofNat schema
          id := id
          sequence := sequence
          parentId := parent
          ledgerId := ledger
          sessionId := session
          type := .fromNat type
          observedMonotonicNs := observed
          detail := detail }
        authorization := authorization
        completion := completion
        checkpoint := checkpoint
        revocation := revocation }
  | _, _, _, _ =>
      failure .corruptData "execution-ledger record document is incomplete"

/-- `decode_record`. -/
def decodeRecord (options : ExecutionLedgerLoadOptions) (totalSignatures : Nat)
    (document : Json) : Result (ExecutionLedgerRecord × Nat) :=
  match recordHeader document with
  | .error _ =>
      failure .corruptData "execution-ledger record document is incomplete"
  | .ok header =>
      if header.format ≠ ascii "rbfsafe-execution-ledger-record"
          ∨ header.schema ≠ kLedgerSchema then
        failure .incompatibleFormat "unsupported execution-ledger record schema"
      else do
        let authorization ← decodeOptional (decodeAuthorization P)
          header.authorization
        let completion ← decodeOptional (decodeCompletion P) header.completion
        let (checkpoint, total) ← decodeOptionalCheckpoint P options
          totalSignatures header.checkpoint
        let revocation ← decodeOptional decodeRevocation header.revocation
        let result := { header.record with
          authorization := authorization
          completion := completion
          trustCheckpoint := checkpoint
          revocation := revocation }
        if !result.valid P || !validSha256 header.identity
            || header.identity
              != P.sha256 ((recordPayload result).dump P.toLibc false 0) then
          failure .corruptData
            "execution-ledger record identity or checksum is invalid" result.id
        else .ok (result, total)

-- === opening

/-- What `open` reads of the manifest. -/
structure Manifest where
  format : Bytes
  schema : Nat
  identity : Bytes
  id : Bytes
  sessionId : Bytes
  commandCount : UInt64
  validFrom : UInt64
  validThrough : UInt64
  rootRecord : Bytes

/-- The fields of a manifest, if all are there. -/
def manifestFields (document : Json) : Result Manifest := do
  let format ← stringField document "format"
  let schema ← enumField document "schema" kMaximumRecognizableSchema
  let _ ← stringField document "library_version"
  let identity ← stringField document "identity"
  let id ← stringField document "id"
  let sessionId ← stringField document "session_id"
  let commandCount ← decimalField document "command_count"
  let validFrom ← decimalField document "valid_from_monotonic_ns"
  let validThrough ← decimalField document "valid_through_monotonic_ns"
  let rootRecord ← stringField document "root_record_id"
  .ok {
    format := format
    schema := schema
    identity := identity
    id := id
    sessionId := sessionId
    commandCount := commandCount
    validFrom := validFrom
    validThrough := validThrough
    rootRecord := rootRecord }

/-- The manifest part of `open`. -/
def readManifest (session : BoundedExecutionSession) (path content : Bytes)
    (options : ExecutionLedgerLoadOptions) : Result Manifest := do
  let document ← readBoundedJson P.toLibc (path ++ ascii "/manifest.json") content
    options.maximumManifestBytes
  match manifestFields document with
  | .error _ =>
      failure .corruptData "execution-ledger manifest is incomplete"
  | .ok manifest =>
      if manifest.format ≠ ascii "rbfsafe-execution-ledger"
          ∨ manifest.schema ≠ kLedgerSchema then
        failure .incompatibleFormat
          "unsupported execution-ledger manifest schema"
      else if manifest.id ≠ executionLedgerIdentity P session.id
          ∨ manifest.sessionId ≠ session.id
          ∨ manifest.commandCount.toNat
            ≠ session.commandSequence.commands.length
          ∨ manifest.validFrom ≠ session.validFromMonotonicNs
          ∨ manifest.validThrough ≠ session.validThroughMonotonicNs
          ∨ validSha256 manifest.rootRecord = false
          ∨ validSha256 manifest.identity = false
          ∨ manifest.identity ≠ P.sha256 ((object (manifestPayload manifest.id
            session manifest.rootRecord)).dump P.toLibc false 0) then
        failure .identityMismatch
          "execution-ledger manifest does not match the supplied session"
          manifest.id
      else .ok manifest

/-- The loop of `open` over the listing. -/
def decodeFiles (options : ExecutionLedgerLoadOptions) (path : Bytes) :
    Nat → List (Bytes × ExecutionLedgerRecord) → List (Bytes × Bytes) →
    Result (List (Bytes × ExecutionLedgerRecord))
  | _, decoded, [] => .ok decoded
  | total, decoded, (name, content) :: rest =>
      if decoded.length ≥ options.maximumRecords then
        failure .resourceLimit
          "execution-ledger record count exceeds configured limit"
      else do
        let document ← readBoundedJson P.toLibc
          (path ++ ascii "/records/" ++ name) content options.maximumRecordBytes
        let (record, total) ← decodeRecord P options total document
        decodeFiles options path total (decoded ++ [(name, record)]) rest

/-- The order `open` sorts the decoded records by. -/
def decodedBefore (a b : Bytes × ExecutionLedgerRecord) : Bool :=
  if a.2.sequence ≠ b.2.sequence then decide (a.2.sequence < b.2.sequence)
  else !decide (b.2.id < a.2.id)

/-- The check of a round of the chain loop of `open`. -/
def fileChained (manifest : Manifest) (session : BoundedExecutionSession)
    (index : Nat) (previous : Option ExecutionLedgerRecord) (name : Bytes)
    (record : ExecutionLedgerRecord) : Bool :=
  record.sequence.toNat == index && name == recordFilename record
    && record.ledgerId == manifest.id && record.sessionId == session.id
    && (match previous with
      | none =>
          record.id == manifest.rootRecord && record.type == .sessionOpened
            && record.parentId.isEmpty
      | some previous => record.parentId == previous.id)

/-- The chain loop of `open`. -/
def chainFiles (manifest : Manifest) (session : BoundedExecutionSession) :
    Nat → Option ExecutionLedgerRecord →
    List (Bytes × ExecutionLedgerRecord) → Result (List ExecutionLedgerRecord)
  | _, _, [] => .ok []
  | index, previous, (name, record) :: rest =>
      if !fileChained manifest session index previous name record then
        failure .corruptData "execution-ledger record chain is invalid" record.id
      else do
        let records ← chainFiles manifest session (index + 1) (some record) rest
        .ok (record :: records)

/-- `ExecutionLedger::open`. -/
def ExecutionLedger.openLedger (path : Bytes) (directory : LedgerDirectory)
    (session : BoundedExecutionSession) (reviewed : ReviewedDeploymentProfile)
    (trustHistory : ServiceTrustHistory) (atlas : SafeAtlas)
    (options : ExecutionLedgerLoadOptions) : Result ExecutionLedger :=
  if path.isEmpty || !session.valid P || !reviewed.valid P
      || !trustHistory.valid P || atlas.dimension == 0
      || options.maximumRecords == 0
      || options.maximumSignaturesPerCheckpoint == 0
      || options.maximumTotalCheckpointSignatures == 0
      || options.maximumManifestBytes == 0
      || options.maximumRecordBytes == 0 then
    failure .invalidArgument "execution-ledger open input is invalid"
  else if options.cancelled then
    failure .cancelled "execution-ledger open was cancelled"
  else do
    let manifest ← readManifest P session path directory.manifest options
    let decoded ← decodeFiles P options path 0 [] directory.records
    if decoded.isEmpty then
      failure .corruptData "execution ledger contains no records"
    else do
      let records ← chainFiles manifest session 0 none
        (decoded.mergeSort decodedBefore)
      let result : ExecutionLedger :=
        { directory := path
          id := manifest.id
          sessionId := manifest.sessionId
          currentRecordId := (records.getLast?.map fun r => r.id).getD []
          commandCount := manifest.commandCount.toNat
          validFromMonotonicNs := manifest.validFrom
          validThroughMonotonicNs := manifest.validThrough
          records := records
          options := options }
      if !result.valid P then
        failure .corruptData "loaded execution ledger is structurally invalid"
      else do
        let _ ← result.audit P session reviewed trustHistory atlas
        .ok result

/-- The root record of a ledger. -/
def rootRecord (session : BoundedExecutionSession) : ExecutionLedgerRecord :=
  let root : ExecutionLedgerRecord :=
    { ledgerId := executionLedgerIdentity P session.id
      sessionId := session.id
      observedMonotonicNs := session.validFromMonotonicNs }
  { root with id := executionLedgerRecordIdentity P root }

/-- `ExecutionLedger::create`, in a place where nothing is yet. -/
def ExecutionLedger.create (path : Bytes) (files : FileSystem)
    (session : BoundedExecutionSession) :
    Result (ExecutionLedger × LedgerDirectory) :=
  if path.isEmpty || path == ascii "/" || !session.valid P then
    failure .invalidArgument "execution-ledger creation input is invalid"
  else if !files.writable then
    failure .ioError "failed to publish execution ledger" path
  else
    let root := rootRecord P session
    let result : ExecutionLedger :=
      { directory := path
        id := executionLedgerIdentity P session.id
        sessionId := session.id
        currentRecordId := root.id
        commandCount := session.commandSequence.commands.length
        validFromMonotonicNs := session.validFromMonotonicNs
        validThroughMonotonicNs := session.validThroughMonotonicNs
        records := [root] }
    if !result.valid P then
      failure .internalError "constructed execution ledger is invalid"
    else .ok (result,
      { manifest := (manifestDocument P (executionLedgerIdentity P session.id)
          session root.id).dump P.toLibc true 0 ++ ascii "\n"
        records := [recordFile P root] })

end

end RbfSafe
