/-
Opening a trust history: the replay of its directory.

`ServiceTrustHistory::open` reads a manifest, the record files in whatever
order the directory lists them, and a bundle file for each record.
`TrustHistoryFiles` is what those reads decode to; the replay sorts the
records, checks each against the one before it and the bundle it names,
and asks the result whether it is valid.
-/
import RbfSafe.Identity.History
import RbfSafe.Core.Files

namespace RbfSafe

/-- `ServiceTrustHistoryLoadOptions`, less the cancellation. -/
structure ServiceTrustHistoryLoadOptions where
  maximumBundles : Nat := 100000
  maximumKeysPerBundle : Nat := 100000
  maximumTotalKeys : Nat := 1000000
  maximumSignaturesPerRotation : Nat := 100000
  maximumMetadataBytes : Nat := 65536
  maximumBundleBytes : Nat := 4194304

/-- `valid_history_options`. -/
def validHistoryOptions (options : ServiceTrustHistoryLoadOptions) : Bool :=
  decide (options.maximumBundles > 0) && decide (options.maximumKeysPerBundle > 0)
    && decide (options.maximumTotalKeys > 0)
    && decide (options.maximumSignaturesPerRotation > 0)
    && decide (options.maximumMetadataBytes > 0)
    && decide (options.maximumBundleBytes > 0)

/-- An entry of the records directory: a regular `.json` file with what it
decodes to, or anything else. -/
inductive TrustHistoryEntry where
  | document (filename : Bytes) (record : Result ServiceTrustRotationRecord)
  | other (filename : Bytes)

/-- What the files of a history decode to, under the load options: the
schema and the root of the manifest, the entries of the records directory
in the order they are listed, and the bundle file of a name. -/
structure TrustHistoryFiles where
  manifest : Result (UInt32 × Bytes)
  records : List TrustHistoryEntry
  bundle : Bytes → Result ServiceTrustBundle

/-- `record_filename` and `bundle_filename`. -/
def trustFilename (sequence : UInt64) (id : Bytes) : Bytes :=
  padSequence sequence.toNat ++ ascii "-" ++ id ++ ascii ".json"

/-- The enumeration loop: the records that decode, up to the limits. Files
a writer left behind are passed over. -/
def decodeRecords (options : ServiceTrustHistoryLoadOptions) :
    Nat → List TrustHistoryEntry →
    Result (List (Bytes × ServiceTrustRotationRecord))
  | _, [] => .ok []
  | entries, entry :: rest =>
      if entries ≥ options.maximumBundles then
        failure .resourceLimit
          "service trust-history record-entry count exceeds limit"
      else match entry with
      | .document filename document => do
          let record ← document
          if record.authorizationSet.any fun set =>
              decide (options.maximumSignaturesPerRotation
                < set.authorizations.length) then
            failure .resourceLimit
              "service trust-history authorization count exceeds limit" record.id
          else do
            let decoded ← decodeRecords options (entries + 1) rest
            .ok ((filename, record) :: decoded)
      | .other filename =>
          if !decide (ascii ".tmp-" <:+: filename) then
            failure .corruptData
              "unexpected service trust-history record entry" filename
          else decodeRecords options (entries + 1) rest

/-- The comparator of the sort: sequence first, then id. -/
def recordBefore (a b : Bytes × ServiceTrustRotationRecord) : Bool :=
  if a.2.sequence ≠ b.2.sequence then decide (a.2.sequence < b.2.sequence)
  else !decide (b.2.id < a.2.id)

/-- The chain test of the replay loop. -/
def replayLinked (schema : UInt32) (rootBundleId : Bytes) (index : Nat)
    (previous : Option (ServiceTrustBundle × ServiceTrustRotationRecord))
    (filename : Bytes) (record : ServiceTrustRotationRecord) : Bool :=
  record.storageSchema == schema && record.sequence.toNat == index + 1
    && filename == trustFilename record.sequence record.id
    && match previous with
      | none => record.bundleId == rootBundleId && record.type == .rootPinned
      | some (_, previousRecord) =>
          record.parentId == previousRecord.id
            && record.type == .successorAuthorized

section
variable (P : Platform)

/-- How the replay loop verifies a successor. -/
def replaySuccessor (schema : UInt32) (previous bundle : ServiceTrustBundle)
    (record : ServiceTrustRotationRecord) : Result Unit :=
  if schema = kLegacyHistorySchema then
    match record.authorization with
    | some authorization =>
        verifyServiceTrustBundleSuccessor P previous bundle authorization
    | none =>
        failure .corruptData "service trust-history successor lacks authorization"
          record.id
  else
    match record.authorizationSet with
    | some set => verifyServiceTrustBundleSuccessorSet P previous bundle set
    | none =>
        failure .corruptData
          "service trust-history successor lacks authorization set" record.id

/-- The replay loop. -/
def replayRotations (files : TrustHistoryFiles)
    (options : ServiceTrustHistoryLoadOptions) (schema : UInt32)
    (rootBundleId : Bytes) :
    Nat → Nat → Option (ServiceTrustBundle × ServiceTrustRotationRecord) →
    List (Bytes × ServiceTrustRotationRecord) →
    Result (List (ServiceTrustBundle × ServiceTrustRotationRecord))
  | _, _, _, [] => .ok []
  | index, totalKeys, previous, (filename, record) :: rest =>
      if !replayLinked schema rootBundleId index previous filename record then
        failure .corruptData "service trust-history record chain is invalid"
          record.id
      else do
        let bundle ← files.bundle (trustFilename record.sequence record.bundleId)
        let expectedBundleSchema : UInt32 :=
          if schema = kLegacyHistorySchema then 2 else 3
        if bundle.storageSchema ≠ expectedBundleSchema
            ∨ bundle.sequence ≠ record.sequence ∨ bundle.id ≠ record.bundleId then
          failure .corruptData "service trust-history bundle identity is invalid"
            record.bundleId
        else if bundle.keys.length > options.maximumTotalKeys - totalKeys then
          failure .resourceLimit
            "service trust-history total key count exceeds limit"
        else do
          let _ ← match previous with
            | none => .ok ()
            | some (previousBundle, _) =>
                replaySuccessor P schema previousBundle bundle record
          let replayed ← replayRotations files options schema rootBundleId
            (index + 1) (totalKeys + bundle.keys.length) (some (bundle, record))
            rest
          .ok ((bundle, record) :: replayed)

/-- `ServiceTrustHistory::open`. -/
def ServiceTrustHistory.openHistory (files : TrustHistoryFiles)
    (expectedRootBundleId expectedHeadBundleId : Bytes)
    (options : ServiceTrustHistoryLoadOptions) : Result ServiceTrustHistory :=
  if !validSha256 expectedRootBundleId || !validSha256 expectedHeadBundleId
      || !validHistoryOptions options then
    failure .invalidArgument "service trust-history open input is invalid"
  else do
    let (schema, rootBundleId) ← files.manifest
    if rootBundleId ≠ expectedRootBundleId then
      failure .identityMismatch
        "service trust-history root does not match the caller pin" rootBundleId
    else do
      let decoded ← decodeRecords options 0 files.records
      if decoded.isEmpty then
        failure .corruptData "service trust history contains no rotation records"
      else do
        let replayed ← replayRotations P files options schema rootBundleId 0 0 none
          (decoded.mergeSort recordBefore)
        let result : ServiceTrustHistory :=
          { storageSchema := schema
            rootBundleId := rootBundleId
            currentBundleId := (replayed.getLast?.map fun entry =>
              entry.1.id).getD []
            bundles := replayed.map fun entry => entry.1
            records := replayed.map fun entry => entry.2 }
        if !result.valid P then
          failure .corruptData "service trust-history replay is inconsistent"
        else if result.currentBundleId ≠ expectedHeadBundleId then
          failure .identityMismatch
            "service trust-history head does not match the caller expected head"
            result.currentBundleId
        else .ok result

end

end RbfSafe
