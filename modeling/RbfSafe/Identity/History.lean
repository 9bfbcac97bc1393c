/-
The trust history: a chain of bundles, each pinned by a rotation record
and authorized by the bundle before it.

`valid` replays the chain entry by entry. The loop looks one entry back,
so its recursion carries the entry before.
-/
import RbfSafe.Identity.Rotation

namespace RbfSafe

/-- `kLegacyHistorySchema`. -/
def kLegacyHistorySchema : UInt32 := 1

/-- `kCurrentHistorySchema`. -/
def kCurrentHistorySchema : UInt32 := 2

/-- `ServiceTrustHistory`, less the directory and the load options, which
no query reads. -/
structure ServiceTrustHistory where
  storageSchema : UInt32 := 1
  rootBundleId : Bytes := []
  currentBundleId : Bytes := []
  bundles : List ServiceTrustBundle := []
  records : List ServiceTrustRotationRecord := []

section
variable (P : Platform)

/-- `valid_record_structure`. -/
def validRecordStructure (record : ServiceTrustRotationRecord) : Bool :=
  let noAuthorization :=
    record.authorization.isNone && record.authorizationSet.isNone
  let root := record.sequence == 1 && record.type == .rootPinned
    && record.parentId.isEmpty && noAuthorization
  let legacySuccessor := record.storageSchema == kLegacyHistorySchema
    && decide (record.sequence > 1) && record.type == .successorAuthorized
    && validSha256 record.parentId && record.authorization.isSome
    && record.authorizationSet.isNone
  let currentSuccessor := record.storageSchema == kCurrentHistorySchema
    && decide (record.sequence > 1) && record.type == .successorAuthorized
    && validSha256 record.parentId && record.authorization.isNone
    && record.authorizationSet.isSome
  (record.storageSchema == kLegacyHistorySchema
      || record.storageSchema == kCurrentHistorySchema)
    && (root || legacySuccessor || currentSuccessor)
    && validSha256 record.id && validSha256 record.bundleId
    && serviceTrustRotationRecordIdentity P record == record.id

/-- The part of a round of `ServiceTrustHistory::valid` that depends on
whether the entry is the first. -/
def entryLinked (schema : UInt32)
    (previous : Option (ServiceTrustBundle × ServiceTrustRotationRecord))
    (bundle : ServiceTrustBundle) (record : ServiceTrustRotationRecord) :
    Bool :=
  match previous with
  | none =>
      record.type == .rootPinned && record.parentId.isEmpty
        && record.authorization.isNone && record.authorizationSet.isNone
  | some (previousBundle, previousRecord) =>
      record.type == .successorAuthorized
        && record.parentId == previousRecord.id
        && (if schema = kLegacyHistorySchema then
          match record.authorization, record.authorizationSet with
          | some authorization, none =>
              (verifyServiceTrustBundleSuccessor P previousBundle bundle
                authorization).isOk
          | _, _ => false
        else
          match record.authorization, record.authorizationSet with
          | none, some set =>
              (verifyServiceTrustBundleSuccessorSet P previousBundle bundle
                set).isOk
          | _, _ => false)

/-- One round of the loop of `ServiceTrustHistory::valid`. -/
def entryValid (schema : UInt32) (index : Nat)
    (previous : Option (ServiceTrustBundle × ServiceTrustRotationRecord))
    (bundle : ServiceTrustBundle) (record : ServiceTrustRotationRecord) :
    Bool :=
  let expectedBundleSchema : UInt32 :=
    if schema = kLegacyHistorySchema then 2 else 3
  bundle.valid P && bundle.storageSchema == expectedBundleSchema
    && bundle.sequence.toNat == index + 1 && record.sequence.toNat == index + 1
    && record.storageSchema == schema && record.bundleId == bundle.id
    && validRecordStructure P record
    && entryLinked P schema previous bundle record

/-- The loop of `ServiceTrustHistory::valid`. -/
def entriesValid (schema : UInt32) : Nat →
    Option (ServiceTrustBundle × ServiceTrustRotationRecord) →
    List (ServiceTrustBundle × ServiceTrustRotationRecord) → Bool
  | _, _, [] => true
  | index, previous, (bundle, record) :: rest =>
      entryValid P schema index previous bundle record
        && entriesValid schema (index + 1) (some (bundle, record)) rest

/-- `ServiceTrustHistory::valid`. -/
def ServiceTrustHistory.valid (history : ServiceTrustHistory) : Bool :=
  match history.bundles.head?, history.bundles.getLast? with
  | some root, some current =>
      (history.storageSchema == kLegacyHistorySchema
          || history.storageSchema == kCurrentHistorySchema)
        && history.bundles.length == history.records.length
        && validSha256 history.rootBundleId
        && history.currentBundleId == current.id
        && history.rootBundleId == root.id
        && entriesValid P history.storageSchema 0 none
          (history.bundles.zip history.records)
  | _, _ => false

/-- `ServiceTrustHistory::current_bundle`. -/
def ServiceTrustHistory.currentBundle (history : ServiceTrustHistory) :
    Result ServiceTrustBundle :=
  match history.valid P, history.bundles.getLast? with
  | true, some bundle => .ok bundle
  | _, _ =>
      failure .invalidArgument
        "service trust-history object is not initialized"

/-- `ServiceTrustHistory::bundle`: the first bundle with the id. -/
def ServiceTrustHistory.bundle (history : ServiceTrustHistory)
    (bundleId : Bytes) : Result ServiceTrustBundle :=
  if !history.valid P || !validSha256 bundleId then
    failure .invalidArgument "service trust-history bundle lookup is invalid"
  else match history.bundles.find? fun candidate => candidate.id == bundleId with
  | none =>
      failure .invalidArgument
        "service trust-history bundle is not registered" bundleId
  | some found => .ok found

end

/-- The first `k` entries of a history. -/
def ServiceTrustHistory.prefixOf (history : ServiceTrustHistory) (k : Nat) :
    ServiceTrustHistory :=
  { history with
    currentBundleId := ((history.bundles.take k).getLast?.map
      fun bundle => bundle.id).getD []
    bundles := history.bundles.take k
    records := history.records.take k }

end RbfSafe
