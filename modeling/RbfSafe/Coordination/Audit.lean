/-
The audits of two publication histories.

An audit counts the entries the two histories have in common and reports
how they are related, with the ids of their heads. The report checks
itself: whoever reports that one history goes on from the other, or that
they fork, must name two heads.
-/
import RbfSafe.Coordination.History
import RbfSafe.Lib.Prefix

namespace RbfSafe

open Json

/-- `OccupancyPublicationHistoryRelation`. -/
inductive OccupancyPublicationHistoryRelation where
  | identical
  | firstExtendsSecond
  | secondExtendsFirst
  | forked
deriving DecidableEq, Repr

def OccupancyPublicationHistoryRelation.toNat :
    OccupancyPublicationHistoryRelation → Nat
  | .identical => 0
  | .firstExtendsSecond => 1
  | .secondExtendsFirst => 2
  | .forked => 3

/-- `relation_for`. -/
def relationFor (firstCount secondCount commonCount : Nat) :
    OccupancyPublicationHistoryRelation :=
  if commonCount = firstCount ∧ commonCount = secondCount then .identical
  else if commonCount = secondCount then .firstExtendsSecond
  else if commonCount = firstCount then .secondExtendsFirst
  else .forked

/-- `valid_relation`. -/
def validRelation (relation : OccupancyPublicationHistoryRelation)
    (firstCount secondCount commonCount : Nat) (firstHead secondHead : Bytes) :
    Bool :=
  decide (firstCount ≠ 0) && decide (secondCount ≠ 0)
    && decide (commonCount ≠ 0)
    && decide (commonCount ≤ Nat.min firstCount secondCount)
    && match relation with
      | .identical => decide (firstCount = secondCount)
          && decide (commonCount = firstCount) && decide (firstHead = secondHead)
      | .firstExtendsSecond => decide (secondCount < firstCount)
          && decide (commonCount = secondCount)
          && decide (firstHead ≠ secondHead)
      | .secondExtendsFirst => decide (firstCount < secondCount)
          && decide (commonCount = firstCount)
          && decide (firstHead ≠ secondHead)
      | .forked => decide (commonCount < Nat.min firstCount secondCount)
          && decide (firstHead ≠ secondHead)

/-- The test of the two publication loops. -/
def sameEntry (first second : PublicationEntry) : Bool :=
  decide (first.record.id = second.record.id)
    && decide (first.publication.id = second.publication.id)

/-- The publication id of the last common entry. -/
def commonPublication (entries : List PublicationEntry) (common : Nat) : Bytes :=
  (entries[common - 1]?).elim [] (·.publication.id)

-- === pinned bundle

/-- `OccupancyPublicationHistoryAudit`. -/
structure OccupancyPublicationHistoryAudit where
  storageSchema : UInt32 := 1
  id : Bytes := []
  relation : OccupancyPublicationHistoryRelation := .identical
  streamId : Bytes
  publisherServiceId : Bytes
  trustBundleId : Bytes
  rootPublicationId : Bytes
  firstHeadPublicationId : Bytes
  secondHeadPublicationId : Bytes
  firstPublicationCount : Nat := 0
  secondPublicationCount : Nat := 0
  commonPrefixCount : Nat := 0
  commonPublicationId : Bytes

section
variable (P : Platform)

/-- `occupancy_publication_history_audit_identity`. -/
def occupancyPublicationHistoryAuditIdentity
    (audit : OccupancyPublicationHistoryAudit) : Bytes :=
  P.sha256 (dump P.toLibc false 0 (object (obj
    [("common_prefix_count", uint audit.commonPrefixCount),
      ("common_publication_id", string audit.commonPublicationId),
      ("first_head_publication_id", string audit.firstHeadPublicationId),
      ("first_publication_count", uint audit.firstPublicationCount),
      ("publisher_service_id", string audit.publisherServiceId),
      ("relation", num audit.relation.toNat),
      ("root_publication_id", string audit.rootPublicationId),
      ("second_head_publication_id", string audit.secondHeadPublicationId),
      ("second_publication_count", uint audit.secondPublicationCount),
      ("storage_schema", num audit.storageSchema.toNat),
      ("stream_id", string audit.streamId),
      ("trust_bundle_id", string audit.trustBundleId)])))

/-- `OccupancyPublicationHistoryAudit::valid`; its last checks are those
of `valid_relation`. -/
def OccupancyPublicationHistoryAudit.valid
    (audit : OccupancyPublicationHistoryAudit) : Bool :=
  decide (audit.storageSchema = kCoordinationSchema) && validSha256 audit.id
    && decide (audit.id = occupancyPublicationHistoryAuditIdentity P audit)
    && validIdentifier audit.streamId && validIdentifier audit.publisherServiceId
    && validSha256 audit.trustBundleId && validSha256 audit.rootPublicationId
    && validSha256 audit.firstHeadPublicationId
    && validSha256 audit.secondHeadPublicationId
    && validSha256 audit.commonPublicationId
    && validRelation audit.relation audit.firstPublicationCount
      audit.secondPublicationCount audit.commonPrefixCount
      audit.firstHeadPublicationId audit.secondHeadPublicationId

/-- The report of `audit_occupancy_publication_histories` on a common
prefix. -/
def publicationHistoryReport (first second : OccupancyPublicationHistory)
    (common : Nat) : OccupancyPublicationHistoryAudit :=
  let result : OccupancyPublicationHistoryAudit :=
    { storageSchema := kCoordinationSchema
      relation := relationFor first.entries.length second.entries.length common
      streamId := first.stream.streamId
      publisherServiceId := first.stream.publisherServiceId
      trustBundleId := first.trustBundleId
      rootPublicationId := first.stream.rootPublicationId
      firstHeadPublicationId := first.currentPublicationId
      secondHeadPublicationId := second.currentPublicationId
      firstPublicationCount := first.entries.length
      secondPublicationCount := second.entries.length
      commonPrefixCount := common
      commonPublicationId := commonPublication first.entries common }
  { result with id := occupancyPublicationHistoryAuditIdentity P result }

/-- `audit_occupancy_publication_histories`. -/
def auditOccupancyPublicationHistories
    (first second : OccupancyPublicationHistory) :
    Result OccupancyPublicationHistoryAudit :=
  if first.valid P = false ∨ second.valid P = false then
    failure .invalidArgument
      "occupancy publication-history audit input is invalid"
  else if first.stream.streamId ≠ second.stream.streamId
      ∨ first.stream.publisherServiceId ≠ second.stream.publisherServiceId
      ∨ first.trustBundleId ≠ second.trustBundleId
      ∨ first.stream.rootPublicationId ≠ second.stream.rootPublicationId
      ∨ first.stream.timelineId ≠ second.stream.timelineId
      ∨ first.stream.workspaceFrameId ≠ second.stream.workspaceFrameId then
    failure .identityMismatch
      "occupancy publication histories do not share the same pinned root and stream"
  else
    let common := Lib.Prefix.commonCount sameEntry first.entries second.entries
    if common = 0 then
      failure .identityMismatch
        "occupancy publication histories claim the same root but do not share it"
    else
      let result := publicationHistoryReport P first second common
      if result.valid P = false then
        failure .internalError
          "occupancy publication-history audit produced invalid output"
      else .ok result

end

-- === rotating trust

/-- `RotatingOccupancyPublicationHistoryAudit`. -/
structure RotatingOccupancyPublicationHistoryAudit where
  storageSchema : UInt32 := 1
  id : Bytes := []
  publicationRelation : OccupancyPublicationHistoryRelation := .identical
  trustRelation : OccupancyPublicationHistoryRelation := .identical
  streamId : Bytes
  publisherServiceId : Bytes
  trustRootBundleId : Bytes
  rootPublicationId : Bytes
  firstTrustHeadBundleId : Bytes
  secondTrustHeadBundleId : Bytes
  firstHeadPublicationId : Bytes
  secondHeadPublicationId : Bytes
  firstTrustBundleCount : Nat := 0
  secondTrustBundleCount : Nat := 0
  commonTrustPrefixCount : Nat := 0
  commonTrustBundleId : Bytes
  firstPublicationCount : Nat := 0
  secondPublicationCount : Nat := 0
  commonPublicationPrefixCount : Nat := 0
  commonPublicationId : Bytes

section
variable (P : Platform)

/-- `rotating_occupancy_publication_history_audit_identity`. -/
def rotatingOccupancyPublicationHistoryAuditIdentity
    (audit : RotatingOccupancyPublicationHistoryAudit) : Bytes :=
  P.sha256 (dump P.toLibc false 0 (object (obj
    [("common_publication_id", string audit.commonPublicationId),
      ("common_publication_prefix_count",
        uint audit.commonPublicationPrefixCount),
      ("common_trust_bundle_id", string audit.commonTrustBundleId),
      ("common_trust_prefix_count", uint audit.commonTrustPrefixCount),
      ("first_head_publication_id", string audit.firstHeadPublicationId),
      ("first_publication_count", uint audit.firstPublicationCount),
      ("first_trust_bundle_count", uint audit.firstTrustBundleCount),
      ("first_trust_head_bundle_id", string audit.firstTrustHeadBundleId),
      ("publication_relation", num audit.publicationRelation.toNat),
      ("publisher_service_id", string audit.publisherServiceId),
      ("root_publication_id", string audit.rootPublicationId),
      ("second_head_publication_id", string audit.secondHeadPublicationId),
      ("second_publication_count", uint audit.secondPublicationCount),
      ("second_trust_bundle_count", uint audit.secondTrustBundleCount),
      ("second_trust_head_bundle_id", string audit.secondTrustHeadBundleId),
      ("storage_schema", num audit.storageSchema.toNat),
      ("stream_id", string audit.streamId),
      ("trust_relation", num audit.trustRelation.toNat),
      ("trust_root_bundle_id", string audit.trustRootBundleId)])))

/-- `RotatingOccupancyPublicationHistoryAudit::valid`. -/
def RotatingOccupancyPublicationHistoryAudit.valid
    (audit : RotatingOccupancyPublicationHistoryAudit) : Bool :=
  decide (audit.storageSchema = kCoordinationSchema) && validSha256 audit.id
    && decide (audit.id = rotatingOccupancyPublicationHistoryAuditIdentity P audit)
    && validIdentifier audit.streamId && validIdentifier audit.publisherServiceId
    && validSha256 audit.trustRootBundleId && validSha256 audit.rootPublicationId
    && validSha256 audit.firstTrustHeadBundleId
    && validSha256 audit.secondTrustHeadBundleId
    && validSha256 audit.firstHeadPublicationId
    && validSha256 audit.secondHeadPublicationId
    && validSha256 audit.commonTrustBundleId
    && validSha256 audit.commonPublicationId
    && validRelation audit.trustRelation audit.firstTrustBundleCount
      audit.secondTrustBundleCount audit.commonTrustPrefixCount
      audit.firstTrustHeadBundleId audit.secondTrustHeadBundleId
    && validRelation audit.publicationRelation audit.firstPublicationCount
      audit.secondPublicationCount audit.commonPublicationPrefixCount
      audit.firstHeadPublicationId audit.secondHeadPublicationId

/-- The test of the trust loop. -/
def sameRotation (first second : ServiceTrustRotationRecord) : Bool :=
  decide (first.id = second.id) && decide (first.bundleId = second.bundleId)

/-- The bundle id of the last common trust record. -/
def commonBundle (records : List ServiceTrustRotationRecord) (common : Nat) :
    Bytes :=
  (records[common - 1]?).elim [] (·.bundleId)

/-- The report of `audit_rotating_occupancy_publication_histories` on the
common prefixes. -/
def rotatingHistoryReport (first second : RotatingOccupancyPublicationHistory)
    (firstTrust secondTrust : ServiceTrustHistory)
    (commonTrust commonPublications : Nat) :
    RotatingOccupancyPublicationHistoryAudit :=
  let result : RotatingOccupancyPublicationHistoryAudit :=
    { storageSchema := kCoordinationSchema
      publicationRelation := relationFor first.entries.length
        second.entries.length commonPublications
      trustRelation := relationFor firstTrust.records.length
        secondTrust.records.length commonTrust
      streamId := first.stream.streamId
      publisherServiceId := first.stream.publisherServiceId
      trustRootBundleId := first.trustRootBundleId
      rootPublicationId := first.stream.rootPublicationId
      firstTrustHeadBundleId := first.currentTrustBundleId
      secondTrustHeadBundleId := second.currentTrustBundleId
      firstHeadPublicationId := first.currentPublicationId
      secondHeadPublicationId := second.currentPublicationId
      firstTrustBundleCount := firstTrust.records.length
      secondTrustBundleCount := secondTrust.records.length
      commonTrustPrefixCount := commonTrust
      commonTrustBundleId := commonBundle firstTrust.records commonTrust
      firstPublicationCount := first.entries.length
      secondPublicationCount := second.entries.length
      commonPublicationPrefixCount := commonPublications
      commonPublicationId := commonPublication first.entries commonPublications }
  { result with id := rotatingOccupancyPublicationHistoryAuditIdentity P result }

/-- `audit_rotating_occupancy_publication_histories`. A valid history has
a trust history. -/
def auditRotatingOccupancyPublicationHistories
    (first second : RotatingOccupancyPublicationHistory) :
    Result RotatingOccupancyPublicationHistoryAudit :=
  match first.trustHistory, second.trustHistory with
  | some firstTrust, some secondTrust =>
      if first.valid P = false ∨ second.valid P = false then
        failure .invalidArgument
          "rotating occupancy publication-history audit input is invalid"
      else if first.stream.streamId ≠ second.stream.streamId
          ∨ first.stream.publisherServiceId ≠ second.stream.publisherServiceId
          ∨ first.trustRootBundleId ≠ second.trustRootBundleId
          ∨ first.stream.rootPublicationId ≠ second.stream.rootPublicationId
          ∨ first.stream.timelineId ≠ second.stream.timelineId
          ∨ first.stream.workspaceFrameId ≠ second.stream.workspaceFrameId then
        failure .identityMismatch
          "rotating occupancy publication histories do not share the same roots and stream"
      else
        let commonTrust := Lib.Prefix.commonCount sameRotation firstTrust.records
          secondTrust.records
        let commonPublications := Lib.Prefix.commonCount sameEntry first.entries
          second.entries
        if commonTrust = 0 ∨ commonPublications = 0 then
          failure .identityMismatch
            "rotating occupancy publication histories claim roots they do not share"
        else
          let result := rotatingHistoryReport P first second firstTrust
            secondTrust commonTrust commonPublications
          if result.valid P = false then
            failure .internalError
              "rotating occupancy publication-history audit produced invalid output"
          else .ok result
  | _, _ =>
      failure .invalidArgument
        "rotating occupancy publication-history audit input is invalid"

end

end RbfSafe
