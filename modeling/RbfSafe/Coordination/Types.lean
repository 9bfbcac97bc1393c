/-
Occupancy publications and the records of their histories.

A publication announces the occupancies of a fleet for a window of ticks.
Its id is the digest of what it says, and does not cover the signature:
one publication can be signed in more than one way. A history keeps a
record for each publication, whose id covers the signature as well.
-/
import RbfSafe.Execution.Deployment

namespace RbfSafe

open Json

/-- `kStorageSchema` and `kHistoryStorageSchema`. -/
def kCoordinationSchema : UInt32 := 1

/-- `OccupancyPublication`. -/
structure OccupancyPublication where
  storageSchema : UInt32 := 1
  id : Bytes
  streamId : Bytes
  publisherSequence : UInt64 := 0
  parentPublicationId : Bytes
  publisherServiceId : Bytes
  publisherKeyId : Bytes
  trustBundleId : Bytes
  occupancyBundleId : Bytes
  timelineId : Bytes
  workspaceFrameId : Bytes
  validFromTick : UInt64 := 0
  validThroughTick : UInt64 := 0
  payloadDigest : Bytes
  payloadBytes : UInt64 := 0
  algorithm : ArtifactAuthenticationAlgorithm := .ed25519
  authenticationTag : Bytes

/-- `OccupancyPublicationHistoryRecord`. -/
structure OccupancyPublicationHistoryRecord where
  storageSchema : UInt32 := 1
  sequence : UInt64 := 0
  id : Bytes
  parentRecordId : Bytes
  publicationId : Bytes
  authenticationTag : Bytes
  payloadDigest : Bytes
  payloadBytes : UInt64 := 0

-- === documents

/-- The fields of `publication_identity_json`. -/
def publicationIdentityFields (publication : OccupancyPublication) :
    List (String × Json) :=
  [("algorithm", num publication.algorithm.toNat),
    ("occupancy_bundle_id", string publication.occupancyBundleId),
    ("parent_publication_id", string publication.parentPublicationId),
    ("payload_bytes", uint publication.payloadBytes.toNat),
    ("payload_digest", string publication.payloadDigest),
    ("publisher_key_id", string publication.publisherKeyId),
    ("publisher_sequence", uint publication.publisherSequence.toNat),
    ("publisher_service_id", string publication.publisherServiceId),
    ("storage_schema", num publication.storageSchema.toNat),
    ("stream_id", string publication.streamId),
    ("timeline_id", string publication.timelineId),
    ("trust_bundle_id", string publication.trustBundleId),
    ("valid_from_tick", uint publication.validFromTick.toNat),
    ("valid_through_tick", uint publication.validThroughTick.toNat),
    ("workspace_frame_id", string publication.workspaceFrameId)]

/-- The fields of `record_payload` without the id. -/
def recordIdentityFields (record : OccupancyPublicationHistoryRecord) :
    List (String × Json) :=
  [("authentication_tag", string record.authenticationTag),
    ("parent_record_id", string record.parentRecordId),
    ("payload_bytes", uint record.payloadBytes.toNat),
    ("payload_digest", string record.payloadDigest),
    ("publication_id", string record.publicationId),
    ("sequence", uint record.sequence.toNat),
    ("storage_schema", num record.storageSchema.toNat)]

section
variable (P : Platform)

/-- What `occupancy_publication_identity` digests. -/
def publicationDocument (publication : OccupancyPublication) : Bytes :=
  dump P.toLibc false 0 (object (obj (publicationIdentityFields publication)))

/-- `occupancy_publication_identity`. -/
def occupancyPublicationIdentity (publication : OccupancyPublication) : Bytes :=
  P.sha256 (publicationDocument P publication)

/-- What `occupancy_publication_history_record_identity` digests: the
payload of the record after its id is erased. -/
def historyRecordDocument (record : OccupancyPublicationHistoryRecord) : Bytes :=
  dump P.toLibc false 0 (object (obj (recordIdentityFields record)))

/-- `occupancy_publication_history_record_identity`. -/
def occupancyPublicationHistoryRecordIdentity
    (record : OccupancyPublicationHistoryRecord) : Bytes :=
  P.sha256 (historyRecordDocument P record)

-- === validity

/-- `valid_signature`. -/
def validSignature (value : Bytes) : Bool :=
  validLowerHex value (kEd25519SignatureBytes * 2)

/-- `valid_parent`. -/
def validParent (sequence : UInt64) (parentId : Bytes) : Bool :=
  if sequence = 1 then parentId.isEmpty else validSha256 parentId

/-- `OccupancyPublication::valid`. -/
def OccupancyPublication.valid (publication : OccupancyPublication) : Bool :=
  decide (publication.storageSchema = kCoordinationSchema)
    && decide (0 < publication.publisherSequence)
    && validParent publication.publisherSequence publication.parentPublicationId
    && validSha256 publication.id
    && decide (publication.id = occupancyPublicationIdentity P publication)
    && validIdentifier publication.streamId
    && validIdentifier publication.publisherServiceId
    && validSha256 publication.publisherKeyId
    && validSha256 publication.trustBundleId
    && validSha256 publication.occupancyBundleId
    && validIdentifier publication.timelineId
    && validIdentifier publication.workspaceFrameId
    && decide (publication.validFromTick ≤ publication.validThroughTick)
    && validSha256 publication.payloadDigest
    && decide (0 < publication.payloadBytes)
    && decide (publication.algorithm = .ed25519)
    && validSignature publication.authenticationTag

/-- `OccupancyPublicationHistoryRecord::valid`. -/
def OccupancyPublicationHistoryRecord.valid
    (record : OccupancyPublicationHistoryRecord) : Bool :=
  decide (record.storageSchema = kCoordinationSchema)
    && decide (0 < record.sequence)
    && validParent record.sequence record.parentRecordId
    && validSha256 record.id
    && decide (record.id = occupancyPublicationHistoryRecordIdentity P record)
    && validSha256 record.publicationId
    && validSignature record.authenticationTag
    && validSha256 record.payloadDigest
    && decide (0 < record.payloadBytes)

/-- `verify_occupancy_publication_successor`. -/
def verifyOccupancyPublicationSuccessor
    (previous successor : OccupancyPublication) : Result Unit :=
  if previous.valid P = false ∨ successor.valid P = false then
    failure .invalidArgument "occupancy publication successor input is invalid"
  else if previous.publisherSequence.toNat = 2 ^ 64 - 1
      ∨ successor.publisherSequence ≠ previous.publisherSequence + 1
      ∨ successor.parentPublicationId ≠ previous.id
      ∨ successor.streamId ≠ previous.streamId
      ∨ successor.publisherServiceId ≠ previous.publisherServiceId
      ∨ successor.timelineId ≠ previous.timelineId
      ∨ successor.workspaceFrameId ≠ previous.workspaceFrameId then
    failure .identityMismatch
      "occupancy publication successor does not extend the same publisher stream"
      successor.id
  else .ok ()

end

end RbfSafe
