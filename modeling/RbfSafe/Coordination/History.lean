/-
The two publication histories, and when one is valid.

A history holds a record and a publication for each step of a stream. In
the first kind every publication names one pinned trust bundle; in the
rotating kind the publications name bundles of a trust history, never an
earlier one than the publication before. Apart from that the two check
their entries alike (`publicationsLinked`).
-/
import RbfSafe.Coordination.Types
import RbfSafe.Identity.Replay

namespace RbfSafe

-- === options

/-- `ContinuousFleetOccupancyBundleLoadOptions`. -/
structure ContinuousFleetOccupancyBundleLoadOptions where
  maximumOccupancies : Nat := 10000
  maximumInputWaypoints : Nat := 1000000
  maximumDimension : Nat := 1024
  maximumSlices : Nat := 10000000
  maximumLinkEnvelopes : Nat := 100000000
  maximumConflicts : Nat := 10000000
  maximumSlicePairEvaluations : Nat := 10000000
  maximumLinkPairEvaluations : Nat := 100000000
  maximumPayloadBytes : Nat := 268435456

/-- `OccupancyPublicationHistoryLoadOptions`. -/
structure OccupancyPublicationHistoryLoadOptions where
  maximumPublications : Nat := 100000
  maximumManifestBytes : Nat := 65536
  maximumRecordBytes : Nat := 65536
  maximumPublicationBytes : Nat := 1048576
  maximumTrustBundleBytes : Nat := 4194304
  maximumTotalPayloadBytes : Nat := 4294967296
  maximumTrustKeys : Nat := 100000
  occupancy : ContinuousFleetOccupancyBundleLoadOptions := {}

/-- `RotatingOccupancyPublicationHistoryLoadOptions`. -/
structure RotatingOccupancyPublicationHistoryLoadOptions where
  maximumPublications : Nat := 100000
  maximumManifestBytes : Nat := 65536
  maximumRecordBytes : Nat := 65536
  maximumPublicationBytes : Nat := 1048576
  maximumTotalPayloadBytes : Nat := 4294967296
  trust : ServiceTrustHistoryLoadOptions := {}
  occupancy : ContinuousFleetOccupancyBundleLoadOptions := {}

/-- What both `valid_load_options` ask of the bundle's limits. -/
def validBundleLoadOptions (occupancy : ContinuousFleetOccupancyBundleLoadOptions) :
    Bool :=
  decide (0 < occupancy.maximumOccupancies)
    && decide (0 < occupancy.maximumInputWaypoints)
    && decide (0 < occupancy.maximumDimension)
    && decide (0 < occupancy.maximumSlices)
    && decide (0 < occupancy.maximumLinkEnvelopes)
    && decide (0 < occupancy.maximumConflicts)
    && decide (0 < occupancy.maximumSlicePairEvaluations)
    && decide (0 < occupancy.maximumLinkPairEvaluations)
    && decide (0 < occupancy.maximumPayloadBytes)

/-- `valid_load_options`. -/
def validLoadOptions (options : OccupancyPublicationHistoryLoadOptions) : Bool :=
  decide (0 < options.maximumPublications)
    && decide (0 < options.maximumManifestBytes)
    && decide (0 < options.maximumRecordBytes)
    && decide (0 < options.maximumPublicationBytes)
    && decide (0 < options.maximumTrustBundleBytes)
    && decide (0 < options.maximumTotalPayloadBytes)
    && decide (0 < options.maximumTrustKeys)
    && validBundleLoadOptions options.occupancy

/-- `valid_load_options` of the rotating history. -/
def validRotatingLoadOptions
    (options : RotatingOccupancyPublicationHistoryLoadOptions) : Bool :=
  decide (0 < options.maximumPublications)
    && decide (0 < options.maximumManifestBytes)
    && decide (0 < options.maximumRecordBytes)
    && decide (0 < options.maximumPublicationBytes)
    && decide (0 < options.maximumTotalPayloadBytes)
    && decide (0 < options.trust.maximumBundles)
    && decide (0 < options.trust.maximumKeysPerBundle)
    && decide (0 < options.trust.maximumTotalKeys)
    && decide (0 < options.trust.maximumSignaturesPerRotation)
    && decide (0 < options.trust.maximumMetadataBytes)
    && decide (0 < options.trust.maximumBundleBytes)
    && validBundleLoadOptions options.occupancy

-- === entries

/-- A record, its publication and the path of its payload. -/
structure PublicationEntry where
  record : OccupancyPublicationHistoryRecord
  publication : OccupancyPublication
  payloadPath : Bytes

/-- What all publications of a stream agree on. -/
structure PublicationStream where
  streamId : Bytes
  publisherServiceId : Bytes
  rootPublicationId : Bytes
  timelineId : Bytes
  workspaceFrameId : Bytes

section
variable (P : Platform) (stream : PublicationStream)
  (trusted : Option OccupancyPublication → OccupancyPublication → Bool)

/-- One round of the loop of `valid`; `trusted` is the part in which the
two histories differ. -/
def publicationEntryValid (index : Nat) (previous : Option PublicationEntry)
    (entry : PublicationEntry) : Bool :=
  entry.record.valid P && entry.publication.valid P
    && decide (entry.record.sequence.toNat = index + 1)
    && decide (entry.publication.publisherSequence.toNat = index + 1)
    && decide (entry.record.publicationId = entry.publication.id)
    && decide (entry.record.authenticationTag
      = entry.publication.authenticationTag)
    && decide (entry.record.payloadDigest = entry.publication.payloadDigest)
    && decide (entry.record.payloadBytes = entry.publication.payloadBytes)
    && decide (entry.publication.streamId = stream.streamId)
    && decide (entry.publication.publisherServiceId = stream.publisherServiceId)
    && trusted (previous.map (·.publication)) entry.publication
    && decide (entry.publication.timelineId = stream.timelineId)
    && decide (entry.publication.workspaceFrameId = stream.workspaceFrameId)
    && !entry.payloadPath.isEmpty
    && match previous with
      | none => entry.record.parentRecordId.isEmpty
          && entry.publication.parentPublicationId.isEmpty
          && decide (entry.publication.id = stream.rootPublicationId)
      | some previous =>
          decide (entry.record.parentRecordId = previous.record.id)
            && (verifyOccupancyPublicationSuccessor P previous.publication
              entry.publication).isOk

/-- The loop of `valid`. -/
def publicationsLinked : Nat → Option PublicationEntry →
    List PublicationEntry → Bool
  | _, _, [] => true
  | index, previous, entry :: rest =>
      publicationEntryValid P stream trusted index previous entry
        && publicationsLinked (index + 1) (some entry) rest

end

-- === histories

/-- `OccupancyPublicationHistory`. The records, publications and payload
paths are three lists of one length. -/
structure OccupancyPublicationHistory where
  directory : Bytes
  storageSchema : UInt32 := 1
  stream : PublicationStream
  trustBundleId : Bytes
  currentPublicationId : Bytes
  trustBundle : Option ServiceTrustBundle
  entries : List PublicationEntry
  options : OccupancyPublicationHistoryLoadOptions := {}

/-- `RotatingOccupancyPublicationHistory`. -/
structure RotatingOccupancyPublicationHistory where
  directory : Bytes
  storageSchema : UInt32 := 1
  stream : PublicationStream
  trustRootBundleId : Bytes
  currentTrustBundleId : Bytes
  currentPublicationId : Bytes
  trustHistory : Option ServiceTrustHistory
  entries : List PublicationEntry
  options : RotatingOccupancyPublicationHistoryLoadOptions := {}

section
variable (P : Platform)

/-- What both histories ask of their stream and their head. -/
def validStream (stream : PublicationStream) (currentPublicationId : Bytes) :
    Bool :=
  validIdentifier stream.streamId && validIdentifier stream.publisherServiceId
    && validSha256 stream.rootPublicationId && validSha256 currentPublicationId
    && validIdentifier stream.timelineId
    && validIdentifier stream.workspaceFrameId

/-- The test of the pinned bundle. -/
def pinnedBundle (trustBundleId : Bytes) (_ : Option OccupancyPublication)
    (publication : OccupancyPublication) : Bool :=
  decide (publication.trustBundleId = trustBundleId)

/-- `OccupancyPublicationHistory::valid`. -/
def OccupancyPublicationHistory.valid (history : OccupancyPublicationHistory) :
    Bool :=
  decide (history.storageSchema = kCoordinationSchema)
    && !history.directory.isEmpty
    && validStream history.stream history.currentPublicationId
    && validSha256 history.trustBundleId
    && history.trustBundle.any (fun bundle =>
      bundle.valid P && decide (bundle.id = history.trustBundleId))
    && validLoadOptions history.options
    && publicationsLinked P history.stream (pinnedBundle history.trustBundleId)
      0 none history.entries
    && history.entries.getLast?.any fun entry =>
      decide (history.currentPublicationId = entry.publication.id)

/-- `trust_bundle_position`. -/
def trustBundlePosition (history : ServiceTrustHistory) (bundleId : Bytes) :
    Option Nat :=
  history.records.findIdx? fun record => record.bundleId == bundleId

/-- The test of the position in the trust history. -/
def rotatedBundle (history : ServiceTrustHistory)
    (previous : Option OccupancyPublication)
    (publication : OccupancyPublication) : Bool :=
  (trustBundlePosition history publication.trustBundleId).any fun position =>
    ((previous.bind fun previous =>
      trustBundlePosition history previous.trustBundleId).all
      fun previousPosition => decide (previousPosition ≤ position))

/-- `RotatingOccupancyPublicationHistory::valid`. -/
def RotatingOccupancyPublicationHistory.valid
    (history : RotatingOccupancyPublicationHistory) : Bool :=
  decide (history.storageSchema = kCoordinationSchema)
    && !history.directory.isEmpty
    && validStream history.stream history.currentPublicationId
    && validSha256 history.trustRootBundleId
    && validSha256 history.currentTrustBundleId
    && validRotatingLoadOptions history.options
    && history.trustHistory.any (fun trust => trust.valid P
      && decide (trust.rootBundleId = history.trustRootBundleId)
      && decide (trust.currentBundleId = history.currentTrustBundleId)
      && publicationsLinked P history.stream (rotatedBundle trust) 0 none
        history.entries)
    && history.entries.getLast?.any fun entry =>
      decide (history.currentPublicationId = entry.publication.id)

end

end RbfSafe
