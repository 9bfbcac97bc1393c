/-
Verifying an occupancy publication against the payload it announces.

The publication is held against the pins of the caller, the key of its
publisher and the payload file it is bound to. What is on the disk is a
parameter, as is the decoder of the payload's own format: what a file
holds, and which bundle its bytes are.
-/
import RbfSafe.Coordination.History
import RbfSafe.Occupancy.Bundle

namespace RbfSafe

open Json

/-- `VerifiedOccupancyPublication`. -/
structure VerifiedOccupancyPublication where
  id : Bytes := []
  publicationId : Bytes
  streamId : Bytes
  publisherSequence : UInt64 := 0
  publisherServiceId : Bytes
  publisherKeyId : Bytes
  trustBundleId : Bytes
  occupancyBundleId : Bytes
  timelineId : Bytes
  workspaceFrameId : Bytes
  validFromTick : UInt64 := 0
  validThroughTick : UInt64 := 0
  evaluationTick : UInt64 := 0
  payloadDigest : Bytes
  payloadBytes : UInt64 := 0

/-- The payload files: `read` is `internal::read_binary_file` after the
tests of the path, under a limit of bytes; `load` is
`load_continuous_fleet_occupancy_bundle`. -/
structure PayloadFiles where
  read : Bytes → Nat → Result Bytes
  load : Bytes → ContinuousFleetOccupancyBundleLoadOptions →
    Result (ContinuousFleetOccupancyBundle Float)

section
variable (P : Platform)

/-- `verified_identity_json`. -/
def verifiedIdentityJson (v : VerifiedOccupancyPublication) : Json :=
  object (obj [
    ("evaluation_tick", uint v.evaluationTick.toNat),
    ("occupancy_bundle_id", string v.occupancyBundleId),
    ("payload_bytes", uint v.payloadBytes.toNat),
    ("payload_digest", string v.payloadDigest),
    ("publication_id", string v.publicationId),
    ("publisher_key_id", string v.publisherKeyId),
    ("publisher_sequence", uint v.publisherSequence.toNat),
    ("publisher_service_id", string v.publisherServiceId),
    ("stream_id", string v.streamId),
    ("timeline_id", string v.timelineId),
    ("trust_bundle_id", string v.trustBundleId),
    ("valid_from_tick", uint v.validFromTick.toNat),
    ("valid_through_tick", uint v.validThroughTick.toNat),
    ("workspace_frame_id", string v.workspaceFrameId)])

/-- `verified_occupancy_publication_identity`. -/
def verifiedOccupancyPublicationIdentity (v : VerifiedOccupancyPublication) :
    Bytes :=
  P.sha256 ((verifiedIdentityJson v).dump P.toLibc false 0)

/-- `VerifiedOccupancyPublication::valid`. -/
def VerifiedOccupancyPublication.valid (v : VerifiedOccupancyPublication) :
    Bool :=
  validSha256 v.id && decide (v.id = verifiedOccupancyPublicationIdentity P v)
    && validSha256 v.publicationId && validIdentifier v.streamId
    && decide (0 < v.publisherSequence) && validIdentifier v.publisherServiceId
    && validSha256 v.publisherKeyId && validSha256 v.trustBundleId
    && validSha256 v.occupancyBundleId && validIdentifier v.timelineId
    && validIdentifier v.workspaceFrameId
    && decide (v.validFromTick ≤ v.validThroughTick)
    && decide (v.validFromTick ≤ v.evaluationTick)
    && decide (v.evaluationTick ≤ v.validThroughTick)
    && validSha256 v.payloadDigest && decide (0 < v.payloadBytes)

-- === payload

variable (files : PayloadFiles)

/-- `read_occupancy_payload`. -/
def readOccupancyPayload (path : Bytes)
    (options : ContinuousFleetOccupancyBundleLoadOptions) : Result Bytes :=
  if path.isEmpty ∨ options.maximumPayloadBytes = 0 then
    failure .invalidArgument
      "occupancy publication payload path or limits are invalid"
  else files.read path options.maximumPayloadBytes

/-- `load_exact_occupancy_payload`. -/
def loadExactOccupancyPayload (payload : Bytes)
    (options : ContinuousFleetOccupancyBundleLoadOptions) :
    Result (ContinuousFleetOccupancyBundle Float) := do
  let loaded ← files.load payload options
  if !loaded.valid P then
    failure .corruptData
      "occupancy publication payload contains an invalid bundle"
  else .ok loaded

/-- `bundle_covers_window`. -/
def bundleCoversWindow (bundle : ContinuousFleetOccupancyBundle Float)
    (validFromTick validThroughTick : UInt64) : Bool :=
  bundle.valid P && decide (validFromTick ≤ validThroughTick)
    && bundle.occupancies.all fun occupancy =>
      match occupancy.trajectory.head?, occupancy.trajectory.getLast? with
      | some front, some back =>
          decide (front.tick ≤ validFromTick.toNat)
            && decide (validThroughTick.toNat ≤ back.tick)
      | _, _ => false

/-- `verify_payload_binding`. -/
def verifyPayloadBinding (bundle : ContinuousFleetOccupancyBundle Float)
    (publication : OccupancyPublication) (payload : Bytes) : Result Unit :=
  if payload.isEmpty ∨ 2 ^ 64 ≤ payload.length then
    failure .resourceLimit
      "occupancy publication payload size is not representable"
  else if publication.payloadBytes.toNat ≠ payload.length
      ∨ publication.payloadDigest ≠ P.sha256 payload then
    failure .identityMismatch
      "occupancy publication is bound to different payload bytes" publication.id
  else if publication.occupancyBundleId ≠ bundle.id
      ∨ publication.timelineId ≠ bundle.report.timelineId
      ∨ publication.workspaceFrameId ≠ bundle.report.workspaceFrameId then
    failure .identityMismatch
      "occupancy publication metadata does not match the payload bundle"
      publication.id
  else if !bundleCoversWindow P bundle publication.validFromTick
      publication.validThroughTick then
    failure .identityMismatch
      "occupancy publication validity window is not covered by every deployment trajectory"
      publication.id
  else .ok ()

-- === verification

/-- `occupancy_publication_signature_message`. -/
def occupancyPublicationSignatureMessage (publication : OccupancyPublication) :
    Bytes :=
  (object (obj [
    ("domain", string (ascii
      "rbfsafe-continuous-fleet-occupancy-publication-signature-v1")),
    ("publication_id", string publication.id)])).dump P.toLibc false 0

/-- What `verify_continuous_fleet_occupancy_publication` returns. -/
def verifiedPublication (publication : OccupancyPublication)
    (evaluationTick : UInt64) : VerifiedOccupancyPublication :=
  let result : VerifiedOccupancyPublication :=
    { publicationId := publication.id
      streamId := publication.streamId
      publisherSequence := publication.publisherSequence
      publisherServiceId := publication.publisherServiceId
      publisherKeyId := publication.publisherKeyId
      trustBundleId := publication.trustBundleId
      occupancyBundleId := publication.occupancyBundleId
      timelineId := publication.timelineId
      workspaceFrameId := publication.workspaceFrameId
      validFromTick := publication.validFromTick
      validThroughTick := publication.validThroughTick
      evaluationTick := evaluationTick
      payloadDigest := publication.payloadDigest
      payloadBytes := publication.payloadBytes }
  { result with id := verifiedOccupancyPublicationIdentity P result }

/-- `verify_continuous_fleet_occupancy_publication`. -/
def verifyContinuousFleetOccupancyPublication (payloadPath : Bytes)
    (publication : OccupancyPublication) (trustBundle : ServiceTrustBundle)
    (expectedStreamId expectedPublisherServiceId expectedTrustBundleId
      expectedParentPublicationId : Bytes) (evaluationTick : UInt64)
    (options : ContinuousFleetOccupancyBundleLoadOptions) :
    Result VerifiedOccupancyPublication :=
  if publication.valid P = false ∨ trustBundle.valid P = false
      ∨ validIdentifier expectedStreamId = false
      ∨ validIdentifier expectedPublisherServiceId = false
      ∨ validSha256 expectedTrustBundleId = false
      ∨ (expectedParentPublicationId.isEmpty
        || validSha256 expectedParentPublicationId) = false then
    failure .invalidArgument
      "occupancy publication verification input or caller pins are invalid"
  else if publication.streamId ≠ expectedStreamId
      ∨ publication.publisherServiceId ≠ expectedPublisherServiceId
      ∨ publication.trustBundleId ≠ expectedTrustBundleId
      ∨ trustBundle.id ≠ expectedTrustBundleId
      ∨ publication.parentPublicationId ≠ expectedParentPublicationId then
    failure .identityMismatch
      "occupancy publication does not match caller-pinned stream, publisher, trust, or parent"
      publication.id
  else if evaluationTick < publication.validFromTick
      ∨ publication.validThroughTick < evaluationTick then
    failure .identityMismatch
      "occupancy publication is not valid at the requested evaluation tick"
      publication.id
  else do
    let trusted ← trustedServicePublicKey P trustBundle
      publication.publisherServiceId publication.publisherKeyId .publish
      publication.publisherSequence
    let signature ← decodeHex publication.authenticationTag
      kEd25519SignatureBytes
    ed25519Verify P (occupancyPublicationSignatureMessage P publication)
      signature trusted.publicKey.toList
    let payload ← readOccupancyPayload files payloadPath options
    let bundle ← loadExactOccupancyPayload P files payload options
    verifyPayloadBinding P bundle publication payload
    let result := verifiedPublication P publication evaluationTick
    if !result.valid P then
      failure .internalError
        "occupancy publication verifier produced invalid output"
    else .ok result

-- === lookup

namespace RotatingOccupancyPublicationHistory

variable (history : RotatingOccupancyPublicationHistory)

/-- `RotatingOccupancyPublicationHistory::trust_history`. -/
def replayedTrustHistory : Result ServiceTrustHistory :=
  match history.valid P, history.trustHistory with
  | true, some trust => .ok trust
  | _, _ =>
      failure .invalidArgument
        "rotating occupancy publication-history object is not initialized"

/-- Where `std::find_if` finds a publication. -/
def publicationPosition (publicationId : Bytes) : Option Nat :=
  history.entries.findIdx? fun entry =>
    decide (entry.publication.id = publicationId)

/-- `RotatingOccupancyPublicationHistory::publication`. -/
def publication (publicationId : Bytes) : Result OccupancyPublication :=
  if history.valid P = false ∨ validSha256 publicationId = false then
    failure .invalidArgument
      "rotating occupancy publication-history lookup input is invalid"
  else
    match (history.publicationPosition publicationId).bind
        (history.entries[·]?) with
    | none =>
        failure .invalidArgument
          "occupancy publication is not registered in this rotating history"
          publicationId
    | some entry => .ok entry.publication

/-- The parent `RotatingOccupancyPublicationHistory::verify` expects. -/
def expectedParent (index : Nat) : Bytes :=
  if index = 0 then []
  else (history.entries[index - 1]?).elim [] (·.publication.id)

/-- What `RotatingOccupancyPublicationHistory::verify` does with the
publication it found. -/
def verifyEntry (trust : ServiceTrustHistory) (index : Nat)
    (entry : PublicationEntry) (evaluationTick : UInt64) :
    Result VerifiedOccupancyPublication := do
  let trustBundle ← trust.bundle P entry.publication.trustBundleId
  verifyContinuousFleetOccupancyPublication P files entry.payloadPath
    entry.publication trustBundle history.stream.streamId
    history.stream.publisherServiceId entry.publication.trustBundleId
    (history.expectedParent index) evaluationTick history.options.occupancy

/-- `RotatingOccupancyPublicationHistory::verify`. -/
def verify (publicationId : Bytes) (evaluationTick : UInt64) :
    Result VerifiedOccupancyPublication :=
  if history.valid P = false ∨ validSha256 publicationId = false then
    failure .invalidArgument
      "rotating occupancy publication-history verification input is invalid"
  else
    match history.publicationPosition publicationId, history.trustHistory with
    | some index, some trust =>
        match history.entries[index]? with
        | some entry => history.verifyEntry P files trust index entry evaluationTick
        | none =>
            failure .invalidArgument
              "occupancy publication is not registered in this rotating history"
              publicationId
    | _, _ =>
        failure .invalidArgument
          "occupancy publication is not registered in this rotating history"
          publicationId

end RotatingOccupancyPublicationHistory

end

end RbfSafe
