/-
Coordinated reservation agreements.

Several publishers announce one occupancy plan; an agreement pins for each
deployment of the plan the publication that announced it and the trust
head it was read under. An agreement is replayed against the plan and the
histories (`verifyCoordinatedReservationAgreement`), and the agreement of
the next round against its predecessor
(`verifyCoordinatedReservationSuccessor`). The histories come with a list
of deployment ids that says which is whose. No call is cancelled.
-/
import RbfSafe.Coordination.Verification

namespace RbfSafe

open Json

-- === records

/-- `CoordinatedReservationParticipant`. -/
structure CoordinatedReservationParticipant where
  storageSchema : UInt32 := 1
  id : Bytes := []
  deploymentId : Bytes
  occupancyId : Bytes
  streamId : Bytes
  publisherServiceId : Bytes
  publisherKeyId : Bytes
  publisherSequence : UInt64 := 0
  trustRootBundleId : Bytes
  trustHeadBundleId : Bytes
  publicationTrustBundleId : Bytes
  publicationRootId : Bytes
  publicationHeadId : Bytes
  verifiedPublicationId : Bytes
  payloadDigest : Bytes
  payloadBytes : UInt64 := 0
  validFromTick : UInt64 := 0
  validThroughTick : UInt64 := 0

/-- `CoordinatedReservationAgreementLoadOptions`, less the cancellation. -/
structure CoordinatedReservationAgreementLoadOptions where
  maximumParticipants : Nat := 10000
  maximumPayloadBytes : Nat := 16777216

/-- `CoordinatedReservationAgreement`. -/
structure CoordinatedReservationAgreement where
  storageSchema : UInt32 := 1
  id : Bytes := []
  protocolId : Bytes
  round : UInt64 := 0
  parentAgreementId : Bytes
  evaluationTick : UInt64 := 0
  validFromTick : UInt64 := 0
  validThroughTick : UInt64 := 0
  occupancyBundleId : Bytes
  occupancyReportId : Bytes
  timelineId : Bytes
  workspaceFrameId : Bytes
  minimumSeparation : Float
  payloadDigest : Bytes
  payloadBytes : UInt64 := 0
  participants : List CoordinatedReservationParticipant

-- === documents

/-- The brace list of `participant_identity_json`. -/
def participantIdentityFields (p : CoordinatedReservationParticipant) :
    List (String × Json) :=
  [("deployment_id", string p.deploymentId),
    ("occupancy_id", string p.occupancyId),
    ("payload_bytes", uint p.payloadBytes.toNat),
    ("payload_digest", string p.payloadDigest),
    ("publication_head_id", string p.publicationHeadId),
    ("publication_root_id", string p.publicationRootId),
    ("publication_trust_bundle_id", string p.publicationTrustBundleId),
    ("publisher_key_id", string p.publisherKeyId),
    ("publisher_sequence", uint p.publisherSequence.toNat),
    ("publisher_service_id", string p.publisherServiceId),
    ("storage_schema", num p.storageSchema.toNat),
    ("stream_id", string p.streamId),
    ("trust_head_bundle_id", string p.trustHeadBundleId),
    ("trust_root_bundle_id", string p.trustRootBundleId),
    ("valid_from_tick", uint p.validFromTick.toNat),
    ("valid_through_tick", uint p.validThroughTick.toNat),
    ("verified_publication_id", string p.verifiedPublicationId)]

/-- The brace list of `agreement_identity_json`. -/
def agreementIdentityFields (a : CoordinatedReservationAgreement) :
    List (String × Json) :=
  [("evaluation_tick", uint a.evaluationTick.toNat),
    ("minimum_separation", MetricScalar.json a.minimumSeparation),
    ("occupancy_bundle_id", string a.occupancyBundleId),
    ("occupancy_report_id", string a.occupancyReportId),
    ("parent_agreement_id", string a.parentAgreementId),
    ("participants", array (a.participants.map fun p => string p.id)),
    ("payload_bytes", uint a.payloadBytes.toNat),
    ("payload_digest", string a.payloadDigest),
    ("protocol_id", string a.protocolId),
    ("round", uint a.round.toNat),
    ("storage_schema", num a.storageSchema.toNat),
    ("timeline_id", string a.timelineId),
    ("valid_from_tick", uint a.validFromTick.toNat),
    ("valid_through_tick", uint a.validThroughTick.toNat),
    ("workspace_frame_id", string a.workspaceFrameId)]

section
variable (P : Platform)

/-- What `coordinated_reservation_participant_identity` digests. -/
def participantDocument (p : CoordinatedReservationParticipant) : Bytes :=
  dump P.toLibc false 0 (object (obj (participantIdentityFields p)))

/-- `coordinated_reservation_participant_identity`. -/
def coordinatedReservationParticipantIdentity
    (p : CoordinatedReservationParticipant) : Bytes :=
  P.sha256 (participantDocument P p)

/-- `coordinated_reservation_agreement_identity`. -/
def coordinatedReservationAgreementIdentity
    (a : CoordinatedReservationAgreement) : Bytes :=
  P.sha256 (dump P.toLibc false 0 (object (obj (agreementIdentityFields a))))

-- === validity

/-- `negative_zero`: the zero that is printed with its sign. -/
def negativeZero (value : Float) : Bool :=
  Scalar.eq value Scalar.zero && match MetricScalar.json value with
    | .number .negativeZero => true
    | _ => false

/-- `CoordinatedReservationParticipant::valid`. -/
def CoordinatedReservationParticipant.valid
    (p : CoordinatedReservationParticipant) : Bool :=
  decide (p.storageSchema = kCoordinationSchema) && validSha256 p.id
    && decide (p.id = coordinatedReservationParticipantIdentity P p)
    && validIdentifier p.deploymentId && validSha256 p.occupancyId
    && validIdentifier p.streamId && validIdentifier p.publisherServiceId
    && validSha256 p.publisherKeyId && decide (0 < p.publisherSequence)
    && validSha256 p.trustRootBundleId && validSha256 p.trustHeadBundleId
    && validSha256 p.publicationTrustBundleId
    && validSha256 p.publicationRootId && validSha256 p.publicationHeadId
    && validSha256 p.verifiedPublicationId && validSha256 p.payloadDigest
    && decide (0 < p.payloadBytes)
    && decide (p.validFromTick ≤ p.validThroughTick)

/-- The loop of `CoordinatedReservationAgreement::valid`, with the
deployment before, and the occupancies and publishers seen. -/
def participantsValid (a : CoordinatedReservationAgreement) :
    Option Bytes → List Bytes → List (Bytes × Bytes) →
    List CoordinatedReservationParticipant → Bool
  | _, _, _, [] => true
  | previous, occupancyIds, publishers, p :: rest =>
      p.valid P
        && previous.all (fun deploymentId => decide (deploymentId < p.deploymentId))
        && decide (p.occupancyId ∉ occupancyIds)
        && decide ((p.publisherServiceId, p.streamId) ∉ publishers)
        && decide (p.payloadDigest = a.payloadDigest)
        && decide (p.payloadBytes = a.payloadBytes)
        && decide (p.validFromTick ≤ a.evaluationTick)
        && decide (a.evaluationTick ≤ p.validThroughTick)
        && participantsValid a (some p.deploymentId) (p.occupancyId :: occupancyIds)
          ((p.publisherServiceId, p.streamId) :: publishers) rest

/-- The `expected_from` of a list of participants. -/
def expectedFrom (participants : List CoordinatedReservationParticipant) :
    UInt64 :=
  participants.foldl (fun expected p => max expected p.validFromTick) 0

/-- The `expected_through` of a list of participants. -/
def expectedThrough (participants : List CoordinatedReservationParticipant) :
    UInt64 :=
  participants.foldl (fun expected p => min expected p.validThroughTick)
    (.ofNat (2 ^ 64 - 1))

/-- `CoordinatedReservationAgreement::valid`. -/
def CoordinatedReservationAgreement.valid
    (a : CoordinatedReservationAgreement) : Bool :=
  decide (a.storageSchema = kCoordinationSchema) && validSha256 a.id
    && decide (a.id = coordinatedReservationAgreementIdentity P a)
    && validIdentifier a.protocolId && decide (a.round ≠ 0)
    && validParent a.round a.parentAgreementId
    && decide (a.validFromTick ≤ a.evaluationTick)
    && decide (a.evaluationTick ≤ a.validThroughTick)
    && validSha256 a.occupancyBundleId && validSha256 a.occupancyReportId
    && validIdentifier a.timelineId && validIdentifier a.workspaceFrameId
    && Scalar.isFinite a.minimumSeparation
    && !Scalar.lt a.minimumSeparation Scalar.zero
    && !negativeZero a.minimumSeparation && validSha256 a.payloadDigest
    && decide (a.payloadBytes ≠ 0) && decide (2 ≤ a.participants.length)
    && participantsValid P a none [] [] a.participants
    && decide (a.validFromTick = expectedFrom a.participants)
    && decide (a.validThroughTick = expectedThrough a.participants)

-- === lookup

/-- `find_occupancy`. -/
def findOccupancy (bundle : ContinuousFleetOccupancyBundle Float)
    (deploymentId : Bytes) : Option (RobotTrajectoryOccupancy Float) :=
  bundle.occupancies.find? fun occupancy =>
    decide (occupancy.deploymentId = deploymentId)

/-- The loops that look a deployment id up, and refuse it if it comes
twice. -/
def sourceIndex (duplicated : String) (deploymentId : Bytes) :
    Nat → Option Nat → List Bytes → Result (Option Nat)
  | _, found, [] => .ok found
  | index, found, candidate :: rest =>
      if candidate = deploymentId then
        match found with
        | some _ => failure .invalidArgument duplicated deploymentId
        | none => sourceIndex duplicated deploymentId (index + 1) (some index) rest
      else sourceIndex duplicated deploymentId (index + 1) found rest

/-- `publication_index`. -/
def publicationIndex (history : RotatingOccupancyPublicationHistory)
    (publicationId : Bytes) : Option Nat :=
  history.entries.findIdx? fun entry =>
    decide (entry.record.publicationId = publicationId)

/-- `trust_index`. -/
def trustIndex (history : ServiceTrustHistory) (bundleId : Bytes) :
    Option Nat :=
  history.records.findIdx? fun record => decide (record.bundleId = bundleId)

/-- The index the loop of `verify_trust_prefix` is left with: the last one
of the id. -/
def lastTrustIndex (bundleId : Bytes) :
    Nat → Option Nat → List ServiceTrustRotationRecord → Option Nat
  | _, found, [] => found
  | index, found, record :: rest =>
      lastTrustIndex bundleId (index + 1)
        (if record.bundleId = bundleId then some index else found) rest

/-- `verify_trust_prefix`. -/
def verifyTrustPrefix (trustHistory : ServiceTrustHistory)
    (publicationTrustBundleId agreementTrustHeadBundleId : Bytes) : Result Unit :=
  match lastTrustIndex publicationTrustBundleId 0 none trustHistory.records,
      lastTrustIndex agreementTrustHeadBundleId 0 none trustHistory.records with
  | some publicationTrustIndex, some agreementTrustHeadIndex =>
      if publicationTrustIndex > agreementTrustHeadIndex then
        failure .identityMismatch
          "reservation publication trust is not a prefix of the pinned agreement trust head"
          publicationTrustBundleId
      else .ok ()
  | _, _ =>
      failure .identityMismatch
        "reservation publication trust is not a prefix of the pinned agreement trust head"
        publicationTrustBundleId

-- === making

/-- `validate_bundle`. -/
def validateBundle (bundle : ContinuousFleetOccupancyBundle Float)
    (maximumParticipants : Nat) : Result Unit :=
  if bundle.valid P = false ∨ maximumParticipants = 0 then
    failure .invalidArgument
      "coordinated reservation bundle or limits are invalid"
  else if bundle.occupancies.length < 2 then
    failure .invalidArgument
      "coordinated reservation requires at least two deployments"
  else if bundle.occupancies.length > maximumParticipants then
    failure .resourceLimit
      "coordinated reservation participant count exceeds limit"
  else if bundle.report.status ≠ .certifiedSeparatedUnderSweptEnvelopes
      ∨ !bundle.report.conflicts.isEmpty then
    failure .identityMismatch
      "coordinated reservation requires a separated continuous occupancy bundle"
      bundle.id
  else .ok ()

variable (files : PayloadFiles)

/-- The participant `make_participant` builds. -/
def participantOf (deploymentId : Bytes)
    (occupancy : RobotTrajectoryOccupancy Float)
    (history : RotatingOccupancyPublicationHistory) (trustHeadBundleId : Bytes)
    (publication : OccupancyPublication) (verified : VerifiedOccupancyPublication) :
    CoordinatedReservationParticipant :=
  let result : CoordinatedReservationParticipant :=
    { storageSchema := kCoordinationSchema
      deploymentId := deploymentId
      occupancyId := occupancy.id
      streamId := history.stream.streamId
      publisherServiceId := history.stream.publisherServiceId
      publisherKeyId := publication.publisherKeyId
      publisherSequence := publication.publisherSequence
      trustRootBundleId := history.trustRootBundleId
      trustHeadBundleId := trustHeadBundleId
      publicationTrustBundleId := publication.trustBundleId
      publicationRootId := history.stream.rootPublicationId
      publicationHeadId := publication.id
      verifiedPublicationId := verified.id
      payloadDigest := verified.payloadDigest
      payloadBytes := verified.payloadBytes
      validFromTick := verified.validFromTick
      validThroughTick := verified.validThroughTick }
  { result with id := coordinatedReservationParticipantIdentity P result }

/-- `make_participant`. -/
def makeParticipant (deploymentId : Bytes)
    (occupancy : RobotTrajectoryOccupancy Float)
    (history : RotatingOccupancyPublicationHistory)
    (publicationId trustHeadBundleId : Bytes) (evaluationTick : UInt64) :
    Result CoordinatedReservationParticipant :=
  if validIdentifier deploymentId = false ∨ occupancy.valid P = false
      ∨ history.valid P = false ∨ validSha256 publicationId = false
      ∨ validSha256 trustHeadBundleId = false then
    failure .invalidArgument
      "coordinated reservation participant input is invalid"
  else do
    let trustHistory ← history.replayedTrustHistory P
    if trustHistory.rootBundleId ≠ history.trustRootBundleId then
      failure .identityMismatch
        "coordinated reservation history has inconsistent trust-root metadata"
    else do
      let _ ← trustHistory.bundle P trustHeadBundleId
      let publication ← history.publication P publicationId
      verifyTrustPrefix trustHistory publication.trustBundleId trustHeadBundleId
      let verified ← history.verify P files publicationId evaluationTick
      let result := participantOf P deploymentId occupancy history
        trustHeadBundleId publication verified
      if !result.valid P then
        failure .internalError
          "coordinated reservation participant construction produced invalid output"
      else .ok result

/-- The loop of `validate_participant_coverage`. -/
def participantsCover (bundle : ContinuousFleetOccupancyBundle Float)
    (front : CoordinatedReservationParticipant) (evaluationTick : UInt64) :
    List CoordinatedReservationParticipant → Result Unit
  | [] => .ok ()
  | p :: rest =>
      if (findOccupancy bundle p.deploymentId).all
            (fun occupancy => decide (occupancy.id ≠ p.occupancyId)) = true
          ∨ p.payloadDigest ≠ front.payloadDigest
          ∨ p.payloadBytes ≠ front.payloadBytes
          ∨ evaluationTick < p.validFromTick
          ∨ p.validThroughTick < evaluationTick then
        failure .identityMismatch
          "coordinated reservation participant does not match the common occupancy plan"
          p.id
      else participantsCover bundle front evaluationTick rest

/-- `validate_participant_coverage`. -/
def validateParticipantCoverage (bundle : ContinuousFleetOccupancyBundle Float)
    (participants : List CoordinatedReservationParticipant)
    (evaluationTick : UInt64) : Result Unit :=
  if participants.length ≠ bundle.occupancies.length then
    failure .identityMismatch
      "coordinated reservation participants do not cover every occupancy deployment"
  else
    match participants with
    | [] => .ok ()
    | front :: rest => participantsCover bundle front evaluationTick (front :: rest)

/-- The agreement `assemble_agreement` builds of sorted participants. -/
def agreementOf (protocolId : Bytes) (round : UInt64) (parentAgreementId : Bytes)
    (evaluationTick : UInt64) (bundle : ContinuousFleetOccupancyBundle Float)
    (front : CoordinatedReservationParticipant)
    (participants : List CoordinatedReservationParticipant) :
    CoordinatedReservationAgreement :=
  let result : CoordinatedReservationAgreement :=
    { storageSchema := kCoordinationSchema
      protocolId := protocolId
      round := round
      parentAgreementId := parentAgreementId
      evaluationTick := evaluationTick
      validFromTick := expectedFrom participants
      validThroughTick := expectedThrough participants
      occupancyBundleId := bundle.id
      occupancyReportId := bundle.report.id
      timelineId := bundle.report.timelineId
      workspaceFrameId := bundle.report.workspaceFrameId
      minimumSeparation := bundle.report.minimumSeparation
      payloadDigest := front.payloadDigest
      payloadBytes := front.payloadBytes
      participants := participants }
  { result with id := coordinatedReservationAgreementIdentity P result }

/-- `assemble_agreement`. -/
def assembleAgreement (protocolId : Bytes) (round : UInt64)
    (parentAgreementId : Bytes) (evaluationTick : UInt64)
    (bundle : ContinuousFleetOccupancyBundle Float)
    (participants : List CoordinatedReservationParticipant) :
    Result CoordinatedReservationAgreement :=
  if validIdentifier protocolId = false ∨ round = 0
      ∨ validParent round parentAgreementId = false ∨ participants = [] then
    failure .invalidArgument
      "coordinated reservation agreement metadata is invalid"
  else do
    let participants := Lib.Sorting.sort
      CoordinatedReservationParticipant.deploymentId participants
    validateParticipantCoverage bundle participants evaluationTick
    match participants with
    | [] =>
        failure .invalidArgument
          "coordinated reservation agreement metadata is invalid"
    | front :: rest =>
        let result := agreementOf P protocolId round parentAgreementId
          evaluationTick bundle front (front :: rest)
        if !result.valid P then
          failure .internalError
            "coordinated reservation agreement construction produced invalid output"
        else .ok result

/-- The loop over the deployment ids. -/
def checkDeploymentIds : List Bytes → List Bytes → Result Unit
  | _, [] => .ok ()
  | seen, deploymentId :: rest =>
      if validIdentifier deploymentId = false ∨ deploymentId ∈ seen then
        failure .invalidArgument
          "coordinated reservation deployment input is invalid or duplicated"
          deploymentId
      else checkDeploymentIds (deploymentId :: seen) rest

/-- One round of the loop over the histories. -/
def makeListed (bundle : ContinuousFleetOccupancyBundle Float)
    (options : CoordinatedReservationAgreementLoadOptions)
    (evaluationTick : UInt64) (deploymentId : Bytes)
    (history : RotatingOccupancyPublicationHistory) :
    Result CoordinatedReservationParticipant :=
  match findOccupancy bundle deploymentId with
  | none =>
      failure .identityMismatch
        "coordinated reservation deployment is absent from the occupancy bundle"
        deploymentId
  | some occupancy => do
      let participant ← makeParticipant P files deploymentId occupancy history
        history.currentPublicationId history.currentTrustBundleId evaluationTick
      let publication ← history.publication P participant.publicationHeadId
      if publication.occupancyBundleId ≠ bundle.id
          ∨ publication.timelineId ≠ bundle.report.timelineId
          ∨ publication.workspaceFrameId ≠ bundle.report.workspaceFrameId
          ∨ participant.payloadBytes.toNat > options.maximumPayloadBytes then
        failure .identityMismatch
          "coordinated reservation publisher did not sign the exact common occupancy plan"
          participant.publicationHeadId
      else .ok participant

/-- The loop over the histories. -/
def makeAll (bundle : ContinuousFleetOccupancyBundle Float)
    (options : CoordinatedReservationAgreementLoadOptions)
    (evaluationTick : UInt64) :
    List (Bytes × RotatingOccupancyPublicationHistory) →
    Result (List CoordinatedReservationParticipant)
  | [] => .ok []
  | (deploymentId, history) :: rest => do
      let participant ← makeListed P files bundle options evaluationTick
        deploymentId history
      let participants ← makeAll bundle options evaluationTick rest
      .ok (participant :: participants)

/-- `make_coordinated_reservation_agreement`. -/
def makeCoordinatedReservationAgreement (protocolId : Bytes) (round : UInt64)
    (parentAgreementId : Bytes) (evaluationTick : UInt64)
    (occupancyBundle : ContinuousFleetOccupancyBundle Float)
    (deploymentIds : List Bytes)
    (histories : List RotatingOccupancyPublicationHistory)
    (options : CoordinatedReservationAgreementLoadOptions) :
    Result CoordinatedReservationAgreement :=
  if options.maximumParticipants = 0 ∨ options.maximumPayloadBytes = 0
      ∨ deploymentIds.length ≠ histories.length then
    failure .invalidArgument "coordinated reservation input or limits are invalid"
  else do
    validateBundle P occupancyBundle options.maximumParticipants
    if deploymentIds.length ≠ occupancyBundle.occupancies.length then
      failure .identityMismatch
        "coordinated reservation histories do not cover every occupancy deployment"
    else do
      checkDeploymentIds [] deploymentIds
      let participants ← makeAll P files occupancyBundle options evaluationTick
        (deploymentIds.zip histories)
      assembleAgreement P protocolId round parentAgreementId evaluationTick
        occupancyBundle participants

-- === replaying

/-- Whether a history is the one a participant and its agreement pin. -/
def pinnedHistory (p : CoordinatedReservationParticipant)
    (a : CoordinatedReservationAgreement)
    (history : RotatingOccupancyPublicationHistory) : Bool :=
  history.valid P && decide (history.stream.streamId = p.streamId)
    && decide (history.stream.publisherServiceId = p.publisherServiceId)
    && decide (history.trustRootBundleId = p.trustRootBundleId)
    && decide (history.stream.rootPublicationId = p.publicationRootId)
    && decide (history.stream.timelineId = a.timelineId)
    && decide (history.stream.workspaceFrameId = a.workspaceFrameId)

/-- What `verify_coordinated_reservation_agreement` does with a participant
and its history. -/
def replayParticipant (agreement : CoordinatedReservationAgreement)
    (occupancyBundle : ContinuousFleetOccupancyBundle Float)
    (stored : CoordinatedReservationParticipant)
    (history : RotatingOccupancyPublicationHistory) : Result Unit :=
  if !pinnedHistory P stored agreement history then
    failure .identityMismatch
      "coordinated reservation participant history does not match its pinned identity"
      stored.id
  else
    match findOccupancy occupancyBundle stored.deploymentId with
    | none =>
        failure .identityMismatch
          "coordinated reservation participant occupancy is missing"
          stored.deploymentId
    | some occupancy => do
        let replayed ← makeParticipant P files stored.deploymentId occupancy
          history stored.publicationHeadId stored.trustHeadBundleId
          agreement.evaluationTick
        let publication ← history.publication P stored.publicationHeadId
        if publication.occupancyBundleId ≠ occupancyBundle.id
            ∨ replayed.id ≠ stored.id then
          failure .identityMismatch
            "coordinated reservation participant replay differs from the agreement"
            stored.id
        else .ok ()

/-- The loop of `verify_coordinated_reservation_agreement`, with the indices
of the histories used. -/
def replayAll (agreement : CoordinatedReservationAgreement)
    (occupancyBundle : ContinuousFleetOccupancyBundle Float)
    (deploymentIds : List Bytes)
    (histories : List RotatingOccupancyPublicationHistory) :
    List Nat → List CoordinatedReservationParticipant → Result Unit
  | _, [] => .ok ()
  | used, stored :: rest => do
      let source ← sourceIndex
        "coordinated reservation deployment input is duplicated"
        stored.deploymentId 0 none deploymentIds
      match source.filter (· ∉ used), (source.bind (histories[·]?)) with
      | some index, some history => do
          replayParticipant P files agreement occupancyBundle stored history
          replayAll agreement occupancyBundle deploymentIds histories
            (index :: used) rest
      | _, _ =>
          failure .identityMismatch
            "coordinated reservation participant history is missing or duplicated"
            stored.deploymentId

/-- `verify_coordinated_reservation_agreement`. -/
def verifyCoordinatedReservationAgreement
    (agreement : CoordinatedReservationAgreement)
    (occupancyBundle : ContinuousFleetOccupancyBundle Float)
    (deploymentIds : List Bytes)
    (histories : List RotatingOccupancyPublicationHistory)
    (options : CoordinatedReservationAgreementLoadOptions) : Result Unit :=
  if agreement.valid P = false ∨ options.maximumParticipants = 0
      ∨ options.maximumPayloadBytes = 0
      ∨ deploymentIds.length ≠ histories.length then
    failure .invalidArgument
      "coordinated reservation verification input or limits are invalid"
  else if agreement.participants.length > options.maximumParticipants
      ∨ agreement.payloadBytes.toNat > options.maximumPayloadBytes then
    failure .resourceLimit
      "coordinated reservation agreement exceeds verification limits"
  else do
    validateBundle P occupancyBundle options.maximumParticipants
    if agreement.occupancyBundleId ≠ occupancyBundle.id
        ∨ agreement.occupancyReportId ≠ occupancyBundle.report.id
        ∨ agreement.timelineId ≠ occupancyBundle.report.timelineId
        ∨ agreement.workspaceFrameId ≠ occupancyBundle.report.workspaceFrameId
        ∨ Scalar.eq agreement.minimumSeparation
          occupancyBundle.report.minimumSeparation = false
        ∨ deploymentIds.length ≠ agreement.participants.length then
      failure .identityMismatch
        "coordinated reservation agreement does not match the supplied occupancy bundle"
    else
      replayAll P files agreement occupancyBundle deploymentIds histories []
        agreement.participants

-- === succession

/-- Whether a publication states what a participant and its agreement say
of it. -/
def sameStatement (p : CoordinatedReservationParticipant)
    (a : CoordinatedReservationAgreement) (publication : OccupancyPublication)
    (verified : VerifiedOccupancyPublication) : Bool :=
  decide (publication.publisherKeyId = p.publisherKeyId)
    && decide (publication.publisherSequence = p.publisherSequence)
    && decide (publication.trustBundleId = p.publicationTrustBundleId)
    && decide (publication.occupancyBundleId = a.occupancyBundleId)
    && decide (publication.timelineId = a.timelineId)
    && decide (publication.workspaceFrameId = a.workspaceFrameId)
    && decide (publication.payloadDigest = p.payloadDigest)
    && decide (publication.payloadBytes = p.payloadBytes)
    && decide (publication.validFromTick = p.validFromTick)
    && decide (publication.validThroughTick = p.validThroughTick)
    && decide (verified.id = p.verifiedPublicationId)

/-- `verify_stored_participant`. -/
def verifyStoredParticipant (p : CoordinatedReservationParticipant)
    (a : CoordinatedReservationAgreement)
    (history : RotatingOccupancyPublicationHistory) : Result Unit :=
  if !pinnedHistory P p a history then
    failure .identityMismatch
      "coordinated reservation participant history does not match its pinned identity"
      p.id
  else
    match history.publication P p.publicationHeadId with
    | .error _ =>
        failure .identityMismatch
          "coordinated reservation participant publication is absent from its history"
          p.publicationHeadId
    | .ok publication => do
        let trustHistory ← history.replayedTrustHistory P
        match trustHistory.bundle P p.trustHeadBundleId with
        | .error _ =>
            failure .identityMismatch
              "coordinated reservation participant trust head is absent from its history"
              p.trustHeadBundleId
        | .ok _ => do
            verifyTrustPrefix trustHistory p.publicationTrustBundleId
              p.trustHeadBundleId
            let verified ← history.verify P files p.publicationHeadId
              a.evaluationTick
            if !sameStatement p a publication verified then
              failure .identityMismatch
                "coordinated reservation participant statement differs from its history"
                p.id
            else .ok ()

/-- Whether one place is before another. -/
def placedBefore : Option Nat → Option Nat → Bool
  | some before, some after => decide (before < after)
  | _, _ => false

/-- Whether one place is not after another. -/
def placedNotAfter : Option Nat → Option Nat → Bool
  | some before, some after => decide (before ≤ after)
  | _, _ => false

/-- What `verify_coordinated_reservation_successor` does with a participant
in the two rounds and its history. -/
def verifyExtension (previous successor : CoordinatedReservationAgreement)
    (before after : CoordinatedReservationParticipant)
    (history : RotatingOccupancyPublicationHistory) : Result Unit := do
  verifyStoredParticipant P files before previous history
  verifyStoredParticipant P files after successor history
  let trustHistory ← history.replayedTrustHistory P
  if !placedBefore (publicationIndex history before.publicationHeadId)
        (publicationIndex history after.publicationHeadId)
      || !placedNotAfter (trustIndex trustHistory before.trustHeadBundleId)
        (trustIndex trustHistory after.trustHeadBundleId) then
    failure .identityMismatch
      "coordinated reservation successor is not a true participant history extension"
      after.id
  else .ok ()

/-- The loop of `verify_coordinated_reservation_successor`, with the
deployments mapped. -/
def verifySuccessors (previous successor : CoordinatedReservationAgreement)
    (deploymentIds : List Bytes)
    (histories : List RotatingOccupancyPublicationHistory) :
    List Bytes →
    List (CoordinatedReservationParticipant × CoordinatedReservationParticipant) →
    Result Unit
  | _, [] => .ok ()
  | mapped, (before, after) :: rest =>
      if after.deploymentId ≠ before.deploymentId
          ∨ after.streamId ≠ before.streamId
          ∨ after.publisherServiceId ≠ before.publisherServiceId
          ∨ after.trustRootBundleId ≠ before.trustRootBundleId
          ∨ after.publicationRootId ≠ before.publicationRootId
          ∨ after.publisherSequence ≤ before.publisherSequence then
        failure .identityMismatch
          "coordinated reservation successor changes membership or lacks a fresh signature"
          after.id
      else do
        let source ← sourceIndex
          "coordinated reservation successor deployment input is duplicated"
          before.deploymentId 0 none deploymentIds
        match source.bind (histories[·]?), decide (before.deploymentId ∈ mapped) with
        | some history, false => do
            verifyExtension P files previous successor before after history
            verifySuccessors previous successor deploymentIds histories
              (before.deploymentId :: mapped) rest
        | _, _ =>
            failure .identityMismatch
              "coordinated reservation successor participant history is missing"
              before.deploymentId

/-- `verify_coordinated_reservation_successor`. -/
def verifyCoordinatedReservationSuccessor
    (previous successor : CoordinatedReservationAgreement)
    (deploymentIds : List Bytes)
    (histories : List RotatingOccupancyPublicationHistory)
    (options : CoordinatedReservationAgreementLoadOptions) : Result Unit :=
  if previous.valid P = false ∨ successor.valid P = false
      ∨ options.maximumParticipants = 0
      ∨ deploymentIds.length ≠ histories.length
      ∨ deploymentIds.length ≠ previous.participants.length then
    failure .invalidArgument
      "coordinated reservation successor input is invalid"
  else if previous.participants.length > options.maximumParticipants
      ∨ previous.payloadBytes.toNat > options.maximumPayloadBytes
      ∨ successor.payloadBytes.toNat > options.maximumPayloadBytes then
    failure .resourceLimit
      "coordinated reservation successor exceeds verification limits"
  else if previous.round.toNat = 2 ^ 64 - 1
      ∨ successor.round ≠ previous.round + 1
      ∨ successor.parentAgreementId ≠ previous.id
      ∨ successor.protocolId ≠ previous.protocolId
      ∨ successor.timelineId ≠ previous.timelineId
      ∨ successor.workspaceFrameId ≠ previous.workspaceFrameId
      ∨ successor.evaluationTick < previous.evaluationTick
      ∨ successor.participants.length ≠ previous.participants.length then
    failure .identityMismatch
      "coordinated reservation successor does not extend the same protocol"
  else
    verifySuccessors P files previous successor deploymentIds histories []
      (previous.participants.zip successor.participants)

end

end RbfSafe
