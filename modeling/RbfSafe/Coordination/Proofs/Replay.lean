/-
Replaying the participants of an agreement.

A replay makes each participant anew from the history its deployment is
mapped to and compares the ids. As far as the digests tell documents
apart, what the stored participant says is then what the publication in
the history says (`replayed_fields`).
-/
import RbfSafe.Coordination.Proofs.Places

namespace RbfSafe

-- === mapping

/-- The history a mapping gives a deployment, which it lists once. -/
def Mapped (deploymentIds : List Bytes)
    (histories : List RotatingOccupancyPublicationHistory) (deploymentId : Bytes)
    (history : RotatingOccupancyPublicationHistory) : Prop :=
  ∃ index : Nat, deploymentIds[index]? = some deploymentId
    ∧ (∀ other, deploymentIds[other]? = some deploymentId → other = index)
    ∧ histories[index]? = some history

/-- The loop that looks a deployment up finds its only place. -/
theorem sourceIndex_iff {duplicated : String} {deploymentId : Bytes} {index : Nat}
    {deploymentIds : List Bytes} {start : Nat} {found : Option Nat} :
    sourceIndex duplicated deploymentId start found deploymentIds
        = .ok (some index)
      ↔ (found = some index ∧ deploymentId ∉ deploymentIds)
        ∨ found = none ∧ ∃ place, index = start + place
          ∧ deploymentIds[place]? = some deploymentId
          ∧ ∀ other, deploymentIds[other]? = some deploymentId → other = place := by
  induction deploymentIds generalizing start found with
  | nil => simp [sourceIndex]
  | cons candidate rest ih =>
      rw [sourceIndex.eq_def]
      dsimp only
      by_cases hsame : candidate = deploymentId
      · rw [if_pos hsame]
        subst hsame
        cases found with
        | some seen => simp [failure]
        | none =>
            dsimp only
            rw [ih]
            constructor
            · rintro (⟨hfound, hrest⟩ | ⟨hnone, -⟩)
              · refine .inr ⟨rfl, 0, (Option.some.inj hfound).symm, rfl, ?_⟩
                intro other hother
                cases other with
                | zero => rfl
                | succ other =>
                    rw [List.getElem?_cons_succ] at hother
                    exact absurd (List.mem_of_getElem? hother) hrest
              · cases hnone
            · rintro (⟨hnone, -⟩ | ⟨-, place, hindex, hplace, hunique⟩)
              · cases hnone
              · have hzero := hunique 0 rfl
                subst hzero
                refine .inl ⟨congrArg some hindex.symm, ?_⟩
                intro hmem
                obtain ⟨other, hother⟩ := List.mem_iff_getElem?.mp hmem
                have habsurd := hunique (other + 1) hother
                omega
      · rw [if_neg hsame, ih]
        have hmem : deploymentId ∉ candidate :: rest ↔ deploymentId ∉ rest := by
          rw [List.mem_cons, not_or]
          exact and_iff_right (Ne.symm hsame)
        rw [hmem]
        apply or_congr_right
        apply and_congr_right
        intro _
        constructor
        · rintro ⟨place, hindex, hplace, hunique⟩
          refine ⟨place + 1, by omega, hplace, ?_⟩
          intro other hother
          cases other with
          | zero => exact absurd (Option.some.inj hother) hsame
          | succ other => exact congrArg (· + 1) (hunique other hother)
        · rintro ⟨place, hindex, hplace, hunique⟩
          cases place with
          | zero => exact absurd (Option.some.inj hplace) hsame
          | succ place =>
              refine ⟨place, by omega, hplace, ?_⟩
              intro other hother
              exact Nat.succ.inj (hunique (other + 1) hother)

section
variable {deploymentIds : List Bytes}
  {histories : List RotatingOccupancyPublicationHistory} {deploymentId : Bytes}
  {history : RotatingOccupancyPublicationHistory}

theorem place_of_sourceIndex {duplicated : String} {index : Nat}
    (h : sourceIndex duplicated deploymentId 0 none deploymentIds
      = .ok (some index)) :
    deploymentIds[index]? = some deploymentId
      ∧ ∀ other, deploymentIds[other]? = some deploymentId → other = index := by
  rcases sourceIndex_iff.mp h with ⟨hfound, -⟩ | ⟨-, place, hindex, hplace, hunique⟩
  · cases hfound
  · rw [Nat.zero_add] at hindex
    subst hindex
    exact ⟨hplace, hunique⟩

theorem mapped_of_sourceIndex {duplicated : String} {index : Nat}
    (h : sourceIndex duplicated deploymentId 0 none deploymentIds
      = .ok (some index)) (hhistory : histories[index]? = some history) :
    Mapped deploymentIds histories deploymentId history := by
  obtain ⟨hplace, hunique⟩ := place_of_sourceIndex h
  exact ⟨index, hplace, hunique, hhistory⟩

theorem Mapped.sourceIndex (h : Mapped deploymentIds histories deploymentId history)
    (duplicated : String) :
    ∃ index, sourceIndex duplicated deploymentId 0 none deploymentIds
        = .ok (some index)
      ∧ histories[index]? = some history := by
  obtain ⟨index, hplace, hunique, hhistory⟩ := h
  exact ⟨index, sourceIndex_iff.mpr (.inr ⟨rfl, index, (Nat.zero_add _).symm,
    hplace, hunique⟩), hhistory⟩

theorem Mapped.unique {history' : RotatingOccupancyPublicationHistory}
    (h : Mapped deploymentIds histories deploymentId history)
    (h' : Mapped deploymentIds histories deploymentId history') :
    history = history' := by
  obtain ⟨index, hplace, hunique, hhistory⟩ := h
  obtain ⟨index', hplace', -, hhistory'⟩ := h'
  have hsame := hunique index' hplace'
  subst hsame
  rw [hhistory] at hhistory'
  exact Option.some.inj hhistory'

theorem Mapped.mem (h : Mapped deploymentIds histories deploymentId history) :
    history ∈ histories := by
  obtain ⟨index, -, -, hhistory⟩ := h
  exact List.mem_of_getElem? hhistory

end

-- === lookups

section
variable {P : Platform} {files : PayloadFiles}

theorem replayedTrustHistory_iff {history : RotatingOccupancyPublicationHistory}
    {trust : ServiceTrustHistory} :
    history.replayedTrustHistory P = .ok trust
      ↔ history.valid P = true ∧ history.trustHistory = some trust := by
  unfold RotatingOccupancyPublicationHistory.replayedTrustHistory
  cases history.valid P with
  | false => simp
  | true =>
      cases history.trustHistory with
      | none => simp
      | some found => simp

/-- A publication the lookup returns is that of an entry. -/
theorem publication_iff {history : RotatingOccupancyPublicationHistory}
    {publicationId : Bytes} {publication : OccupancyPublication} :
    history.publication P publicationId = .ok publication
      ↔ history.valid P = true ∧ validSha256 publicationId = true
        ∧ ∃ place entry, history.publicationPosition publicationId = some place
          ∧ history.entries[place]? = some entry
          ∧ entry.publication = publication := by
  unfold RotatingOccupancyPublicationHistory.publication
  rw [ite_failure_eq_ok]
  simp only [not_or, Bool.not_eq_false, and_assoc]
  refine and_congr_right fun _ => and_congr_right fun _ => ?_
  constructor
  · intro h
    cases hbind : (history.publicationPosition publicationId).bind
        (history.entries[·]?) with
    | none =>
        rw [hbind] at h
        cases h
    | some entry =>
        rw [hbind] at h
        obtain ⟨place, hplace, hentry⟩ := Option.bind_eq_some_iff.mp hbind
        exact ⟨place, entry, hplace, hentry, Except.ok.inj h⟩
  · rintro ⟨place, entry, hplace, hentry, hpublication⟩
    have hbind : (history.publicationPosition publicationId).bind
        (history.entries[·]?) = some entry := by
      rw [hplace]
      exact hentry
    rw [hbind]
    exact congrArg Except.ok hpublication

/-- The position of a publication is that of an entry of its id. -/
theorem publicationPosition_id {history : RotatingOccupancyPublicationHistory}
    {publicationId : Bytes} {place : Nat} {entry : PublicationEntry}
    (hplace : history.publicationPosition publicationId = some place)
    (hentry : history.entries[place]? = some entry) :
    entry.publication.id = publicationId := by
  obtain ⟨hlt, hfound, -⟩ := List.findIdx?_eq_some_iff_getElem.mp hplace
  rw [List.getElem?_eq_getElem hlt, Option.some.injEq] at hentry
  rw [← hentry]
  exact of_decide_eq_true hfound

/-- What the verifier of one publication returns. -/
theorem verified_of_ok {payloadPath : Bytes} {publication : OccupancyPublication}
    {trustBundle : ServiceTrustBundle}
    {streamId serviceId bundleId parentId : Bytes} {tick : UInt64}
    {options : ContinuousFleetOccupancyBundleLoadOptions}
    {verified : VerifiedOccupancyPublication}
    (h : verifyContinuousFleetOccupancyPublication P files payloadPath publication
      trustBundle streamId serviceId bundleId parentId tick options = .ok verified) :
    verified = verifiedPublication P publication tick := by
  unfold verifyContinuousFleetOccupancyPublication at h
  rw [ite_failure_eq_ok, ite_failure_eq_ok, ite_failure_eq_ok] at h
  obtain ⟨trusted, -, h⟩ := bind_eq_ok.mp h.2.2.2
  obtain ⟨signature, -, h⟩ := bind_eq_ok.mp h
  obtain ⟨_, -, h⟩ := bind_eq_ok.mp h
  obtain ⟨payload, -, h⟩ := bind_eq_ok.mp h
  obtain ⟨bundle, -, h⟩ := bind_eq_ok.mp h
  obtain ⟨_, -, h⟩ := bind_eq_ok.mp h
  rw [ite_failure_eq_ok] at h
  exact (Except.ok.inj h.2).symm

/-- A history verifies the publication it looks up. -/
theorem verified_eq {history : RotatingOccupancyPublicationHistory}
    {publicationId : Bytes} {publication : OccupancyPublication} {tick : UInt64}
    {verified : VerifiedOccupancyPublication}
    (hpublication : history.publication P publicationId = .ok publication)
    (hverified : history.verify P files publicationId tick = .ok verified) :
    verified = verifiedPublication P publication tick := by
  obtain ⟨-, -, place, entry, hplace, hentry, rfl⟩ := publication_iff.mp hpublication
  unfold RotatingOccupancyPublicationHistory.verify at hverified
  rw [ite_failure_eq_ok, hplace] at hverified
  have h := hverified.2
  cases htrust : history.trustHistory with
  | none =>
      rw [htrust] at h
      cases h
  | some trust =>
      rw [htrust] at h
      dsimp only at h
      rw [hentry] at h
      obtain ⟨trustBundle, -, h⟩ := bind_eq_ok.mp h
      exact verified_of_ok h

-- === participants

theorem fits_participantIdentityFields {p : CoordinatedReservationParticipant} :
    ∀ field ∈ participantIdentityFields p, Json.Fits 64 field.2 := by
  intro field hfield
  simp only [participantIdentityFields, List.mem_cons, List.not_mem_nil,
    or_false] at hfield
  rcases hfield with rfl | rfl | rfl | rfl | rfl | rfl | rfl | rfl | rfl | rfl
    | rfl | rfl | rfl | rfl | rfl | rfl | rfl
  case inr.inr.inr.inr.inr.inr.inr.inr.inr.inr.inl =>
    apply Json.fits_num
    have := p.storageSchema.toNat_lt
    omega
  all_goals exact .string _

/-- Participants of one document say the same. -/
theorem participantFields_eq {p p' : CoordinatedReservationParticipant}
    (h : participantDocument P p = participantDocument P p') :
    participantIdentityFields p = participantIdentityFields p' := by
  apply Json.values_of_dump_eq P.toLibc
  · rfl
  · show [ascii "deployment_id", ascii "occupancy_id", ascii "payload_bytes",
      ascii "payload_digest", ascii "publication_head_id",
      ascii "publication_root_id", ascii "publication_trust_bundle_id",
      ascii "publisher_key_id", ascii "publisher_sequence",
      ascii "publisher_service_id", ascii "storage_schema", ascii "stream_id",
      ascii "trust_head_bundle_id", ascii "trust_root_bundle_id",
      ascii "valid_from_tick", ascii "valid_through_tick",
      ascii "verified_publication_id"].Nodup
    decide
  · exact fits_participantIdentityFields
  · exact fits_participantIdentityFields
  · exact h

/-- What `make_participant` has looked at. -/
theorem makeParticipant_ok {deploymentId : Bytes}
    {occupancy : RobotTrajectoryOccupancy Float}
    {history : RotatingOccupancyPublicationHistory}
    {publicationId trustHeadBundleId : Bytes} {tick : UInt64}
    {made : CoordinatedReservationParticipant}
    (h : makeParticipant P files deploymentId occupancy history publicationId
      trustHeadBundleId tick = .ok made) :
    ∃ trust bundle publication verified,
      history.replayedTrustHistory P = .ok trust
      ∧ trust.bundle P trustHeadBundleId = .ok bundle
      ∧ history.publication P publicationId = .ok publication
      ∧ verifyTrustPrefix trust publication.trustBundleId trustHeadBundleId
        = .ok ()
      ∧ history.verify P files publicationId tick = .ok verified
      ∧ made = participantOf P deploymentId occupancy history trustHeadBundleId
        publication verified := by
  unfold makeParticipant at h
  rw [ite_failure_eq_ok] at h
  obtain ⟨trust, htrust, h⟩ := bind_eq_ok.mp h.2
  rw [ite_failure_eq_ok] at h
  obtain ⟨bundle, hbundle, h⟩ := bind_eq_ok.mp h.2
  obtain ⟨publication, hpublication, h⟩ := bind_eq_ok.mp h
  obtain ⟨_, hprefix, h⟩ := bind_eq_ok.mp h
  obtain ⟨verified, hverified, h⟩ := bind_eq_ok.mp h
  rw [ite_failure_eq_ok] at h
  exact ⟨trust, bundle, publication, verified, htrust, hbundle, hpublication,
    hprefix, hverified, (Except.ok.inj h.2).symm⟩

end

-- === replays

section
variable {P : Platform} {files : PayloadFiles}
  {agreement : CoordinatedReservationAgreement}
  {bundle : ContinuousFleetOccupancyBundle Float} {deploymentIds : List Bytes}
  {histories : List RotatingOccupancyPublicationHistory}

/-- What the replay has checked of a stored participant in a history. -/
structure Replayed (P : Platform) (files : PayloadFiles)
    (agreement : CoordinatedReservationAgreement)
    (bundle : ContinuousFleetOccupancyBundle Float)
    (stored : CoordinatedReservationParticipant)
    (history : RotatingOccupancyPublicationHistory) : Prop where
  pinned : pinnedHistory P stored agreement history = true
  made : ∃ occupancy replayed publication,
    findOccupancy bundle stored.deploymentId = some occupancy
    ∧ makeParticipant P files stored.deploymentId occupancy history
      stored.publicationHeadId stored.trustHeadBundleId agreement.evaluationTick
      = .ok replayed
    ∧ history.publication P stored.publicationHeadId = .ok publication
    ∧ publication.occupancyBundleId = bundle.id ∧ replayed.id = stored.id

theorem replayParticipant_iff {stored : CoordinatedReservationParticipant}
    {history : RotatingOccupancyPublicationHistory} :
    replayParticipant P files agreement bundle stored history = .ok ()
      ↔ Replayed P files agreement bundle stored history := by
  unfold replayParticipant
  rw [ite_failure_eq_ok]
  constructor
  · rintro ⟨hpinned, h⟩
    cases hoccupancy : findOccupancy bundle stored.deploymentId with
    | none =>
        rw [hoccupancy] at h
        cases h
    | some occupancy =>
        rw [hoccupancy] at h
        obtain ⟨replayed, hreplayed, h⟩ := bind_eq_ok.mp h
        obtain ⟨publication, hpublication, h⟩ := bind_eq_ok.mp h
        rw [ite_failure_eq_ok, not_or, not_not, not_not] at h
        exact ⟨by simpa using hpinned, occupancy, replayed, publication, hoccupancy,
          hreplayed, hpublication, h.1⟩
  · rintro ⟨hpinned, occupancy, replayed, publication, hoccupancy, hreplayed,
      hpublication, hbundle, hid⟩
    refine ⟨by rw [hpinned]; decide, ?_⟩
    rw [hoccupancy]
    show (makeParticipant P files stored.deploymentId occupancy history
      stored.publicationHeadId stored.trustHeadBundleId agreement.evaluationTick
      >>= _) = _
    rw [hreplayed, ok_bind, hpublication, ok_bind, if_neg]
    rw [not_or, not_not, not_not]
    exact ⟨hbundle, hid⟩

/-- **The loop accepts the participants that replay**, each with a history
of its own. -/
theorem replayAll_iff {used : List Nat}
    {participants : List CoordinatedReservationParticipant} :
    replayAll P files agreement bundle deploymentIds histories used participants
        = .ok ()
      ↔ (∀ p ∈ participants, ∃ history,
          Mapped deploymentIds histories p.deploymentId history
          ∧ Replayed P files agreement bundle p history)
        ∧ (participants.map (·.deploymentId)).Nodup
        ∧ ∀ p ∈ participants, ∀ index ∈ used,
          deploymentIds[index]? ≠ some p.deploymentId := by
  induction participants generalizing used with
  | nil => simp [replayAll]
  | cons stored rest ih =>
      rw [replayAll]
      constructor
      · intro h
        obtain ⟨source, hsource, h⟩ := bind_eq_ok.mp h
        cases source with
        | none => cases h
        | some index =>
            dsimp only [Option.bind_some] at h
            by_cases hused : index ∈ used
            · rw [Option.filter_some_neg (by simpa using hused)] at h
              cases h
            · rw [Option.filter_some_pos (by simpa using hused)] at h
              cases hhistory : histories[index]? with
              | none =>
                  rw [hhistory] at h
                  cases h
              | some history =>
                  rw [hhistory] at h
                  obtain ⟨_, hreplay, hrest⟩ := bind_eq_ok.mp h
                  obtain ⟨hall, hnodup, hfree⟩ := ih.mp hrest
                  obtain ⟨hindex, hunique⟩ := place_of_sourceIndex hsource
                  refine ⟨?_, ?_, ?_⟩
                  · intro p hp
                    rcases List.mem_cons.mp hp with rfl | hmem
                    · exact ⟨history, mapped_of_sourceIndex hsource hhistory,
                        replayParticipant_iff.mp hreplay⟩
                    · exact hall p hmem
                  · rw [List.map_cons, List.nodup_cons]
                    refine ⟨?_, hnodup⟩
                    intro hmem
                    obtain ⟨p, hp, hid⟩ := List.mem_map.mp hmem
                    exact hfree p hp index List.mem_cons_self (hid ▸ hindex)
                  · intro p hp other hother hget
                    rcases List.mem_cons.mp hp with rfl | hmem
                    · rw [← hunique other hget] at hused
                      exact hused hother
                    · exact hfree p hmem other (List.mem_cons_of_mem _ hother) hget
      · rintro ⟨hall, hnodup, hfree⟩
        rw [List.map_cons, List.nodup_cons] at hnodup
        obtain ⟨history, hmapped, hreplayed⟩ := hall stored List.mem_cons_self
        obtain ⟨index, hsource, hhistory⟩ := hmapped.sourceIndex
          "coordinated reservation deployment input is duplicated"
        have hindex := (place_of_sourceIndex hsource).1
        have hused : index ∉ used := fun hmem =>
          hfree stored List.mem_cons_self index hmem hindex
        rw [hsource, ok_bind, Option.filter_some_pos (by simpa using hused)]
        dsimp only [Option.bind_some]
        rw [hhistory]
        show (replayParticipant P files agreement bundle stored history
          >>= fun _ => _) = _
        rw [replayParticipant_iff.mpr hreplayed, ok_bind]
        apply ih.mpr
        refine ⟨fun p hp => hall p (List.mem_cons_of_mem _ hp), hnodup.2, ?_⟩
        intro p hp other hother hget
        rcases List.mem_cons.mp hother with rfl | hmem
        · rw [hindex, Option.some.injEq] at hget
          exact hnodup.1 (List.mem_map.mpr ⟨p, hp, hget.symm⟩)
        · exact hfree p (List.mem_cons_of_mem _ hp) other hmem hget

/-- What the verifier of an agreement asks for besides the replays. -/
structure VerifierInput (P : Platform) (agreement : CoordinatedReservationAgreement)
    (bundle : ContinuousFleetOccupancyBundle Float) (deploymentIds : List Bytes)
    (histories : List RotatingOccupancyPublicationHistory)
    (options : CoordinatedReservationAgreementLoadOptions) : Prop where
  valid : agreement.valid P = true
  positive : options.maximumParticipants ≠ 0
  positivePayload : options.maximumPayloadBytes ≠ 0
  paired : deploymentIds.length = histories.length
  participants : agreement.participants.length ≤ options.maximumParticipants
  payload : agreement.payloadBytes.toNat ≤ options.maximumPayloadBytes
  plan : validateBundle P bundle options.maximumParticipants = .ok ()
  occupancyBundleId : agreement.occupancyBundleId = bundle.id
  occupancyReportId : agreement.occupancyReportId = bundle.report.id
  timelineId : agreement.timelineId = bundle.report.timelineId
  workspaceFrameId : agreement.workspaceFrameId = bundle.report.workspaceFrameId
  separation : Scalar.eq agreement.minimumSeparation bundle.report.minimumSeparation
    = true
  covered : deploymentIds.length = agreement.participants.length

/-- **The verifier of agreements, check by check.** -/
theorem verifyAgreement_iff {options : CoordinatedReservationAgreementLoadOptions} :
    verifyCoordinatedReservationAgreement P files agreement bundle deploymentIds
        histories options = .ok ()
      ↔ VerifierInput P agreement bundle deploymentIds histories options
        ∧ (∀ p ∈ agreement.participants, ∃ history,
          Mapped deploymentIds histories p.deploymentId history
          ∧ Replayed P files agreement bundle p history)
        ∧ (agreement.participants.map (·.deploymentId)).Nodup := by
  unfold verifyCoordinatedReservationAgreement
  rw [ite_failure_eq_ok, ite_failure_eq_ok]
  simp only [not_or, Bool.not_eq_false, not_not, Nat.not_lt]
  constructor
  · rintro ⟨⟨hvalid, hpositive, hpayload, hpaired⟩, ⟨hparticipants, hbytes⟩, h⟩
    obtain ⟨_, hbundle, h⟩ := bind_eq_ok.mp h
    rw [ite_failure_eq_ok] at h
    simp only [not_or, Bool.not_eq_false, not_not] at h
    obtain ⟨⟨hid, hreport, htimeline, hframe, hseparation, hcovered⟩, h⟩ := h
    obtain ⟨hall, hnodup, -⟩ := replayAll_iff.mp h
    exact ⟨⟨hvalid, hpositive, hpayload, hpaired, hparticipants, hbytes, hbundle,
      hid, hreport, htimeline, hframe, hseparation, hcovered⟩, hall, hnodup⟩
  · rintro ⟨h, hall, hnodup⟩
    refine ⟨⟨h.valid, h.positive, h.positivePayload, h.paired⟩,
      ⟨h.participants, h.payload⟩, ?_⟩
    show (validateBundle P bundle options.maximumParticipants >>= fun _ => _) = _
    rw [h.plan, ok_bind, if_neg]
    · exact replayAll_iff.mpr ⟨hall, hnodup, fun p hp index hmem => by cases hmem⟩
    · simp only [not_or, Bool.not_eq_false, not_not]
      exact ⟨h.occupancyBundleId, h.occupancyReportId, h.timelineId,
        h.workspaceFrameId, h.separation, h.covered⟩

-- === statements

/-- What the replay of an agreement digests of its participants: each as
it is stored, and as the entry it names makes it of a history at hand. -/
def replayDocuments (P : Platform) (agreement : CoordinatedReservationAgreement)
    (bundle : ContinuousFleetOccupancyBundle Float)
    (histories : List RotatingOccupancyPublicationHistory) : Set Bytes :=
  {document | ∃ p ∈ agreement.participants, document = participantDocument P p
    ∨ ∃ occupancy history entry,
      findOccupancy bundle p.deploymentId = some occupancy ∧ history ∈ histories
      ∧ entry ∈ history.entries ∧ entry.publication.id = p.publicationHeadId
      ∧ document = participantDocument P
        (participantOf P p.deploymentId occupancy history p.trustHeadBundleId
          entry.publication
          (verifiedPublication P entry.publication agreement.evaluationTick))}

/-- The participants of a valid agreement. -/
theorem participant_valid {previous : Option Bytes} {occupancyIds : List Bytes}
    {publishers : List (Bytes × Bytes)}
    {participants : List CoordinatedReservationParticipant}
    (h : participantsValid P agreement previous occupancyIds publishers participants
      = true) : ∀ p ∈ participants, p.valid P = true := by
  induction participants generalizing previous occupancyIds publishers with
  | nil =>
      intro p hp
      cases hp
  | cons first rest ih =>
      rw [participantsValid] at h
      simp only [Bool.and_eq_true] at h
      obtain ⟨⟨⟨⟨⟨⟨⟨⟨hfirst, -⟩, -⟩, -⟩, -⟩, -⟩, -⟩, -⟩, hrest⟩ := h
      intro p hp
      rcases List.mem_cons.mp hp with rfl | hmem
      · exact hfirst
      · exact ih hrest p hmem

theorem participant_id {p : CoordinatedReservationParticipant}
    (h : p.valid P = true) : p.id = P.sha256 (participantDocument P p) := by
  unfold CoordinatedReservationParticipant.valid at h
  simp only [Bool.and_eq_true, decide_eq_true_eq] at h
  exact h.1.1.1.1.1.1.1.1.1.1.1.1.1.1.1.2

/-- **A stored participant that replays says what its publication says.** -/
theorem replayed_fields {D : Set Bytes} (hdigest : Set.InjOn P.sha256 D)
    (hdocuments : replayDocuments P agreement bundle histories ⊆ D)
    (hvalid : agreement.valid P = true) {p : CoordinatedReservationParticipant}
    (hp : p ∈ agreement.participants)
    {history : RotatingOccupancyPublicationHistory} (hhistory : history ∈ histories)
    (h : Replayed P files agreement bundle p history) :
    ∃ trust trustBundle publication verified occupancy,
      history.replayedTrustHistory P = .ok trust
      ∧ trust.bundle P p.trustHeadBundleId = .ok trustBundle
      ∧ history.publication P p.publicationHeadId = .ok publication
      ∧ verifyTrustPrefix trust publication.trustBundleId p.trustHeadBundleId = .ok ()
      ∧ history.verify P files p.publicationHeadId agreement.evaluationTick
        = .ok verified
      ∧ verified = verifiedPublication P publication agreement.evaluationTick
      ∧ publication.occupancyBundleId = bundle.id
      ∧ participantIdentityFields p = participantIdentityFields
        (participantOf P p.deploymentId occupancy history p.trustHeadBundleId
          publication verified) := by
  obtain ⟨occupancy, replayed, publication, hoccupancy, hmade, hpublication,
    hbundle, hsameId⟩ := h.made
  obtain ⟨trust, trustBundle, publication', verified, htrust, htrustBundle,
    hpublication', hprefix, hverified, hreplayed⟩ := makeParticipant_ok hmade
  rw [hpublication] at hpublication'
  have hsame := Except.ok.inj hpublication'
  subst hsame
  have hverifiedEq := verified_eq hpublication hverified
  refine ⟨trust, trustBundle, publication, verified, occupancy, htrust, htrustBundle,
    hpublication, hprefix, hverified, hverifiedEq, hbundle, ?_⟩
  apply participantFields_eq
  obtain ⟨-, -, place, entry, hplace, hentry, hentryOf⟩ :=
    publication_iff.mp hpublication
  have hid := publicationPosition_id hplace hentry
  apply hdigest
  · exact hdocuments ⟨p, hp, .inl rfl⟩
  · refine hdocuments ⟨p, hp, .inr ⟨occupancy, history, entry, hoccupancy, hhistory,
      List.mem_of_getElem? hentry, hid, ?_⟩⟩
    rw [hentryOf, hverifiedEq]
  · unfold CoordinatedReservationAgreement.valid at hvalid
    simp only [Bool.and_eq_true] at hvalid
    rw [← participant_id (participant_valid hvalid.1.1.2 p hp), ← hsameId, hreplayed]
    rfl

end

end RbfSafe
