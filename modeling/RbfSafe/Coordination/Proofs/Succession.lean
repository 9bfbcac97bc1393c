/-
Rounds of coordinated reservations.

An accepted successor extends its predecessor in a history of every
participant (`extended_of_successor`). What that says of other histories
follows from the places of publications and bundles, and it composes: the
rounds of a run are one chain (`rounds_chain`). Conversely, two agreements
that replay against one mapping pass the stored check of the successor
verifier (`stored_of_replay`).
-/
import RbfSafe.Coordination.Proofs.Agreement

namespace RbfSafe

-- === the loop

/-- Who takes part: the deployment, its service, stream, trust root and
publication root. -/
def CoordinatedReservationParticipant.membership
    (p : CoordinatedReservationParticipant) :
    Bytes × Bytes × Bytes × Bytes × Bytes :=
  (p.deploymentId, p.publisherServiceId, p.streamId, p.trustRootBundleId,
    p.publicationRootId)

section
variable {P : Platform} {files : PayloadFiles}
  {previous successor : CoordinatedReservationAgreement}
  {deploymentIds : List Bytes}
  {histories : List RotatingOccupancyPublicationHistory}

/-- What the successor verifier has checked of a participant. -/
structure Extended (P : Platform) (files : PayloadFiles)
    (previous successor : CoordinatedReservationAgreement)
    (deploymentIds : List Bytes)
    (histories : List RotatingOccupancyPublicationHistory)
    (before after : CoordinatedReservationParticipant) : Prop where
  membership : after.membership = before.membership
  fresh : before.publisherSequence < after.publisherSequence
  mapped : ∃ history, Mapped deploymentIds histories before.deploymentId history
    ∧ verifyExtension P files previous successor before after history = .ok ()

/-- **The loop accepts the participants that extend one another**, each
deployment once. -/
theorem verifySuccessors_iff {mapped : List Bytes}
    {pairs : List (CoordinatedReservationParticipant
      × CoordinatedReservationParticipant)} :
    verifySuccessors P files previous successor deploymentIds histories mapped pairs
        = .ok ()
      ↔ (∀ pair ∈ pairs, Extended P files previous successor deploymentIds
          histories pair.1 pair.2)
        ∧ (pairs.map (·.1.deploymentId)).Nodup
        ∧ ∀ pair ∈ pairs, pair.1.deploymentId ∉ mapped := by
  induction pairs generalizing mapped with
  | nil => simp [verifySuccessors]
  | cons pair rest ih =>
      obtain ⟨before, after⟩ := pair
      rw [verifySuccessors]
      constructor
      · intro h
        rw [ite_failure_eq_ok] at h
        obtain ⟨hsame, h⟩ := h
        obtain ⟨source, hsource, h⟩ := bind_eq_ok.mp h
        simp only [not_or, not_not, UInt64.not_le] at hsame
        obtain ⟨hdeployment, hstream, hservice, hroot, hpublication, hfresh⟩ := hsame
        cases hbind : source.bind (histories[·]?) with
        | none =>
            rw [hbind] at h
            cases h
        | some history =>
            rw [hbind] at h
            by_cases hmapped : before.deploymentId ∈ mapped
            · rw [decide_eq_true hmapped] at h
              cases h
            · rw [decide_eq_false hmapped] at h
              obtain ⟨_, hextension, hrest⟩ := bind_eq_ok.mp h
              obtain ⟨hall, hnodup, hfree⟩ := ih.mp hrest
              obtain ⟨index, hindex, hhistory⟩ := Option.bind_eq_some_iff.mp hbind
              subst hindex
              have hfirst : Extended P files previous successor deploymentIds
                  histories before after := by
                refine ⟨?_, hfresh, history, mapped_of_sourceIndex hsource hhistory, hextension⟩
                unfold CoordinatedReservationParticipant.membership
                rw [hdeployment, hstream, hservice, hroot, hpublication]
              refine ⟨?_, ?_, ?_⟩
              · intro pair hpair
                rcases List.mem_cons.mp hpair with rfl | hmem
                · exact hfirst
                · exact hall pair hmem
              · rw [List.map_cons, List.nodup_cons]
                refine ⟨?_, hnodup⟩
                intro hmem
                obtain ⟨pair, hpair, hid⟩ := List.mem_map.mp hmem
                exact hfree pair hpair (hid ▸ List.mem_cons_self)
              · intro pair hpair
                rcases List.mem_cons.mp hpair with rfl | hmem
                · exact hmapped
                · exact fun hseen => hfree pair hmem (List.mem_cons_of_mem _ hseen)
      · rintro ⟨hall, hnodup, hfree⟩
        rw [List.map_cons, List.nodup_cons] at hnodup
        have hfirst := hall (before, after) List.mem_cons_self
        obtain ⟨history, hsource, hextension⟩ := hfirst.mapped
        obtain ⟨index, hsource, hhistory⟩ := hsource.sourceIndex
          "coordinated reservation successor deployment input is duplicated"
        have hmembership := hfirst.membership
        unfold CoordinatedReservationParticipant.membership at hmembership
        simp only [Prod.mk.injEq] at hmembership
        obtain ⟨hdeployment, hservice, hstream, hroot, hpublication⟩ := hmembership
        have hnotLe : ¬ after.publisherSequence ≤ before.publisherSequence :=
          UInt64.not_le.mpr hfirst.fresh
        rw [if_neg (by simp only [not_or, not_not]; exact ⟨hdeployment, hstream,
          hservice, hroot, hpublication, hnotLe⟩)]
        have hmapped : before.deploymentId ∉ mapped :=
          hfree (before, after) List.mem_cons_self
        show (sourceIndex _ before.deploymentId 0 none deploymentIds >>= _) = _
        rw [hsource, ok_bind]
        dsimp only [Option.bind_some]
        rw [hhistory, decide_eq_false hmapped]
        show (verifyExtension P files previous successor before after history
          >>= fun _ => _) = _
        rw [hextension, ok_bind]
        apply ih.mpr
        refine ⟨fun pair hpair => hall pair (List.mem_cons_of_mem _ hpair),
          hnodup.2, ?_⟩
        intro pair hpair hmem
        rcases List.mem_cons.mp hmem with hid | hseen
        · exact hnodup.1 (List.mem_map.mpr ⟨pair, hpair, hid⟩)
        · exact hfree pair (List.mem_cons_of_mem _ hpair) hseen

/-- What the verifier asks of the two agreements as a whole. -/
structure NextRound (previous successor : CoordinatedReservationAgreement) :
    Prop where
  round : successor.round.toNat = previous.round.toNat + 1
  parentAgreementId : successor.parentAgreementId = previous.id
  protocolId : successor.protocolId = previous.protocolId
  timelineId : successor.timelineId = previous.timelineId
  workspaceFrameId : successor.workspaceFrameId = previous.workspaceFrameId
  evaluationTick : previous.evaluationTick ≤ successor.evaluationTick
  participants : successor.participants.length = previous.participants.length

theorem nextRound_iff : NextRound previous successor
    ↔ ¬(previous.round.toNat = 2 ^ 64 - 1
      ∨ successor.round ≠ previous.round + 1
      ∨ successor.parentAgreementId ≠ previous.id
      ∨ successor.protocolId ≠ previous.protocolId
      ∨ successor.timelineId ≠ previous.timelineId
      ∨ successor.workspaceFrameId ≠ previous.workspaceFrameId
      ∨ successor.evaluationTick < previous.evaluationTick
      ∨ successor.participants.length ≠ previous.participants.length) := by
  have hlt := previous.round.toNat_lt
  have hround : successor.round.toNat = previous.round.toNat + 1
      ↔ ¬previous.round.toNat = 2 ^ 64 - 1 ∧ successor.round = previous.round + 1 := by
    rw [← UInt64.toNat_inj, UInt64.toNat_add]
    have hone : (1 : UInt64).toNat = 1 := rfl
    rw [hone]
    have hsuccessor := successor.round.toNat_lt
    omega
  simp only [not_or, not_not, UInt64.not_lt]
  constructor
  · intro h
    exact ⟨(hround.mp h.round).1, (hround.mp h.round).2, h.parentAgreementId,
      h.protocolId, h.timelineId, h.workspaceFrameId, h.evaluationTick,
      h.participants⟩
  · rintro ⟨hbound, hnext, hparent, hprotocol, htimeline, hframe, htick, hcount⟩
    exact ⟨hround.mpr ⟨hbound, hnext⟩, hparent, hprotocol, htimeline, hframe,
      htick, hcount⟩

/-- The limits of the call and the size of its inputs. -/
structure SuccessorLimits (P : Platform)
    (previous successor : CoordinatedReservationAgreement)
    (deploymentIds : List Bytes)
    (histories : List RotatingOccupancyPublicationHistory)
    (options : CoordinatedReservationAgreementLoadOptions) : Prop where
  validPrevious : previous.valid P = true
  validSuccessor : successor.valid P = true
  positive : options.maximumParticipants ≠ 0
  paired : deploymentIds.length = histories.length
  covered : deploymentIds.length = previous.participants.length
  participants : previous.participants.length ≤ options.maximumParticipants
  payloadPrevious : previous.payloadBytes.toNat ≤ options.maximumPayloadBytes
  payloadSuccessor : successor.payloadBytes.toNat ≤ options.maximumPayloadBytes

/-- **The successor verifier, check by check.** -/
theorem verifySuccessor_iff {options : CoordinatedReservationAgreementLoadOptions} :
    verifyCoordinatedReservationSuccessor P files previous successor deploymentIds
        histories options = .ok ()
      ↔ SuccessorLimits P previous successor deploymentIds histories options
        ∧ NextRound previous successor
        ∧ (∀ pair ∈ previous.participants.zip successor.participants,
          Extended P files previous successor deploymentIds histories pair.1 pair.2)
        ∧ ((previous.participants.zip successor.participants).map
          (·.1.deploymentId)).Nodup := by
  unfold verifyCoordinatedReservationSuccessor
  rw [ite_failure_eq_ok, ite_failure_eq_ok, ite_failure_eq_ok, ← nextRound_iff,
    verifySuccessors_iff]
  simp only [not_or, Bool.not_eq_false, not_not, Nat.not_lt]
  constructor
  · rintro ⟨⟨hprevious, hsuccessor, hpositive, hpaired, hcovered⟩,
      ⟨hparticipants, hpayload, hpayload'⟩, hround, hall, hnodup, -⟩
    exact ⟨⟨hprevious, hsuccessor, hpositive, hpaired, hcovered, hparticipants,
      hpayload, hpayload'⟩, hround, hall, hnodup⟩
  · rintro ⟨hlimits, hround, hall, hnodup⟩
    refine ⟨⟨hlimits.validPrevious, hlimits.validSuccessor, hlimits.positive,
      hlimits.paired, hlimits.covered⟩, ⟨hlimits.participants,
      hlimits.payloadPrevious, hlimits.payloadSuccessor⟩, hround, hall, hnodup, ?_⟩
    exact fun pair hpair hmem => List.not_mem_nil hmem

-- === the stored check

/-- What the stored check has looked at in a history. -/
structure StoredIn (P : Platform) (files : PayloadFiles)
    (p : CoordinatedReservationParticipant) (a : CoordinatedReservationAgreement)
    (history : RotatingOccupancyPublicationHistory) : Prop where
  pinned : pinnedHistory P p a history = true
  stored : ∃ publication trust bundle verified,
    history.publication P p.publicationHeadId = .ok publication
    ∧ history.replayedTrustHistory P = .ok trust
    ∧ trust.bundle P p.trustHeadBundleId = .ok bundle
    ∧ verifyTrustPrefix trust p.publicationTrustBundleId p.trustHeadBundleId
      = .ok ()
    ∧ history.verify P files p.publicationHeadId a.evaluationTick = .ok verified
    ∧ sameStatement p a publication verified = true

theorem verifyStoredParticipant_iff {p : CoordinatedReservationParticipant}
    {a : CoordinatedReservationAgreement}
    {history : RotatingOccupancyPublicationHistory} :
    verifyStoredParticipant P files p a history = .ok ()
      ↔ StoredIn P files p a history := by
  unfold verifyStoredParticipant
  rw [ite_failure_eq_ok]
  constructor
  · rintro ⟨hpinned, h⟩
    cases hpublication : history.publication P p.publicationHeadId with
    | error error =>
        rw [hpublication] at h
        cases h
    | ok publication =>
        rw [hpublication] at h
        obtain ⟨trust, htrust, h⟩ := bind_eq_ok.mp h
        cases hbundle : trust.bundle P p.trustHeadBundleId with
        | error error =>
            rw [hbundle] at h
            cases h
        | ok bundle =>
            rw [hbundle] at h
            obtain ⟨_, hprefix, h⟩ := bind_eq_ok.mp h
            obtain ⟨verified, hverified, h⟩ := bind_eq_ok.mp h
            rw [ite_failure_eq_ok] at h
            refine ⟨?_, publication, trust, bundle, verified, hpublication, htrust,
              hbundle, hprefix, hverified, ?_⟩
            · simpa using hpinned
            · simpa using h.1
  · rintro ⟨hpinned, publication, trust, bundle, verified, hpublication, htrust,
      hbundle, hprefix, hverified, hsame⟩
    refine ⟨by rw [hpinned]; decide, ?_⟩
    rw [hpublication]
    show (history.replayedTrustHistory P >>= _) = _
    rw [htrust, ok_bind]
    rw [hbundle]
    show (verifyTrustPrefix trust p.publicationTrustBundleId p.trustHeadBundleId
      >>= fun _ => _) = _
    rw [ hprefix, ok_bind, hverified, ok_bind, hsame]
    rfl

/-- What the verifier has found out about a participant of both rounds. -/
theorem verifyExtension_iff {before after : CoordinatedReservationParticipant}
    {history : RotatingOccupancyPublicationHistory} :
    verifyExtension P files previous successor before after history = .ok ()
      ↔ StoredIn P files before previous history
        ∧ StoredIn P files after successor history
        ∧ ∃ trust, history.replayedTrustHistory P = .ok trust
          ∧ (∃ m n, publicationIndex history before.publicationHeadId = some m
            ∧ publicationIndex history after.publicationHeadId = some n ∧ m < n)
          ∧ ∃ s t, trustIndex trust before.trustHeadBundleId = some s
            ∧ trustIndex trust after.trustHeadBundleId = some t ∧ s ≤ t := by
  have hbefore : ∀ x y : Option Nat, placedBefore x y = true
      ↔ ∃ m n, x = some m ∧ y = some n ∧ m < n := by
    intro x y
    cases x <;> cases y <;> simp [placedBefore]
  have hnotAfter : ∀ x y : Option Nat, placedNotAfter x y = true
      ↔ ∃ s t, x = some s ∧ y = some t ∧ s ≤ t := by
    intro x y
    cases x <;> cases y <;> simp [placedNotAfter]
  unfold verifyExtension
  constructor
  · intro h
    obtain ⟨_, hfirst, h⟩ := bind_eq_ok.mp h
    obtain ⟨_, hsecond, h⟩ := bind_eq_ok.mp h
    obtain ⟨trust, htrust, h⟩ := bind_eq_ok.mp h
    rw [ite_failure_eq_ok] at h
    have hplaces := h.1
    simp only [Bool.not_eq_true, Bool.or_eq_false_iff, Bool.not_eq_false'] at hplaces
    exact ⟨verifyStoredParticipant_iff.mp hfirst,
      verifyStoredParticipant_iff.mp hsecond, trust, htrust,
      (hbefore _ _).mp hplaces.1, (hnotAfter _ _).mp hplaces.2⟩
  · rintro ⟨hfirst, hsecond, trust, htrust, hpublications, htrusts⟩
    show (verifyStoredParticipant P files before previous history >>= fun _ => _) = _
    rw [verifyStoredParticipant_iff.mpr hfirst, ok_bind]
    show (verifyStoredParticipant P files after successor history >>= fun _ => _) = _
    rw [verifyStoredParticipant_iff.mpr hsecond, ok_bind, htrust, ok_bind,
      (hbefore _ _).mpr hpublications, (hnotAfter _ _).mpr htrusts]
    rfl

end

-- === the rounds

/-- Some mapping of histories at hand makes the verifier accept. -/
def AcceptedSuccessor (P : Platform) (D : Set Bytes)
    (previous successor : CoordinatedReservationAgreement) : Prop :=
  ∃ files deploymentIds histories options,
    (∀ history ∈ histories, rotatingDocuments P history ⊆ D)
    ∧ verifyCoordinatedReservationSuccessor P files previous successor deploymentIds
      histories options = .ok ()

/-- The heads a participant pins in an earlier and a later round: in every
valid history that holds the later publication and trust head, the earlier
publication is strictly before and the earlier trust head not after. -/
def HeadsExtend (P : Platform) (D : Set Bytes)
    (before after : CoordinatedReservationParticipant) : Prop :=
  ∀ history, history.valid P = true → rotatingDocuments P history ⊆ D →
    ∀ place trustPlace, PublishedAt history place after.publicationHeadId →
      TrustedAt history trustPlace after.trustHeadBundleId →
      (∃ earlier, earlier < place
        ∧ PublishedAt history earlier before.publicationHeadId)
      ∧ ∃ earlier, earlier ≤ trustPlace
        ∧ TrustedAt history earlier before.trustHeadBundleId

/-- A later round of the same reservations. -/
structure Succeeded (P : Platform) (D : Set Bytes) (distance : Nat)
    (earlier later : CoordinatedReservationAgreement) : Prop where
  round : later.round.toNat = earlier.round.toNat + distance
  protocolId : later.protocolId = earlier.protocolId
  timelineId : later.timelineId = earlier.timelineId
  workspaceFrameId : later.workspaceFrameId = earlier.workspaceFrameId
  members : later.participants.map (·.membership)
    = earlier.participants.map (·.membership)
  evaluationTick : earlier.evaluationTick ≤ later.evaluationTick
  heads : ∀ pair ∈ earlier.participants.zip later.participants,
    HeadsExtend P D pair.1 pair.2

section
variable {P : Platform} {D : Set Bytes} {a b c : CoordinatedReservationAgreement}

theorem HeadsExtend.trans {first second third : CoordinatedReservationParticipant}
    (h : HeadsExtend P D first second) (h' : HeadsExtend P D second third) :
    HeadsExtend P D first third := by
  intro history hvalid hdocuments place trustPlace hplace htrust
  obtain ⟨⟨middle, hmiddle, hpublished⟩, middleTrust, hmiddleTrust, htrusted⟩ :=
    h' history hvalid hdocuments place trustPlace hplace htrust
  obtain ⟨⟨earlier, hearlier, hfound⟩, earlierTrust, hearlierTrust, hfoundTrust⟩ :=
    h history hvalid hdocuments middle middleTrust hpublished htrusted
  exact ⟨⟨earlier, Nat.lt_trans hearlier hmiddle, hfound⟩, earlierTrust,
    Nat.le_trans hearlierTrust hmiddleTrust, hfoundTrust⟩

/-- Rounds compose. -/
theorem Succeeded.trans {m n : Nat} (h : Succeeded P D m a b)
    (h' : Succeeded P D n b c) : Succeeded P D (m + n) a c := by
  refine ⟨?_, h'.protocolId.trans h.protocolId, h'.timelineId.trans h.timelineId,
    h'.workspaceFrameId.trans h.workspaceFrameId, h'.members.trans h.members,
    UInt64.le_trans h.evaluationTick h'.evaluationTick, ?_⟩
  · rw [h'.round, h.round, Nat.add_assoc]
  · intro pair hpair
    obtain ⟨k, hk⟩ := List.mem_iff_getElem?.mp hpair
    obtain ⟨hfirst, hthird⟩ := List.getElem?_zip_eq_some.mp hk
    have hlength := congrArg List.length h.members
    rw [List.length_map, List.length_map] at hlength
    have hlt := (List.getElem?_eq_some_iff.mp hfirst).1
    obtain ⟨middle, hsecond⟩ : ∃ middle, b.participants[k]? = some middle :=
      ⟨_, List.getElem?_eq_getElem (hlength.symm ▸ hlt)⟩
    have hleft := h.heads (pair.1, middle) (List.mem_of_getElem?
      (List.getElem?_zip_eq_some.mpr ⟨hfirst, hsecond⟩))
    have hright := h'.heads (middle, pair.2) (List.mem_of_getElem?
      (List.getElem?_zip_eq_some.mpr ⟨hsecond, hthird⟩))
    exact hleft.trans hright

variable (hdigest : Set.InjOn P.sha256 D)
include hdigest

/-- The heads of an accepted participant extend one another. -/
theorem headsExtend_of_extended {files : PayloadFiles} {deploymentIds : List Bytes}
    {histories : List RotatingOccupancyPublicationHistory}
    (hdocuments : ∀ history ∈ histories, rotatingDocuments P history ⊆ D)
    {before after : CoordinatedReservationParticipant}
    (h : Extended P files a b deploymentIds histories before after) :
    HeadsExtend P D before after := by
  obtain ⟨history, ⟨index, -, -, hhistory⟩, hextension⟩ := h.mapped
  obtain ⟨-, -, trust, htrust, ⟨m, n, hm, hn, hlt⟩, s, t, hs, ht, hle⟩ :=
    verifyExtension_iff.mp hextension
  obtain ⟨hvalid, hsome⟩ := replayedTrustHistory_iff.mp htrust
  have hheld : Held P D history :=
    ⟨hvalid, hdocuments history (List.mem_of_getElem? hhistory)⟩
  rw [hheld.publicationIndex_iff hdigest] at hm hn
  rw [hheld.trustIndex_iff hdigest hsome] at hs ht
  intro other hother hmem place trustPlace hplace htrusted
  have hheld' : Held P D other := ⟨hother, hmem⟩
  obtain ⟨hsame, hpublished⟩ := hheld.published_before hdigest hheld' hn hplace hm
    (Nat.le_of_lt hlt)
  obtain ⟨hsameTrust, htrusted'⟩ := hheld.trusted_before hdigest hheld' ht htrusted
    hs hle
  subst hsame
  subst hsameTrust
  exact ⟨⟨m, hlt, hpublished⟩, s, hle, htrusted'⟩

/-- **One accepted step is one round.** -/
theorem succeeded_of_accepted (h : AcceptedSuccessor P D a b) :
    Succeeded P D 1 a b := by
  obtain ⟨files, deploymentIds, histories, options, hdocuments, hverified⟩ := h
  obtain ⟨-, hround, hall, -⟩ := verifySuccessor_iff.mp hverified
  refine ⟨hround.round, hround.protocolId, hround.timelineId,
    hround.workspaceFrameId, ?_, hround.evaluationTick, fun pair hpair =>
      headsExtend_of_extended hdigest hdocuments (hall pair hpair)⟩
  apply List.ext_getElem?
  intro k
  rw [List.getElem?_map, List.getElem?_map]
  by_cases hk : k < a.participants.length
  · have hbefore := List.getElem?_eq_getElem hk
    obtain ⟨after, hafter⟩ : ∃ after, b.participants[k]? = some after :=
      ⟨_, List.getElem?_eq_getElem (hround.participants.symm ▸ hk)⟩
    have hpair := hall (a.participants[k], after) (List.mem_of_getElem?
      (List.getElem?_zip_eq_some.mpr ⟨hbefore, hafter⟩))
    rw [hbefore, hafter]
    exact congrArg some hpair.membership
  · rw [List.getElem?_eq_none (hround.participants ▸ Nat.not_lt.mp hk),
      List.getElem?_eq_none (Nat.not_lt.mp hk)]

/-- **The rounds of a run.** -/
theorem succeeded_of_chain {agreements : List CoordinatedReservationAgreement}
    (h : agreements.IsChain (AcceptedSuccessor P D)) {i j : Nat} (hij : i < j) :
    ∀ {earlier later}, agreements[i]? = some earlier →
      agreements[j]? = some later → Succeeded P D (j - i) earlier later := by
  induction j with
  | zero => omega
  | succ j ih =>
      intro earlier later hi hj
      have hlt := (List.getElem?_eq_some_iff.mp hj).1
      have hmiddle := List.getElem?_eq_getElem (show j < agreements.length by omega)
      have hstep : AcceptedSuccessor P D agreements[j] later := by
        have hnext := h.getElem j hlt
        rw [List.getElem?_eq_getElem hlt] at hj
        rwa [Option.some.inj hj] at hnext
      have hlast := succeeded_of_accepted hdigest hstep
      by_cases heq : i = j
      · subst heq
        rw [hmiddle] at hi
        rw [Option.some.inj hi] at hlast
        rwa [show i + 1 - i = 1 by omega]
      · have hrun := ih (by omega) hi hmiddle
        rw [show j + 1 - i = j - i + 1 by omega]
        exact hrun.trans hlast

end

-- === acceptance

/-- What succession asks of two agreements and the mapping: the round after
with the same members, each with a fresh signature, and heads that extend
the earlier ones in the supplied histories. -/
structure SuccessionConditions
    (previous successor : CoordinatedReservationAgreement)
    (deploymentIds : List Bytes)
    (histories : List RotatingOccupancyPublicationHistory) : Prop where
  next : NextRound previous successor
  members : successor.participants.map (·.membership)
    = previous.participants.map (·.membership)
  fresh : ∀ pair ∈ previous.participants.zip successor.participants,
    pair.1.publisherSequence < pair.2.publisherSequence
  heads : ∀ pair ∈ previous.participants.zip successor.participants,
    ∀ history, Mapped deploymentIds histories pair.1.deploymentId history →
      (∃ m n, m < n ∧ PublishedAt history m pair.1.publicationHeadId
        ∧ PublishedAt history n pair.2.publicationHeadId)
      ∧ ∃ s t, s ≤ t ∧ TrustedAt history s pair.1.trustHeadBundleId
        ∧ TrustedAt history t pair.2.trustHeadBundleId

section
variable {P : Platform} {D : Set Bytes} {files : PayloadFiles}
  {deploymentIds : List Bytes}
  {histories : List RotatingOccupancyPublicationHistory}

/-- The stored check of a stream and a frame follows from the pins. -/
theorem pinned_stream {p : CoordinatedReservationParticipant}
    {a : CoordinatedReservationAgreement}
    {history : RotatingOccupancyPublicationHistory}
    (h : pinnedHistory P p a history = true) :
    history.valid P = true ∧ history.stream.timelineId = a.timelineId
      ∧ history.stream.workspaceFrameId = a.workspaceFrameId := by
  unfold pinnedHistory at h
  simp only [Bool.and_eq_true, decide_eq_true_eq] at h
  exact ⟨h.1.1.1.1.1.1, h.1.2, h.2⟩

variable (hdigest : Set.InjOn P.sha256 D)
include hdigest

/-- **What replays passes the stored check.** -/
theorem stored_of_replay {a : CoordinatedReservationAgreement}
    {bundle : ContinuousFleetOccupancyBundle Float}
    (hheld : ∀ history ∈ histories, rotatingDocuments P history ⊆ D)
    (hdocuments : replayDocuments P a bundle histories ⊆ D)
    (hvalid : a.valid P = true) (hbundle : a.occupancyBundleId = bundle.id)
    {p : CoordinatedReservationParticipant} (hp : p ∈ a.participants)
    {history : RotatingOccupancyPublicationHistory} (hhistory : history ∈ histories)
    (h : Replayed P files a bundle p history) : StoredIn P files p a history := by
  obtain ⟨trust, trustBundle, publication, verified, occupancy, htrust, htrustBundle,
    hpublication, hprefix, hverified, hverifiedEq, hsigned, hfields⟩ :=
      replayed_fields hdigest hdocuments hvalid hp hhistory h
  obtain ⟨hhistoryValid, htimeline, hframe⟩ := pinned_stream h.pinned
  obtain ⟨-, -, place, entry, -, hentry, rfl⟩ := publication_iff.mp hpublication
  have hstream := (Held.mk hhistoryValid (hheld history hhistory)).streamEntry hentry
  simp only [participantIdentityFields, participantOf, List.cons.injEq,
    Prod.mk.injEq, true_and, and_true, Json.string.injEq] at hfields
  obtain ⟨-, hbytes, hdigestField, -, -, htrustBundleId, hkey, hsequence, -, -, -, -,
    hfrom, hthrough, hverifiedId⟩ := hfields
  refine ⟨h.pinned, entry.publication, trust, trustBundle, verified, hpublication,
    htrust, htrustBundle, ?_, hverified, ?_⟩
  · rw [htrustBundleId]
    exact hprefix
  · have hword : ∀ {x y : UInt64}, Json.uint x.toNat = Json.uint y.toNat → y = x :=
      fun h => (UInt64.toNat_inj.mp (Json.uint_inj h)).symm
    rw [hverifiedEq] at hbytes hdigestField hfrom hthrough
    unfold sameStatement
    simp only [Bool.and_eq_true, decide_eq_true_eq]
    exact ⟨⟨⟨⟨⟨⟨⟨⟨⟨⟨hkey.symm, hword hsequence⟩, htrustBundleId.symm⟩,
      hsigned.trans hbundle.symm⟩, hstream.timelineId.trans htimeline⟩,
      hstream.workspaceFrameId.trans hframe⟩, hdigestField.symm⟩, hword hbytes⟩,
      hword hfrom⟩, hword hthrough⟩, hverifiedId.symm⟩

/-- **Agreements that replay against one mapping, and meet the conditions
of succession, succeed one another.** -/
theorem accepted_of_replays {previous successor : CoordinatedReservationAgreement}
    {bundle bundle' : ContinuousFleetOccupancyBundle Float}
    {options : CoordinatedReservationAgreementLoadOptions}
    (hheld : ∀ history ∈ histories, rotatingDocuments P history ⊆ D)
    (hdocuments : replayDocuments P previous bundle histories ⊆ D)
    (hdocuments' : replayDocuments P successor bundle' histories ⊆ D)
    (hprevious : verifyCoordinatedReservationAgreement P files previous bundle
      deploymentIds histories options = .ok ())
    (hsuccessor : verifyCoordinatedReservationAgreement P files successor bundle'
      deploymentIds histories options = .ok ())
    (h : SuccessionConditions previous successor deploymentIds histories) :
    verifyCoordinatedReservationSuccessor P files previous successor deploymentIds
      histories options = .ok () := by
  obtain ⟨hinput, hall, hnodup⟩ := verifyAgreement_iff.mp hprevious
  obtain ⟨hinput', hall', -⟩ := verifyAgreement_iff.mp hsuccessor
  refine verifySuccessor_iff.mpr ⟨⟨hinput.valid, hinput'.valid, hinput.positive,
    hinput.paired, hinput.covered, hinput.participants, hinput.payload,
    hinput'.payload⟩, h.next, ?_, ?_⟩
  · intro pair hpair
    obtain ⟨before, after⟩ := pair
    obtain ⟨k, hk⟩ := List.mem_iff_getElem?.mp hpair
    obtain ⟨hbefore, hafter⟩ := List.getElem?_zip_eq_some.mp hk
    have hmembership : after.membership = before.membership := by
      have hmembers := congrArg (·[k]?) h.members
      simp only [List.getElem?_map, hbefore, hafter, Option.map_some,
        Option.some.injEq] at hmembers
      exact hmembers
    have hdeployment : after.deploymentId = before.deploymentId :=
      congrArg (·.1) hmembership
    have hmem := List.mem_of_getElem? hbefore
    have hmem' := List.mem_of_getElem? hafter
    obtain ⟨history, hmapped, hreplayed⟩ := hall before hmem
    obtain ⟨history', hmapped', hreplayed'⟩ := hall' after hmem'
    rw [hdeployment] at hmapped'
    have hsame := hmapped.unique hmapped'
    subst hsame
    have hstored := stored_of_replay hdigest hheld hdocuments hinput.valid
      hinput.occupancyBundleId hmem hmapped.mem hreplayed
    have hstored' := stored_of_replay hdigest hheld hdocuments' hinput'.valid
      hinput'.occupancyBundleId hmem' hmapped.mem hreplayed'
    have hvalid := (pinned_stream hreplayed.pinned).1
    have hheldIn : Held P D history := ⟨hvalid, hheld history hmapped.mem⟩
    obtain ⟨⟨m, n, hlt, hm, hn⟩, s, t, hle, hs, ht⟩ :=
      h.heads (before, after) hpair history hmapped
    obtain ⟨trust, hopened⟩ := opened_of_valid hvalid
    refine ⟨hmembership, h.fresh (before, after) hpair, history, hmapped,
      verifyExtension_iff.mpr ⟨hstored, hstored', trust,
        replayedTrustHistory_iff.mpr ⟨hvalid, hopened.trustHistory⟩, ?_, ?_⟩⟩
    · exact ⟨m, n, (hheldIn.publicationIndex_iff hdigest).mpr hm,
        (hheldIn.publicationIndex_iff hdigest).mpr hn, hlt⟩
    · exact ⟨s, t, (hheldIn.trustIndex_iff hdigest hopened.trustHistory).mpr hs,
        (hheldIn.trustIndex_iff hdigest hopened.trustHistory).mpr ht, hle⟩
  · have hzip : (previous.participants.zip successor.participants).map
        (·.1.deploymentId) = previous.participants.map (·.deploymentId) := by
      have hfst : (previous.participants.zip successor.participants).map
          Prod.fst = previous.participants :=
        List.map_fst_zip (Nat.le_of_eq h.next.participants.symm)
      conv_rhs => rw [← hfst]
      rw [List.map_map]
      rfl
    rw [hzip]
    exact hnodup

end

/-- **Reservation rounds form one chain.** Along every run of agreements
that the successor verifier accepts pair by pair, each with a mapping of
its own, the later agreements are later rounds of the same reservations,
with heads that extend the earlier ones in every valid history that holds
them. And agreements that replay against one mapping are accepted when
the conditions of succession hold. -/
theorem reservation_rounds (P : Platform) (D : Set Bytes)
    (hdigest : Set.InjOn P.sha256 D) :
    (∀ agreements : List CoordinatedReservationAgreement,
      agreements.IsChain (AcceptedSuccessor P D) →
      ∀ i j earlier later, i < j → agreements[i]? = some earlier →
        agreements[j]? = some later → Succeeded P D (j - i) earlier later)
    ∧ ∀ files previous successor bundle bundle' deploymentIds histories options,
      (∀ history ∈ histories, rotatingDocuments P history ⊆ D) →
      replayDocuments P previous bundle histories ⊆ D →
      replayDocuments P successor bundle' histories ⊆ D →
      verifyCoordinatedReservationAgreement P files previous bundle deploymentIds
        histories options = .ok () →
      verifyCoordinatedReservationAgreement P files successor bundle' deploymentIds
        histories options = .ok () →
      SuccessionConditions previous successor deploymentIds histories →
      verifyCoordinatedReservationSuccessor P files previous successor deploymentIds
        histories options = .ok () := by
  constructor
  · intro agreements hchain i j earlier later hij hi hj
    exact succeeded_of_chain hdigest hchain hij hi hj
  · intro files previous successor bundle bundle' deploymentIds histories options
      hheld hdocuments hdocuments' hprevious hsuccessor hconditions
    exact accepted_of_replays hdigest hheld hdocuments hdocuments' hprevious
      hsuccessor hconditions

-- === two rounds

section
variable {P : Platform} {robots : List (RobotTrajectoryOccupancy Float)}
  {serviceId : Bytes}

/-- Both publications of a service stand in its history, in this order. -/
theorem announces_both (h : StandingFleet P robots)
    (hcheck : ∀ signature key message, P.ed25519Check signature key message = true)
    (hservice : serviceId = ascii "alpha" ∨ serviceId = ascii "beta")
    (hdistinct : (sampleAnnouncement P robots serviceId 1 []).id
      ≠ (sampleSecondEntry P robots serviceId).publication.id) :
    Announces P robots serviceId (sampleAnnouncement P robots serviceId 1 [])
        (secondAnnouncements P robots serviceId)
      ∧ Announces P robots serviceId (sampleSecondEntry P robots serviceId).publication
        (secondAnnouncements P robots serviceId) := by
  have hentries : (secondAnnouncements P robots serviceId).entries
      = [samplePublicationEntry P (sampleAnnouncement P robots serviceId 1 []) [],
        sampleSecondEntry P robots serviceId] := rfl
  have hvalid : (secondAnnouncements P robots serviceId).valid P = true :=
    valid_secondAnnouncements hservice
  constructor
  · have hplace : (secondAnnouncements P robots serviceId).publicationPosition
        (sampleAnnouncement P robots serviceId 1 []).id = some 0 := by
      unfold RotatingOccupancyPublicationHistory.publicationPosition
      rw [hentries, List.findIdx?_cons]
      simp [samplePublicationEntry]
    exact announces_of_entry h hcheck hservice (show (0 : UInt64) < 1 by decide) rfl
      hvalid rfl hplace rfl rfl
  · have hplace : (secondAnnouncements P robots serviceId).publicationPosition
        (sampleSecondEntry P robots serviceId).publication.id = some 1 := by
      unfold RotatingOccupancyPublicationHistory.publicationPosition
      rw [hentries, List.findIdx?_cons]
      simp [samplePublicationEntry, hdistinct]
    exact announces_of_entry h hcheck hservice (show (0 : UInt64) < 2 by decide)
      (P.validSha256_digest _) hvalid rfl hplace rfl rfl

/-- Both services with the robots they publish for. -/
def publishers : List (Bytes × Bytes × RobotTrajectoryOccupancy Float) :=
  [(ascii "alpha", ascii "d", nearRobot), (ascii "beta", ascii "e", farRobot)]

/-- The documents of the participants of a plan. -/
def participantDocuments (P : Platform) (planId : Bytes) : List Bytes :=
  publishers.flatMap fun publisher =>
    (announcedEntries P planId publisher.1).map fun entry =>
      participantDocument P (sampleParticipant P publisher.2.1 publisher.2.2
        (announcementsOf P planId publisher.1) entry.publication 1)

/-- A participant takes only the stream and the trust root of its history. -/
theorem sampleParticipant_congr {deploymentId : Bytes}
    {occupancy : RobotTrajectoryOccupancy Float} {publication : OccupancyPublication}
    {history history' : RotatingOccupancyPublicationHistory} {tick : UInt64}
    (hstream : history.stream = history'.stream)
    (hroot : history.trustRootBundleId = history'.trustRootBundleId) :
    sampleParticipant P deploymentId occupancy history publication tick
      = sampleParticipant P deploymentId occupancy history' publication tick := by
  unfold sampleParticipant participantOf
  rw [hstream, hroot]

theorem mem_participantDocuments
    {publisher : Bytes × Bytes × RobotTrajectoryOccupancy Float}
    {entry : PublicationEntry} (hpublisher : publisher ∈ publishers)
    (hentry : entry ∈ (secondAnnouncements P robots publisher.1).entries) :
    participantDocument P (sampleParticipant P publisher.2.1 publisher.2.2
        (secondAnnouncements P robots publisher.1) entry.publication 1)
      ∈ participantDocuments P (samplePlan P robots).id := by
  have hsame := @sampleParticipant_congr P publisher.2.1 publisher.2.2
    entry.publication (secondAnnouncements P robots publisher.1)
    (announcementsOf P (samplePlan P robots).id publisher.1) 1 rfl rfl
  rw [hsame]
  unfold participantDocuments
  rw [List.mem_flatMap]
  refine ⟨publisher, hpublisher, ?_⟩
  rw [List.mem_map]
  exact ⟨entry, hentry, rfl⟩

/-- The publications of both services. -/
def announcedPlaces (P : Platform) (robots : List (RobotTrajectoryOccupancy Float)) :
    List (RotatingOccupancyPublicationHistory × PublicationEntry) :=
  publishers.flatMap fun publisher =>
    (secondAnnouncements P robots publisher.1).entries.map fun entry =>
      (secondAnnouncements P robots publisher.1, entry)

theorem mem_announcedPlaces
    {publisher : Bytes × Bytes × RobotTrajectoryOccupancy Float}
    {entry : PublicationEntry} (hpublisher : publisher ∈ publishers)
    (hentry : entry ∈ (secondAnnouncements P robots publisher.1).entries) :
    (secondAnnouncements P robots publisher.1, entry) ∈ announcedPlaces P robots := by
  unfold announcedPlaces
  rw [List.mem_flatMap]
  refine ⟨publisher, hpublisher, ?_⟩
  rw [List.mem_map]
  exact ⟨entry, hentry, rfl⟩

/-- A round of the plan with both histories. -/
def roundAgreement (P : Platform) (robots : List (RobotTrajectoryOccupancy Float))
    (round : UInt64) (parentId : Bytes) (near far : OccupancyPublication) :
    CoordinatedReservationAgreement :=
  sampleAgreement P robots round parentId
    (sampleParticipant P (ascii "d") nearRobot
      (secondAnnouncements P robots (ascii "alpha")) near 1)
    (sampleParticipant P (ascii "e") farRobot
      (secondAnnouncements P robots (ascii "beta")) far 1)

/-- The documents of a replay of such a round. -/
theorem round_documents {a : CoordinatedReservationAgreement}
    {near far : PublicationEntry}
    (hnear : near ∈ (secondAnnouncements P robots (ascii "alpha")).entries)
    (hfar : far ∈ (secondAnnouncements P robots (ascii "beta")).entries)
    (hd : findOccupancy (samplePlan P robots) (ascii "d") = some nearRobot)
    (he : findOccupancy (samplePlan P robots) (ascii "e") = some farRobot)
    (hids : ((announcedPlaces P robots).map (·.2.publication.id)).Nodup)
    (htick : a.evaluationTick = 1)
    (hparticipants : a.participants = [sampleParticipant P (ascii "d") nearRobot
      (secondAnnouncements P robots (ascii "alpha")) near.publication 1,
        sampleParticipant P (ascii "e") farRobot
          (secondAnnouncements P robots (ascii "beta")) far.publication 1])
    {document : Bytes}
    (h : document ∈ replayDocuments P a (samplePlan P robots)
      [secondAnnouncements P robots (ascii "alpha"),
        secondAnnouncements P robots (ascii "beta")]) :
    document ∈ participantDocuments P (samplePlan P robots).id := by
  obtain ⟨p, hp, hdocument⟩ := h
  have hmember : ∃ publisher ∈ publishers, ∃ held,
      held ∈ (secondAnnouncements P robots publisher.1).entries
      ∧ findOccupancy (samplePlan P robots) publisher.2.1 = some publisher.2.2
      ∧ p = sampleParticipant P publisher.2.1 publisher.2.2
        (secondAnnouncements P robots publisher.1) held.publication 1 := by
    rw [hparticipants, List.mem_pair] at hp
    rcases hp with hp | hp
    · exact ⟨_, List.mem_cons_self, near, hnear, hd, hp⟩
    · exact ⟨_, List.mem_cons_of_mem _ List.mem_cons_self, far, hfar, he, hp⟩
  obtain ⟨publisher, hpublisher, held, hheld, hlisted, hparticipant⟩ := hmember
  have hmem := mem_participantDocuments hpublisher hheld
  rcases hdocument with hdocument | ⟨occupancy, history, entry, hfound, hhistory,
    hentry, hhead, hdocument⟩
  · rw [hdocument, hparticipant]
    exact hmem
  · -- the publication stands in one history only, and the deployment in the plan
    have hplace : (history, entry) ∈ announcedPlaces P robots := by
      rcases List.mem_pair.mp hhistory with hhistory | hhistory
      · rw [hhistory] at hentry ⊢
        exact mem_announcedPlaces List.mem_cons_self hentry
      · rw [hhistory] at hentry ⊢
        exact mem_announcedPlaces (List.mem_cons_of_mem _ List.mem_cons_self) hentry
    rw [hparticipant] at hhead hfound hdocument
    have hsame : (history, entry)
        = (secondAnnouncements P robots publisher.1, held) :=
      List.inj_on_of_nodup_map hids hplace (mem_announcedPlaces hpublisher hheld) hhead
    obtain ⟨hhistoryEq, hentryEq⟩ := Prod.mk.inj hsame
    have hoccupancy : occupancy = publisher.2.2 :=
      Option.some.inj (hfound.symm.trans hlisted)
    rw [hdocument, htick, hhistoryEq, hentryEq, hoccupancy]
    exact hmem

/-- The fields of a round. -/
theorem roundAgreement_fields {round : UInt64} {parentId : Bytes}
    {near far : OccupancyPublication} :
    (roundAgreement P robots round parentId near far).round = round
      ∧ (roundAgreement P robots round parentId near far).parentAgreementId = parentId
      ∧ (roundAgreement P robots round parentId near far).protocolId = ascii "r"
      ∧ (roundAgreement P robots round parentId near far).timelineId = ascii "t"
      ∧ (roundAgreement P robots round parentId near far).workspaceFrameId = ascii "w"
      ∧ (roundAgreement P robots round parentId near far).evaluationTick = 1
      ∧ (roundAgreement P robots round parentId near far).participants
        = [sampleParticipant P (ascii "d") nearRobot
            (secondAnnouncements P robots (ascii "alpha")) near 1,
          sampleParticipant P (ascii "e") farRobot
            (secondAnnouncements P robots (ascii "beta")) far 1] :=
  ⟨rfl, rfl, rfl, rfl, rfl, rfl, rfl⟩

/-- A round can be the parent of the second. -/
theorem validParent_round {round : UInt64} {parentId : Bytes}
    {near far : OccupancyPublication} :
    validParent 2 (roundAgreement P robots round parentId near far).id = true :=
  P.validSha256_digest _

/-- A deployment stays the same member. -/
theorem sampleParticipant_membership {deploymentId : Bytes}
    {occupancy : RobotTrajectoryOccupancy Float}
    {publication publication' : OccupancyPublication}
    {history : RotatingOccupancyPublicationHistory} {tick : UInt64} :
    (sampleParticipant P deploymentId occupancy history publication tick).membership
      = (sampleParticipant P deploymentId occupancy history publication'
        tick).membership := by
  simp only [CoordinatedReservationParticipant.membership, sampleParticipant,
    participantOf]

/-- The two rounds meet the conditions of succession. -/
theorem rounds_succession {parentId : Bytes}
    (hparent : parentId = (roundAgreement P robots 1 []
      (sampleAnnouncement P robots (ascii "alpha") 1 [])
      (sampleAnnouncement P robots (ascii "beta") 1 [])).id) :
    SuccessionConditions
      (roundAgreement P robots 1 [] (sampleAnnouncement P robots (ascii "alpha") 1 [])
        (sampleAnnouncement P robots (ascii "beta") 1 []))
      (roundAgreement P robots 2 parentId
        (sampleSecondEntry P robots (ascii "alpha")).publication
        (sampleSecondEntry P robots (ascii "beta")).publication)
      [ascii "d", ascii "e"]
      [secondAnnouncements P robots (ascii "alpha"),
        secondAnnouncements P robots (ascii "beta")] := by
  have hpublished : ∀ serviceId,
      (∃ m n, m < n
        ∧ PublishedAt (secondAnnouncements P robots serviceId) m
          (sampleAnnouncement P robots serviceId 1 []).id
        ∧ PublishedAt (secondAnnouncements P robots serviceId) n
          (sampleSecondEntry P robots serviceId).publication.id)
      ∧ ∃ s t, s ≤ t
        ∧ TrustedAt (secondAnnouncements P robots serviceId) s (sampleBundle P).id
        ∧ TrustedAt (secondAnnouncements P robots serviceId) t (sampleBundle P).id := by
    intro serviceId
    have hroot : TrustedAt (secondAnnouncements P robots serviceId) 0
        (sampleBundle P).id := ⟨sampleHistory P, rfl, sampleBundle P, rfl, rfl⟩
    exact ⟨⟨0, 1, Nat.zero_lt_one, ⟨_, rfl, rfl⟩, ⟨_, rfl, rfl⟩⟩, 0, 0, Nat.le_refl 0,
      hroot, hroot⟩
  have hmapped : ∀ {index : Nat} {deploymentId : Bytes}
      {history : RotatingOccupancyPublicationHistory},
      [ascii "d", ascii "e"][index]? = some deploymentId →
      Mapped [ascii "d", ascii "e"] [secondAnnouncements P robots (ascii "alpha"),
        secondAnnouncements P robots (ascii "beta")] deploymentId history →
      [secondAnnouncements P robots (ascii "alpha"),
        secondAnnouncements P robots (ascii "beta")][index]? = some history := by
    rintro index deploymentId history hindex ⟨place, -, hunique, hhistory⟩
    rw [hunique index hindex]
    exact hhistory
  have hzip : ∀ {motive : CoordinatedReservationParticipant
        × CoordinatedReservationParticipant → Prop}
      {p q p' q' : CoordinatedReservationParticipant},
      motive (p, p') → motive (q, q') → ∀ pair ∈ [p, q].zip [p', q'], motive pair := by
    intro motive p q p' q' hp hq pair hpair
    rcases List.mem_pair.mp hpair with hpair | hpair
    · rw [hpair]
      exact hp
    · rw [hpair]
      exact hq
  have hmembers : ∀ {p q p' q' : CoordinatedReservationParticipant},
      p'.membership = p.membership → q'.membership = q.membership →
      [p', q'].map (·.membership) = [p, q].map (·.membership) := by
    intro p q p' q' hp hq
    simp only [List.map_cons, List.map_nil, hp, hq]
  have hnext : (1 : UInt64) < 2 ∧ (2 : UInt64).toNat = (1 : UInt64).toNat + 1 := by
    decide
  obtain ⟨hround, -, hprotocol, htimeline, hframe, htick, hparticipants⟩ :=
    @roundAgreement_fields P robots 1 [] (sampleAnnouncement P robots (ascii "alpha") 1 [])
      (sampleAnnouncement P robots (ascii "beta") 1 [])
  obtain ⟨hround', hparent', hprotocol', htimeline', hframe', htick', hparticipants'⟩ :=
    @roundAgreement_fields P robots 2 parentId
      (sampleSecondEntry P robots (ascii "alpha")).publication
      (sampleSecondEntry P robots (ascii "beta")).publication
  constructor
  · constructor
    · rw [hround, hround']
      exact hnext.2
    · rw [hparent', hparent]
    · rw [hprotocol, hprotocol']
    · rw [htimeline, htimeline']
    · rw [hframe, hframe']
    · rw [htick, htick']
      exact UInt64.le_refl 1
    · rw [hparticipants, hparticipants']
      exact (rfl : (2 : Nat) = 2)
  · rw [hparticipants, hparticipants']
    exact hmembers sampleParticipant_membership sampleParticipant_membership
  · rw [hparticipants, hparticipants']
    exact hzip hnext.1 hnext.1
  · rw [hparticipants, hparticipants']
    apply hzip
    · intro history hhistory
      have hfound := @hmapped 0 _ _ rfl hhistory
      rw [← Option.some.inj hfound]
      exact hpublished (ascii "alpha")
    · intro history hhistory
      have hfound := @hmapped 1 _ _ rfl hhistory
      rw [← Option.some.inj hfound]
      exact hpublished (ascii "beta")

end

/-- The digests of the participants of two robots. -/
theorem participantDocuments_digests :
    (participantDocuments openHost (samplePlan openHost [nearRobot, farRobot]).id).map
        openHost.sha256
      = [ascii "cf3044ca344406c9b3a09125ec70e37b0827ad9215f66d82b1a8ae3e05d2d297",
        ascii "279bc7cfc31490c83e266e4df38c3b4fdf86b852d68b021e3e2443d7e7869dd1",
        ascii "6a78bf4746c64188c2be3337fe46249d59661f4a5b96ac45f193f6edff1b5821",
        ascii "87e6a6050718457bccd10c6876f3faaa0b3846db92b05225d32096f75e050386"] := by
  rw [samplePlan_pair, openHost, host_eq]
  refine congrArg₂ List.cons ?_ (congrArg₂ List.cons ?_ (congrArg₂ List.cons ?_
    (congrArg₂ List.cons ?_ rfl)))
  all_goals decide +kernel

theorem roundDocuments_injOn :
    Set.InjOn openHost.sha256 {document | document
      ∈ sampleDocuments openHost (samplePlan openHost [nearRobot, farRobot]).id
        ++ participantDocuments openHost
          (samplePlan openHost [nearRobot, farRobot]).id} := by
  have hnodup : ((sampleDocuments openHost (samplePlan openHost
      [nearRobot, farRobot]).id ++ participantDocuments openHost (samplePlan openHost
        [nearRobot, farRobot]).id).map openHost.sha256).Nodup := by
    rw [List.map_append, sampleDocuments_digests, participantDocuments_digests]
    decide
  intro document hdocument other hother hdigest
  exact List.inj_on_of_nodup_map hnodup hdocument hother hdigest

/-- The ids of the publications are among the digests of the documents. -/
theorem announcedPlaces_ids (P : Platform)
    (robots : List (RobotTrajectoryOccupancy Float)) :
    ((announcedPlaces P robots).map (·.2.publication.id)).Sublist
      ((sampleDocuments P (samplePlan P robots).id).map P.sha256) := by
  refine .cons₂ _ (.cons _ (.cons₂ _ (.cons _ (.cons₂ _ (.cons _ (.cons₂ _ ?_))))))
  exact List.nil_sublist _

/-- The first round of two robots. -/
def firstRound : CoordinatedReservationAgreement :=
  roundAgreement openHost [nearRobot, farRobot] 1 []
    (sampleAnnouncement openHost [nearRobot, farRobot] (ascii "alpha") 1 [])
    (sampleAnnouncement openHost [nearRobot, farRobot] (ascii "beta") 1 [])

/-- The round after it. -/
def secondRound : CoordinatedReservationAgreement :=
  roundAgreement openHost [nearRobot, farRobot] 2 firstRound.id
    (sampleSecondEntry openHost [nearRobot, farRobot] (ascii "alpha")).publication
    (sampleSecondEntry openHost [nearRobot, farRobot] (ascii "beta")).publication

/-- Two rounds of two robots, both of which replay. -/
theorem reservation_rounds_two :
    Succeeded openHost {document | document
      ∈ sampleDocuments openHost (samplePlan openHost [nearRobot, farRobot]).id
        ++ participantDocuments openHost
          (samplePlan openHost [nearRobot, farRobot]).id} 1 firstRound secondRound := by
  obtain ⟨hrounds, haccepted⟩ := reservation_rounds openHost _ roundDocuments_injOn
  have hd := (findOccupancy_first []).1
  have he := (findOccupancy_first []).2
  have hids := sampleDocuments_nodup.sublist
    (announcedPlaces_ids openHost [nearRobot, farRobot])
  have hdistinct : ∀ {a b c d : Bytes}, [a, b, c, d].Nodup → a ≠ b ∧ c ≠ d := by
    intro a b c d h
    simp only [List.nodup_cons, List.mem_cons, not_or] at h
    exact ⟨h.1.1, h.2.2.1.1⟩
  have hnear := announces_both standingFleet_two (fun _ _ _ => rfl) (.inl rfl)
    (hdistinct hids).1
  have hfar := announces_both standingFleet_two (fun _ _ _ => rfl) (.inr rfl)
    (hdistinct hids).2
  have hapart : nearRobot.id ≠ farRobot.id := (Std.ne_of_lt robots_apart.1).symm
  have hlimit : [nearRobot, farRobot].length ≤ 10000 := by decide
  have hfirst := SamplePair.verified (.mk standingFleet_two hd he hapart hnear.1 hfar.1)
    (show (1 : UInt64) ≠ 0 by decide) (show validParent 1 [] = true from rfl) hlimit
  have hsecond := SamplePair.verified (.mk standingFleet_two hd he hapart hnear.2 hfar.2)
    (show (2 : UInt64) ≠ 0 by decide) (validParent_round : validParent 2 firstRound.id
      = true) hlimit
  have hstep : AcceptedSuccessor openHost {document | document
      ∈ sampleDocuments openHost (samplePlan openHost [nearRobot, farRobot]).id
        ++ participantDocuments openHost
          (samplePlan openHost [nearRobot, farRobot]).id} firstRound secondRound := by
    have hconditions : SuccessionConditions firstRound secondRound
        [ascii "d", ascii "e"]
        [secondAnnouncements openHost [nearRobot, farRobot] (ascii "alpha"),
          secondAnnouncements openHost [nearRobot, farRobot] (ascii "beta")] :=
      @rounds_succession openHost [nearRobot, farRobot] firstRound.id
        (by unfold firstRound; exact Eq.refl _)
    have hheld : ∀ history ∈ [secondAnnouncements openHost [nearRobot, farRobot]
          (ascii "alpha"), secondAnnouncements openHost [nearRobot, farRobot]
          (ascii "beta")], rotatingDocuments openHost history ⊆ {document | document
        ∈ sampleDocuments openHost (samplePlan openHost [nearRobot, farRobot]).id
          ++ participantDocuments openHost
            (samplePlan openHost [nearRobot, farRobot]).id} := by
      intro history hhistory document hdocument
      apply List.mem_append_left
      rcases List.mem_pair.mp hhistory with hhistory | hhistory
      · rw [hhistory] at hdocument
        exact secondAnnouncements_documents (.inl rfl) hdocument
      · rw [hhistory] at hdocument
        exact secondAnnouncements_documents (.inr rfl) hdocument
    refine ⟨_, _, _, _, hheld, haccepted _ _ _ _ _ _ _ _ hheld ?_ ?_ hfirst hsecond
      hconditions⟩
    · intro document hdocument
      apply List.mem_append_right
      have hfields := @roundAgreement_fields openHost [nearRobot, farRobot] 1 []
        (sampleAnnouncement openHost [nearRobot, farRobot] (ascii "alpha") 1 [])
        (sampleAnnouncement openHost [nearRobot, farRobot] (ascii "beta") 1 [])
      exact @round_documents openHost [nearRobot, farRobot] firstRound
        (samplePublicationEntry openHost _ []) (samplePublicationEntry openHost _ [])
        List.mem_cons_self List.mem_cons_self hd he hids hfields.2.2.2.2.2.1
        hfields.2.2.2.2.2.2 document hdocument
    · intro document hdocument
      apply List.mem_append_right
      have hfields := @roundAgreement_fields openHost [nearRobot, farRobot] 2
        firstRound.id
        (sampleSecondEntry openHost [nearRobot, farRobot] (ascii "alpha")).publication
        (sampleSecondEntry openHost [nearRobot, farRobot] (ascii "beta")).publication
      have hsecondMem : ∀ serviceId, sampleSecondEntry openHost [nearRobot, farRobot]
          serviceId ∈ (secondAnnouncements openHost [nearRobot, farRobot]
            serviceId).entries :=
        fun serviceId => List.mem_append_right _ List.mem_cons_self
      exact @round_documents openHost [nearRobot, farRobot] secondRound _ _
        (hsecondMem (ascii "alpha")) (hsecondMem (ascii "beta")) hd he hids
        hfields.2.2.2.2.2.1 hfields.2.2.2.2.2.2 document hdocument
  exact hrounds [firstRound, secondRound] (List.isChain_pair.mpr hstep) 0 1 firstRound
    secondRound Nat.zero_lt_one rfl rfl

end RbfSafe
