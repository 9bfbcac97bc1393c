/-
Making agreements and replaying them.

An agreement that was made replays against its histories, in whatever
order they are given and however far they have moved on
(`verified_of_made`), and its window is where the windows of its
participants meet. The verifier accepts an agreement for other plans as
well: it asks that every participant has a deployment of the plan, and not
that every deployment has a participant (`reserved_iff`).
-/
import RbfSafe.Coordination.Proofs.Extension
import RbfSafe.Occupancy.Proofs.Coverage
import RbfSafe.Witness.Proofs.Gossip

namespace RbfSafe

-- === windows

theorem max_le_iff_word {a b c : UInt64} : max a b ≤ c ↔ a ≤ c ∧ b ≤ c := by
  show (if a ≤ b then b else a) ≤ c ↔ _
  by_cases hab : a ≤ b
  · rw [if_pos hab]
    exact ⟨fun h => ⟨UInt64.le_trans hab h, h⟩, And.right⟩
  · rw [if_neg hab]
    have hba : b ≤ a := UInt64.le_of_lt (UInt64.not_le.mp hab)
    exact ⟨fun h => ⟨h, UInt64.le_trans hba h⟩, And.left⟩

theorem le_min_iff_word {a b c : UInt64} : a ≤ min b c ↔ a ≤ b ∧ a ≤ c := by
  show a ≤ (if b ≤ c then b else c) ↔ _
  by_cases hbc : b ≤ c
  · rw [if_pos hbc]
    exact ⟨fun h => ⟨h, UInt64.le_trans h hbc⟩, And.left⟩
  · rw [if_neg hbc]
    have hcb : c ≤ b := UInt64.le_of_lt (UInt64.not_le.mp hbc)
    exact ⟨fun h => ⟨UInt64.le_trans h hcb, h⟩, And.right⟩

section
variable {participants : List CoordinatedReservationParticipant}

theorem foldl_max_le {start tick : UInt64} :
    participants.foldl (fun expected p => max expected p.validFromTick) start ≤ tick
      ↔ start ≤ tick ∧ ∀ p ∈ participants, p.validFromTick ≤ tick := by
  induction participants generalizing start with
  | nil => simp
  | cons p rest ih =>
      rw [List.foldl_cons, ih]
      rw [max_le_iff_word, and_assoc]
      simp only [List.mem_cons, forall_eq_or_imp]

theorem le_foldl_min {start tick : UInt64} :
    tick ≤ participants.foldl (fun expected p => min expected p.validThroughTick)
        start
      ↔ tick ≤ start ∧ ∀ p ∈ participants, tick ≤ p.validThroughTick := by
  induction participants generalizing start with
  | nil => simp
  | cons p rest ih =>
      rw [List.foldl_cons, ih]
      rw [le_min_iff_word, and_assoc]
      simp only [List.mem_cons, forall_eq_or_imp]

end

/-- The window of an agreement is where those of its participants meet,
and holds the evaluation tick. -/
structure CommonWindow (agreement : CoordinatedReservationAgreement)
    (evaluationTick : UInt64) : Prop where
  tick : agreement.evaluationTick = evaluationTick
  window : ∀ tick, (agreement.validFromTick ≤ tick
      ∧ tick ≤ agreement.validThroughTick)
    ↔ ∀ p ∈ agreement.participants, p.validFromTick ≤ tick
      ∧ tick ≤ p.validThroughTick
  holds : agreement.validFromTick ≤ evaluationTick
    ∧ evaluationTick ≤ agreement.validThroughTick

/-- **The window of a valid agreement.** -/
theorem commonWindow_of_valid {P : Platform}
    {agreement : CoordinatedReservationAgreement} (h : agreement.valid P = true) :
    CommonWindow agreement agreement.evaluationTick := by
  unfold CoordinatedReservationAgreement.valid at h
  simp only [Bool.and_eq_true, decide_eq_true_eq] at h
  obtain ⟨⟨⟨⟨⟨⟨⟨⟨⟨⟨⟨⟨⟨⟨⟨-, hfrom⟩, hthrough⟩, -⟩, -⟩, -⟩, -⟩, -⟩, -⟩, -⟩, -⟩, -⟩,
    -⟩, -⟩, hexpectedFrom⟩, hexpectedThrough⟩ := h
  refine ⟨rfl, fun tick => ?_, hfrom, hthrough⟩
  have hzero : (0 : UInt64) ≤ tick := UInt64.le_iff_toNat_le.mpr (Nat.zero_le _)
  have hlast : tick ≤ .ofNat (2 ^ 64 - 1) := by
    apply UInt64.le_iff_toNat_le.mpr
    have hlt := tick.toNat_lt
    rw [UInt64.toNat_ofNat']
    omega
  rw [hexpectedFrom, hexpectedThrough, expectedFrom, expectedThrough, foldl_max_le,
    le_foldl_min]
  constructor
  · exact fun ⟨⟨_, hbelow⟩, _, habove⟩ p hp => ⟨hbelow p hp, habove p hp⟩
  · exact fun hall => ⟨⟨hzero, fun p hp => (hall p hp).1⟩, hlast,
      fun p hp => (hall p hp).2⟩

-- === making

section
variable {P : Platform} {files : PayloadFiles}
  {bundle : ContinuousFleetOccupancyBundle Float}
  {options : CoordinatedReservationAgreementLoadOptions} {evaluationTick : UInt64}

/-- What was checked of a participant that was made. -/
structure Listed (P : Platform) (files : PayloadFiles)
    (bundle : ContinuousFleetOccupancyBundle Float)
    (options : CoordinatedReservationAgreementLoadOptions)
    (evaluationTick : UInt64) (deploymentId : Bytes)
    (history : RotatingOccupancyPublicationHistory)
    (p : CoordinatedReservationParticipant) : Prop where
  made : ∃ occupancy publication, findOccupancy bundle deploymentId = some occupancy
    ∧ makeParticipant P files deploymentId occupancy history
      p.publicationHeadId p.trustHeadBundleId evaluationTick = .ok p
    ∧ history.publication P p.publicationHeadId = .ok publication
    ∧ publication.occupancyBundleId = bundle.id
    ∧ publication.timelineId = bundle.report.timelineId
    ∧ publication.workspaceFrameId = bundle.report.workspaceFrameId
  payload : p.payloadBytes.toNat ≤ options.maximumPayloadBytes
  deploymentId : p.deploymentId = deploymentId
  streamId : p.streamId = history.stream.streamId
  publisherServiceId : p.publisherServiceId = history.stream.publisherServiceId
  trustRootBundleId : p.trustRootBundleId = history.trustRootBundleId
  publicationRootId : p.publicationRootId = history.stream.rootPublicationId

theorem makeListed_ok {deploymentId : Bytes}
    {history : RotatingOccupancyPublicationHistory}
    {p : CoordinatedReservationParticipant}
    (h : makeListed P files bundle options evaluationTick deploymentId history
      = .ok p) :
    Listed P files bundle options evaluationTick deploymentId history p := by
  unfold makeListed at h
  cases hoccupancy : findOccupancy bundle deploymentId with
  | none =>
      rw [hoccupancy] at h
      cases h
  | some occupancy =>
      rw [hoccupancy] at h
      obtain ⟨made, hmade, h⟩ := bind_eq_ok.mp h
      obtain ⟨publication, hpublication, h⟩ := bind_eq_ok.mp h
      rw [ite_failure_eq_ok] at h
      obtain ⟨hsame, h⟩ := h
      have hp := Except.ok.inj h
      subst hp
      simp only [not_or, not_not, Nat.not_lt] at hsame
      obtain ⟨hbundle, htimeline, hframe, hpayload⟩ := hsame
      obtain ⟨trust, trustBundle, publication', verified, -, -, hpublication', -, -,
        hparticipant⟩ := makeParticipant_ok hmade
      -- the head it pins is the publication it was looked up by
      have hhead : made.publicationHeadId = history.currentPublicationId := by
        obtain ⟨-, -, place, entry, hplace, hentry, rfl⟩ :=
          publication_iff.mp hpublication'
        rw [hparticipant, ← publicationPosition_id hplace hentry]
        rfl
      have htrust : made.trustHeadBundleId = history.currentTrustBundleId := by
        rw [hparticipant]
        rfl
      refine ⟨⟨occupancy, publication, hoccupancy, ?_, hpublication, hbundle,
        htimeline, hframe⟩, hpayload, ?_, ?_, ?_, ?_, ?_⟩
      · rw [hhead, htrust]
        exact hmade
      all_goals
        rw [hparticipant]
        rfl

theorem makeAll_ok {pairs : List (Bytes × RotatingOccupancyPublicationHistory)}
    {participants : List CoordinatedReservationParticipant}
    (h : makeAll P files bundle options evaluationTick pairs = .ok participants) :
    List.Forall₂ (fun pair p => Listed P files bundle options evaluationTick pair.1
      pair.2 p) pairs participants := by
  induction pairs generalizing participants with
  | nil =>
      cases h
      exact .nil
  | cons pair rest ih =>
      obtain ⟨deploymentId, history⟩ := pair
      rw [makeAll] at h
      obtain ⟨p, hp, h⟩ := bind_eq_ok.mp h
      obtain ⟨ps, hps, h⟩ := bind_eq_ok.mp h
      cases h
      exact .cons (makeListed_ok hp) (ih hps)

theorem checkDeploymentIds_ok {seen deploymentIds : List Bytes}
    (h : checkDeploymentIds seen deploymentIds = .ok ()) :
    deploymentIds.Nodup ∧ ∀ id ∈ deploymentIds, id ∉ seen := by
  induction deploymentIds generalizing seen with
  | nil => exact ⟨List.nodup_nil, fun id hid => by cases hid⟩
  | cons first rest ih =>
      rw [checkDeploymentIds, ite_failure_eq_ok, not_or] at h
      obtain ⟨⟨-, hfirst⟩, h⟩ := h
      obtain ⟨hnodup, hseen⟩ := ih h
      refine ⟨List.nodup_cons.mpr ⟨?_, hnodup⟩, ?_⟩
      · exact fun hmem => hseen first hmem List.mem_cons_self
      · intro id hid
        rcases List.mem_cons.mp hid with rfl | hmem
        · exact hfirst
        · exact fun hold => hseen id hmem (List.mem_cons_of_mem _ hold)

/-- What making an agreement has checked. -/
structure Made (P : Platform) (files : PayloadFiles)
    (bundle : ContinuousFleetOccupancyBundle Float) (deploymentIds : List Bytes)
    (histories : List RotatingOccupancyPublicationHistory)
    (options : CoordinatedReservationAgreementLoadOptions)
    (evaluationTick : UInt64) (agreement : CoordinatedReservationAgreement) :
    Prop where
  positive : options.maximumParticipants ≠ 0
  positivePayload : options.maximumPayloadBytes ≠ 0
  paired : deploymentIds.length = histories.length
  plan : validateBundle P bundle options.maximumParticipants = .ok ()
  covered : deploymentIds.length = bundle.occupancies.length
  nodup : deploymentIds.Nodup
  valid : agreement.valid P = true
  tick : agreement.evaluationTick = evaluationTick
  occupancyBundleId : agreement.occupancyBundleId = bundle.id
  occupancyReportId : agreement.occupancyReportId = bundle.report.id
  timelineId : agreement.timelineId = bundle.report.timelineId
  workspaceFrameId : agreement.workspaceFrameId = bundle.report.workspaceFrameId
  separation : agreement.minimumSeparation = bundle.report.minimumSeparation
  payload : ∃ p ∈ agreement.participants, agreement.payloadBytes = p.payloadBytes
  participants : ∃ participants, agreement.participants.Perm participants
    ∧ List.Forall₂ (fun pair p => Listed P files bundle options evaluationTick pair.1
      pair.2 p) (deploymentIds.zip histories) participants

theorem made_of_ok {protocolId parentAgreementId : Bytes} {round : UInt64}
    {deploymentIds : List Bytes}
    {histories : List RotatingOccupancyPublicationHistory}
    {agreement : CoordinatedReservationAgreement}
    (h : makeCoordinatedReservationAgreement P files protocolId round
      parentAgreementId evaluationTick bundle deploymentIds histories options
      = .ok agreement) :
    Made P files bundle deploymentIds histories options evaluationTick agreement := by
  unfold makeCoordinatedReservationAgreement at h
  rw [ite_failure_eq_ok] at h
  obtain ⟨hinput, h⟩ := h
  simp only [not_or, not_not] at hinput
  obtain ⟨hpositive, hpositivePayload, hpaired⟩ := hinput
  obtain ⟨_, hplan, h⟩ := bind_eq_ok.mp h
  rw [ite_failure_eq_ok, not_not] at h
  obtain ⟨hcovered, h⟩ := h
  obtain ⟨_, hids, h⟩ := bind_eq_ok.mp h
  obtain ⟨participants, hparticipants, h⟩ := bind_eq_ok.mp h
  unfold assembleAgreement at h
  rw [ite_failure_eq_ok] at h
  obtain ⟨_, hcoverage, h⟩ := bind_eq_ok.mp h.2
  have hperm : (Lib.Sorting.sort
      CoordinatedReservationParticipant.deploymentId participants).Perm
      participants := Lib.Sorting.sort_perm _ participants
  cases hsorted : Lib.Sorting.sort CoordinatedReservationParticipant.deploymentId
      participants with
  | nil =>
      rw [hsorted] at h
      cases h
  | cons front rest =>
      rw [hsorted] at h hperm
      dsimp only at h
      rw [ite_failure_eq_ok] at h
      obtain ⟨hvalid, h⟩ := h
      have hagreement := Except.ok.inj h
      rw [← hagreement]
      exact ⟨hpositive, hpositivePayload, hpaired, hplan, hcovered,
        (checkDeploymentIds_ok hids).1, by simpa using hvalid, rfl, rfl, rfl, rfl,
        rfl, rfl, ⟨front, List.mem_cons_self, rfl⟩, participants, hperm,
        makeAll_ok hparticipants⟩

end

-- === replaying

/-- The pairs of deployment and history in some order, each history some
steps later. -/
def MovedOn (P : Platform)
    (pairs pairs' : List (Bytes × RotatingOccupancyPublicationHistory)) : Prop :=
  ∃ shuffled, shuffled.Perm pairs
    ∧ List.Forall₂ (fun before after => after.1 = before.1
      ∧ Later P before.2 after.2) shuffled pairs'

theorem exists_of_forall₂ {α β : Type} {R : α → β → Prop} {l : List α} {m : List β}
    (h : List.Forall₂ R l m) {a : α} (ha : a ∈ l) : ∃ b ∈ m, R a b := by
  induction h with
  | nil => cases ha
  | @cons first second _ _ hfirst _ ih =>
      rcases List.mem_cons.mp ha with rfl | hmem
      · exact ⟨second, List.mem_cons_self, hfirst⟩
      · obtain ⟨b, hb, hrelated⟩ := ih hmem
        exact ⟨b, List.mem_cons_of_mem _ hb, hrelated⟩

theorem map_eq_of_forall₂ {α β γ : Type} {R : α → β → Prop} {f : α → γ} {g : β → γ}
    {l : List α} {m : List β} (h : List.Forall₂ R l m)
    (hsame : ∀ a b, R a b → g b = f a) : m.map g = l.map f := by
  induction h with
  | nil => rfl
  | cons hfirst _ ih =>
      rw [List.map_cons, List.map_cons, hsame _ _ hfirst, ih]

/-- A mapping given as pairs maps each deployment to its history. -/
theorem mapped_of_mem {pairs : List (Bytes × RotatingOccupancyPublicationHistory)}
    (hnodup : (pairs.map (·.1)).Nodup) {deploymentId : Bytes}
    {history : RotatingOccupancyPublicationHistory}
    (hmem : (deploymentId, history) ∈ pairs) :
    Mapped (pairs.map (·.1)) (pairs.map (·.2)) deploymentId history := by
  obtain ⟨index, hindex⟩ := List.mem_iff_getElem?.mp hmem
  have hplace : (pairs.map (·.1))[index]? = some deploymentId := by
    rw [List.getElem?_map, hindex]
    rfl
  refine ⟨index, hplace, ?_, ?_⟩
  · intro other hother
    have hlt := (List.getElem?_eq_some_iff.mp hother).1
    exact (List.getElem?_inj hlt hnodup).mp (hother.trans hplace.symm)
  · rw [List.getElem?_map, hindex]
    rfl

section
variable {P : Platform} {files files' : PayloadFiles}
  {bundle : ContinuousFleetOccupancyBundle Float}
  {options : CoordinatedReservationAgreementLoadOptions} {evaluationTick : UInt64}
  {agreement : CoordinatedReservationAgreement}

/-- A participant that was made replays in a later history. -/
theorem replayed_of_listed {D : Set Bytes} (hdigest : Set.InjOn P.sha256 D)
    {deploymentId : Bytes} {history history' : RotatingOccupancyPublicationHistory}
    {p : CoordinatedReservationParticipant}
    (hlisted : Listed P files bundle options agreement.evaluationTick deploymentId
      history p)
    (htimeline : agreement.timelineId = bundle.report.timelineId)
    (hframe : agreement.workspaceFrameId = bundle.report.workspaceFrameId)
    (hlater : Later P history history') (hdocuments : rotatingDocuments P history' ⊆ D)
    (hfiles : SamePayloads files files' history) :
    Replayed P files' agreement bundle p history' := by
  obtain ⟨occupancy, publication, hoccupancy, hmade, hpublication, hbundle,
    htimelineOf, hframeOf⟩ := hlisted.made
  obtain ⟨hvalid, -, place, entry, -, hentry, rfl⟩ := publication_iff.mp hpublication
  have hstream := (Held.mk hvalid (Set.subset_univ _)).streamEntry hentry
  have hheld : Held P D history' := ⟨hlater.valid hvalid, hdocuments⟩
  rw [← hlisted.deploymentId] at hoccupancy hmade
  refine ⟨?_, occupancy, p, entry.publication, hoccupancy,
    hlater.makeParticipant hdigest hheld hfiles hmade,
    hlater.publication hpublication, hbundle, rfl⟩
  unfold pinnedHistory
  rw [hheld.valid, hlater.keeps.stream, hlater.keeps.trustRootBundleId,
    hlisted.streamId, hlisted.publisherServiceId, hlisted.trustRootBundleId,
    hlisted.publicationRootId, htimeline, hframe, ← htimelineOf, ← hframeOf,
    hstream.timelineId, hstream.workspaceFrameId]
  simp

/-- **What was made replays**, with the pairs in any order and the
histories any number of steps later. -/
theorem verified_of_made {D : Set Bytes} (hdigest : Set.InjOn P.sha256 D)
    {deploymentIds : List Bytes}
    {histories : List RotatingOccupancyPublicationHistory}
    (hmade : Made P files bundle deploymentIds histories options evaluationTick
      agreement)
    {pairs' : List (Bytes × RotatingOccupancyPublicationHistory)}
    (hadvances : MovedOn P (deploymentIds.zip histories) pairs')
    (hdocuments : ∀ pair ∈ pairs', rotatingDocuments P pair.2 ⊆ D)
    (hfiles : ∀ history ∈ histories, SamePayloads files files' history) :
    verifyCoordinatedReservationAgreement P files' agreement bundle
      (pairs'.map (·.1)) (pairs'.map (·.2)) options = .ok () := by
  obtain ⟨shuffled, hperm, hlater⟩ := hadvances
  obtain ⟨participants, hparticipants, hlisted⟩ := hmade.participants
  have hzip : (deploymentIds.zip histories).map (·.1) = deploymentIds :=
    List.map_fst_zip (Nat.le_of_eq hmade.paired)
  have hids : participants.map (·.deploymentId) = deploymentIds := by
    rw [← hzip]
    exact map_eq_of_forall₂ hlisted fun pair p h => h.deploymentId
  have hids' : (pairs'.map (·.1)).Perm deploymentIds := by
    have hsame : pairs'.map (·.1) = shuffled.map (·.1) :=
      map_eq_of_forall₂ hlater fun before after h => h.1
    rw [hsame, ← hzip]
    exact hperm.map _
  have hnodup' := hids'.nodup_iff.mpr hmade.nodup
  have hlength : agreement.participants.length = deploymentIds.length := by
    rw [hparticipants.length_eq, ← hids, List.length_map]
  have hbound : bundle.occupancies.length ≤ options.maximumParticipants := by
    have hplan := hmade.plan
    unfold validateBundle at hplan
    rw [ite_failure_eq_ok, ite_failure_eq_ok, ite_failure_eq_ok] at hplan
    exact Nat.not_lt.mp hplan.2.2.1
  refine verifyAgreement_iff.mpr ⟨⟨hmade.valid, hmade.positive,
    hmade.positivePayload, by simp, ?_, ?_, hmade.plan, hmade.occupancyBundleId,
    hmade.occupancyReportId, hmade.timelineId, hmade.workspaceFrameId, ?_, ?_⟩, ?_,
    ?_⟩
  · rw [hlength, hmade.covered]
    exact hbound
  · obtain ⟨p, hp, hbytes⟩ := hmade.payload
    obtain ⟨pair, -, h⟩ := exists_of_forall₂ hlisted.flip
      (hparticipants.mem_iff.mp hp)
    rw [hbytes]
    exact h.payload
  · have hvalid := hmade.valid
    unfold CoordinatedReservationAgreement.valid at hvalid
    simp only [Bool.and_eq_true] at hvalid
    rw [← hmade.separation]
    exact LawfulScalar.eq_refl hvalid.1.1.1.1.1.1.1.1.2
  · rw [hids'.length_eq, hlength]
  · intro p hp
    obtain ⟨pair, hpair, h⟩ := exists_of_forall₂ hlisted.flip
      (hparticipants.mem_iff.mp hp)
    obtain ⟨pair', hpair', hsame, hlaterPair⟩ :=
      exists_of_forall₂ hlater (hperm.mem_iff.mpr hpair)
    refine ⟨pair'.2, ?_, replayed_of_listed hdigest (hmade.tick ▸ h)
      hmade.timelineId hmade.workspaceFrameId hlaterPair (hdocuments pair' hpair')
      (hfiles pair.2 (List.of_mem_zip hpair).2)⟩
    apply mapped_of_mem hnodup'
    rw [h.deploymentId, ← hsame]
    exact hpair'
  · rw [(hparticipants.map _).nodup_iff, hids]
    exact hmade.nodup

end

-- === coverage

/-- A conflict-free plan, each deployment of which has exactly one
participant, whose signed publication names the plan. -/
structure Reserved (P : Platform) (files : PayloadFiles)
    (agreement : CoordinatedReservationAgreement)
    (bundle : ContinuousFleetOccupancyBundle Float) (deploymentIds : List Bytes)
    (histories : List RotatingOccupancyPublicationHistory) : Prop where
  certified : bundle.report.status = .certifiedSeparatedUnderSweptEnvelopes
  conflictFree : bundle.report.conflicts = []
  covered : ∀ occupancy ∈ bundle.occupancies, ∃ p ∈ agreement.participants,
    p.deploymentId = occupancy.deploymentId
    ∧ (∀ other ∈ agreement.participants,
      other.deploymentId = occupancy.deploymentId → other = p)
    ∧ ∃ history publication verified,
      Mapped deploymentIds histories p.deploymentId history
      ∧ history.publication P p.publicationHeadId = .ok publication
      ∧ publication.occupancyBundleId = bundle.id
      ∧ history.verify P files p.publicationHeadId agreement.evaluationTick
        = .ok verified

/-- The deployments of a valid bundle, each once. -/
theorem deployments_nodup {occupancies : List (RobotTrajectoryOccupancy Float)}
    (h : deploymentsSorted occupancies = true) :
    (occupancies.map (·.deploymentId)).Nodup := by
  have hsorted : (occupancies.map (·.deploymentId)).Pairwise (· < ·) := by
    rw [List.pairwise_map, ← List.isChain_iff_pairwise (R := fun first second :
      RobotTrajectoryOccupancy Float => first.deploymentId < second.deploymentId)]
    induction occupancies with
    | nil => exact .nil
    | cons first rest ih =>
        cases rest with
        | nil => exact .singleton first
        | cons second rest =>
            rw [deploymentsSorted] at h
            simp only [Bool.and_eq_true, Bool.not_eq_true', decide_eq_false_iff_not,
              decide_eq_true_eq] at h
            obtain ⟨⟨hle, hne⟩, hrest⟩ := h
            refine .cons_cons ?_ (ih hrest)
            have hnot : ¬second.deploymentId < first.deploymentId :=
              fun hlt => hle (.inl hlt)
            rcases Std.lt_trichotomy first.deploymentId second.deploymentId
              with hlt | heq | hgt
            · exact hlt
            · exact absurd heq hne
            · exact absurd hgt hnot
  exact hsorted.imp fun hlt heq => absurd (heq ▸ hlt) (List.lt_irrefl _)

section
variable {P : Platform} {files : PayloadFiles}
  {agreement : CoordinatedReservationAgreement}
  {bundle : ContinuousFleetOccupancyBundle Float} {deploymentIds : List Bytes}
  {histories : List RotatingOccupancyPublicationHistory}
  {options : CoordinatedReservationAgreementLoadOptions}

/-- **An accepted agreement reserves the whole plan exactly when it has as
many participants as the plan has deployments.** -/
theorem reserved_iff (h : verifyCoordinatedReservationAgreement P files agreement
      bundle deploymentIds histories options = .ok ()) :
    Reserved P files agreement bundle deploymentIds histories
      ↔ agreement.participants.length = bundle.occupancies.length := by
  obtain ⟨hinput, hall, hnodup⟩ := verifyAgreement_iff.mp h
  have hplan := hinput.plan
  unfold validateBundle at hplan
  rw [ite_failure_eq_ok, ite_failure_eq_ok, ite_failure_eq_ok, ite_failure_eq_ok]
    at hplan
  simp only [not_or, Bool.not_eq_false, not_not] at hplan
  obtain ⟨⟨hbundleValid, -⟩, -, -, ⟨hstatus, hconflicts⟩, -⟩ := hplan
  have hsorted : (bundle.occupancies.map (·.deploymentId)).Nodup := by
    unfold ContinuousFleetOccupancyBundle.valid at hbundleValid
    simp only [Bool.and_eq_true] at hbundleValid
    exact deployments_nodup hbundleValid.1.1.1.1.1.2
  have hsubset : agreement.participants.map (·.deploymentId)
      ⊆ bundle.occupancies.map (·.deploymentId) := by
    intro deploymentId hmem
    obtain ⟨p, hp, rfl⟩ := List.mem_map.mp hmem
    obtain ⟨history, -, hreplayed⟩ := hall p hp
    obtain ⟨occupancy, -, -, hfound, -⟩ := hreplayed.made
    refine List.mem_map.mpr ⟨occupancy, List.mem_of_find?_eq_some hfound, ?_⟩
    have hsame := List.find?_some hfound
    exact of_decide_eq_true hsame
  constructor
  · intro hreserved
    have hback : bundle.occupancies.map (·.deploymentId)
        ⊆ agreement.participants.map (·.deploymentId) := by
      intro deploymentId hmem
      obtain ⟨occupancy, hoccupancy, rfl⟩ := List.mem_map.mp hmem
      obtain ⟨p, hp, hid, -⟩ := hreserved.covered occupancy hoccupancy
      exact List.mem_map.mpr ⟨p, hp, hid⟩
    have hle := (List.subperm_of_subset hnodup hsubset).length_le
    have hge := (List.subperm_of_subset hsorted hback).length_le
    rw [List.length_map, List.length_map] at hle hge
    omega
  · intro hlength
    have hperm := (List.subperm_of_subset hnodup hsubset).perm_of_length_le (by
      rw [List.length_map, List.length_map, hlength])
    refine ⟨hstatus, by simpa using hconflicts, ?_⟩
    intro occupancy hoccupancy
    obtain ⟨p, hp, hid⟩ := List.mem_map.mp
      (hperm.mem_iff.mpr (List.mem_map.mpr ⟨occupancy, hoccupancy, rfl⟩))
    obtain ⟨history, hmapped, hreplayed⟩ := hall p hp
    obtain ⟨_, _, publication, -, hmade, hpublication, hbundle, -⟩ := hreplayed.made
    obtain ⟨_, _, _, verified, -, -, -, -, hverified, -⟩ := makeParticipant_ok hmade
    refine ⟨p, hp, hid, ?_, history, publication, verified, hmapped, hpublication,
      hbundle, hverified⟩
    intro other hother hsame
    exact List.inj_on_of_nodup_map hnodup hother hp (hsame.trans hid.symm)

end

/-- **Agreements replay, and reserve the whole plan exactly when they cover
it.** What was made replays against the same plan under the same limits,
with the deployments in any order and every history any number of
publications and rotations later, as long as the payload files are read as
before; its window is where those of the participants meet. An agreement
that is accepted has one participant for every deployment of its
conflict-free plan if and only if it has as many participants. -/
theorem agreements_replay_iff (P : Platform) (D : Set Bytes)
    (hdigest : Set.InjOn P.sha256 D) :
    (∀ files protocolId round parentAgreementId evaluationTick bundle deploymentIds
        histories options agreement,
      makeCoordinatedReservationAgreement P files protocolId round
          parentAgreementId evaluationTick bundle deploymentIds histories options
        = .ok agreement →
      CommonWindow agreement evaluationTick
      ∧ ∀ files' pairs', MovedOn P (deploymentIds.zip histories) pairs' →
        (∀ pair ∈ pairs', rotatingDocuments P pair.2 ⊆ D) →
        (∀ history ∈ histories, SamePayloads files files' history) →
        verifyCoordinatedReservationAgreement P files' agreement bundle
          (pairs'.map (·.1)) (pairs'.map (·.2)) options = .ok ())
    ∧ ∀ files agreement bundle deploymentIds histories options,
      verifyCoordinatedReservationAgreement P files agreement bundle deploymentIds
        histories options = .ok () →
      (Reserved P files agreement bundle deploymentIds histories
        ↔ agreement.participants.length = bundle.occupancies.length) := by
  constructor
  · intro files protocolId round parentAgreementId evaluationTick bundle
      deploymentIds histories options agreement h
    have hmade := made_of_ok h
    refine ⟨hmade.tick ▸ commonWindow_of_valid hmade.valid, ?_⟩
    intro files' pairs' hadvances hdocuments hfiles
    exact verified_of_made hdigest hmade hadvances hdocuments hfiles
  · intro files agreement bundle deploymentIds histories options h
    exact reserved_iff h

-- === samples

/-- The names the sample agreement uses. -/
theorem sample_names : validIdentifier (ascii "r") = true
    ∧ validIdentifier (ascii "d") = true ∧ validIdentifier (ascii "e") = true
    ∧ ascii "d" < ascii "e" ∧ ascii "beta" ≠ ascii "alpha"
    ∧ (ascii "a").isEmpty = false := by
  decide

/-- Zero is a separation that a document may hold. -/
theorem zero_separation : Scalar.isFinite (Scalar.zero : Float) = true
    ∧ Scalar.lt (Scalar.zero : Float) Scalar.zero = false
    ∧ Scalar.eq (Scalar.zero : Float) Scalar.zero = true
    ∧ negativeZero Scalar.zero = false := by
  decide

section
variable (P : Platform) (robots : List (RobotTrajectoryOccupancy Float))

/-- The report of robots that were found apart. -/
def plannedReport : ContinuousFleetOccupancyReport Float :=
  let report : ContinuousFleetOccupancyReport Float :=
    { timelineId := ascii "t"
      workspaceFrameId := ascii "w"
      status := .certifiedSeparatedUnderSweptEnvelopes
      minimumSeparation := Scalar.zero
      occupancyIds := Lib.Sorting.sort (fun id => id) (robots.map (·.id))
      conflicts := []
      slicePairEvaluations := 0
      linkPairEvaluations := 0 }
  { report with id := continuousFleetOccupancyReportIdentity P report }

/-- The plan of these robots. -/
def samplePlan : ContinuousFleetOccupancyBundle Float :=
  let bundle : ContinuousFleetOccupancyBundle Float :=
    { storageSchema := 1
      occupancies := robots
      report := plannedReport P robots }
  { bundle with id := continuousFleetOccupancyBundleIdentity P bundle }

/-- Payload files of one byte, which is the plan. -/
def samplePayloads : PayloadFiles where
  read _ _ := .ok [1]
  load _ _ := .ok (samplePlan P robots)

/-- A publication of a plan by a service of the sample bundle. -/
def announcementOf (planId serviceId : Bytes) (sequence : UInt64)
    (parentId : Bytes) : OccupancyPublication :=
  let publication : OccupancyPublication :=
    { id := []
      streamId := ascii "s"
      publisherSequence := sequence
      parentPublicationId := parentId
      publisherServiceId := serviceId
      publisherKeyId := (sampleKey P serviceId).id
      trustBundleId := (sampleBundle P).id
      occupancyBundleId := planId
      timelineId := ascii "t"
      workspaceFrameId := ascii "w"
      validThroughTick := 2
      payloadDigest := P.sha256 [1]
      payloadBytes := 1
      authenticationTag := encodeHex (List.replicate 64 0) }
  { publication with id := occupancyPublicationIdentity P publication }

/-- Such a publication of the sample plan. -/
def sampleAnnouncement (serviceId : Bytes) (sequence : UInt64) (parentId : Bytes) :
    OccupancyPublication :=
  announcementOf P (samplePlan P robots).id serviceId sequence parentId

/-- A history with one publication of a plan. -/
def announcementsOf (planId serviceId : Bytes) :
    RotatingOccupancyPublicationHistory where
  directory := ascii "h"
  stream :=
    { streamId := ascii "s"
      publisherServiceId := serviceId
      rootPublicationId := (announcementOf P planId serviceId 1 []).id
      timelineId := ascii "t"
      workspaceFrameId := ascii "w" }
  trustRootBundleId := (sampleBundle P).id
  currentTrustBundleId := (sampleBundle P).id
  currentPublicationId := (announcementOf P planId serviceId 1 []).id
  trustHistory := some (sampleHistory P)
  entries := [samplePublicationEntry P (announcementOf P planId serviceId 1 []) []]

/-- Such a history of the sample plan. -/
def sampleAnnouncements (serviceId : Bytes) : RotatingOccupancyPublicationHistory :=
  announcementsOf P (samplePlan P robots).id serviceId

/-- The second publication of a service, which is of the same plan. -/
def sampleSecondEntry (serviceId : Bytes) : PublicationEntry :=
  samplePublicationEntry P
    (sampleAnnouncement P robots serviceId 2
      (sampleAnnouncement P robots serviceId 1 []).id)
    (samplePublicationEntry P (sampleAnnouncement P robots serviceId 1 [])
      []).record.id

/-- Robots that stand on the sample timeline, in the order of their
deployments. -/
structure StandingFleet : Prop where
  valid : ∀ robot ∈ robots, robot.valid P = true
  sorted : deploymentsSorted robots = true
  several : 2 ≤ robots.length
  ids : (robots.map (·.id)).Nodup
  standing : ∀ robot ∈ robots, robot.storageSchema = 1
    ∧ robot.timelineId = ascii "t" ∧ robot.workspaceFrameId = ascii "w"
    ∧ robot.trajectory = [⟨0, [Scalar.zero]⟩, ⟨2, [Scalar.zero]⟩]

variable {P robots}

theorem occupancy_id_valid {occupancy : RobotTrajectoryOccupancy Float}
    (h : occupancy.valid P = true) : validSha256 occupancy.id = true := by
  unfold RobotTrajectoryOccupancy.valid at h
  simp only [Bool.and_eq_true] at h
  exact h.1.1.1.1.1.1.1.1.1.1.1.1.2

theorem valid_plannedReport (h : StandingFleet P robots) :
    (plannedReport P robots).valid P = true := by
  obtain ⟨-, -, ht, hw⟩ := validIdentifier_stream
  have hlength : (plannedReport P robots).occupancyIds.length = robots.length := by
    show (Lib.Sorting.sort (fun id => id) (robots.map (·.id))).length = _
    rw [(Lib.Sorting.sort_perm _ _).length_eq, List.length_map]
  have hsorted : strictlySorted (plannedReport P robots).occupancyIds = true := by
    have hsort := strictlySorted_sort (fun id : Bytes => id)
      (l := robots.map (·.id)) (by rw [List.map_id']; exact h.ids)
    rwa [List.map_id'] at hsort
  have hall : (plannedReport P robots).occupancyIds.all validSha256 = true := by
    rw [List.all_eq_true]
    intro id hid
    obtain ⟨robot, hrobot, rfl⟩ := List.mem_map.mp
      ((Lib.Sorting.sort_perm _ _).mem_iff.mp hid)
    exact occupancy_id_valid (h.valid robot hrobot)
  obtain ⟨hfinite, hnegative, -, -⟩ := zero_separation
  unfold ContinuousFleetOccupancyReport.valid
  rw [hsorted, hall, hlength, decide_eq_true h.several]
  simp only [plannedReport, ht, hw, P.validSha256_digest, Bool.true_and,
    continuousFleetOccupancyReportIdentity, Bool.and_true]
  simp [hfinite, hnegative, strictlySorted]

theorem valid_samplePlan (h : StandingFleet P robots) :
    (samplePlan P robots).valid P = true := by
  have hschema : (robots.any fun robot => decide (2 ≤ robot.storageSchema))
      = false := by
    rw [List.any_eq_false]
    intro robot hrobot
    rw [(h.standing robot hrobot).1]
    decide
  have hvalid : (robots.all fun robot => robot.valid P) = true :=
    List.all_eq_true.mpr h.valid
  unfold ContinuousFleetOccupancyBundle.valid
  simp only [samplePlan, hschema, hvalid, valid_plannedReport h, h.sorted,
    P.validSha256_digest, continuousFleetOccupancyBundleIdentity, Bool.and_true]
  simp [plannedReport, continuousFleetOccupancyBundlePayloadJson]
  refine ⟨decide_eq_true h.several, ?_⟩
  intro robot hrobot
  obtain ⟨-, htimeline, hframe, -⟩ := h.standing robot hrobot
  exact ⟨decide_eq_true htimeline, decide_eq_true hframe⟩

/-- The keys of the sample bundle may publish. -/
theorem publishKey_sample {serviceId : Bytes}
    (hservice : serviceId = ascii "alpha" ∨ serviceId = ascii "beta")
    {sequence : UInt64} (hsequence : 0 < sequence) :
    trustedServicePublicKey P (sampleBundle P) serviceId (sampleKey P serviceId).id
      .publish sequence = .ok (sampleKey P serviceId) := by
  have hid : validIdentifier serviceId = true := by
    rcases hservice with rfl | rfl
    · exact validIdentifier_services.1
    · exact validIdentifier_services.2
  have hkey := key_sampleBundle P hid (find_sampleKeys P serviceId hservice)
  have hpos : 0 < sequence.toNat := by
    have hlt := UInt64.lt_iff_toNat_lt.mp hsequence
    exact hlt
  have hzero : (sequence == 0) = false := by
    rw [beq_eq_false_iff_ne]
    intro hzero
    rw [hzero] at hpos
    exact absurd hpos (by decide)
  have hfrom : decide (sequence ≥ (sampleKey P serviceId).validFromSequence)
      = true := decide_eq_true (UInt64.le_iff_toNat_le.mpr hpos)
  unfold trustedServicePublicKey
  rw [valid_sampleBundle, hzero, if_neg (by decide), hkey, ok_bind]
  dsimp only
  rw [hfrom, if_neg (by simp [sampleKey])]

theorem valid_sampleAnnouncement {serviceId : Bytes}
    (hservice : serviceId = ascii "alpha" ∨ serviceId = ascii "beta")
    {sequence : UInt64} {parentId : Bytes} (hsequence : 0 < sequence)
    (hparent : validParent sequence parentId = true) :
    (sampleAnnouncement P robots serviceId sequence parentId).valid P = true := by
  obtain ⟨hs, -, ht, hw⟩ := validIdentifier_stream
  have hid : validIdentifier serviceId = true := by
    rcases hservice with rfl | rfl
    · exact validIdentifier_services.1
    · exact validIdentifier_services.2
  have htag : validSignature (encodeHex (List.replicate 64 0)) = true := by
    decide +kernel
  simp only [OccupancyPublication.valid, Bool.and_eq_true, decide_eq_true_eq]
  exact ⟨⟨⟨⟨⟨⟨⟨⟨⟨⟨⟨⟨⟨⟨⟨⟨rfl, hsequence⟩, hparent⟩, P.validSha256_digest _⟩, rfl⟩,
    hs⟩, hid⟩, P.validSha256_digest _⟩, P.validSha256_digest _⟩,
    P.validSha256_digest _⟩, ht⟩, hw⟩,
    show (0 : UInt64) ≤ 2 from by decide⟩, P.validSha256_digest _⟩,
    show (0 : UInt64) < 1 from by decide⟩, rfl⟩, htag⟩

theorem valid_verifiedPublication {publication : OccupancyPublication}
    (h : publication.valid P = true) {tick : UInt64}
    (hfrom : publication.validFromTick ≤ tick)
    (hthrough : tick ≤ publication.validThroughTick) :
    (verifiedPublication P publication tick).valid P = true := by
  simp only [OccupancyPublication.valid, Bool.and_eq_true, decide_eq_true_eq] at h
  obtain ⟨⟨⟨⟨⟨⟨⟨⟨⟨⟨⟨⟨⟨⟨⟨⟨-, hsequence⟩, -⟩, hid⟩, -⟩, hstream⟩, hservice⟩, hkey⟩,
    htrust⟩, hbundle⟩, htimeline⟩, hframe⟩, hwindow⟩, hdigest⟩, hbytes⟩, -⟩, -⟩ := h
  unfold VerifiedOccupancyPublication.valid
  simp only [Bool.and_eq_true, decide_eq_true_eq]
  exact ⟨⟨⟨⟨⟨⟨⟨⟨⟨⟨⟨⟨⟨⟨⟨P.validSha256_digest _, rfl⟩, hid⟩, hstream⟩, hsequence⟩,
    hservice⟩, hkey⟩, htrust⟩, hbundle⟩, htimeline⟩, hframe⟩, hwindow⟩, hfrom⟩,
    hthrough⟩, hdigest⟩, hbytes⟩

/-- A publication of the plan verifies at the ticks of the plan. -/
theorem verified_sampleAnnouncement (h : StandingFleet P robots)
    (hcheck : ∀ signature key message, P.ed25519Check signature key message = true)
    {serviceId : Bytes}
    (hservice : serviceId = ascii "alpha" ∨ serviceId = ascii "beta")
    {sequence : UInt64} {parentId payloadPath : Bytes} (hsequence : 0 < sequence)
    (hparent : validParent sequence parentId = true)
    (hpath : payloadPath.isEmpty = false) {tick : UInt64} (htick : tick ≤ 2) :
    verifyContinuousFleetOccupancyPublication P (samplePayloads P robots) payloadPath
        (sampleAnnouncement P robots serviceId sequence parentId) (sampleBundle P)
        (ascii "s") serviceId (sampleBundle P).id parentId tick {}
      = .ok (verifiedPublication P
        (sampleAnnouncement P robots serviceId sequence parentId) tick) := by
  obtain ⟨hs, -, ht, hw⟩ := validIdentifier_stream
  have hid : validIdentifier serviceId = true := by
    rcases hservice with rfl | rfl
    · exact validIdentifier_services.1
    · exact validIdentifier_services.2
  have hvalid : (sampleAnnouncement P robots serviceId sequence parentId).valid P
      = true := valid_sampleAnnouncement hservice hsequence hparent
  have hzero : (0 : UInt64) ≤ tick := UInt64.le_iff_toNat_le.mpr (Nat.zero_le _)
  have hparentText : (parentId.isEmpty || validSha256 parentId) = true := by
    unfold validParent at hparent
    by_cases hfirst : sequence = 1
    · rw [if_pos hfirst] at hparent
      rw [hparent]
      rfl
    · rw [if_neg hfirst] at hparent
      rw [hparent, Bool.or_true]
  have htrustId : validSha256 (sampleBundle P).id = true := P.validSha256_digest _
  have hread : readOccupancyPayload (samplePayloads P robots) payloadPath {}
      = .ok [1] := by
    unfold readOccupancyPayload
    rw [hpath, if_neg (by decide)]
    rfl
  have hload : loadExactOccupancyPayload P (samplePayloads P robots) [1] {}
      = .ok (samplePlan P robots) := by
    show (if (!(samplePlan P robots).valid P) = true then _ else _) = _
    rw [valid_samplePlan h]
    rfl
  have hcovers : bundleCoversWindow P (samplePlan P robots) 0 2 = true := by
    unfold bundleCoversWindow
    rw [valid_samplePlan h, Bool.true_and, Bool.and_eq_true, List.all_eq_true]
    refine ⟨by decide, ?_⟩
    intro robot hrobot
    rw [(h.standing robot hrobot).2.2.2]
    decide
  have hbinding : verifyPayloadBinding P (samplePlan P robots)
      (sampleAnnouncement P robots serviceId sequence parentId) [1] = .ok () := by
    unfold verifyPayloadBinding
    rw [if_neg (by decide), if_neg, if_neg, if_neg]
    · show ¬(!bundleCoversWindow P (samplePlan P robots) 0 2) = true
      rw [hcovers]
      decide
    · simp only [not_or, not_not]
      exact ⟨rfl, rfl, rfl⟩
    · simp only [not_or, not_not]
      exact ⟨rfl, rfl⟩
  unfold verifyContinuousFleetOccupancyPublication
  rw [hvalid, valid_sampleBundle, hs, hid, htrustId, hparentText, if_neg (by decide),
    if_neg, if_neg]
  · show (trustedServicePublicKey P (sampleBundle P) serviceId
      (sampleKey P serviceId).id .publish sequence >>= _) = _
    rw [publishKey_sample hservice hsequence, ok_bind]
    show (decodeHex (encodeHex (List.replicate 64 0)) kEd25519SignatureBytes >>= _)
      = _
    have hdecoded : decodeHex (encodeHex (List.replicate 64 0))
        kEd25519SignatureBytes = .ok (List.replicate 64 0) :=
      decodeHex_sample rfl
    rw [hdecoded, ok_bind]
    show (ed25519Verify P _ _ _ >>= fun _ => _) = _
    rw [ed25519Verify_sample P hcheck _ rfl, ok_bind, hread, ok_bind, hload, ok_bind,
      hbinding, ok_bind]
    show (if (!(verifiedPublication P _ tick).valid P) = true then _ else _) = _
    rw [valid_verifiedPublication hvalid hzero htick]
    rfl
  · rw [not_or, UInt64.not_lt, UInt64.not_lt]
    exact ⟨hzero, htick⟩
  · simp [sampleAnnouncement, announcementOf]

theorem bundle_sampleHistory :
    (sampleHistory P).bundle P (sampleBundle P).id = .ok (sampleBundle P) := by
  unfold ServiceTrustHistory.bundle
  rw [valid_sampleHistory, show validSha256 (sampleBundle P).id = true from
    P.validSha256_digest _, if_neg (by decide)]
  have hfind : (sampleHistory P).bundles.find? (fun candidate =>
      candidate.id == (sampleBundle P).id) = some (sampleBundle P) := by
    show [sampleBundle P].find? _ = _
    exact List.find?_cons_of_pos (show ((sampleBundle P).id == (sampleBundle P).id)
      = true from beq_self_eq_true _)
  rw [hfind]

theorem rotated_sample {previous : Option OccupancyPublication}
    {publication : OccupancyPublication}
    (h : publication.trustBundleId = (sampleBundle P).id)
    (h' : ∀ before, previous = some before →
      before.trustBundleId = (sampleBundle P).id) :
    rotatedBundle (sampleHistory P) previous publication = true := by
  have hposition : trustBundlePosition (sampleHistory P) (sampleBundle P).id
      = some 0 := by
    show (if ((sampleBundle P).id == (sampleBundle P).id) = true then some 0
      else _) = some 0
    rw [beq_self_eq_true]
    rfl
  unfold rotatedBundle
  rw [h, hposition]
  cases previous with
  | none => rfl
  | some before =>
      show ((trustBundlePosition (sampleHistory P) before.trustBundleId).all _) = true
      rw [h' before rfl, hposition]
      rfl

theorem ofStream_sampleAnnouncement {serviceId : Bytes} {sequence : UInt64}
    {parentId : Bytes} :
    OfStream (sampleAnnouncements P robots serviceId).stream
      (sampleAnnouncement P robots serviceId sequence parentId) :=
  ⟨rfl, rfl, rfl, rfl⟩

/-- A history whose entries are linked is valid. -/
theorem valid_announcing {serviceId head : Bytes} {entries : List PublicationEntry}
    (hservice : serviceId = ascii "alpha" ∨ serviceId = ascii "beta")
    (hhead : validSha256 head = true)
    (hlinked : publicationsLinked P (sampleAnnouncements P robots serviceId).stream
      (rotatedBundle (sampleHistory P)) 0 none entries = true)
    (hlast : (entries.getLast?.any fun entry =>
      decide (head = entry.publication.id)) = true) :
    RotatingOccupancyPublicationHistory.valid P
      { sampleAnnouncements P robots serviceId with
        currentPublicationId := head
        entries := entries } = true := by
  obtain ⟨hs, -, ht, hw⟩ := validIdentifier_stream
  have hid : validIdentifier serviceId = true := by
    rcases hservice with rfl | rfl
    · exact validIdentifier_services.1
    · exact validIdentifier_services.2
  have hstream : validStream (sampleAnnouncements P robots serviceId).stream head
      = true := by
    unfold validStream
    simp only [Bool.and_eq_true]
    exact ⟨⟨⟨⟨⟨hs, hid⟩, P.validSha256_digest _⟩, hhead⟩, ht⟩, hw⟩
  have htrust : ((sampleHistory P).valid P
      && decide ((sampleHistory P).rootBundleId = (sampleBundle P).id)
      && decide ((sampleHistory P).currentBundleId = (sampleBundle P).id)
      && publicationsLinked P (sampleAnnouncements P robots serviceId).stream
        (rotatedBundle (sampleHistory P)) 0 none entries) = true := by
    have hroot : (sampleHistory P).rootBundleId = (sampleBundle P).id := rfl
    have hcurrent : (sampleHistory P).currentBundleId = (sampleBundle P).id := rfl
    rw [valid_sampleHistory, hlinked, decide_eq_true hroot, decide_eq_true hcurrent]
    rfl
  simp only [RotatingOccupancyPublicationHistory.valid, Bool.and_eq_true,
    decide_eq_true_eq]
  exact ⟨⟨⟨⟨⟨⟨⟨rfl, rfl⟩, hstream⟩, P.validSha256_digest _⟩,
    P.validSha256_digest _⟩, show validRotatingLoadOptions {} = true from by decide⟩,
    htrust⟩, hlast⟩

theorem linked_sampleFirst {serviceId : Bytes}
    (hservice : serviceId = ascii "alpha" ∨ serviceId = ascii "beta") :
    publicationEntryValid P (sampleAnnouncements P robots serviceId).stream
      (rotatedBundle (sampleHistory P)) 0 none
      (samplePublicationEntry P (sampleAnnouncement P robots serviceId 1 []) [])
      = true :=
  linked_rootEntry (valid_sampleAnnouncement hservice
      (show (0 : UInt64) < 1 from by decide) rfl) rfl rfl ofStream_sampleAnnouncement
    rfl (rotated_sample rfl fun before h => by cases h)

theorem valid_sampleAnnouncements {serviceId : Bytes}
    (hservice : serviceId = ascii "alpha" ∨ serviceId = ascii "beta") :
    (sampleAnnouncements P robots serviceId).valid P = true := by
  apply valid_announcing hservice (P.validSha256_digest _)
  · show publicationsLinked P _ _ 0 none [samplePublicationEntry P
      (sampleAnnouncement P robots serviceId 1 []) []] = true
    rw [publicationsLinked, linked_sampleFirst hservice]
    rfl
  · exact decide_eq_true rfl

theorem valid_secondAnnouncements {serviceId : Bytes}
    (hservice : serviceId = ascii "alpha" ∨ serviceId = ascii "beta") :
    ((sampleAnnouncements P robots serviceId).withPublication
      (sampleSecondEntry P robots serviceId)).valid P = true := by
  apply valid_announcing hservice (P.validSha256_digest _)
  · show publicationsLinked P _ _ 0 none [samplePublicationEntry P
      (sampleAnnouncement P robots serviceId 1 []) [], sampleSecondEntry P robots
        serviceId] = true
    rw [publicationsLinked, linked_sampleFirst hservice, publicationsLinked]
    have hsecond : publicationEntryValid P
        (sampleAnnouncements P robots serviceId).stream
        (rotatedBundle (sampleHistory P)) 1
        (some (samplePublicationEntry P (sampleAnnouncement P robots serviceId 1 [])
          [])) (sampleSecondEntry P robots serviceId) = true :=
      linked_nextEntry (valid_sampleAnnouncement hservice
          (show (0 : UInt64) < 1 from by decide) rfl)
        (valid_sampleAnnouncement hservice (show (0 : UInt64) < 2 from by decide)
          (P.validSha256_digest _)) rfl rfl
        (show (1 : UInt64).toNat < 2 ^ 64 - 1 from by decide) rfl
        ofStream_sampleAnnouncement ofStream_sampleAnnouncement
        (rotated_sample rfl fun before h => by cases h; rfl)
    rw [hsecond]
    rfl
  · exact decide_eq_true rfl

/-- A history in which a publication of the plan verifies. -/
structure Announces (P : Platform) (robots : List (RobotTrajectoryOccupancy Float))
    (serviceId : Bytes) (publication : OccupancyPublication)
    (history : RotatingOccupancyPublicationHistory) : Prop where
  publicationValid : publication.valid P = true
  plan : publication.occupancyBundleId = (samplePlan P robots).id
  trustBundleId : publication.trustBundleId = (sampleBundle P).id
  payload : publication.payloadDigest = P.sha256 [1] ∧ publication.payloadBytes = 1
  window : publication.validFromTick = 0 ∧ publication.validThroughTick = 2
  frame : publication.timelineId = ascii "t"
    ∧ publication.workspaceFrameId = ascii "w"
  valid : history.valid P = true
  trustHistory : history.trustHistory = some (sampleHistory P)
  trustRoot : history.trustRootBundleId = (sampleBundle P).id
  stream : history.stream = (sampleAnnouncements P robots serviceId).stream
  found : history.publication P publication.id = .ok publication
  verified : ∀ tick : UInt64, tick ≤ 2 →
    history.verify P (samplePayloads P robots) publication.id tick
      = .ok (verifiedPublication P publication tick)

/-- A publication of the plan that stands in a valid history. -/
theorem announces_of_entry (h : StandingFleet P robots)
    (hcheck : ∀ signature key message, P.ed25519Check signature key message = true)
    {serviceId : Bytes}
    (hservice : serviceId = ascii "alpha" ∨ serviceId = ascii "beta")
    {sequence : UInt64} {parentId parentRecordId : Bytes} (hsequence : 0 < sequence)
    (hparent : validParent sequence parentId = true)
    {history : RotatingOccupancyPublicationHistory} (hvalid : history.valid P = true)
    (hsame : history = { sampleAnnouncements P robots serviceId with
      currentPublicationId := history.currentPublicationId
      entries := history.entries })
    {place : Nat}
    (hplace : history.publicationPosition
      (sampleAnnouncement P robots serviceId sequence parentId).id = some place)
    (hentry : history.entries[place]? = some (samplePublicationEntry P
      (sampleAnnouncement P robots serviceId sequence parentId) parentRecordId))
    (hexpected : history.expectedParent place = parentId) :
    Announces P robots serviceId
      (sampleAnnouncement P robots serviceId sequence parentId) history := by
  have hannounced : (sampleAnnouncement P robots serviceId sequence parentId).valid P
      = true := valid_sampleAnnouncement hservice hsequence hparent
  have htrust : history.trustHistory = some (sampleHistory P) := by
    rw [hsame]
    rfl
  have hstream : history.stream = (sampleAnnouncements P robots serviceId).stream := by
    rw [hsame]
  have hoptions : history.options = {} := by
    rw [hsame]
    rfl
  refine ⟨hannounced, rfl, rfl, ⟨rfl, rfl⟩, ⟨rfl, rfl⟩, ⟨rfl, rfl⟩, hvalid, htrust, ?_,
    hstream, publication_iff.mpr ⟨hvalid, P.validSha256_digest _, place, _, hplace,
      hentry, rfl⟩, ?_⟩
  · rw [hsame]
    rfl
  · intro tick htick
    unfold RotatingOccupancyPublicationHistory.verify
    rw [hvalid, show validSha256 (sampleAnnouncement P robots serviceId sequence
      parentId).id = true from P.validSha256_digest _, if_neg (by decide), hplace,
      htrust]
    dsimp only
    rw [hentry]
    show ((sampleHistory P).bundle P (sampleBundle P).id >>= _) = _
    rw [bundle_sampleHistory, ok_bind, hexpected, hstream, hoptions]
    exact verified_sampleAnnouncement h hcheck hservice hsequence hparent
      sample_names.2.2.2.2.2 htick

section
variable {serviceId deploymentId : Bytes} {publication : OccupancyPublication}
  {history : RotatingOccupancyPublicationHistory}
  {occupancy : RobotTrajectoryOccupancy Float} {tick : UInt64}

/-- The participant a publication of the plan makes. -/
def sampleParticipant (P : Platform) (deploymentId : Bytes)
    (occupancy : RobotTrajectoryOccupancy Float)
    (history : RotatingOccupancyPublicationHistory)
    (publication : OccupancyPublication) (tick : UInt64) :
    CoordinatedReservationParticipant :=
  participantOf P deploymentId occupancy history (sampleBundle P).id publication
    (verifiedPublication P publication tick)

theorem valid_sampleParticipant
    (hservice : serviceId = ascii "alpha" ∨ serviceId = ascii "beta")
    (hannounces : Announces P robots serviceId publication history)
    (hdeployment : validIdentifier deploymentId = true)
    (hoccupancy : occupancy.valid P = true) :
    (sampleParticipant P deploymentId occupancy history publication tick).valid P
      = true := by
  have hid : validIdentifier serviceId = true := by
    rcases hservice with rfl | rfl
    · exact validIdentifier_services.1
    · exact validIdentifier_services.2
  have hpublication := hannounces.publicationValid
  simp only [OccupancyPublication.valid, Bool.and_eq_true, decide_eq_true_eq]
    at hpublication
  obtain ⟨⟨⟨⟨⟨⟨⟨⟨⟨⟨⟨⟨⟨⟨⟨⟨-, hsequence⟩, -⟩, hpublicationId⟩, -⟩, -⟩, -⟩, hkey⟩,
    htrust⟩, -⟩, -⟩, -⟩, hwindow⟩, hdigest⟩, hbytes⟩, -⟩, -⟩ := hpublication
  have hstream : validIdentifier history.stream.streamId = true := by
    rw [hannounces.stream]
    exact validIdentifier_stream.1
  have hhistoryService : validIdentifier history.stream.publisherServiceId = true := by
    rw [hannounces.stream]
    exact hid
  have hroot : validSha256 history.stream.rootPublicationId = true := by
    rw [hannounces.stream]
    exact P.validSha256_digest _
  have htrustRoot : validSha256 history.trustRootBundleId = true := by
    rw [hannounces.trustRoot]
    exact P.validSha256_digest _
  unfold CoordinatedReservationParticipant.valid
  simp only [Bool.and_eq_true, decide_eq_true_eq]
  exact ⟨⟨⟨⟨⟨⟨⟨⟨⟨⟨⟨⟨⟨⟨⟨⟨⟨rfl, P.validSha256_digest _⟩, rfl⟩, hdeployment⟩,
    occupancy_id_valid hoccupancy⟩, hstream⟩, hhistoryService⟩, hkey⟩, hsequence⟩,
    htrustRoot⟩, P.validSha256_digest _⟩, htrust⟩, hroot⟩, hpublicationId⟩,
    P.validSha256_digest _⟩, hdigest⟩, hbytes⟩, hwindow⟩

theorem made_sampleParticipant
    (hservice : serviceId = ascii "alpha" ∨ serviceId = ascii "beta")
    (hannounces : Announces P robots serviceId publication history)
    (hdeployment : validIdentifier deploymentId = true)
    (hoccupancy : occupancy.valid P = true) (htick : tick ≤ 2) :
    makeParticipant P (samplePayloads P robots) deploymentId occupancy history
        publication.id (sampleBundle P).id tick
      = .ok (sampleParticipant P deploymentId occupancy history publication tick) := by
  have hpublicationId : validSha256 publication.id = true :=
    (publication_iff.mp hannounces.found).2.1
  have hprefix : verifyTrustPrefix (sampleHistory P) publication.trustBundleId
      (sampleBundle P).id = .ok () := by
    have hlast : lastTrustIndex (sampleBundle P).id 0 none (sampleHistory P).records
        = some 0 := by
      show (if (sampleBundle P).id = (sampleBundle P).id then some 0 else none) = _
      rw [if_pos rfl]
    unfold verifyTrustPrefix
    rw [hannounces.trustBundleId, hlast]
    rfl
  have hvalid : (sampleParticipant P deploymentId occupancy history publication
      tick).valid P = true :=
    valid_sampleParticipant hservice hannounces hdeployment hoccupancy
  have hroot : (sampleHistory P).rootBundleId = (sampleBundle P).id := rfl
  unfold makeParticipant
  rw [hdeployment, hoccupancy, hannounces.valid, hpublicationId,
    show validSha256 (sampleBundle P).id = true from P.validSha256_digest _,
    if_neg (by decide), replayedTrustHistory_iff.mpr ⟨hannounces.valid,
      hannounces.trustHistory⟩, ok_bind, hannounces.trustRoot, hroot,
    if_neg (by simp), bundle_sampleHistory, ok_bind, hannounces.found, ok_bind,
    hprefix, ok_bind, hannounces.verified tick htick, ok_bind]
  show (if (!(sampleParticipant P deploymentId occupancy history publication
    tick).valid P) = true then _ else _) = _
  rw [hvalid]
  rfl

theorem replayed_sampleParticipant
    (hservice : serviceId = ascii "alpha" ∨ serviceId = ascii "beta")
    (hannounces : Announces P robots serviceId publication history)
    (hdeployment : validIdentifier deploymentId = true)
    (hoccupancy : occupancy.valid P = true)
    (hfound : findOccupancy (samplePlan P robots) deploymentId = some occupancy)
    {agreement : CoordinatedReservationAgreement}
    (htick : agreement.evaluationTick ≤ 2)
    (hframe : agreement.timelineId = ascii "t"
      ∧ agreement.workspaceFrameId = ascii "w") :
    Replayed P (samplePayloads P robots) agreement (samplePlan P robots)
      (sampleParticipant P deploymentId occupancy history publication
        agreement.evaluationTick) history := by
  refine ⟨?_, occupancy, _, publication, hfound,
    made_sampleParticipant hservice hannounces hdeployment hoccupancy htick,
    hannounces.found, hannounces.plan, rfl⟩
  unfold pinnedHistory
  rw [hannounces.valid, hannounces.stream, hframe.1, hframe.2]
  simp [sampleParticipant, participantOf, hannounces.stream, sampleAnnouncements, announcementsOf]

end

end

section
variable {P : Platform} {robots : List (RobotTrajectoryOccupancy Float)}

/-- The first publication of a service in its history. -/
theorem announces_first (h : StandingFleet P robots)
    (hcheck : ∀ signature key message, P.ed25519Check signature key message = true)
    {serviceId : Bytes}
    (hservice : serviceId = ascii "alpha" ∨ serviceId = ascii "beta") :
    Announces P robots serviceId (sampleAnnouncement P robots serviceId 1 [])
      (sampleAnnouncements P robots serviceId) := by
  have hplace : (sampleAnnouncements P robots serviceId).publicationPosition
      (sampleAnnouncement P robots serviceId 1 []).id = some 0 := by
    unfold RotatingOccupancyPublicationHistory.publicationPosition
    show List.findIdx? _ [samplePublicationEntry P
      (sampleAnnouncement P robots serviceId 1 []) []] = _
    rw [List.findIdx?_cons]
    simp [samplePublicationEntry]
  exact announces_of_entry h hcheck hservice (show (0 : UInt64) < 1 by decide) rfl
    (valid_sampleAnnouncements hservice) rfl hplace rfl rfl

/-- Two publications of a plan, for its first two deployments. -/
structure SamplePair (P : Platform) (robots : List (RobotTrajectoryOccupancy Float))
    (near far : RobotTrajectoryOccupancy Float)
    (publication publication' : OccupancyPublication)
    (history history' : RotatingOccupancyPublicationHistory) : Prop where
  fleet : StandingFleet P robots
  nearFound : findOccupancy (samplePlan P robots) (ascii "d") = some near
  farFound : findOccupancy (samplePlan P robots) (ascii "e") = some far
  apart : near.id ≠ far.id
  nearAnnounced : Announces P robots (ascii "alpha") publication history
  farAnnounced : Announces P robots (ascii "beta") publication' history'

/-- The agreement of two participants. -/
def sampleAgreement (P : Platform) (robots : List (RobotTrajectoryOccupancy Float))
    (round : UInt64) (parentId : Bytes)
    (p q : CoordinatedReservationParticipant) : CoordinatedReservationAgreement :=
  agreementOf P (ascii "r") round parentId 1 (samplePlan P robots) p [p, q]

namespace SamplePair

variable {near far : RobotTrajectoryOccupancy Float}
  {publication publication' : OccupancyPublication}
  {history history' : RotatingOccupancyPublicationHistory} {round : UInt64}
  {parentId : Bytes}
  (h : SamplePair P robots near far publication publication' history history')
include h

/-- The participant of the first deployment. -/
theorem nearValid : near ∈ robots ∧ near.valid P = true
    ∧ (sampleParticipant P (ascii "d") near history publication 1).valid P = true := by
  have hmem : near ∈ robots := List.mem_of_find?_eq_some h.nearFound
  have hvalid := h.fleet.valid near hmem
  exact ⟨hmem, hvalid, valid_sampleParticipant (.inl rfl) h.nearAnnounced
    sample_names.2.1 hvalid⟩

theorem farValid : far ∈ robots ∧ far.valid P = true
    ∧ (sampleParticipant P (ascii "e") far history' publication' 1).valid P = true := by
  have hmem : far ∈ robots := List.mem_of_find?_eq_some h.farFound
  have hvalid := h.fleet.valid far hmem
  exact ⟨hmem, hvalid, valid_sampleParticipant (.inr rfl) h.farAnnounced
    sample_names.2.2.1 hvalid⟩

/-- The agreement of the two is valid. -/
theorem agreement_valid (hround : round ≠ 0)
    (hparent : validParent round parentId = true) :
    (sampleAgreement P robots round parentId
      (sampleParticipant P (ascii "d") near history publication 1)
      (sampleParticipant P (ascii "e") far history' publication' 1)).valid P = true := by
  obtain ⟨-, -, hp⟩ := h.nearValid
  obtain ⟨-, -, hq⟩ := h.farValid
  obtain ⟨-, -, ht, hw⟩ := validIdentifier_stream
  obtain ⟨hr, -, -, hlt, hservices, -⟩ := sample_names
  obtain ⟨hfinite, hnegative, -, hsigned⟩ := zero_separation
  have hparticipants : ∀ a : CoordinatedReservationAgreement,
      a.payloadDigest = P.sha256 [1] → a.payloadBytes = 1 → a.evaluationTick = 1 →
      participantsValid P a none [] []
        [sampleParticipant P (ascii "d") near history publication 1,
          sampleParticipant P (ascii "e") far history' publication' 1] = true := by
    intro a hdigest hbytes htick
    simp only [participantsValid, hp, hq, hdigest, hbytes, htick]
    simp [sampleParticipant, participantOf, verifiedPublication,
      h.nearAnnounced.payload, h.farAnnounced.payload, h.nearAnnounced.window,
      h.farAnnounced.window, h.nearAnnounced.stream, h.farAnnounced.stream,
      sampleAnnouncements, announcementsOf, hlt, hservices, h.apart.symm]
  have hfrom : expectedFrom
      [sampleParticipant P (ascii "d") near history publication 1,
        sampleParticipant P (ascii "e") far history' publication' 1] = 0 := by
    show max (max 0 publication.validFromTick) publication'.validFromTick = 0
    rw [h.nearAnnounced.window.1, h.farAnnounced.window.1]
    rfl
  have hthrough : expectedThrough
      [sampleParticipant P (ascii "d") near history publication 1,
        sampleParticipant P (ascii "e") far history' publication' 1] = 2 := by
    show min (min _ publication.validThroughTick) publication'.validThroughTick = 2
    rw [h.nearAnnounced.window.2, h.farAnnounced.window.2]
    decide
  have hcommon : (sampleAgreement P robots round parentId
      (sampleParticipant P (ascii "d") near history publication 1)
      (sampleParticipant P (ascii "e") far history' publication' 1)).payloadDigest
        = P.sha256 [1]
    ∧ (sampleAgreement P robots round parentId
      (sampleParticipant P (ascii "d") near history publication 1)
      (sampleParticipant P (ascii "e") far history' publication' 1)).payloadBytes
        = 1 := h.nearAnnounced.payload
  unfold CoordinatedReservationAgreement.valid
  simp only [Bool.and_eq_true, decide_eq_true_eq, hcommon.1, hcommon.2]
  refine ⟨⟨⟨⟨⟨⟨⟨⟨⟨⟨⟨⟨⟨⟨⟨⟨⟨⟨⟨⟨rfl, P.validSha256_digest _⟩, rfl⟩, hr⟩, hround⟩,
    hparent⟩, ?_⟩, ?_⟩, P.validSha256_digest _⟩, P.validSha256_digest _⟩, ht⟩, hw⟩,
    hfinite⟩, ?_⟩, ?_⟩, P.validSha256_digest _⟩, by decide⟩, Nat.le_refl 2⟩,
    hparticipants _ hcommon.1 hcommon.2 rfl⟩, rfl⟩, rfl⟩
  · show expectedFrom _ ≤ 1
    rw [hfrom]
    decide
  · show 1 ≤ expectedThrough _
    rw [hthrough]
    decide
  · show (!Scalar.lt (Scalar.zero : Float) Scalar.zero) = true
    rw [hnegative]
    rfl
  · show (!negativeZero Scalar.zero) = true
    rw [hsigned]
    rfl

omit h in
/-- The plan passes its check. -/
theorem plan_ok (h : StandingFleet P robots) (hlimit : robots.length ≤ 10000) :
    validateBundle P (samplePlan P robots) 10000 = .ok () := by
  have hseveral := h.several
  unfold validateBundle
  rw [valid_samplePlan h, if_neg (by decide),
    if_neg (show ¬(samplePlan P robots).occupancies.length < 2 from
      Nat.not_lt.mpr hseveral),
    if_neg (show ¬(samplePlan P robots).occupancies.length > 10000 from
      Nat.not_lt.mpr hlimit)]
  rfl

/-- The agreement replays against the two histories. -/
theorem verified (hround : round ≠ 0) (hparent : validParent round parentId = true)
    (hlimit : robots.length ≤ 10000) :
    verifyCoordinatedReservationAgreement P (samplePayloads P robots)
      (sampleAgreement P robots round parentId
        (sampleParticipant P (ascii "d") near history publication 1)
        (sampleParticipant P (ascii "e") far history' publication' 1))
      (samplePlan P robots) [ascii "d", ascii "e"] [history, history'] {} = .ok () := by
  obtain ⟨-, hnear, -⟩ := h.nearValid
  obtain ⟨-, hfar, -⟩ := h.farValid
  obtain ⟨-, hd, he, hlt, -, -⟩ := sample_names
  have hde : ascii "d" ≠ ascii "e" := Std.ne_of_lt hlt
  have hplan : validateBundle P (samplePlan P robots) 10000 = .ok () :=
    plan_ok h.fleet hlimit
  have hseparation : Scalar.eq (Scalar.zero : Float) Scalar.zero = true :=
    zero_separation.2.2.1
  rw [verifyAgreement_iff]
  refine ⟨⟨h.agreement_valid hround hparent, by decide, by decide, rfl,
    (by decide : (2 : Nat) ≤ 10000), ?_, hplan, rfl, rfl, rfl, rfl, hseparation, rfl⟩,
    ?_, ?_⟩
  · show (sampleParticipant P (ascii "d") near history publication
      1).payloadBytes.toNat ≤ _
    rw [show (sampleParticipant P (ascii "d") near history publication 1).payloadBytes
      = 1 from h.nearAnnounced.payload.2]
    decide
  · intro p hp
    rcases List.mem_pair.mp hp with rfl | rfl
    · exact ⟨history, ⟨0, rfl, fun j hj => by
        match j, hj with
        | 0, _ => rfl
        | 1, hj => exact absurd (Option.some.inj hj).symm hde, rfl⟩,
        replayed_sampleParticipant (.inl rfl) h.nearAnnounced hd hnear h.nearFound
          (show (1 : UInt64) ≤ 2 by decide) ⟨rfl, rfl⟩⟩
    · exact ⟨history', ⟨1, rfl, fun j hj => by
        match j, hj with
        | 0, hj => exact absurd (Option.some.inj hj) hde
        | 1, _ => rfl, rfl⟩,
        replayed_sampleParticipant (.inr rfl) h.farAnnounced he hfar h.farFound
          (show (1 : UInt64) ≤ 2 by decide) ⟨rfl, rfl⟩⟩
  · show [ascii "d", ascii "e"].Nodup
    simp [hde]

/-- The agreement is what is made of the two histories, if they end with
the publications and the plan is of the two robots. -/
theorem made (hround : round ≠ 0) (hparent : validParent round parentId = true)
    (hrobots : robots = [near, far])
    (hhead : history.currentPublicationId = publication.id
      ∧ history.currentTrustBundleId = (sampleBundle P).id)
    (hhead' : history'.currentPublicationId = publication'.id
      ∧ history'.currentTrustBundleId = (sampleBundle P).id) :
    makeCoordinatedReservationAgreement P (samplePayloads P robots) (ascii "r") round
        parentId 1 (samplePlan P robots) [ascii "d", ascii "e"] [history, history'] {}
      = .ok (sampleAgreement P robots round parentId
        (sampleParticipant P (ascii "d") near history publication 1)
        (sampleParticipant P (ascii "e") far history' publication' 1)) := by
  obtain ⟨-, hnear, -⟩ := h.nearValid
  obtain ⟨-, hfar, -⟩ := h.farValid
  obtain ⟨hr, hd, he, hlt, -, -⟩ := sample_names
  have hde : ascii "d" ≠ ascii "e" := Std.ne_of_lt hlt
  have hplan : validateBundle P (samplePlan P robots) 10000 = .ok () :=
    plan_ok h.fleet (by rw [hrobots]; exact (by decide : (2 : Nat) ≤ 10000))
  have hlisted : ∀ {service deploymentId : Bytes}
      {occupancy : RobotTrajectoryOccupancy Float} {p : OccupancyPublication}
      {held : RotatingOccupancyPublicationHistory},
      service = ascii "alpha" ∨ service = ascii "beta" →
      Announces P robots service p held → validIdentifier deploymentId = true →
      occupancy.valid P = true →
      findOccupancy (samplePlan P robots) deploymentId = some occupancy →
      held.currentPublicationId = p.id
        ∧ held.currentTrustBundleId = (sampleBundle P).id →
      makeListed P (samplePayloads P robots) (samplePlan P robots) {} 1 deploymentId
          held = .ok (sampleParticipant P deploymentId occupancy held p 1) := by
    intro service deploymentId occupancy p held hservice hannounces hdeployment
      hoccupancy hfound hcurrent
    have hpayload : (sampleParticipant P deploymentId occupancy held p
        1).payloadBytes = 1 := hannounces.payload.2
    unfold makeListed
    rw [hfound]
    dsimp only
    rw [hcurrent.1, hcurrent.2, made_sampleParticipant hservice hannounces hdeployment
      hoccupancy (show (1 : UInt64) ≤ 2 by decide), ok_bind]
    show (held.publication P p.id >>= _) = _
    rw [hannounces.found, ok_bind, hpayload, if_neg]
    rintro (hbundle | htimeline | hframe | hbytes)
    · exact hbundle hannounces.plan
    · exact htimeline hannounces.frame.1
    · exact hframe hannounces.frame.2
    · exact absurd hbytes (by decide)
  have hcoverage : validateParticipantCoverage (samplePlan P robots)
      [sampleParticipant P (ascii "d") near history publication 1,
        sampleParticipant P (ascii "e") far history' publication' 1] 1 = .ok () := by
    have hcount : (samplePlan P robots).occupancies.length = 2 := by
      show robots.length = 2
      rw [hrobots]
      rfl
    unfold validateParticipantCoverage
    rw [hcount, if_neg (by simp)]
    simp only [participantsCover]
    simp [sampleParticipant, participantOf, verifiedPublication, h.nearFound,
      h.farFound, h.nearAnnounced.payload, h.farAnnounced.payload,
      h.nearAnnounced.window, h.farAnnounced.window]
  have hsorted : Lib.Sorting.sort CoordinatedReservationParticipant.deploymentId
      [sampleParticipant P (ascii "d") near history publication 1,
        sampleParticipant P (ascii "e") far history' publication' 1]
        = [sampleParticipant P (ascii "d") near history publication 1,
          sampleParticipant P (ascii "e") far history' publication' 1] := by
    apply Lib.Sorting.sort_eq_self
    exact List.pairwise_pair.mpr (Std.le_of_lt hlt)
  have hagreement := h.agreement_valid hround hparent
  unfold makeCoordinatedReservationAgreement
  rw [if_neg (by simp), hplan, ok_bind, if_neg (by
    show ¬([ascii "d", ascii "e"].length ≠ robots.length)
    rw [hrobots]
    simp)]
  have hchecked : checkDeploymentIds [] [ascii "d", ascii "e"] = .ok () := by
    simp [checkDeploymentIds, hd, he, hde.symm]
  rw [hchecked, ok_bind]
  have hall : makeAll P (samplePayloads P robots) (samplePlan P robots) {} 1
      [(ascii "d", history), (ascii "e", history')]
        = .ok [sampleParticipant P (ascii "d") near history publication 1,
          sampleParticipant P (ascii "e") far history' publication' 1] := by
    rw [makeAll, hlisted (.inl rfl) h.nearAnnounced hd hnear h.nearFound hhead,
      ok_bind, makeAll, hlisted (.inr rfl) h.farAnnounced he hfar h.farFound hhead',
      ok_bind]
    rfl
  show (makeAll P _ _ _ _ [(ascii "d", history), (ascii "e", history')] >>= _) = _
  rw [hall, ok_bind]
  unfold assembleAgreement
  rw [hr, hparent, if_neg (by simp [hround]), hsorted]
  dsimp only
  rw [hcoverage, ok_bind]
  show (if (!(sampleAgreement P robots round parentId _ _).valid P) = true then _
    else _) = _
  rw [hagreement]
  rfl

end SamplePair

end

-- === two robots, and three

/-- A platform on which every signature is accepted. -/
abbrev openHost : Platform := host fun _ _ _ => true

/-- A robot two units away from the second. -/
def thirdRobot : RobotTrajectoryOccupancy Float :=
  standingRobot "f"
    "aa14464b63baf681e3717f0e4b5fa5e28a2ee0438044936079db9073bbe71be6"
    "4257a9361db73a3b67a0672f32b99f4ccde2404163abe7fba8c52c4a187ea3f4"
    (Scalar.ofNat 4)

set_option maxRecDepth 20000 in
theorem thirdRobot_valid : thirdRobot.valid openHost = true := by
  rw [openHost, host_eq]
  decide +kernel

/-- The first two robots, in the order of their digests and in that of their
deployments. -/
theorem robots_apart : farRobot.id < nearRobot.id
    ∧ deploymentsSorted [nearRobot, farRobot] = true
    ∧ nearRobot.deploymentId ≠ ascii "e" := by
  decide +kernel

theorem standingFleet_two : StandingFleet openHost [nearRobot, farRobot] := by
  obtain ⟨hlt, hsorted, -⟩ := robots_apart
  refine ⟨fun robot hrobot => ?_, hsorted, by decide, by simp [(Std.ne_of_lt hlt).symm],
    fun robot hrobot => ?_⟩
  · rcases List.mem_pair.mp hrobot with rfl | rfl
    · exact nearRobot_valid
    · exact farRobot_valid
  · rcases List.mem_pair.mp hrobot with rfl | rfl <;> exact ⟨rfl, rfl, rfl, rfl⟩

theorem standingFleet_three :
    StandingFleet openHost [nearRobot, farRobot, thirdRobot] := by
  refine ⟨fun robot hrobot => ?_, by decide +kernel, by decide, by decide +kernel,
    fun robot hrobot => ?_⟩
  · simp only [List.mem_cons, List.not_mem_nil, or_false] at hrobot
    rcases hrobot with rfl | rfl | rfl
    · exact nearRobot_valid
    · exact farRobot_valid
    · exact thirdRobot_valid
  · simp only [List.mem_cons, List.not_mem_nil, or_false] at hrobot
    rcases hrobot with rfl | rfl | rfl <;> exact ⟨rfl, rfl, rfl, rfl⟩

/-- The first publications of both services, whatever the plan. -/
theorem samplePair {robots : List (RobotTrajectoryOccupancy Float)}
    (h : StandingFleet openHost robots)
    (hnear : findOccupancy (samplePlan openHost robots) (ascii "d") = some nearRobot)
    (hfar : findOccupancy (samplePlan openHost robots) (ascii "e") = some farRobot) :
    SamplePair openHost robots nearRobot farRobot
      (sampleAnnouncement openHost robots (ascii "alpha") 1 [])
      (sampleAnnouncement openHost robots (ascii "beta") 1 [])
      (sampleAnnouncements openHost robots (ascii "alpha"))
      (sampleAnnouncements openHost robots (ascii "beta")) :=
  ⟨h, hnear, hfar, (Std.ne_of_lt robots_apart.1).symm,
    announces_first h (fun _ _ _ => rfl) (.inl rfl),
    announces_first h (fun _ _ _ => rfl) (.inr rfl)⟩

/-- The agreement of the first two robots of a plan. -/
def firstAgreement (robots : List (RobotTrajectoryOccupancy Float)) :
    CoordinatedReservationAgreement :=
  sampleAgreement openHost robots 1 []
    (sampleParticipant openHost (ascii "d") nearRobot
      (sampleAnnouncements openHost robots (ascii "alpha"))
      (sampleAnnouncement openHost robots (ascii "alpha") 1 []) 1)
    (sampleParticipant openHost (ascii "e") farRobot
      (sampleAnnouncements openHost robots (ascii "beta"))
      (sampleAnnouncement openHost robots (ascii "beta") 1 []) 1)

/-- The deployments of the first two robots of a plan. -/
theorem findOccupancy_first (rest : List (RobotTrajectoryOccupancy Float)) :
    findOccupancy (samplePlan openHost (nearRobot :: farRobot :: rest)) (ascii "d")
        = some nearRobot
      ∧ findOccupancy (samplePlan openHost (nearRobot :: farRobot :: rest))
        (ascii "e") = some farRobot := by
  have hne : ¬nearRobot.deploymentId = ascii "e" := robots_apart.2.2
  constructor
  · exact List.find?_cons_of_pos (decide_eq_true rfl)
  · show List.find? _ (nearRobot :: farRobot :: rest) = _
    rw [List.find?_cons_of_neg (by simpa using hne)]
    exact List.find?_cons_of_pos (decide_eq_true rfl)

/-- An agreement of two participants is accepted for a plan of three. -/
theorem agreement_uncovered :
    verifyCoordinatedReservationAgreement openHost
        (samplePayloads openHost [nearRobot, farRobot, thirdRobot])
        (firstAgreement [nearRobot, farRobot, thirdRobot])
        (samplePlan openHost [nearRobot, farRobot, thirdRobot])
        [ascii "d", ascii "e"]
        [sampleAnnouncements openHost [nearRobot, farRobot, thirdRobot]
            (ascii "alpha"),
          sampleAnnouncements openHost [nearRobot, farRobot, thirdRobot]
            (ascii "beta")] {} = .ok ()
      ∧ ¬Reserved openHost
        (samplePayloads openHost [nearRobot, farRobot, thirdRobot])
        (firstAgreement [nearRobot, farRobot, thirdRobot])
        (samplePlan openHost [nearRobot, farRobot, thirdRobot])
        [ascii "d", ascii "e"]
        [sampleAnnouncements openHost [nearRobot, farRobot, thirdRobot]
            (ascii "alpha"),
          sampleAnnouncements openHost [nearRobot, farRobot, thirdRobot]
            (ascii "beta")] := by
  have hpair := samplePair standingFleet_three (findOccupancy_first _).1
    (findOccupancy_first _).2
  refine ⟨hpair.verified (by decide) rfl (by decide), fun hreserved => ?_⟩
  have hcount := (reserved_iff (hpair.verified (by decide) rfl (by decide))).mp
    hreserved
  exact absurd hcount (by decide)

/-- A history of the plan after its second publication. -/
def secondAnnouncements (P : Platform) (robots : List (RobotTrajectoryOccupancy Float))
    (serviceId : Bytes) : RotatingOccupancyPublicationHistory :=
  (sampleAnnouncements P robots serviceId).withPublication
    (sampleSecondEntry P robots serviceId)

/-- Both entries of it. -/
def announcedEntries (P : Platform) (planId serviceId : Bytes) :
    List PublicationEntry :=
  let first := samplePublicationEntry P (announcementOf P planId serviceId 1 []) []
  let second := samplePublicationEntry P
    (announcementOf P planId serviceId 2 first.publication.id) first.record.id
  [first, second]

/-- The documents of both publications, and of their records. -/
def announcedDocuments (P : Platform) (planId serviceId : Bytes) : List Bytes :=
  (announcedEntries P planId serviceId).flatMap fun entry =>
    [publicationDocument P entry.publication, historyRecordDocument P entry.record]

theorem mem_entryDocuments {P : Platform} {entries : List PublicationEntry}
    {document : Bytes} (h : document ∈ entryDocuments P entries) :
    document ∈ entries.flatMap fun entry =>
      [publicationDocument P entry.publication,
        historyRecordDocument P entry.record] := by
  obtain ⟨entry, hentry, hdocument⟩ := h
  rw [List.mem_flatMap]
  exact ⟨entry, hentry, List.mem_pair.mpr hdocument⟩

/-- The documents of both services. -/
def sampleDocuments (P : Platform) (planId : Bytes) : List Bytes :=
  announcedDocuments P planId (ascii "alpha")
    ++ announcedDocuments P planId (ascii "beta")
    ++ [(bundleJson (sampleBundle P)).dump P.toLibc false 0,
      (rotationRecordJson (sampleRootRecord P)).dump P.toLibc false 0]

theorem sampleAnnouncements_heads (P : Platform)
    (robots : List (RobotTrajectoryOccupancy Float)) (serviceId : Bytes) :
    (sampleAnnouncements P robots serviceId).currentPublicationId
        = (sampleAnnouncement P robots serviceId 1 []).id
      ∧ (sampleAnnouncements P robots serviceId).currentTrustBundleId
        = (sampleBundle P).id :=
  ⟨rfl, rfl⟩

theorem secondAnnouncements_documents {P : Platform}
    {robots : List (RobotTrajectoryOccupancy Float)} {serviceId document : Bytes}
    (hservice : serviceId = ascii "alpha" ∨ serviceId = ascii "beta")
    (h : document ∈ rotatingDocuments P (secondAnnouncements P robots serviceId)) :
    document ∈ sampleDocuments P (samplePlan P robots).id := by
  rcases h with hentries | ⟨trust, htrust, hdocument⟩
  · have hannounced : document
        ∈ announcedDocuments P (samplePlan P robots).id serviceId :=
      mem_entryDocuments hentries
    apply List.mem_append_left
    rcases hservice with rfl | rfl
    · exact List.mem_append_left _ hannounced
    · exact List.mem_append_right _ hannounced
  · apply List.mem_append_right
    cases htrust
    rcases hdocument with ⟨bundle, hbundle, rfl⟩ | ⟨record, hrecord, hdocument⟩
    · rw [List.mem_singleton.mp hbundle]
      exact List.mem_cons_self
    · rw [List.mem_singleton.mp hrecord] at hdocument
      rcases hdocument with rfl | ⟨_, hnone, _⟩ | ⟨_, hnone, _⟩
      · exact List.mem_cons_of_mem _ List.mem_cons_self
      · cases hnone
      · cases hnone

theorem samplePlan_pair : (samplePlan openHost [nearRobot, farRobot]).id
    = ascii "040f3497904d4280635530175c9f304f69222fa1dc745dea4c82c606af73df64" := by
  have hlt : farRobot.id < nearRobot.id := robots_apart.1
  have hsort : Lib.Sorting.sort (fun id => id) ([nearRobot, farRobot].map (·.id))
      = [farRobot.id, nearRobot.id] := by
    calc Lib.Sorting.sort (fun id => id) [nearRobot.id, farRobot.id]
        = Lib.Sorting.sort (fun id => id) [farRobot.id, nearRobot.id] :=
          Lib.Sorting.sort_congr _ (List.Perm.swap _ _ _) fun _ _ _ _ => id
      _ = [farRobot.id, nearRobot.id] := by
          apply Lib.Sorting.sort_eq_self
          exact List.pairwise_pair.mpr (Std.le_of_lt hlt)
  unfold samplePlan plannedReport
  rw [hsort, openHost, host_eq]
  decide +kernel

/-- The digests of these documents. -/
theorem sampleDocuments_digests :
    (sampleDocuments openHost (samplePlan openHost [nearRobot, farRobot]).id).map
        openHost.sha256
      = [ascii "43d3ddaf3234913c17e6cf546b7723b8a42b9d906edd7f14fbc6b6290877e85c",
        ascii "0abd40aed6c2828bd349ee81a72c076c0a7447a42599784f1b83691750eee66e",
        ascii "464d48955a41170429c50702dce4a1ed1651b3f6053cf53e2d89355c78329c94",
        ascii "dbf15c83773ff429bf3964a232ed75494f712dfd17261fbde920a2f6ff1432d7",
        ascii "a1dacd2cbb0be53380c6696e833ff8fe4f05a7888652309b3092f999cbf1a8a1",
        ascii "b6f6e000a8503889081216243f71b404743bf7be2a7d5c440caaf80ad4b5f020",
        ascii "0a1bcba37a5f3545381cbe81459c2b32ce67c7edcd4fb931eec8f780713ca23e",
        ascii "6ee9e8fbd17137415acbf45d2d5bf32fdb04957c5b69e4b081afc42f23e66484",
        ascii "804f343141a67aed2132f4a0c75f6aaf0e2752bd0597c18b7c4e642ddc595a0b",
        ascii "c9c22cd3590c4da344d733956cf9151485e168678bf794fac2a1a0088ccd9ddc"] := by
  rw [samplePlan_pair, openHost, host_eq]
  -- one digest after the other
  refine congrArg₂ List.cons ?_ (congrArg₂ List.cons ?_ (congrArg₂ List.cons ?_
    (congrArg₂ List.cons ?_ (congrArg₂ List.cons ?_ (congrArg₂ List.cons ?_
      (congrArg₂ List.cons ?_ (congrArg₂ List.cons ?_ (congrArg₂ List.cons ?_
        (congrArg₂ List.cons ?_ rfl)))))))))
  all_goals decide +kernel

theorem sampleDocuments_nodup :
    ((sampleDocuments openHost (samplePlan openHost [nearRobot, farRobot]).id).map
      openHost.sha256).Nodup := by
  rw [sampleDocuments_digests]
  decide

theorem sampleDocuments_injOn :
    Set.InjOn openHost.sha256 {document | document
      ∈ sampleDocuments openHost (samplePlan openHost [nearRobot, farRobot]).id} := by
  intro document hdocument other hother hdigest
  exact List.inj_on_of_nodup_map sampleDocuments_nodup hdocument hother hdigest

/-- Two robots: the agreement made of the first publications is accepted
after the second ones, in the other order. -/
theorem agreements_replay_iff_pair :
    CommonWindow (firstAgreement [nearRobot, farRobot]) 1
      ∧ verifyCoordinatedReservationAgreement openHost
        (samplePayloads openHost [nearRobot, farRobot])
        (firstAgreement [nearRobot, farRobot])
        (samplePlan openHost [nearRobot, farRobot]) [ascii "e", ascii "d"]
        [secondAnnouncements openHost [nearRobot, farRobot] (ascii "beta"),
          secondAnnouncements openHost [nearRobot, farRobot] (ascii "alpha")] {}
        = .ok ()
      ∧ Reserved openHost (samplePayloads openHost [nearRobot, farRobot])
        (firstAgreement [nearRobot, farRobot])
        (samplePlan openHost [nearRobot, farRobot]) [ascii "e", ascii "d"]
        [secondAnnouncements openHost [nearRobot, farRobot] (ascii "beta"),
          secondAnnouncements openHost [nearRobot, farRobot] (ascii "alpha")] := by
  have hpair := samplePair standingFleet_two (findOccupancy_first _).1
    (findOccupancy_first _).2
  have hmade := hpair.made (show (1 : UInt64) ≠ 0 by decide)
    (show validParent 1 [] = true from rfl) rfl (sampleAnnouncements_heads _ _ _)
    (sampleAnnouncements_heads _ _ _)
  obtain ⟨hreplay, hreserved⟩ := agreements_replay_iff openHost _ sampleDocuments_injOn
  obtain ⟨hwindow, hlater⟩ := hreplay _ _ _ _ _ _ _ _ _ _ hmade
  have hmoved : ∀ {serviceId : Bytes},
      serviceId = ascii "alpha" ∨ serviceId = ascii "beta" →
      Later openHost (sampleAnnouncements openHost [nearRobot, farRobot] serviceId)
        (secondAnnouncements openHost [nearRobot, farRobot] serviceId) :=
    fun hservice => Relation.ReflTransGen.single
      (.publish _ (valid_secondAnnouncements hservice))
  have hverified := hlater (samplePayloads openHost [nearRobot, farRobot])
    [(ascii "e", secondAnnouncements openHost [nearRobot, farRobot] (ascii "beta")),
      (ascii "d", secondAnnouncements openHost [nearRobot, farRobot] (ascii "alpha"))]
    ⟨_, List.Perm.swap _ _ _, .cons ⟨rfl, hmoved (.inr rfl)⟩
      (.cons ⟨rfl, hmoved (.inl rfl)⟩ .nil)⟩ ?_ fun _ _ => ⟨rfl, fun _ _ => rfl⟩
  · exact ⟨hwindow, hverified, (hreserved _ _ _ _ _ _ hverified).mpr rfl⟩
  · intro pair hmem
    rcases List.mem_pair.mp hmem with rfl | rfl
    · exact fun _ => secondAnnouncements_documents (.inr rfl)
    · exact fun _ => secondAnnouncements_documents (.inl rfl)

end RbfSafe
