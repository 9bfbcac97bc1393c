/-
What a history that has moved on still shows.

Every publication and bundle of the history stays where it was
(`Later.keeps`), so a participant that was made of the history is made of
the later one as well (`Later.makeParticipant`), with the same pins.
-/
import RbfSafe.Coordination.Extension
import RbfSafe.Coordination.Proofs.Replay

namespace RbfSafe

/-- What a later history keeps of an earlier one. -/
structure Keeps (history history' : RotatingOccupancyPublicationHistory) :
    Prop where
  stream : history'.stream = history.stream
  trustRootBundleId : history'.trustRootBundleId = history.trustRootBundleId
  options : history'.options = history.options
  entries : history.entries <+: history'.entries
  trust : ∀ trust, history.trustHistory = some trust →
    ∃ trust', history'.trustHistory = some trust'
      ∧ trust'.rootBundleId = trust.rootBundleId
      ∧ trust.bundles <+: trust'.bundles ∧ trust.records <+: trust'.records

namespace Keeps

variable {a b c : RotatingOccupancyPublicationHistory}

theorem refl (a : RotatingOccupancyPublicationHistory) : Keeps a a :=
  ⟨rfl, rfl, rfl, List.prefix_rfl, fun trust htrust =>
    ⟨trust, htrust, rfl, List.prefix_rfl, List.prefix_rfl⟩⟩

theorem trans (h : Keeps a b) (h' : Keeps b c) : Keeps a c := by
  refine ⟨h'.stream.trans h.stream, h'.trustRootBundleId.trans h.trustRootBundleId,
    h'.options.trans h.options, h.entries.trans h'.entries, ?_⟩
  intro trust htrust
  obtain ⟨middle, hmiddle, hroot, hbundles, hrecords⟩ := h.trust trust htrust
  obtain ⟨last, hlast, hroot', hbundles', hrecords'⟩ := h'.trust middle hmiddle
  exact ⟨last, hlast, hroot'.trans hroot, hbundles.trans hbundles',
    hrecords.trans hrecords'⟩

/-- One step keeps what was there. -/
theorem of_advanced {P : Platform} (h : Advanced P a b) : Keeps a b := by
  cases h with
  | publish entry valid =>
      exact ⟨rfl, rfl, rfl, List.prefix_append _ _, fun trust htrust =>
        ⟨trust, htrust, rfl, List.prefix_rfl, List.prefix_rfl⟩⟩
  | rotateTrust successor record held valid =>
      refine ⟨rfl, rfl, rfl, List.prefix_rfl, fun trust htrust => ?_⟩
      rw [held] at htrust
      cases htrust
      exact ⟨_, rfl, rfl, List.prefix_append _ _, List.prefix_append _ _⟩

end Keeps

namespace Later

variable {P : Platform} {history history' : RotatingOccupancyPublicationHistory}

/-- **Whatever is done, what was there is kept.** -/
theorem keeps (h : Later P history history') : Keeps history history' := by
  induction h with
  | refl => exact Keeps.refl history
  | tail _ hstep ih => exact ih.trans (.of_advanced hstep)

theorem valid (h : Later P history history') (hvalid : history.valid P = true) :
    history'.valid P = true := by
  induction h with
  | refl => exact hvalid
  | tail _ hstep _ =>
      cases hstep with
      | publish entry valid => exact valid
      | rotateTrust successor record held valid => exact valid

/-- A publication is looked up where it was. -/
theorem publicationPosition (h : Later P history history') {publicationId : Bytes}
    {place : Nat} (hplace : history.publicationPosition publicationId = some place) :
    history'.publicationPosition publicationId = some place :=
  h.keeps.entries.findIdx?_eq_some hplace

theorem entry (h : Later P history history') {place : Nat}
    {entry : PublicationEntry} (hentry : history.entries[place]? = some entry) :
    history'.entries[place]? = some entry := by
  obtain ⟨hlt, hget⟩ := List.getElem?_eq_some_iff.mp hentry
  rw [← hget]
  exact List.prefix_iff_getElem?.mp h.keeps.entries place hlt

theorem publication (h : Later P history history') {publicationId : Bytes}
    {publication : OccupancyPublication}
    (hfound : history.publication P publicationId = .ok publication) :
    history'.publication P publicationId = .ok publication := by
  obtain ⟨hvalid, hid, place, entry, hplace, hentry, hpublication⟩ :=
    publication_iff.mp hfound
  exact publication_iff.mpr ⟨h.valid hvalid, hid, place, entry,
    h.publicationPosition hplace, h.entry hentry, hpublication⟩

/-- The trust history of the later history. -/
theorem trustHistory (h : Later P history history') {trust : ServiceTrustHistory}
    (htrust : history.replayedTrustHistory P = .ok trust) :
    ∃ trust', history'.replayedTrustHistory P = .ok trust'
      ∧ trust'.valid P = true ∧ trust'.rootBundleId = trust.rootBundleId
      ∧ trust.bundles <+: trust'.bundles ∧ trust.records <+: trust'.records := by
  obtain ⟨hvalid, hsome⟩ := replayedTrustHistory_iff.mp htrust
  obtain ⟨trust', hsome', hroot, hbundles, hrecords⟩ := h.keeps.trust trust hsome
  obtain ⟨opened, hopened⟩ := opened_of_valid (h.valid hvalid)
  have hsame := hopened.trustHistory
  rw [hsome'] at hsame
  cases hsame
  exact ⟨trust', replayedTrustHistory_iff.mpr ⟨h.valid hvalid, hsome'⟩,
    hopened.trustValid, hroot, hbundles, hrecords⟩

end Later

/-- A bundle is looked up where it was. -/
theorem bundle_kept {P : Platform} {trust trust' : ServiceTrustHistory}
    (hvalid : trust'.valid P = true) (hbundles : trust.bundles <+: trust'.bundles)
    {bundleId : Bytes} {bundle : ServiceTrustBundle}
    (h : trust.bundle P bundleId = .ok bundle) :
    trust'.bundle P bundleId = .ok bundle := by
  unfold ServiceTrustHistory.bundle at h ⊢
  rw [ite_failure_eq_ok] at h
  obtain ⟨hinput, h⟩ := h
  have hid : validSha256 bundleId = true := by
    simp only [Bool.or_eq_true, Bool.not_eq_true', not_or, Bool.not_eq_false]
      at hinput
    exact hinput.2
  rw [hvalid, hid, if_neg (by decide)]
  cases hfind : trust.bundles.find? fun candidate => candidate.id == bundleId with
  | none =>
      rw [hfind] at h
      cases h
  | some found =>
      rw [hfind] at h
      rw [hbundles.find?_eq_some hfind]
      exact h

-- === trust prefixes

/-- The loop is left with a record of the id. -/
theorem lastTrustIndex_some {bundleId : Bytes} {place : Nat}
    {records : List ServiceTrustRotationRecord} {start : Nat} {found : Option Nat}
    (h : lastTrustIndex bundleId start found records = some place) :
    found = some place ∨ ∃ index record, place = start + index
      ∧ records[index]? = some record ∧ record.bundleId = bundleId := by
  induction records generalizing start found with
  | nil => exact .inl h
  | cons first rest ih =>
      rw [lastTrustIndex] at h
      rcases ih h with hfound | ⟨index, record, hplace, hrecord, hid⟩
      · by_cases hsame : first.bundleId = bundleId
        · rw [if_pos hsame] at hfound
          exact .inr ⟨0, first, (Option.some.inj hfound).symm, rfl, hsame⟩
        · rw [if_neg hsame] at hfound
          exact .inl hfound
      · exact .inr ⟨index + 1, record, by omega, hrecord, hid⟩

theorem lastTrustIndex_isSome {bundleId : Bytes}
    {records : List ServiceTrustRotationRecord} {start place : Nat} :
    (lastTrustIndex bundleId start (some place) records).isSome = true := by
  induction records generalizing start place with
  | nil => rfl
  | cons first rest ih =>
      rw [lastTrustIndex]
      by_cases hsame : first.bundleId = bundleId
      · rw [if_pos hsame]
        exact ih
      · rw [if_neg hsame]
        exact ih

/-- A record that is the only one of its id is the one the loop is left
with. -/
theorem lastTrustIndex_unique {bundleId : Bytes} {place : Nat}
    {records : List ServiceTrustRotationRecord} {start : Nat} {found : Option Nat}
    {record : ServiceTrustRotationRecord} (hrecord : records[place]? = some record)
    (hid : record.bundleId = bundleId)
    (hunique : ∀ (other : Nat) (record : ServiceTrustRotationRecord),
      records[other]? = some record → record.bundleId = bundleId → other = place) :
    lastTrustIndex bundleId start found records = some (start + place) := by
  induction records generalizing start found place with
  | nil => cases hrecord
  | cons first rest ih =>
      rw [lastTrustIndex]
      cases place with
      | zero =>
          cases hrecord
          rw [if_pos hid]
          cases hlast : lastTrustIndex bundleId (start + 1) (some start) rest with
          | none =>
              have hsome : (lastTrustIndex bundleId (start + 1) (some start)
                rest).isSome = true := lastTrustIndex_isSome
              rw [hlast] at hsome
              cases hsome
          | some last =>
              rcases lastTrustIndex_some hlast with hfound | ⟨index, other, -, hother,
                hsame⟩
              · rw [Nat.add_zero]
                exact hfound.symm
              · have habsurd := hunique (index + 1) other hother hsame
                omega
      | succ place =>
          rw [ih hrecord fun other record hother hsame =>
            Nat.succ.inj (hunique (other + 1) record hother hsame)]
          exact congrArg some (by omega)

/-- Records of one bundle are at one place. -/
theorem Held.record_unique {P : Platform} {D : Set Bytes}
    {history : RotatingOccupancyPublicationHistory}
    (hdigest : Set.InjOn P.sha256 D) (h : Held P D history)
    {trust : ServiceTrustHistory} (htrust : history.trustHistory = some trust)
    {i j : Nat} {first second : ServiceTrustRotationRecord}
    (hi : trust.records[i]? = some first) (hj : trust.records[j]? = some second)
    (hsame : first.bundleId = second.bundleId) : i = j := by
  obtain ⟨opened, hopened⟩ := opened_of_valid h.valid
  have hopen := hopened.trustHistory
  rw [htrust] at hopen
  cases hopen
  have hbundle : ∀ {k : Nat} {record : ServiceTrustRotationRecord},
      trust.records[k]? = some record →
      ∃ bundle, trust.bundles[k]? = some bundle ∧ record.bundleId = bundle.id := by
    intro k record hk
    obtain ⟨bundle, record', hbundle, hrecord, hentry⟩ := history_entry
      hopened.trustValid (List.getElem?_eq_some_iff.mp hk).1
    rw [hk] at hrecord
    cases hrecord
    exact ⟨bundle, hbundle, hentry.bundleId⟩
  obtain ⟨bundle, hbundleAt, hid⟩ := hbundle hi
  obtain ⟨bundle', hbundleAt', hid'⟩ := hbundle hj
  apply Lib.Lineage.index_unique (bundles_lineage hopened.trustValid)
    (h.trustTold hdigest h htrust htrust) hbundleAt hbundleAt'
  rw [← hid, ← hid', hsame]

/-- **The order of two bundles is kept.** -/
theorem verifyTrustPrefix_later {P : Platform} {D : Set Bytes}
    {history : RotatingOccupancyPublicationHistory}
    (hdigest : Set.InjOn P.sha256 D) (h : Held P D history)
    {trust trust' : ServiceTrustHistory} (htrust : history.trustHistory = some trust')
    (hrecords : trust.records <+: trust'.records) {first second : Bytes}
    ( hprefix : verifyTrustPrefix trust first second = .ok ()) :
    verifyTrustPrefix trust' first second = .ok () := by
  have hkept : ∀ {bundleId : Bytes} {place : Nat},
      lastTrustIndex bundleId 0 none trust.records = some place →
      lastTrustIndex bundleId 0 none trust'.records = some place := by
    intro bundleId place hplace
    rcases lastTrustIndex_some hplace with hnone | ⟨index, record, hindex, hrecord, hid⟩
    · cases hnone
    · rw [Nat.zero_add] at hindex
      subst hindex
      obtain ⟨hlt, hget⟩ := List.getElem?_eq_some_iff.mp hrecord
      have hrecord' : trust'.records[place]? = some record := by
        rw [← hget]
        exact List.prefix_iff_getElem?.mp hrecords place hlt
      rw [lastTrustIndex_unique hrecord' hid, Nat.zero_add]
      intro other found hfound hsame
      exact h.record_unique hdigest htrust hfound hrecord' (hsame.trans hid.symm)
  unfold verifyTrustPrefix at hprefix ⊢
  cases hfirst : lastTrustIndex first 0 none trust.records with
  | none =>
      rw [hfirst] at hprefix
      cases hprefix
  | some place =>
      cases hsecond : lastTrustIndex second 0 none trust.records with
      | none =>
          rw [hfirst, hsecond] at hprefix
          cases hprefix
      | some place' =>
          rw [hfirst, hsecond] at hprefix
          rw [hkept hfirst, hkept hsecond]
          exact hprefix

-- === participants

/-- The payload files of a history are read alike. -/
structure SamePayloads (files files' : PayloadFiles)
    (history : RotatingOccupancyPublicationHistory) : Prop where
  load : files'.load = files.load
  read : ∀ entry ∈ history.entries,
    files'.read entry.payloadPath = files.read entry.payloadPath

section
variable {P : Platform} {files files' : PayloadFiles}
  {history history' : RotatingOccupancyPublicationHistory}

/-- A publication verifies alike where its payload is read alike. -/
theorem verify_same_payload (hload : files'.load = files.load) {payloadPath : Bytes}
    (hread : files'.read payloadPath = files.read payloadPath)
    (publication : OccupancyPublication) (trustBundle : ServiceTrustBundle)
    (streamId serviceId bundleId parentId : Bytes) (tick : UInt64)
    (options : ContinuousFleetOccupancyBundleLoadOptions) :
    verifyContinuousFleetOccupancyPublication P files' payloadPath publication
        trustBundle streamId serviceId bundleId parentId tick options
      = verifyContinuousFleetOccupancyPublication P files payloadPath publication
        trustBundle streamId serviceId bundleId parentId tick options := by
  have hpayload : readOccupancyPayload files' payloadPath options
      = readOccupancyPayload files payloadPath options := by
    unfold readOccupancyPayload
    rw [hread]
  have hexact : ∀ payload, loadExactOccupancyPayload P files' payload options
      = loadExactOccupancyPayload P files payload options := by
    intro payload
    unfold loadExactOccupancyPayload
    rw [hload]
  unfold verifyContinuousFleetOccupancyPublication
  simp only [hpayload, hexact]

/-- **A publication verifies in a later history as it did.** -/
theorem Later.verify (h : Later P history history')
    (hfiles : SamePayloads files files' history) {publicationId : Bytes}
    {tick : UInt64} {verified : VerifiedOccupancyPublication}
    (hverified : history.verify P files publicationId tick = .ok verified) :
    history'.verify P files' publicationId tick = .ok verified := by
  unfold RotatingOccupancyPublicationHistory.verify at hverified ⊢
  rw [ite_failure_eq_ok] at hverified
  obtain ⟨hinput, hverified⟩ := hverified
  rw [not_or, Bool.not_eq_false, Bool.not_eq_false] at hinput
  rw [if_neg (by rw [h.valid hinput.1, hinput.2]; decide)]
  cases hplace : history.publicationPosition publicationId with
  | none =>
      rw [hplace] at hverified
      cases hverified
  | some place =>
      cases htrust : history.trustHistory with
      | none =>
          rw [hplace, htrust] at hverified
          cases hverified
      | some trust =>
          rw [hplace, htrust] at hverified
          obtain ⟨trust', htrust', htrustValid, -, hbundles, -⟩ := h.trustHistory
            (replayedTrustHistory_iff.mpr ⟨hinput.1, htrust⟩)
          rw [h.publicationPosition hplace, (replayedTrustHistory_iff.mp htrust').2]
          dsimp only at hverified ⊢
          cases hentry : history.entries[place]? with
          | none =>
              rw [hentry] at hverified
              cases hverified
          | some entry =>
              rw [hentry] at hverified
              rw [h.entry hentry]
              obtain ⟨bundle, hbundle, hverified⟩ := bind_eq_ok.mp hverified
              have hparent : history'.expectedParent place
                  = history.expectedParent place := by
                unfold RotatingOccupancyPublicationHistory.expectedParent
                by_cases hzero : place = 0
                · rw [if_pos hzero, if_pos hzero]
                · rw [if_neg hzero, if_neg hzero]
                  have hlt := (List.getElem?_eq_some_iff.mp hentry).1
                  have hbefore := List.getElem?_eq_getElem
                    (show place - 1 < history.entries.length by omega)
                  rw [h.entry hbefore, hbefore]
              show (trust'.bundle P entry.publication.trustBundleId >>= _) = _
              rw [bundle_kept htrustValid hbundles hbundle, ok_bind,
                verify_same_payload hfiles.load
                  (hfiles.read entry (List.mem_of_getElem? hentry)),
                h.keeps.stream, h.keeps.options, hparent]
              exact hverified

/-- **A participant is made of a later history as it was.** -/
theorem Later.makeParticipant {D : Set Bytes} (hdigest : Set.InjOn P.sha256 D)
    (h : Later P history history') (hheld : Held P D history')
    (hfiles : SamePayloads files files' history) {deploymentId : Bytes}
    {occupancy : RobotTrajectoryOccupancy Float}
    {publicationId trustHeadBundleId : Bytes} {tick : UInt64}
    {made : CoordinatedReservationParticipant}
    (hmade : makeParticipant P files deploymentId occupancy history publicationId
      trustHeadBundleId tick = .ok made) :
    makeParticipant P files' deploymentId occupancy history' publicationId
      trustHeadBundleId tick = .ok made := by
  unfold RbfSafe.makeParticipant at hmade ⊢
  rw [ite_failure_eq_ok] at hmade
  obtain ⟨hinput, hmade⟩ := hmade
  simp only [not_or, Bool.not_eq_false] at hinput
  rw [if_neg (by simp only [not_or, Bool.not_eq_false]; exact ⟨hinput.1,
    hinput.2.1, h.valid hinput.2.2.1, hinput.2.2.2⟩)]
  obtain ⟨trust, htrust, hmade⟩ := bind_eq_ok.mp hmade
  obtain ⟨trust', htrust', htrustValid, hroot, hbundles, hrecords⟩ :=
    h.trustHistory htrust
  rw [ite_failure_eq_ok] at hmade
  obtain ⟨hrootSame, hmade⟩ := hmade
  obtain ⟨bundle, hbundle, hmade⟩ := bind_eq_ok.mp hmade
  obtain ⟨publication, hpublication, hmade⟩ := bind_eq_ok.mp hmade
  obtain ⟨_, hprefix, hmade⟩ := bind_eq_ok.mp hmade
  obtain ⟨verified, hverified, hmade⟩ := bind_eq_ok.mp hmade
  rw [htrust', ok_bind, if_neg (by rw [hroot, h.keeps.trustRootBundleId]
                                   exact hrootSame),
    bundle_kept htrustValid hbundles hbundle, ok_bind,
    h.publication hpublication, ok_bind,
    verifyTrustPrefix_later hdigest hheld (replayedTrustHistory_iff.mp htrust').2
      hrecords hprefix, ok_bind, h.verify hfiles hverified, ok_bind]
  have hsame : participantOf P deploymentId occupancy history' trustHeadBundleId
      publication verified = participantOf P deploymentId occupancy history
      trustHeadBundleId publication verified := by
    unfold participantOf
    rw [h.keeps.stream, h.keeps.trustRootBundleId]
  rw [hsame]
  exact hmade

end

end RbfSafe
