/-
Where publications and bundles stand in rotating histories.

In a valid history every publication names the one before it, and so does
every bundle of its trust history. As far as the digests tell the
documents apart, a publication or a bundle stands at one place, the place
where the code finds it, and two histories that hold it hold the same ones
before it (`Held.published_before`, `Held.trusted_before`).
-/
import RbfSafe.Coordination.Proofs.RotatingAudit
import RbfSafe.Coordination.Reservation
import RbfSafe.Identity.Proofs.Lifecycle
import RbfSafe.Lib.Lineage

namespace RbfSafe

open Lib.Lineage (Lineage Told At)

-- === entries

section
variable {P : Platform} {stream : PublicationStream}
  {trusted : Option OccupancyPublication → OccupancyPublication → Bool}

/-- An entry passed its round of the loop of `valid`. -/
theorem linked_at {entries : List PublicationEntry} {index : Nat}
    {previous : Option PublicationEntry}
    (h : publicationsLinked P stream trusted index previous entries = true)
    {i : Nat} {entry : PublicationEntry} (hi : entries[i]? = some entry) :
    ∃ before, publicationEntryValid P stream trusted (index + i) before entry
      = true := by
  induction entries generalizing index previous i with
  | nil => cases hi
  | cons first rest ih =>
      rw [publicationsLinked, Bool.and_eq_true] at h
      cases i with
      | zero =>
          cases hi
          exact ⟨previous, h.1⟩
      | succ i =>
          rw [List.getElem?_cons_succ] at hi
          obtain ⟨before, hbefore⟩ := ih h.2 hi
          rw [show index + (i + 1) = index + 1 + i by omega]
          exact ⟨before, hbefore⟩

/-- An entry passed its round after the entry before it. -/
theorem linked_next {entries : List PublicationEntry} {index : Nat}
    {previous : Option PublicationEntry}
    (h : publicationsLinked P stream trusted index previous entries = true)
    {i : Nat} {a b : PublicationEntry} (ha : entries[i]? = some a)
    (hb : entries[i + 1]? = some b) :
    publicationEntryValid P stream trusted (index + i + 1) (some a) b = true := by
  induction entries generalizing index previous i with
  | nil => cases ha
  | cons first rest ih =>
      rw [publicationsLinked, Bool.and_eq_true] at h
      rw [List.getElem?_cons_succ] at hb
      cases i with
      | zero =>
          cases ha
          cases rest with
          | nil => cases hb
          | cons second rest =>
              cases hb
              rw [publicationsLinked, Bool.and_eq_true] at h
              exact h.2.1
      | succ i =>
          rw [List.getElem?_cons_succ] at ha
          have hnext := ih h.2 ha hb
          rwa [show index + 1 + i + 1 = index + (i + 1) + 1 by omega] at hnext

/-- What an entry's publication shares with its stream. -/
structure StreamEntry (P : Platform) (stream : PublicationStream)
    (entry : PublicationEntry) : Prop where
  valid : entry.publication.valid P = true
  streamId : entry.publication.streamId = stream.streamId
  publisherServiceId : entry.publication.publisherServiceId
    = stream.publisherServiceId
  timelineId : entry.publication.timelineId = stream.timelineId
  workspaceFrameId : entry.publication.workspaceFrameId = stream.workspaceFrameId

theorem StreamEntry.of_valid {index : Nat} {previous : Option PublicationEntry}
    {entry : PublicationEntry}
    (h : publicationEntryValid P stream trusted index previous entry = true) :
    StreamEntry P stream entry := by
  unfold publicationEntryValid at h
  simp only [Bool.and_eq_true, decide_eq_true_eq] at h
  obtain ⟨⟨⟨⟨⟨⟨⟨⟨⟨⟨⟨⟨⟨⟨-, hpublication⟩, -⟩, -⟩, -⟩, -⟩, -⟩, -⟩, hstream⟩,
    hservice⟩, -⟩, htimeline⟩, hframe⟩, -⟩, -⟩ := h
  exact ⟨hpublication, hstream, hservice, htimeline, hframe⟩

/-- The publication after another one names it. -/
theorem parent_of_linked {index : Nat} {a b : PublicationEntry}
    (h : publicationEntryValid P stream trusted index (some a) b = true) :
    b.publication.parentPublicationId = a.publication.id := by
  unfold publicationEntryValid at h
  simp only [Bool.and_eq_true] at h
  have hsuccessor := h.2.2
  unfold verifyOccupancyPublicationSuccessor at hsuccessor
  by_cases hinput : a.publication.valid P = false ∨ b.publication.valid P = false
  · rw [if_pos hinput] at hsuccessor
    cases hsuccessor
  · rw [if_neg hinput] at hsuccessor
    by_cases hparent : b.publication.parentPublicationId = a.publication.id
    · exact hparent
    · rw [if_pos (.inr (.inr (.inl hparent)))] at hsuccessor
      cases hsuccessor

/-- The publications of a valid history, each after the one it names. -/
theorem entries_lineage {entries : List PublicationEntry}
    (h : publicationsLinked P stream trusted 0 none entries = true) :
    Lineage (fun entry : PublicationEntry => entry.publication.id)
      (fun entry => entry.publication.parentPublicationId)
      (fun entry => entry.publication.publisherSequence.toNat - 1) entries := by
  refine ⟨fun {i entry} hi => ?_, fun {i a b} ha hb => ?_⟩
  · have hsequence := (sound_entry h hi).sequence
    show entry.publication.publisherSequence.toNat - 1 = i
    omega
  · exact parent_of_linked (linked_next h ha hb)

end

-- === bundles

/-- The bundles of a valid trust history, each after the one it names. -/
theorem bundles_lineage {P : Platform} {trust : ServiceTrustHistory}
    (h : trust.valid P = true) :
    Lineage ServiceTrustBundle.id ServiceTrustBundle.parentId
      (fun bundle => bundle.sequence.toNat - 1) trust.bundles := by
  refine ⟨fun {i bundle} hi => ?_, fun {i earlier later} hi hnext => ?_⟩
  · have hlt := (List.getElem?_eq_some_iff.mp hi).1
    rw [history_lengths h] at hlt
    obtain ⟨bundle', record, hbundle, -, hentry⟩ := history_entry h hlt
    rw [hi] at hbundle
    cases hbundle
    have hsequence := hentry.bundleSequence
    show bundle.sequence.toNat - 1 = i
    omega
  · have hrotation := history_rotation h hi hnext
    unfold validateServiceTrustBundleRotation at hrotation
    rw [ite_failure_eq_ok, ite_failure_eq_ok, not_or, not_or, not_or] at hrotation
    exact not_not.mp hrotation.2.1.2.2.1

/-- The place at which the code finds a bundle by its record. -/
theorem trustIndex_eq {P : Platform} {trust : ServiceTrustHistory}
    (h : trust.valid P = true) (bundleId : Bytes) :
    trustIndex trust bundleId
      = trust.bundles.findIdx? fun bundle => decide (bundle.id = bundleId) := by
  have hids : trust.records.map (·.bundleId) = trust.bundles.map (·.id) := by
    apply List.ext_getElem?
    intro i
    by_cases hi : i < trust.records.length
    · obtain ⟨bundle, record, hbundle, hrecord, hentry⟩ := history_entry h hi
      rw [List.getElem?_map, List.getElem?_map, hbundle, hrecord]
      exact congrArg some hentry.bundleId
    · rw [List.getElem?_eq_none, List.getElem?_eq_none]
      · rw [List.length_map, history_lengths h]
        omega
      · rw [List.length_map]
        omega
  exact Lib.Lineage.findIdx?_of_names hids bundleId

-- === histories

/-- The publication that stands at a place of a history. -/
def PublishedAt (history : RotatingOccupancyPublicationHistory) (place : Nat)
    (publicationId : Bytes) : Prop :=
  At (fun entry : PublicationEntry => entry.publication.id) history.entries place
    publicationId

/-- The bundle that stands at a place of the trust history of a history. -/
def TrustedAt (history : RotatingOccupancyPublicationHistory) (place : Nat)
    (bundleId : Bytes) : Prop :=
  ∃ trust, history.trustHistory = some trust
    ∧ At ServiceTrustBundle.id trust.bundles place bundleId

/-- A valid history whose documents are among those at hand. -/
structure Held (P : Platform) (D : Set Bytes)
    (history : RotatingOccupancyPublicationHistory) : Prop where
  valid : history.valid P = true
  documents : rotatingDocuments P history ⊆ D

theorem linked_of_valid {P : Platform}
    {history : RotatingOccupancyPublicationHistory}
    (h : history.valid P = true) {trust : ServiceTrustHistory}
    (htrust : history.trustHistory = some trust) :
    publicationsLinked P history.stream (rotatedBundle trust) 0 none
      history.entries = true := by
  unfold RotatingOccupancyPublicationHistory.valid at h
  rw [htrust] at h
  simp only [Option.any_some, Bool.and_eq_true] at h
  exact h.1.2.2

namespace Held

variable {P : Platform} {D : Set Bytes}
  {history history' : RotatingOccupancyPublicationHistory}

theorem lineage (h : Held P D history) :
    Lineage (fun entry : PublicationEntry => entry.publication.id)
      (fun entry => entry.publication.parentPublicationId)
      (fun entry => entry.publication.publisherSequence.toNat - 1)
      history.entries := by
  obtain ⟨trust, hopened⟩ := opened_of_valid h.valid
  exact entries_lineage (linked_of_valid h.valid hopened.trustHistory)

/-- What the entry at a place shares with the stream of its history. -/
theorem streamEntry (h : Held P D history) {i : Nat} {entry : PublicationEntry}
    (hi : history.entries[i]? = some entry) :
    StreamEntry P history.stream entry := by
  obtain ⟨trust, hopened⟩ := opened_of_valid h.valid
  obtain ⟨before, hentry⟩ := linked_at
    (linked_of_valid h.valid hopened.trustHistory) hi
  exact .of_valid hentry

theorem sound (h : Held P D history) {i : Nat} {entry : PublicationEntry}
    (hi : history.entries[i]? = some entry) : SoundEntry P i entry := by
  obtain ⟨trust, hopened⟩ := opened_of_valid h.valid
  exact hopened.chain.sound hi

theorem bundleDocument_mem (h : Held P D history) {trust : ServiceTrustHistory}
    (htrust : history.trustHistory = some trust) {bundle : ServiceTrustBundle}
    (hmem : bundle ∈ trust.bundles) :
    (bundleJson bundle).dump P.toLibc false 0 ∈ D :=
  h.documents (.inr ⟨trust, htrust, .inl ⟨bundle, hmem, rfl⟩⟩)

variable (hdigest : Set.InjOn P.sha256 D)
include hdigest

/-- The id of a publication tells its place and the one before it. -/
theorem told (h : Held P D history) (h' : Held P D history') :
    Told (fun entry : PublicationEntry => entry.publication.id)
      (fun entry => entry.publication.parentPublicationId)
      (fun entry => entry.publication.publisherSequence.toNat - 1)
      history.entries history'.entries := by
  intro a ha b hb hid
  obtain ⟨i, hi⟩ := List.mem_iff_getElem?.mp ha
  obtain ⟨j, hj⟩ := List.mem_iff_getElem?.mp hb
  have hdocument : publicationDocument P a.publication
      = publicationDocument P b.publication := by
    apply hdigest
    · exact h.documents (.inl ⟨a, ha, .inl rfl⟩)
    · exact h'.documents (.inl ⟨b, hb, .inl rfl⟩)
    · rw [← (h.sound hi).publicationId, ← (h'.sound hj).publicationId]
      exact hid
  obtain ⟨hsequence, hparent⟩ := publicationTold_eq hdocument
  refine ⟨?_, hparent⟩
  show a.publication.publisherSequence.toNat - 1
    = b.publication.publisherSequence.toNat - 1
  rw [hsequence]

/-- The id of a bundle tells its place and the one before it. -/
theorem trustTold (h : Held P D history) (h' : Held P D history')
    {trust trust' : ServiceTrustHistory} (htrust : history.trustHistory = some trust)
    (htrust' : history'.trustHistory = some trust') :
    Told ServiceTrustBundle.id ServiceTrustBundle.parentId
      (fun bundle => bundle.sequence.toNat - 1) trust.bundles trust'.bundles := by
  have hvalid : ∀ {history trust}, Held P D history →
      history.trustHistory = some trust → ∀ bundle ∈ trust.bundles,
      bundle.valid P = true := by
    intro history trust h htrust bundle hmem
    obtain ⟨trust', hopened⟩ := opened_of_valid h.valid
    rw [hopened.trustHistory] at htrust
    cases htrust
    obtain ⟨i, hi⟩ := List.mem_iff_getElem?.mp hmem
    have hlt := (List.getElem?_eq_some_iff.mp hi).1
    rw [history_lengths hopened.trustValid] at hlt
    obtain ⟨bundle', record, hbundle, -, hentry⟩ :=
      history_entry hopened.trustValid hlt
    rw [hi] at hbundle
    cases hbundle
    exact hentry.valid
  intro a ha b hb hid
  have hdump : (bundleJson a).dump P.toLibc false 0
      = (bundleJson b).dump P.toLibc false 0 := by
    apply hdigest
    · exact h.bundleDocument_mem htrust ha
    · exact h'.bundleDocument_mem htrust' hb
    · rw [(bundle_valid (hvalid h htrust a ha)).2,
        (bundle_valid (hvalid h' htrust' b hb)).2]
      exact hid
  obtain ⟨hsequence, hparent⟩ := told_of_dump_eq hdump
  exact ⟨congrArg (· - 1) hsequence, hparent⟩

/-- A publication stands where the code finds it. -/
theorem publicationIndex_iff (h : Held P D history) {place : Nat}
    {publicationId : Bytes} :
    publicationIndex history publicationId = some place
      ↔ PublishedAt history place publicationId := by
  rw [PublishedAt, ← Lib.Lineage.findIdx?_iff h.lineage (h.told hdigest h)]
  unfold publicationIndex
  apply iff_of_eq
  apply congrArg (· = some place)
  apply Lib.Lineage.findIdx?_of_names
  apply List.map_congr_left
  intro entry hmem
  obtain ⟨i, hi⟩ := List.mem_iff_getElem?.mp hmem
  exact (h.sound hi).same

/-- A bundle stands where the code finds it. -/
theorem trustIndex_iff (h : Held P D history) {trust : ServiceTrustHistory}
    (htrust : history.trustHistory = some trust) {place : Nat} {bundleId : Bytes} :
    trustIndex trust bundleId = some place ↔ TrustedAt history place bundleId := by
  obtain ⟨trust', hopened⟩ := opened_of_valid h.valid
  have hsame : trust' = trust := by
    rw [hopened.trustHistory] at htrust
    exact Option.some.inj htrust
  subst hsame
  rw [trustIndex_eq hopened.trustValid, Lib.Lineage.findIdx?_iff
    (bundles_lineage hopened.trustValid) (h.trustTold hdigest h htrust htrust)]
  constructor
  · exact fun hat => ⟨trust', htrust, hat⟩
  · rintro ⟨trust, hsome, hat⟩
    rw [htrust] at hsome
    cases hsome
    exact hat

/-- Histories that hold one publication hold the same ones before it. -/
theorem published_before (h : Held P D history) (h' : Held P D history')
    {x y : Bytes} {i j k : Nat} (hi : PublishedAt history i x)
    (hj : PublishedAt history' j x) (hk : PublishedAt history k y) (hle : k ≤ i) :
    j = i ∧ PublishedAt history' k y :=
  Lib.Lineage.ancestor_at h.lineage h'.lineage (h.told hdigest h') hi hj hk hle

/-- Histories that hold one bundle hold the same ones before it. -/
theorem trusted_before (h : Held P D history) (h' : Held P D history')
    {x y : Bytes} {i j k : Nat} (hi : TrustedAt history i x)
    (hj : TrustedAt history' j x) (hk : TrustedAt history k y) (hle : k ≤ i) :
    j = i ∧ TrustedAt history' k y := by
  have hlineage : ∀ {history trust}, Held P D history →
      history.trustHistory = some trust →
      Lineage ServiceTrustBundle.id ServiceTrustBundle.parentId
        (fun bundle => bundle.sequence.toNat - 1) trust.bundles := by
    intro history trust h htrust
    obtain ⟨trust', hopened⟩ := opened_of_valid h.valid
    rw [hopened.trustHistory] at htrust
    cases htrust
    exact bundles_lineage hopened.trustValid
  obtain ⟨trust, htrust, hat⟩ := hi
  obtain ⟨trust', htrust', hat'⟩ := hj
  obtain ⟨trust'', htrust'', hatk⟩ := hk
  rw [htrust] at htrust''
  cases htrust''
  obtain ⟨hplace, hfound⟩ := Lib.Lineage.ancestor_at (hlineage h htrust)
    (hlineage h' htrust') (h.trustTold hdigest h' htrust htrust') hat hat' hatk hle
  exact ⟨hplace, trust', htrust', hfound⟩

end Held

end RbfSafe
