/-
The chains that publication histories are.

What an audit compares are ids: a record is told by its id
(`record_eq`), a publication's place in the stream by its id
(`publicationTold_eq`). So two entries that pass for one have one
record, and histories with one head are of one length; of the trust
histories the same holds.
-/
import RbfSafe.Coordination.Audit
import RbfSafe.Identity.Proofs.Records

namespace RbfSafe

open Json

-- === documents

theorem fits_publicationIdentityFields {publication : OccupancyPublication} :
    ∀ field ∈ publicationIdentityFields publication, Fits 64 field.2 := by
  intro field hfield
  simp only [publicationIdentityFields, List.mem_cons, List.not_mem_nil,
    or_false] at hfield
  rcases hfield with rfl | rfl | rfl | rfl | rfl | rfl | rfl | rfl | rfl | rfl
    | rfl | rfl | rfl | rfl | rfl
  · apply fits_num
    cases publication.algorithm <;> decide
  · exact .string _
  · exact .string _
  · exact .string _
  · exact .string _
  · exact .string _
  · exact .string _
  · exact .string _
  · apply fits_num
    have := publication.storageSchema.toNat_lt
    omega
  all_goals exact .string _

/-- Publications of one document say the same. -/
theorem publicationFields_eq {P : Platform}
    {publication publication' : OccupancyPublication}
    (h : publicationDocument P publication
      = publicationDocument P publication') :
    publicationIdentityFields publication
      = publicationIdentityFields publication' := by
  apply values_of_dump_eq P.toLibc
  · rfl
  · show [ascii "algorithm", ascii "occupancy_bundle_id",
      ascii "parent_publication_id", ascii "payload_bytes",
      ascii "payload_digest", ascii "publisher_key_id",
      ascii "publisher_sequence", ascii "publisher_service_id",
      ascii "storage_schema", ascii "stream_id", ascii "timeline_id",
      ascii "trust_bundle_id", ascii "valid_from_tick",
      ascii "valid_through_tick", ascii "workspace_frame_id"].Nodup
    decide
  · exact fits_publicationIdentityFields
  · exact fits_publicationIdentityFields
  · exact h

/-- A publication's place in the stream and the publication before it are
in its document. -/
theorem publicationTold_eq {P : Platform}
    {publication publication' : OccupancyPublication}
    (h : publicationDocument P publication
      = publicationDocument P publication') :
    publication.publisherSequence = publication'.publisherSequence
      ∧ publication.parentPublicationId = publication'.parentPublicationId := by
  have hfields := publicationFields_eq h
  simp only [publicationIdentityFields, List.cons.injEq, Prod.mk.injEq,
    true_and, and_true] at hfields
  obtain ⟨-, -, hparent, -, -, -, hsequence, -⟩ := hfields
  exact ⟨UInt64.toNat_inj.mp (uint_inj hsequence), Json.string.inj hparent⟩

theorem fits_recordIdentityFields {record : OccupancyPublicationHistoryRecord} :
    ∀ field ∈ recordIdentityFields record, Fits 64 field.2 := by
  intro field hfield
  simp only [recordIdentityFields, List.mem_cons, List.not_mem_nil, or_false]
    at hfield
  rcases hfield with rfl | rfl | rfl | rfl | rfl | rfl | rfl
  · exact .string _
  · exact .string _
  · exact .string _
  · exact .string _
  · exact .string _
  · exact .string _
  · apply fits_num
    have := record.storageSchema.toNat_lt
    omega

/-- **Records of one document are one.** -/
theorem record_eq {P : Platform}
    {record record' : OccupancyPublicationHistoryRecord}
    (hid : record.id = record'.id)
    (h : historyRecordDocument P record = historyRecordDocument P record') :
    record = record' := by
  have hfields : recordIdentityFields record = recordIdentityFields record' := by
    apply values_of_dump_eq P.toLibc
    · rfl
    · show [ascii "authentication_tag", ascii "parent_record_id",
        ascii "payload_bytes", ascii "payload_digest", ascii "publication_id",
        ascii "sequence", ascii "storage_schema"].Nodup
      decide
    · exact fits_recordIdentityFields
    · exact fits_recordIdentityFields
    · exact h
  simp only [recordIdentityFields, List.cons.injEq, Prod.mk.injEq, true_and,
    and_true, Json.string.injEq] at hfields
  obtain ⟨htag, hparent, hbytes, hdigest, hpublication, hsequence,
    hschema⟩ := hfields
  have hlt : ∀ n : UInt32, n.toNat < 2 ^ 53 := by
    intro n
    have := n.toNat_lt
    omega
  cases record
  cases record'
  simp only [OccupancyPublicationHistoryRecord.mk.injEq]
  exact ⟨UInt32.toNat_inj.mp (num_inj (hlt _) (hlt _) hschema),
    UInt64.toNat_inj.mp (uint_inj hsequence), hid, hparent, hpublication, htag,
    hdigest, UInt64.toNat_inj.mp (uint_inj hbytes)⟩

-- === entries

/-- What `valid` has checked of the entry at an index. -/
structure SoundEntry (P : Platform) (index : Nat) (entry : PublicationEntry) :
    Prop where
  recordId : entry.record.id = P.sha256 (historyRecordDocument P entry.record)
  publicationId : entry.publication.id
    = P.sha256 (publicationDocument P entry.publication)
  validId : validSha256 entry.publication.id = true
  sequence : entry.publication.publisherSequence.toNat = index + 1
  same : entry.record.publicationId = entry.publication.id

section
variable {P : Platform} {stream : PublicationStream}
  {trusted : Option OccupancyPublication → OccupancyPublication → Bool}

theorem SoundEntry.of_valid {index : Nat} {previous : Option PublicationEntry}
    {entry : PublicationEntry}
    (h : publicationEntryValid P stream trusted index previous entry = true) :
    SoundEntry P index entry := by
  unfold publicationEntryValid at h
  simp only [Bool.and_eq_true, decide_eq_true_eq] at h
  obtain ⟨⟨⟨⟨⟨⟨⟨⟨⟨⟨⟨⟨⟨⟨hrecord, hpublication⟩, -⟩, hsequence⟩, hsame⟩, -⟩, -⟩,
    -⟩, -⟩, -⟩, -⟩, -⟩, -⟩, -⟩, -⟩ := h
  simp only [OccupancyPublicationHistoryRecord.valid, Bool.and_eq_true,
    decide_eq_true_eq] at hrecord
  simp only [OccupancyPublication.valid, Bool.and_eq_true, decide_eq_true_eq]
    at hpublication
  exact ⟨hrecord.1.1.1.1.2, hpublication.1.1.1.1.1.1.1.1.1.1.1.1.2,
    hpublication.1.1.1.1.1.1.1.1.1.1.1.1.1.2, hsequence, hsame⟩

/-- The entries of a valid history. -/
theorem sound_entry {entries : List PublicationEntry} {index : Nat}
    {previous : Option PublicationEntry}
    (h : publicationsLinked P stream trusted index previous entries = true)
    {i : Nat} {entry : PublicationEntry} (hi : entries[i]? = some entry) :
    SoundEntry P (index + i) entry := by
  induction entries generalizing index previous i with
  | nil => cases hi
  | cons first rest ih =>
      rw [publicationsLinked, Bool.and_eq_true] at h
      cases i with
      | zero =>
          cases hi
          exact .of_valid h.1
      | succ i =>
          rw [List.getElem?_cons_succ] at hi
          have hentry := ih h.2 hi
          rwa [Nat.add_assoc, Nat.add_comm 1 i] at hentry

end

/-- The documents of the entries of a history. -/
def entryDocuments (P : Platform) (entries : List PublicationEntry) : Set Bytes :=
  {document | ∃ entry ∈ entries, document = publicationDocument P entry.publication
    ∨ document = historyRecordDocument P entry.record}

/-- Entries linked to one another, the last of which is the head. -/
structure PublicationChain (P : Platform) (entries : List PublicationEntry)
    (head : Bytes) : Prop where
  sound : ∀ {i : Nat} {entry : PublicationEntry}, entries[i]? = some entry →
    SoundEntry P i entry
  head : ∃ entry, entries.getLast? = some entry ∧ head = entry.publication.id

namespace PublicationChain

variable {P : Platform} {entries entries' : List PublicationEntry}
  {head head' : Bytes}

theorem of_linked {stream : PublicationStream}
    {trusted : Option OccupancyPublication → OccupancyPublication → Bool}
    (h : publicationsLinked P stream trusted 0 none entries = true)
    (hhead : (entries.getLast?.any fun entry =>
      decide (head = entry.publication.id)) = true) :
    PublicationChain P entries head := by
  refine ⟨fun {i entry} hi => ?_, ?_⟩
  · have hentry := sound_entry h hi
    rwa [Nat.zero_add] at hentry
  · cases hlast : entries.getLast? with
    | none =>
        rw [hlast] at hhead
        cases hhead
    | some entry =>
        rw [hlast] at hhead
        exact ⟨entry, rfl, of_decide_eq_true hhead⟩

theorem length_pos (h : PublicationChain P entries head) :
    0 < entries.length := by
  obtain ⟨entry, hlast, -⟩ := h.head
  exact List.length_pos_of_mem (List.mem_of_getLast? hlast)

theorem validHead (h : PublicationChain P entries head) :
    validSha256 head = true := by
  obtain ⟨entry, hlast, rfl⟩ := h.head
  rw [List.getLast?_eq_getElem?] at hlast
  exact (h.sound hlast).validId

variable (h : PublicationChain P entries head)
  (h' : PublicationChain P entries' head')
  (hdigest : Set.InjOn P.sha256
    (entryDocuments P entries ∪ entryDocuments P entries'))
include h h' hdigest

/-- Histories with one head are of one length. -/
theorem length_eq (hheads : head = head') :
    entries.length = entries'.length := by
  have hpos := h.length_pos
  have hpos' := h'.length_pos
  obtain ⟨entry, hlast, rfl⟩ := h.head
  obtain ⟨entry', hlast', rfl⟩ := h'.head
  have hmem := List.mem_of_getLast? hlast
  have hmem' := List.mem_of_getLast? hlast'
  rw [List.getLast?_eq_getElem?] at hlast hlast'
  have hsound := h.sound hlast
  have hsound' := h'.sound hlast'
  have hdocument : publicationDocument P entry.publication
      = publicationDocument P entry'.publication := by
    apply hdigest (.inl ⟨entry, hmem, .inl rfl⟩) (.inr ⟨entry', hmem', .inl rfl⟩)
    rw [← hsound.publicationId, ← hsound'.publicationId, hheads]
  have hsequence := congrArg UInt64.toNat (publicationTold_eq hdocument).1
  rw [hsound.sequence, hsound'.sequence] at hsequence
  omega

/-- Entries that pass for one have one record. -/
theorem sameEntry_iff : ∀ z ∈ entries, ∀ w ∈ entries',
    sameEntry z w = true ↔ z.record = w.record := by
  intro z hz w hw
  obtain ⟨i, hi, hzi⟩ := List.mem_iff_getElem.mp hz
  obtain ⟨j, hj, hwj⟩ := List.mem_iff_getElem.mp hw
  have hsound := h.sound ((List.getElem?_eq_getElem hi).trans
    (congrArg some hzi))
  have hsound' := h'.sound ((List.getElem?_eq_getElem hj).trans
    (congrArg some hwj))
  rw [sameEntry, Bool.and_eq_true, decide_eq_true_eq, decide_eq_true_eq]
  constructor
  · intro hsame
    apply record_eq hsame.1
    apply hdigest (.inl ⟨z, hz, .inr rfl⟩) (.inr ⟨w, hw, .inr rfl⟩)
    rw [← hsound.recordId, ← hsound'.recordId, hsame.1]
  · intro hrecord
    rw [← hsound.same, ← hsound'.same, hrecord]
    exact ⟨rfl, rfl⟩

/-- **The audit counts the longest common prefix of the records.** -/
theorem longestCommon : Lib.Prefix.LongestCommon (entries.map (·.record))
    (entries'.map (·.record)) (Lib.Prefix.commonCount sameEntry entries entries') :=
  Lib.Prefix.longest_of_same (h.sameEntry_iff h' hdigest)

omit hdigest in
/-- Histories with the same records have one head. -/
theorem head_eq (hrecords : entries.map (·.record) = entries'.map (·.record)) :
    head = head' := by
  obtain ⟨entry, hlast, rfl⟩ := h.head
  obtain ⟨entry', hlast', rfl⟩ := h'.head
  have hrecord := congrArg List.getLast? hrecords
  rw [List.getLast?_map, List.getLast?_map, hlast, hlast'] at hrecord
  have hrecord' : entry.record = entry'.record := Option.some.inj hrecord
  rw [List.getLast?_eq_getElem?] at hlast hlast'
  rw [← (h.sound hlast).same, ← (h'.sound hlast').same, hrecord']

omit hdigest in
/-- The last common publication is that of both. -/
theorem commonPublication_eq {n : Nat}
    (hcommon : Lib.Prefix.LongestCommon (entries.map (·.record))
      (entries'.map (·.record)) n) (hpos : 0 < n) :
    commonPublication entries n = commonPublication entries' n
      ∧ validSha256 (commonPublication entries n) = true := by
  have hlt : n - 1 < entries.length := by
    have := hcommon.le_left
    rw [List.length_map] at this
    omega
  have hlt' : n - 1 < entries'.length := by
    have := hcommon.le_right
    rw [List.length_map] at this
    omega
  have hget := List.getElem?_eq_getElem hlt
  have hget' := List.getElem?_eq_getElem hlt'
  have hrecord := congrArg (fun records => records[n - 1]?) hcommon.take_eq
  simp only [List.getElem?_take, if_pos (show n - 1 < n by omega),
    List.getElem?_map, hget, hget', Option.map_some, Option.some.injEq]
    at hrecord
  have hid : entries[n - 1].publication.id = entries'[n - 1].publication.id := by
    rw [← (h.sound hget).same, ← (h'.sound hget').same, hrecord]
  rw [commonPublication, commonPublication, hget, hget']
  exact ⟨hid, (h.sound hget).validId⟩

end PublicationChain

-- === trust

/-- The documents of a trust history. -/
def trustDocuments (P : Platform) (history : ServiceTrustHistory) : Set Bytes :=
  bundleDocuments P.toLibc history
    ∪ {document | ∃ record ∈ history.records,
      document ∈ rotationDocuments P record}

/-- The last entry of a trust history is its head. -/
theorem trust_head {P : Platform} {history : ServiceTrustHistory}
    (h : history.valid P = true) :
    ∃ bundle record, history.bundles.getLast? = some bundle
      ∧ history.records.getLast? = some record
      ∧ history.currentBundleId = bundle.id ∧ record.bundleId = bundle.id
      ∧ bundle.valid P = true ∧ 0 < history.records.length
      ∧ bundle.sequence.toNat = history.records.length := by
  obtain ⟨root, current, hhistory⟩ := validHistory_iff.mp h
  have hlast := hhistory.last
  have hpos : 0 < history.records.length := by
    rw [← hhistory.lengths]
    exact List.length_pos_of_mem (List.mem_of_getLast? hlast)
  obtain ⟨bundle, record, hbundle, hrecord, hentry⟩ := history_entry h
    (show history.records.length - 1 < history.records.length by omega)
  rw [List.getLast?_eq_getElem?, hhistory.lengths, hbundle] at hlast
  have hcurrent : bundle = current := Option.some.inj hlast
  subst hcurrent
  refine ⟨bundle, record, ?_, ?_, hhistory.currentId, hentry.bundleId,
    hentry.valid, hpos, ?_⟩
  · rw [List.getLast?_eq_getElem?, hhistory.lengths]
    exact hbundle
  · rw [List.getLast?_eq_getElem?]
    exact hrecord
  · rw [hentry.bundleSequence]
    omega

section
variable {P : Platform} {first second : ServiceTrustHistory}
  (h : first.valid P = true) (h' : second.valid P = true)
  (hdigest : Set.InjOn P.sha256
    (trustDocuments P first ∪ trustDocuments P second))
include h h'

/-- Trust histories with the same records have one head. -/
theorem trust_head_eq (hrecords : first.records = second.records) :
    first.currentBundleId = second.currentBundleId := by
  obtain ⟨bundle, record, -, hrecord, hid, hsame, -⟩ := trust_head h
  obtain ⟨bundle', record', -, hrecord', hid', hsame', -⟩ := trust_head h'
  rw [hrecords, hrecord'] at hrecord
  cases hrecord
  rw [hid, hid', ← hsame, ← hsame']

include hdigest

/-- Trust histories with one head are of one length. -/
theorem trust_length_eq (hheads : first.currentBundleId = second.currentBundleId) :
    first.records.length = second.records.length := by
  obtain ⟨bundle, -, hlast, -, hid, -, hvalid, -, hsequence⟩ := trust_head h
  obtain ⟨bundle', -, hlast', -, hid', -, hvalid', -, hsequence'⟩ :=
    trust_head h'
  have hdump : (bundleJson bundle).dump P.toLibc false 0
      = (bundleJson bundle').dump P.toLibc false 0 := by
    apply hdigest (.inl (.inl ⟨bundle, List.mem_of_getLast? hlast, rfl⟩))
      (.inr (.inl ⟨bundle', List.mem_of_getLast? hlast', rfl⟩))
    rw [(bundle_valid hvalid).2, (bundle_valid hvalid').2, ← hid, ← hid', hheads]
  rw [← hsequence, ← hsequence']
  exact sequence_of_dump_eq hdump

/-- **The audit counts the longest common prefix of the trust records.** -/
theorem trust_longestCommon : Lib.Prefix.LongestCommon first.records
    second.records
    (Lib.Prefix.commonCount sameRotation first.records second.records) := by
  have hsame : ∀ z ∈ first.records, ∀ w ∈ second.records,
      sameRotation z w = true ↔ id z = id w := by
    intro z hz w hw
    rw [sameRotation, Bool.and_eq_true, decide_eq_true_eq, decide_eq_true_eq]
    constructor
    · intro hids
      apply rotationRecord_eq (history_sound h z hz) (history_sound h' w hw) _
        hids.1
      apply hdigest.mono
      apply Set.union_subset_union
      · exact fun document hdocument => .inr ⟨z, hz, hdocument⟩
      · exact fun document hdocument => .inr ⟨w, hw, hdocument⟩
    · intro heq
      have heq' : z = w := heq
      rw [heq']
      exact ⟨rfl, rfl⟩
  have hcount := Lib.Prefix.longest_of_same hsame
  rwa [List.map_id, List.map_id] at hcount

omit h' hdigest in
/-- The last common bundle is that of both. -/
theorem commonBundle_eq {n : Nat}
    (hcommon : Lib.Prefix.LongestCommon first.records second.records n)
    (hpos : 0 < n) :
    commonBundle first.records n = commonBundle second.records n
      ∧ validSha256 (commonBundle first.records n) = true := by
  have hlt : n - 1 < first.records.length := by
    have := hcommon.le_left
    omega
  obtain ⟨bundle, record, -, hrecord, hentry⟩ := history_entry h hlt
  have hget := congrArg (fun records => records[n - 1]?) hcommon.take_eq
  simp only [List.getElem?_take, if_pos (show n - 1 < n by omega)] at hget
  rw [commonBundle, commonBundle, ← hget, hrecord]
  refine ⟨rfl, ?_⟩
  show validSha256 record.bundleId = true
  rw [hentry.bundleId]
  exact (bundle_valid hentry.valid).1

end

end RbfSafe
