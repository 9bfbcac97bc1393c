/-
When an audit of two rotating publication histories is exact.

The publications are audited as under a pinned bundle, and the bundles of
the trust histories with them. A report is refused where either chain forks
and ends where the other does: the id of a bundle does not cover who
authorized it, that of its record does. Apart from such silent forks every
audit is exact, of either kind (`audits_exact_iff`).
-/
import RbfSafe.Coordination.Proofs.Audit
import RbfSafe.Core.Proofs.Sha256

namespace RbfSafe

open Json
open Lib.Prefix (LongestCommon commonCount)

-- === rotating trust

/-- The records of a rotating history. -/
def RotatingOccupancyPublicationHistory.records
    (history : RotatingOccupancyPublicationHistory) :
    List OccupancyPublicationHistoryRecord :=
  history.entries.map (·.record)

/-- The records of its trust history. -/
def RotatingOccupancyPublicationHistory.trustRecords
    (history : RotatingOccupancyPublicationHistory) :
    List ServiceTrustRotationRecord :=
  history.trustHistory.elim [] (·.records)

/-- The documents of a rotating history. -/
def rotatingDocuments (P : Platform)
    (history : RotatingOccupancyPublicationHistory) : Set Bytes :=
  entryDocuments P history.entries
    ∪ {document | ∃ trust ∈ history.trustHistory,
      document ∈ trustDocuments P trust}

/-- Valid rotating histories of one stream under one trust root, whose
documents have different digests where they differ. -/
structure RotatingComparable (P : Platform)
    (first second : RotatingOccupancyPublicationHistory) : Prop where
  validFirst : first.valid P = true
  validSecond : second.valid P = true
  stream : first.stream = second.stream
  trustRootBundleId : first.trustRootBundleId = second.trustRootBundleId
  digests : Set.InjOn P.sha256
    (rotatingDocuments P first ∪ rotatingDocuments P second)

/-- The rotating report with the histories swapped. -/
def RotatingOccupancyPublicationHistoryAudit.swap (P : Platform)
    (audit : RotatingOccupancyPublicationHistoryAudit) :
    RotatingOccupancyPublicationHistoryAudit :=
  let swapped := { audit with
    id := []
    publicationRelation := audit.publicationRelation.swap
    trustRelation := audit.trustRelation.swap
    firstTrustHeadBundleId := audit.secondTrustHeadBundleId
    secondTrustHeadBundleId := audit.firstTrustHeadBundleId
    firstHeadPublicationId := audit.secondHeadPublicationId
    secondHeadPublicationId := audit.firstHeadPublicationId
    firstTrustBundleCount := audit.secondTrustBundleCount
    secondTrustBundleCount := audit.firstTrustBundleCount
    firstPublicationCount := audit.secondPublicationCount
    secondPublicationCount := audit.firstPublicationCount }
  { swapped with id := rotatingOccupancyPublicationHistoryAuditIdentity P swapped }

/-- A report that is right about two rotating histories. -/
structure RotatingExactReport (P : Platform)
    (first second : RotatingOccupancyPublicationHistory)
    (report : RotatingOccupancyPublicationHistoryAudit) : Prop where
  counts : report.firstPublicationCount = first.records.length
    ∧ report.secondPublicationCount = second.records.length
  trustCounts : report.firstTrustBundleCount = first.trustRecords.length
    ∧ report.secondTrustBundleCount = second.trustRecords.length
  heads : report.firstHeadPublicationId = first.currentPublicationId
    ∧ report.secondHeadPublicationId = second.currentPublicationId
  trustHeads : report.firstTrustHeadBundleId = first.currentTrustBundleId
    ∧ report.secondTrustHeadBundleId = second.currentTrustBundleId
  common : LongestCommon first.records second.records
    report.commonPublicationPrefixCount
  commonTrust : LongestCommon first.trustRecords second.trustRecords
    report.commonTrustPrefixCount
  relation : ∀ relation, report.publicationRelation = relation
    ↔ relation.Describes first.records second.records
  trustRelation : ∀ relation, report.trustRelation = relation
    ↔ relation.Describes first.trustRecords second.trustRecords
  swapped : auditRotatingOccupancyPublicationHistories P second first
    = .ok (report.swap P)

/-- Rotating histories that share their root records. -/
def SharedRoots (first second : RotatingOccupancyPublicationHistory) : Prop :=
  first.records.head? = second.records.head?
    ∧ first.trustRecords.head? = second.trustRecords.head?

/-- The audit is exact; histories that do not share their root records
are refused in both orders. -/
def RotatingAuditedExactly (P : Platform)
    (first second : RotatingOccupancyPublicationHistory) : Prop :=
  (∃ report, auditRotatingOccupancyPublicationHistories P first second
      = .ok report ∧ RotatingExactReport P first second report)
    ∨ (¬SharedRoots first second
      ∧ auditRotatingOccupancyPublicationHistories P first second
        = failure .identityMismatch
          "rotating occupancy publication histories claim roots they do not share"
      ∧ auditRotatingOccupancyPublicationHistories P second first
        = failure .identityMismatch
          "rotating occupancy publication histories claim roots they do not share")

/-- Rotating histories that share their root records, whose publications
or bundles fork and end in one. -/
def RotatingSilentFork (first second : RotatingOccupancyPublicationHistory) :
    Prop :=
  SharedRoots first second
    ∧ ((OccupancyPublicationHistoryRelation.forked.Describes first.records
          second.records
        ∧ first.currentPublicationId = second.currentPublicationId)
      ∨ (OccupancyPublicationHistoryRelation.forked.Describes
          first.trustRecords second.trustRecords
        ∧ first.currentTrustBundleId = second.currentTrustBundleId))

/-- What a valid rotating history holds. -/
structure Opened (P : Platform) (history : RotatingOccupancyPublicationHistory)
    (trust : ServiceTrustHistory) : Prop where
  trustHistory : history.trustHistory = some trust
  trustValid : trust.valid P = true
  trustHead : trust.currentBundleId = history.currentTrustBundleId
  chain : PublicationChain P history.entries history.currentPublicationId
  streamId : validIdentifier history.stream.streamId = true
  publisherServiceId : validIdentifier history.stream.publisherServiceId = true
  rootPublicationId : validSha256 history.stream.rootPublicationId = true
  trustRootBundleId : validSha256 history.trustRootBundleId = true
  currentTrustBundleId : validSha256 history.currentTrustBundleId = true

theorem opened_of_valid {P : Platform}
    {history : RotatingOccupancyPublicationHistory}
    (h : history.valid P = true) : ∃ trust, Opened P history trust := by
  unfold RotatingOccupancyPublicationHistory.valid validStream at h
  simp only [Bool.and_eq_true] at h
  obtain ⟨⟨⟨⟨⟨⟨⟨-, -⟩, ⟨⟨⟨⟨hstream, hservice⟩, hroot⟩, -⟩, -⟩, -⟩, hbundle⟩,
    hcurrent⟩, -⟩, htrust⟩, hhead⟩ := h
  cases hhistory : history.trustHistory with
  | none =>
      rw [hhistory] at htrust
      cases htrust
  | some trust =>
      rw [hhistory] at htrust
      simp only [Option.any_some, Bool.and_eq_true, decide_eq_true_eq] at htrust
      obtain ⟨⟨⟨hvalid, -⟩, hid⟩, hlinked⟩ := htrust
      exact ⟨trust, hhistory, hvalid, hid, .of_linked hlinked hhead, hstream,
        hservice, hroot, hbundle, hcurrent⟩

namespace RotatingComparable

variable {P : Platform} {first second : RotatingOccupancyPublicationHistory}
  {trust trust' : ServiceTrustHistory}

theorem symm (h : RotatingComparable P first second) :
    RotatingComparable P second first :=
  ⟨h.validSecond, h.validFirst, h.stream.symm, h.trustRootBundleId.symm, by
    rw [Set.union_comm]
    exact h.digests⟩

theorem entryDigests (h : RotatingComparable P first second) :
    Set.InjOn P.sha256
      (entryDocuments P first.entries ∪ entryDocuments P second.entries) :=
  h.digests.mono (Set.union_subset_union Set.subset_union_left
    Set.subset_union_left)

theorem trustDigests (h : RotatingComparable P first second)
    (ho : Opened P first trust) (ho' : Opened P second trust') :
    Set.InjOn P.sha256 (trustDocuments P trust ∪ trustDocuments P trust') := by
  apply h.digests.mono
  apply Set.union_subset_union
  · exact fun document hdocument => .inr ⟨trust, ho.trustHistory, hdocument⟩
  · exact fun document hdocument => .inr ⟨trust', ho'.trustHistory, hdocument⟩

theorem common (h : RotatingComparable P first second)
    (ho : Opened P first trust) (ho' : Opened P second trust') :
    LongestCommon first.records second.records
      (commonCount sameEntry first.entries second.entries) :=
  ho.chain.longestCommon ho'.chain h.entryDigests

theorem commonTrust (h : RotatingComparable P first second)
    (ho : Opened P first trust) (ho' : Opened P second trust') :
    LongestCommon trust.records trust'.records
      (commonCount sameRotation trust.records trust'.records) :=
  trust_longestCommon ho.trustValid ho'.trustValid (h.trustDigests ho ho')

/-- The audit of comparable histories. -/
theorem audit_eq (h : RotatingComparable P first second)
    (ho : Opened P first trust) (ho' : Opened P second trust') :
    auditRotatingOccupancyPublicationHistories P first second
      = if commonCount sameRotation trust.records trust'.records = 0
            ∨ commonCount sameEntry first.entries second.entries = 0 then
          failure .identityMismatch
            "rotating occupancy publication histories claim roots they do not share"
        else if (rotatingHistoryReport P first second trust trust'
            (commonCount sameRotation trust.records trust'.records)
            (commonCount sameEntry first.entries second.entries)).valid P
            = false then
          failure .internalError
            "rotating occupancy publication-history audit produced invalid output"
        else .ok (rotatingHistoryReport P first second trust trust'
          (commonCount sameRotation trust.records trust'.records)
          (commonCount sameEntry first.entries second.entries)) := by
  have hvalid : ¬(first.valid P = false ∨ second.valid P = false) := by
    rw [h.validFirst, h.validSecond]
    decide
  have hshared : ¬(first.stream.streamId ≠ second.stream.streamId
      ∨ first.stream.publisherServiceId ≠ second.stream.publisherServiceId
      ∨ first.trustRootBundleId ≠ second.trustRootBundleId
      ∨ first.stream.rootPublicationId ≠ second.stream.rootPublicationId
      ∨ first.stream.timelineId ≠ second.stream.timelineId
      ∨ first.stream.workspaceFrameId ≠ second.stream.workspaceFrameId) := by
    rw [h.stream, h.trustRootBundleId]
    simp
  unfold auditRotatingOccupancyPublicationHistories
  rw [ho.trustHistory, ho'.trustHistory]
  show (if _ then _ else if _ then _ else _) = _
  rw [if_neg hvalid, if_neg hshared]

/-- The report is valid unless it hides a fork. -/
theorem report_valid_iff (h : RotatingComparable P first second)
    (ho : Opened P first trust) (ho' : Opened P second trust')
    (htrust : 0 < commonCount sameRotation trust.records trust'.records)
    (hpos : 0 < commonCount sameEntry first.entries second.entries) :
    (rotatingHistoryReport P first second trust trust'
        (commonCount sameRotation trust.records trust'.records)
        (commonCount sameEntry first.entries second.entries)).valid P = true
      ↔ ¬((OccupancyPublicationHistoryRelation.forked.Describes first.records
            second.records
          ∧ first.currentPublicationId = second.currentPublicationId)
        ∨ (OccupancyPublicationHistoryRelation.forked.Describes trust.records
            trust'.records
          ∧ first.currentTrustBundleId = second.currentTrustBundleId)) := by
  have hcommon := h.common ho ho'
  have hcommonTrust := h.commonTrust ho ho'
  have hlength : first.records.length = first.entries.length := List.length_map _
  have hlength' : second.records.length = second.entries.length :=
    List.length_map _
  have hrelation := validRelation_iff hpos (hlength ▸ hcommon.le_left)
    (hlength' ▸ hcommon.le_right)
    (ho.chain.length_eq ho'.chain h.entryDigests) fun hn hm =>
      ho.chain.head_eq ho'.chain (hcommon.eq_iff.mpr
        ⟨hn.trans hlength.symm, hm.trans hlength'.symm⟩)
  have htrustRelation := validRelation_iff htrust hcommonTrust.le_left
    hcommonTrust.le_right
    (trust_length_eq ho.trustValid ho'.trustValid (h.trustDigests ho ho'))
    fun hn hm => trust_head_eq ho.trustValid ho'.trustValid
      (hcommonTrust.eq_iff.mpr ⟨hn, hm⟩)
  rw [ho.trustHead, ho'.trustHead] at htrustRelation
  rw [not_or, ← describes_iff hcommon .forked,
    ← describes_iff hcommonTrust .forked, hlength, hlength', ← hrelation,
    ← htrustRelation]
  unfold RotatingOccupancyPublicationHistoryAudit.valid
  simp only [rotatingHistoryReport, P.validSha256_digest, ho.streamId,
    ho.publisherServiceId, ho.rootPublicationId, ho.trustRootBundleId,
    ho.currentTrustBundleId, ho'.currentTrustBundleId, ho.chain.validHead,
    ho'.chain.validHead, (ho.chain.commonPublication_eq ho'.chain hcommon hpos).2,
    (commonBundle_eq ho.trustValid hcommonTrust htrust).2, decide_true,
    Bool.true_and, rotatingOccupancyPublicationHistoryAuditIdentity,
    Bool.and_eq_true]
  exact and_comm

/-- Swapping the histories swaps the report. -/
theorem report_swap (h : RotatingComparable P first second)
    (ho : Opened P first trust) (ho' : Opened P second trust')
    (htrust : 0 < commonCount sameRotation trust.records trust'.records)
    (hpos : 0 < commonCount sameEntry first.entries second.entries) :
    rotatingHistoryReport P second first trust' trust
        (commonCount sameRotation trust.records trust'.records)
        (commonCount sameEntry first.entries second.entries)
      = (rotatingHistoryReport P first second trust trust'
        (commonCount sameRotation trust.records trust'.records)
        (commonCount sameEntry first.entries second.entries)).swap P := by
  have hpublication := (ho.chain.commonPublication_eq ho'.chain
    (h.common ho ho') hpos).1
  have hbundle := (commonBundle_eq ho.trustValid (h.commonTrust ho ho')
    htrust).1
  unfold rotatingHistoryReport RotatingOccupancyPublicationHistoryAudit.swap
  simp only [h.stream, h.trustRootBundleId, hpublication, hbundle,
    relationFor_swap first.entries.length second.entries.length,
    relationFor_swap trust.records.length trust'.records.length]

/-- **A rotating audit is exact unless the histories fork silently.** -/
theorem audited_iff (h : RotatingComparable P first second) :
    RotatingAuditedExactly P first second ↔ ¬RotatingSilentFork first second := by
  obtain ⟨trust, ho⟩ := opened_of_valid h.validFirst
  obtain ⟨trust', ho'⟩ := opened_of_valid h.validSecond
  have hcommon := h.common ho ho'
  have hcommonTrust := h.commonTrust ho ho'
  have hswap : commonCount sameEntry second.entries first.entries
      = commonCount sameEntry first.entries second.entries :=
    (h.symm.common ho' ho).unique hcommon.symm
  have hswapTrust : commonCount sameRotation trust'.records trust.records
      = commonCount sameRotation trust.records trust'.records :=
    (h.symm.commonTrust ho' ho).unique hcommonTrust.symm
  have hrecords : first.trustRecords = trust.records := by
    rw [RotatingOccupancyPublicationHistory.trustRecords, ho.trustHistory]
    rfl
  have hrecords' : second.trustRecords = trust'.records := by
    rw [RotatingOccupancyPublicationHistory.trustRecords, ho'.trustHistory]
    rfl
  have hlength : first.records.length = first.entries.length := List.length_map _
  have hlength' : second.records.length = second.entries.length :=
    List.length_map _
  have hroot := common_pos_iff hcommon (hlength ▸ ho.chain.length_pos)
  have hrootTrust : 0 < commonCount sameRotation trust.records trust'.records
      ↔ trust.records.head? = trust'.records.head? := by
    obtain ⟨-, -, -, -, -, -, -, hpos, -⟩ := trust_head ho.trustValid
    exact common_pos_iff hcommonTrust hpos
  have haudit := h.audit_eq ho ho'
  have haudit' := h.symm.audit_eq ho' ho
  rw [hswap, hswapTrust] at haudit'
  have hshared : SharedRoots first second
      ↔ 0 < commonCount sameRotation trust.records trust'.records
        ∧ 0 < commonCount sameEntry first.entries second.entries := by
    rw [SharedRoots, hrecords, hrecords', hroot, hrootTrust, and_comm]
  by_cases hpos : 0 < commonCount sameRotation trust.records trust'.records
      ∧ 0 < commonCount sameEntry first.entries second.entries
  · have hnonzero : ¬(commonCount sameRotation trust.records trust'.records = 0
        ∨ commonCount sameEntry first.entries second.entries = 0) := by
      omega
    have hvalid := h.report_valid_iff ho ho' hpos.1 hpos.2
    have hvalid' := h.symm.report_valid_iff ho' ho (hswapTrust.symm ▸ hpos.1)
      (hswap.symm ▸ hpos.2)
    rw [hswap, hswapTrust] at hvalid'
    have hsilent : RotatingSilentFork first second
        ↔ (OccupancyPublicationHistoryRelation.forked.Describes first.records
            second.records
          ∧ first.currentPublicationId = second.currentPublicationId)
        ∨ (OccupancyPublicationHistoryRelation.forked.Describes trust.records
            trust'.records
          ∧ first.currentTrustBundleId = second.currentTrustBundleId) := by
      rw [RotatingSilentFork, hrecords, hrecords']
      exact ⟨fun hfork => hfork.2, fun hfork => ⟨hshared.mpr hpos, hfork⟩⟩
    rw [hsilent, ← hvalid]
    rw [if_neg hnonzero] at haudit haudit'
    constructor
    · intro hexact
      rcases hexact with ⟨report, hreport, -⟩ | ⟨hroots, -⟩
      · rw [haudit, ite_failure_eq_ok, Bool.not_eq_false] at hreport
        exact hreport.1
      · exact absurd (hshared.mpr hpos) hroots
    · intro hok
      have hok' : (rotatingHistoryReport P second first trust' trust
          (commonCount sameRotation trust.records trust'.records)
          (commonCount sameEntry first.entries second.entries)).valid P
          = true := by
        rw [hvalid']
        rw [hvalid] at hok
        intro hfork
        apply hok
        rcases hfork with hfork | hfork
        · exact .inl ⟨⟨hfork.1.2, hfork.1.1⟩, hfork.2.symm⟩
        · exact .inr ⟨⟨hfork.1.2, hfork.1.1⟩, hfork.2.symm⟩
      rw [if_neg (by rw [hok]; exact Bool.noConfusion)] at haudit
      rw [if_neg (by rw [hok']; exact Bool.noConfusion),
        h.report_swap ho ho' hpos.1 hpos.2] at haudit'
      refine .inl ⟨_, haudit, ⟨hlength.symm, hlength'.symm⟩, ?_, ⟨rfl, rfl⟩,
        ⟨rfl, rfl⟩, hcommon, ?_, fun relation => ?_, fun relation => ?_, haudit'⟩
      · rw [hrecords, hrecords']
        exact ⟨rfl, rfl⟩
      · rw [hrecords, hrecords']
        exact hcommonTrust
      · rw [← describes_iff hcommon relation, hlength, hlength']
        rfl
      · rw [hrecords, hrecords', ← describes_iff hcommonTrust relation]
        rfl
  · have hzero : commonCount sameRotation trust.records trust'.records = 0
        ∨ commonCount sameEntry first.entries second.entries = 0 := by
      omega
    have hroots : ¬SharedRoots first second := mt hshared.mp hpos
    rw [if_pos hzero] at haudit haudit'
    exact ⟨fun _ hfork => hroots hfork.1, fun _ => .inr ⟨hroots, haudit, haudit'⟩⟩

end RotatingComparable

-- === audits

/-- **Audits are exact unless the histories fork silently**, those of the
pinned bundle and the rotating ones. -/
theorem audits_exact_iff (P : Platform) :
    (∀ first second, Comparable P first second →
      (AuditedExactly P first second ↔ ¬SilentFork first second))
    ∧ ∀ first second, RotatingComparable P first second →
      (RotatingAuditedExactly P first second
        ↔ ¬RotatingSilentFork first second) :=
  ⟨fun _ _ h => h.audited_iff, fun _ _ h => h.audited_iff⟩

-- === samples

section
variable (P : Platform)

/-- A publication of a stream, signed in one way or another. -/
def samplePublication (sequence : UInt64) (parentId : Bytes) (tag : UInt8) :
    OccupancyPublication :=
  let publication : OccupancyPublication :=
    { id := []
      streamId := ascii "s"
      publisherSequence := sequence
      parentPublicationId := parentId
      publisherServiceId := ascii "p"
      publisherKeyId := List.replicate 64 97
      trustBundleId := (sampleBundle P).id
      occupancyBundleId := List.replicate 64 98
      timelineId := ascii "t"
      workspaceFrameId := ascii "w"
      payloadDigest := List.replicate 64 99
      payloadBytes := 1
      authenticationTag := List.replicate 128 tag }
  { publication with id := occupancyPublicationIdentity P publication }

/-- The entry of a publication. -/
def samplePublicationEntry (publication : OccupancyPublication)
    (parentId : Bytes) : PublicationEntry :=
  let record : OccupancyPublicationHistoryRecord :=
    { sequence := publication.publisherSequence
      id := []
      parentRecordId := parentId
      publicationId := publication.id
      authenticationTag := publication.authenticationTag
      payloadDigest := publication.payloadDigest
      payloadBytes := publication.payloadBytes }
  { record :=
      { record with id := occupancyPublicationHistoryRecordIdentity P record }
    publication := publication
    payloadPath := ascii "a" }

def sampleRootPublication : OccupancyPublication := samplePublication P 1 [] 97

def sampleRootEntry : PublicationEntry :=
  samplePublicationEntry P (sampleRootPublication P) []

/-- The second entry of the stream. -/
def sampleNextEntry (tag : UInt8) : PublicationEntry :=
  samplePublicationEntry P
    (samplePublication P 2 (sampleRootPublication P).id tag)
    (sampleRootEntry P).record.id

def sampleStream : PublicationStream where
  streamId := ascii "s"
  publisherServiceId := ascii "p"
  rootPublicationId := (sampleRootPublication P).id
  timelineId := ascii "t"
  workspaceFrameId := ascii "w"

/-- The history of the root publication under its pinned bundle. -/
def sampleRootHistory : OccupancyPublicationHistory where
  directory := ascii "h"
  stream := sampleStream P
  trustBundleId := (sampleBundle P).id
  currentPublicationId := (sampleRootPublication P).id
  trustBundle := some (sampleBundle P)
  entries := [sampleRootEntry P]

/-- The history after the second publication, signed in one way or
another. -/
def sampleNextHistory (tag : UInt8) : OccupancyPublicationHistory :=
  { sampleRootHistory P with
    currentPublicationId := (sampleNextEntry P tag).publication.id
    entries := [sampleRootEntry P, sampleNextEntry P tag] }

/-- The rotating history of the root publication. -/
def sampleRotatingHistory : RotatingOccupancyPublicationHistory where
  directory := ascii "h"
  stream := sampleStream P
  trustRootBundleId := (sampleBundle P).id
  currentTrustBundleId := (sampleBundle P).id
  currentPublicationId := (sampleRootPublication P).id
  trustHistory := some (sampleHistory P)
  entries := [sampleRootEntry P]

/-- The documents of the sample histories. -/
def auditDocuments : List Bytes :=
  [publicationDocument P (sampleRootEntry P).publication,
    historyRecordDocument P (sampleRootEntry P).record,
    publicationDocument P (sampleNextEntry P 97).publication,
    historyRecordDocument P (sampleNextEntry P 97).record,
    historyRecordDocument P (sampleNextEntry P 98).record,
    (bundleJson (sampleBundle P)).dump P.toLibc false 0,
    (rotationRecordJson (sampleRootRecord P)).dump P.toLibc false 0]

variable {P}

theorem validSignature_replicate {tag : UInt8} (h : isLowerHex tag = true) :
    validSignature (List.replicate 128 tag) = true := by
  simp [validSignature, validLowerHex, kEd25519SignatureBytes, h]

theorem validIdentifier_stream : validIdentifier (ascii "s") = true
    ∧ validIdentifier (ascii "p") = true ∧ validIdentifier (ascii "t") = true
    ∧ validIdentifier (ascii "w") = true := by
  decide

theorem valid_samplePublication {sequence : UInt64} {parentId : Bytes}
    {tag : UInt8} (hsequence : 0 < sequence)
    (hparent : validParent sequence parentId = true)
    (htag : isLowerHex tag = true) :
    (samplePublication P sequence parentId tag).valid P = true := by
  obtain ⟨hs, hp, ht, hw⟩ := validIdentifier_stream
  have hdigest : ∀ c : UInt8, isLowerHex c = true →
      validSha256 (List.replicate 64 c) = true := by
    intro c hc
    simp [validSha256, hc]
  simp only [OccupancyPublication.valid, Bool.and_eq_true, decide_eq_true_eq]
  exact ⟨⟨⟨⟨⟨⟨⟨⟨⟨⟨⟨⟨⟨⟨⟨⟨rfl, hsequence⟩, hparent⟩, P.validSha256_digest _⟩, rfl⟩,
    hs⟩, hp⟩, hdigest 97 (by decide)⟩, P.validSha256_digest _⟩,
    hdigest 98 (by decide)⟩, ht⟩, hw⟩, UInt64.le_refl _⟩, hdigest 99 (by decide)⟩,
    show (0 : UInt64) < 1 from by decide⟩, rfl⟩, validSignature_replicate htag⟩

theorem valid_sampleRecord {publication : OccupancyPublication}
    {parentId : Bytes} (h : publication.valid P = true)
    (hparent : validParent publication.publisherSequence parentId = true) :
    (samplePublicationEntry P publication parentId).record.valid P = true := by
  simp only [OccupancyPublication.valid, Bool.and_eq_true, decide_eq_true_eq]
    at h
  obtain ⟨⟨⟨⟨⟨⟨⟨⟨⟨⟨⟨⟨⟨⟨⟨⟨-, hsequence⟩, -⟩, hid⟩, -⟩, -⟩, -⟩, -⟩, -⟩, -⟩, -⟩, -⟩,
    -⟩, hdigest⟩, hbytes⟩, -⟩, htag⟩ := h
  simp only [OccupancyPublicationHistoryRecord.valid, Bool.and_eq_true,
    decide_eq_true_eq]
  exact ⟨⟨⟨⟨⟨⟨⟨⟨rfl, hsequence⟩, hparent⟩, P.validSha256_digest _⟩, rfl⟩, hid⟩,
    htag⟩, hdigest⟩, hbytes⟩

/-- A publication and the stream it belongs to. -/
structure OfStream (stream : PublicationStream)
    (publication : OccupancyPublication) : Prop where
  streamId : publication.streamId = stream.streamId
  publisherServiceId : publication.publisherServiceId = stream.publisherServiceId
  timelineId : publication.timelineId = stream.timelineId
  workspaceFrameId : publication.workspaceFrameId = stream.workspaceFrameId

section
variable {stream : PublicationStream}
  {trusted : Option OccupancyPublication → OccupancyPublication → Bool}
  {publication successor : OccupancyPublication}

/-- The entry of a root publication passes the loop. -/
theorem linked_rootEntry (h : publication.valid P = true)
    (hsequence : publication.publisherSequence = 1)
    (hparent : publication.parentPublicationId = [])
    (hstream : OfStream stream publication)
    (hroot : publication.id = stream.rootPublicationId)
    (htrusted : trusted none publication = true) :
    publicationEntryValid P stream trusted 0 none
      (samplePublicationEntry P publication []) = true := by
  have hrecord : (samplePublicationEntry P publication []).record.valid P = true :=
    valid_sampleRecord h (by rw [hsequence]; rfl)
  unfold publicationEntryValid
  rw [hrecord]
  simp [samplePublicationEntry, h, htrusted, hsequence, hparent, hroot,
    hstream.streamId, hstream.publisherServiceId, hstream.timelineId,
    hstream.workspaceFrameId]
  decide

/-- So does the entry of its successor. -/
theorem linked_nextEntry {parentRecordId : Bytes} {index : Nat}
    (h : publication.valid P = true) (h' : successor.valid P = true)
    (hindex : publication.publisherSequence.toNat = index + 1)
    (hsequence : successor.publisherSequence = publication.publisherSequence + 1)
    (hbound : publication.publisherSequence.toNat < 2 ^ 64 - 1)
    (hparent : successor.parentPublicationId = publication.id)
    (hstream : OfStream stream publication) (hstream' : OfStream stream successor)
    (htrusted : trusted (some publication) successor = true) :
    publicationEntryValid P stream trusted (index + 1)
      (some (samplePublicationEntry P publication parentRecordId))
      (samplePublicationEntry P successor
        (samplePublicationEntry P publication parentRecordId).record.id) = true := by
  have hnat : successor.publisherSequence.toNat = index + 2 := by
    rw [hsequence, UInt64.toNat_add, hindex]
    rw [hindex] at hbound
    show (index + 1 + 1) % 2 ^ 64 = index + 2
    omega
  have hnotFirst : successor.publisherSequence ≠ 1 := by
    intro hone
    rw [hone] at hnat
    have htwo : (1 : UInt64).toNat = 1 := rfl
    omega
  have hrecord : (samplePublicationEntry P successor
      (samplePublicationEntry P publication parentRecordId).record.id).record.valid P
      = true := by
    apply valid_sampleRecord h'
    rw [validParent, if_neg hnotFirst]
    exact P.validSha256_digest _
  have hsuccessor : verifyOccupancyPublicationSuccessor P publication successor
      = .ok () := by
    rw [verifyOccupancyPublicationSuccessor, if_neg, if_neg]
    · simp only [not_or, not_not]
      exact ⟨by omega, hsequence, hparent,
        hstream'.streamId.trans hstream.streamId.symm,
        hstream'.publisherServiceId.trans hstream.publisherServiceId.symm,
        hstream'.timelineId.trans hstream.timelineId.symm,
        hstream'.workspaceFrameId.trans hstream.workspaceFrameId.symm⟩
    · rw [h, h']
      decide
  unfold publicationEntryValid
  rw [hrecord]
  simp [samplePublicationEntry, h', htrusted, hnat, hsuccessor, hstream'.streamId,
    hstream'.publisherServiceId, hstream'.timelineId, hstream'.workspaceFrameId]
  exact ⟨by decide, rfl⟩

end

theorem ofStream_samplePublication {sequence : UInt64} {parentId : Bytes}
    {tag : UInt8} :
    OfStream (sampleStream P) (samplePublication P sequence parentId tag) :=
  ⟨rfl, rfl, rfl, rfl⟩

/-- The root entry passes the loop. -/
theorem linked_sampleRoot
    {trusted : Option OccupancyPublication → OccupancyPublication → Bool}
    (htrusted : trusted none (sampleRootPublication P) = true) :
    publicationEntryValid P (sampleStream P) trusted 0 none (sampleRootEntry P)
      = true :=
  linked_rootEntry (valid_samplePublication (by decide) (by decide) (by decide)) rfl
    rfl ofStream_samplePublication rfl htrusted

/-- So does the second, whichever way it is signed. -/
theorem linked_sampleNext
    {trusted : Option OccupancyPublication → OccupancyPublication → Bool}
    {tag : UInt8} (htag : isLowerHex tag = true)
    (htrusted : trusted (some (sampleRootPublication P))
      (sampleNextEntry P tag).publication = true) :
    publicationEntryValid P (sampleStream P) trusted 1
      (some (sampleRootEntry P)) (sampleNextEntry P tag) = true :=
  linked_nextEntry (valid_samplePublication (by decide) (by decide) (by decide))
    (valid_samplePublication (by decide) (P.validSha256_digest _) htag) rfl rfl
    (show (1 : UInt64).toNat < 2 ^ 64 - 1 from by decide) rfl
    ofStream_samplePublication ofStream_samplePublication htrusted

theorem validStream_sample {head : Bytes} (h : validSha256 head = true) :
    validStream (sampleStream P) head = true := by
  obtain ⟨hs, hp, ht, hw⟩ := validIdentifier_stream
  unfold validStream
  simp only [Bool.and_eq_true]
  exact ⟨⟨⟨⟨⟨hs, hp⟩, P.validSha256_digest _⟩, h⟩, ht⟩, hw⟩

theorem valid_sampleRootHistory : (sampleRootHistory P).valid P = true := by
  have hbundle : ((sampleBundle P).valid P
      && decide ((sampleBundle P).id = (sampleBundle P).id)) = true := by
    rw [valid_sampleBundle, decide_eq_true rfl]
    rfl
  have hlinked : publicationsLinked P (sampleStream P)
      (pinnedBundle (sampleBundle P).id) 0 none [sampleRootEntry P] = true := by
    rw [publicationsLinked, linked_sampleRoot (decide_eq_true rfl)]
    rfl
  simp only [OccupancyPublicationHistory.valid, Bool.and_eq_true,
    decide_eq_true_eq]
  exact ⟨⟨⟨⟨⟨⟨⟨rfl, rfl⟩, validStream_sample (P.validSha256_digest _)⟩,
    P.validSha256_digest _⟩, hbundle⟩,
    show validLoadOptions {} = true from by decide⟩, hlinked⟩,
    decide_eq_true rfl⟩

theorem valid_sampleNextHistory {tag : UInt8} (htag : isLowerHex tag = true) :
    (sampleNextHistory P tag).valid P = true := by
  have hbundle : ((sampleBundle P).valid P
      && decide ((sampleBundle P).id = (sampleBundle P).id)) = true := by
    rw [valid_sampleBundle, decide_eq_true rfl]
    rfl
  have hlinked : publicationsLinked P (sampleStream P)
      (pinnedBundle (sampleBundle P).id) 0 none
      [sampleRootEntry P, sampleNextEntry P tag] = true := by
    rw [publicationsLinked, linked_sampleRoot (decide_eq_true rfl),
      publicationsLinked, linked_sampleNext htag (decide_eq_true rfl)]
    rfl
  simp only [OccupancyPublicationHistory.valid, Bool.and_eq_true,
    decide_eq_true_eq]
  exact ⟨⟨⟨⟨⟨⟨⟨rfl, rfl⟩, validStream_sample (P.validSha256_digest _)⟩,
    P.validSha256_digest _⟩, hbundle⟩,
    show validLoadOptions {} = true from by decide⟩, hlinked⟩,
    decide_eq_true rfl⟩

theorem valid_sampleRotatingHistory :
    (sampleRotatingHistory P).valid P = true := by
  have hposition : trustBundlePosition (sampleHistory P) (sampleBundle P).id
      = some 0 := by
    show (if ((sampleBundle P).id == (sampleBundle P).id) = true then some 0
      else _) = some 0
    rw [beq_self_eq_true]
    rfl
  have htrusted : rotatedBundle (sampleHistory P) none (sampleRootPublication P)
      = true := by
    unfold rotatedBundle
    show ((trustBundlePosition (sampleHistory P) (sampleBundle P).id).any _)
      = true
    rw [hposition]
    rfl
  have hlinked : publicationsLinked P (sampleStream P)
      (rotatedBundle (sampleHistory P)) 0 none [sampleRootEntry P] = true := by
    rw [publicationsLinked, linked_sampleRoot htrusted]
    rfl
  have htrust : ((sampleHistory P).valid P
      && decide ((sampleHistory P).rootBundleId = (sampleBundle P).id)
      && decide ((sampleHistory P).currentBundleId = (sampleBundle P).id)
      && publicationsLinked P (sampleStream P) (rotatedBundle (sampleHistory P))
        0 none [sampleRootEntry P]) = true := by
    have hroot : (sampleHistory P).rootBundleId = (sampleBundle P).id := rfl
    have hhead : (sampleHistory P).currentBundleId = (sampleBundle P).id := rfl
    rw [valid_sampleHistory, hlinked, decide_eq_true hroot,
      decide_eq_true hhead]
    rfl
  simp only [RotatingOccupancyPublicationHistory.valid, Bool.and_eq_true,
    decide_eq_true_eq]
  exact ⟨⟨⟨⟨⟨⟨⟨rfl, rfl⟩, validStream_sample (P.validSha256_digest _)⟩,
    P.validSha256_digest _⟩, P.validSha256_digest _⟩,
    show validRotatingLoadOptions {} = true from by decide⟩, htrust⟩,
    decide_eq_true rfl⟩

theorem entryDocuments_subset {entries : List PublicationEntry} {S : Set Bytes}
    (h : ∀ entry ∈ entries, publicationDocument P entry.publication ∈ S
      ∧ historyRecordDocument P entry.record ∈ S) :
    entryDocuments P entries ⊆ S := by
  intro document hdocument
  obtain ⟨entry, hentry, hdocument | hdocument⟩ := hdocument
  · rw [hdocument]
    exact (h entry hentry).1
  · rw [hdocument]
    exact (h entry hentry).2

theorem mem_auditDocuments {document : Bytes} (i : Nat)
    (h : (auditDocuments P)[i]? = some document) :
    document ∈ {d | d ∈ auditDocuments P} :=
  List.mem_of_getElem? h

theorem entryDocuments_root :
    entryDocuments P [sampleRootEntry P] ⊆ {d | d ∈ auditDocuments P} := by
  apply entryDocuments_subset
  intro entry hentry
  rw [List.mem_singleton.mp hentry]
  exact ⟨mem_auditDocuments 0 rfl, mem_auditDocuments 1 rfl⟩

theorem entryDocuments_next (tag : UInt8) (i : Nat)
    (h : (auditDocuments P)[i]?
      = some (historyRecordDocument P (sampleNextEntry P tag).record)) :
    entryDocuments P [sampleRootEntry P, sampleNextEntry P tag]
      ⊆ {d | d ∈ auditDocuments P} := by
  apply entryDocuments_subset
  intro entry hentry
  rcases List.mem_cons.mp hentry with hroot | hnext
  · rw [hroot]
    exact ⟨mem_auditDocuments 0 rfl, mem_auditDocuments 1 rfl⟩
  · rw [List.mem_singleton.mp hnext]
    -- the signature is not part of what a publication's id digests
    exact ⟨mem_auditDocuments 2 rfl, mem_auditDocuments i h⟩

theorem entryDocuments_nexts :
    entryDocuments P [sampleRootEntry P, sampleNextEntry P 97]
        ⊆ {d | d ∈ auditDocuments P}
      ∧ entryDocuments P [sampleRootEntry P, sampleNextEntry P 98]
        ⊆ {d | d ∈ auditDocuments P} :=
  ⟨entryDocuments_next 97 3 rfl, entryDocuments_next 98 4 rfl⟩

theorem rotatingDocuments_sample :
    rotatingDocuments P (sampleRotatingHistory P)
      ⊆ {d | d ∈ auditDocuments P} := by
  apply Set.union_subset entryDocuments_root
  rintro document ⟨trust, htrust, hdocument⟩
  cases htrust
  rcases hdocument with ⟨bundle, hbundle, hdocument⟩ | ⟨record, hrecord, hdocument⟩
  · rw [hdocument, List.mem_singleton.mp hbundle]
    exact mem_auditDocuments 5 rfl
  · rw [List.mem_singleton.mp hrecord] at hdocument
    rcases hdocument with hdocument | ⟨_, h, -⟩ | ⟨_, h, -⟩
    · rw [hdocument]
      exact mem_auditDocuments 6 rfl
    · cases h
    · cases h

/-- The sample histories are comparable where the digests of their documents
differ. -/
theorem comparable_samples
    (h : Set.InjOn P.sha256 {d | d ∈ auditDocuments P}) :
    Comparable P (sampleRootHistory P) (sampleNextHistory P 97)
      ∧ Comparable P (sampleNextHistory P 97) (sampleNextHistory P 98)
      ∧ RotatingComparable P (sampleRotatingHistory P)
        (sampleRotatingHistory P) := by
  obtain ⟨hleft, hright⟩ := entryDocuments_nexts (P := P)
  have hroot := entryDocuments_root (P := P)
  have hrotating := rotatingDocuments_sample (P := P)
  have hleftValid : (sampleNextHistory P 97).valid P = true :=
    valid_sampleNextHistory (by decide)
  have hrightValid : (sampleNextHistory P 98).valid P = true :=
    valid_sampleNextHistory (by decide)
  exact ⟨⟨valid_sampleRootHistory, hleftValid, rfl, rfl,
      h.mono (Set.union_subset hroot hleft)⟩,
    ⟨hleftValid, hrightValid, rfl, rfl, h.mono (Set.union_subset hleft hright)⟩,
    ⟨valid_sampleRotatingHistory, valid_sampleRotatingHistory, rfl, rfl,
      h.mono (Set.union_subset hrotating hrotating)⟩⟩

/-- Two signatures of the second publication fork the histories. -/
theorem forked_samples :
    OccupancyPublicationHistoryRelation.forked.Describes
      (sampleNextHistory P 97).records (sampleNextHistory P 98).records := by
  have hrecords : (sampleNextEntry P 97).record ≠ (sampleNextEntry P 98).record := by
    intro h
    have htag : List.replicate 128 (97 : UInt8) = List.replicate 128 98 :=
      congrArg OccupancyPublicationHistoryRecord.authenticationTag h
    exact absurd htag (by decide)
  constructor
  · intro h
    exact hrecords (List.cons_prefix_cons.mp (List.cons_prefix_cons.mp h).2).1
  · intro h
    exact hrecords.symm
      (List.cons_prefix_cons.mp (List.cons_prefix_cons.mp h).2).1

theorem audit_samples
    (h : Comparable P (sampleNextHistory P 97) (sampleNextHistory P 98)) :
    auditOccupancyPublicationHistories P (sampleNextHistory P 97)
        (sampleNextHistory P 98)
      = failure .internalError
        "occupancy publication-history audit produced invalid output" := by
  have hpos : 0 < commonCount sameEntry (sampleNextHistory P 97).entries
      (sampleNextHistory P 98).entries :=
    (common_pos_iff h.common (Nat.succ_pos _)).mpr rfl
  have hinvalid : (publicationHistoryReport P (sampleNextHistory P 97)
      (sampleNextHistory P 98)
      (commonCount sameEntry (sampleNextHistory P 97).entries
        (sampleNextHistory P 98).entries)).valid P = false := by
    rw [← Bool.not_eq_true, h.report_valid_iff hpos, not_not]
    exact ⟨forked_samples, rfl⟩
  rw [h.audit_eq, if_neg hpos.ne', if_pos hinvalid]

end

set_option maxRecDepth 40000 in
theorem auditDocuments_digests :
    (auditDocuments (host fun _ _ _ => true)).map (host fun _ _ _ => true).sha256
      = [ascii "bfd4d15b7e3ef8692f7763490c63b5fed868c19c58679b03dd5a5855d6450351",
        ascii "787f7dd4b9cb33ff83bb06d65ff89e1dc34e6651c462bb4379bc7d9dbc6a7ddc",
        ascii "0afd1923e10e09b17014e25a6b76489c8a8aece0e73bafb63001c01b16b14588",
        ascii "cc1970f36083c244117e1a5a9e03dde84de1b57490ed2e18c1047717d937616a",
        ascii "11a0348e06b00382078962d80f5c2f5dbcc59a7a848a6d2394d7af4eda9b4c00",
        ascii "804f343141a67aed2132f4a0c75f6aaf0e2752bd0597c18b7c4e642ddc595a0b",
        ascii "c9c22cd3590c4da344d733956cf9151485e168678bf794fac2a1a0088ccd9ddc"] := by
  rw [host_eq]
  -- one digest after the other
  refine congrArg₂ List.cons ?_ (congrArg₂ List.cons ?_ (congrArg₂ List.cons ?_
    (congrArg₂ List.cons ?_ (congrArg₂ List.cons ?_ (congrArg₂ List.cons ?_
      (congrArg₂ List.cons ?_ rfl))))))
  all_goals decide +kernel

theorem nodup_auditDocuments :
    ((auditDocuments (host fun _ _ _ => true)).map
      (host fun _ _ _ => true).sha256).Nodup := by
  rw [auditDocuments_digests]
  decide

theorem injOn_auditDocuments :
    Set.InjOn (host fun _ _ _ => true).sha256
      {d | d ∈ auditDocuments (host fun _ _ _ => true)} := by
  intro document hdocument document' hdocument' heq
  exact List.inj_on_of_nodup_map nodup_auditDocuments hdocument hdocument' heq

/-- The audit of a history and its extension, and of a rotating history
and itself. -/
theorem audits_exact_iff_extension :
    (AuditedExactly (host fun _ _ _ => true)
        (sampleRootHistory (host fun _ _ _ => true))
        (sampleNextHistory (host fun _ _ _ => true) 97)
      ↔ ¬SilentFork (sampleRootHistory (host fun _ _ _ => true))
        (sampleNextHistory (host fun _ _ _ => true) 97))
    ∧ (RotatingAuditedExactly (host fun _ _ _ => true)
        (sampleRotatingHistory (host fun _ _ _ => true))
        (sampleRotatingHistory (host fun _ _ _ => true))
      ↔ ¬RotatingSilentFork (sampleRotatingHistory (host fun _ _ _ => true))
        (sampleRotatingHistory (host fun _ _ _ => true))) := by
  obtain ⟨hextension, -, hrotating⟩ := comparable_samples injOn_auditDocuments
  exact ⟨(audits_exact_iff _).1 _ _ hextension,
    (audits_exact_iff _).2 _ _ hrotating⟩

/-- Valid histories whose second publication carries one signature or
another: the audit of the two is an internal error. -/
theorem silent_fork_refused :
    Comparable (host fun _ _ _ => true)
        (sampleNextHistory (host fun _ _ _ => true) 97)
        (sampleNextHistory (host fun _ _ _ => true) 98)
    ∧ auditOccupancyPublicationHistories (host fun _ _ _ => true)
        (sampleNextHistory (host fun _ _ _ => true) 97)
        (sampleNextHistory (host fun _ _ _ => true) 98)
      = failure .internalError
        "occupancy publication-history audit produced invalid output" := by
  obtain ⟨-, hforked, -⟩ := comparable_samples injOn_auditDocuments
  exact ⟨hforked, audit_samples hforked⟩

end RbfSafe
