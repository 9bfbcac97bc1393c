/-
When an audit of two publication histories is exact.

An audit counts right, relates the chains as they are related, and names
the heads; but its report is refused, as an internal error, where the
chains fork and end in one publication all the same. This can be: the id of
a record covers the signature, the id of a publication does not. Apart from
such silent forks every audit is exact, and swapping the histories swaps
the report (`Comparable.audited_iff`).
-/
import RbfSafe.Coordination.Proofs.Chains
import RbfSafe.Identity.Proofs.Checkpoint

namespace RbfSafe

open Json
open Lib.Prefix (LongestCommon commonCount)

-- === relations

section
variable {α : Type}

/-- What a relation says of two chains. -/
def OccupancyPublicationHistoryRelation.Describes :
    OccupancyPublicationHistoryRelation → List α → List α → Prop
  | .identical, xs, ys => xs = ys
  | .firstExtendsSecond, xs, ys => ys <+: xs ∧ ys ≠ xs
  | .secondExtendsFirst, xs, ys => xs <+: ys ∧ xs ≠ ys
  | .forked, xs, ys => ¬xs <+: ys ∧ ¬ys <+: xs

/-- The relation after the histories are swapped. -/
def OccupancyPublicationHistoryRelation.swap :
    OccupancyPublicationHistoryRelation → OccupancyPublicationHistoryRelation
  | .identical => .identical
  | .firstExtendsSecond => .secondExtendsFirst
  | .secondExtendsFirst => .firstExtendsSecond
  | .forked => .forked

/-- **The relation computed is the one the chains are in.** -/
theorem describes_iff {xs ys : List α} {n : Nat} (h : LongestCommon xs ys n)
    (relation : OccupancyPublicationHistoryRelation) :
    relationFor xs.length ys.length n = relation ↔ relation.Describes xs ys := by
  have hboth := h.eq_iff
  have hleft := h.prefix_iff
  have hright := h.symm.prefix_iff
  unfold relationFor
  by_cases hx : n = xs.length
  · have hprefix := hleft.mpr hx
    by_cases hy : n = ys.length
    · have heq := hboth.mpr ⟨hx, hy⟩
      rw [if_pos ⟨hx, hy⟩]
      cases relation <;>
        simp [OccupancyPublicationHistoryRelation.Describes, heq]
    · have hne : xs ≠ ys := fun heq => hy (hboth.mp heq).2
      have hnot : ¬ys <+: xs := fun hle => hy (hright.mp hle)
      rw [if_neg (fun hand => hy hand.2), if_neg hy, if_pos hx]
      cases relation <;>
        simp [OccupancyPublicationHistoryRelation.Describes, hprefix, hne, hnot]
  · have hnot : ¬xs <+: ys := fun hle => hx (hleft.mp hle)
    have hne : xs ≠ ys := fun heq => hx (hboth.mp heq).1
    by_cases hy : n = ys.length
    · have hprefix := hright.mpr hy
      rw [if_neg (fun hand => hx hand.1), if_pos hy]
      cases relation <;> simp [OccupancyPublicationHistoryRelation.Describes,
        hprefix, hne, hne.symm, hnot]
    · have hnot' : ¬ys <+: xs := fun hle => hy (hright.mp hle)
      rw [if_neg (fun hand => hx hand.1), if_neg hy, if_neg hx]
      cases relation <;> simp [OccupancyPublicationHistoryRelation.Describes,
        hne, hnot, hnot']

theorem relationFor_swap (n m common : Nat) :
    relationFor m n common = (relationFor n m common).swap := by
  unfold relationFor
  by_cases hn : common = n
  · by_cases hm : common = m
    · rw [if_pos ⟨hm, hn⟩, if_pos ⟨hn, hm⟩]
      rfl
    · rw [if_neg (fun hand => hm hand.1), if_pos hn,
        if_neg (fun hand => hm hand.2), if_neg hm, if_pos hn]
      rfl
  · by_cases hm : common = m
    · rw [if_neg (fun hand => hn hand.2), if_neg hn, if_pos hm,
        if_neg (fun hand => hn hand.1), if_pos hm]
      rfl
    · rw [if_neg (fun hand => hn hand.2), if_neg hn, if_neg hm,
        if_neg (fun hand => hn hand.1), if_neg hm, if_neg hn]
      rfl

/-- What `valid_relation` asks, where heads go with lengths. -/
theorem validRelation_iff {n m common : Nat} {head head' : Bytes}
    (hpos : 0 < common) (hn : common ≤ n) (hm : common ≤ m)
    (hlength : head = head' → n = m)
    (hheads : common = n → common = m → head = head') :
    validRelation (relationFor n m common) n m common head head' = true
      ↔ ¬(relationFor n m common = .forked ∧ head = head') := by
  have hmin : common ≤ Nat.min n m := Nat.le_min.mpr ⟨hn, hm⟩
  unfold relationFor validRelation
  by_cases hcn : common = n
  · by_cases hcm : common = m
    · rw [if_pos ⟨hcn, hcm⟩]
      have hhead := hheads hcn hcm
      simp [← hcn, ← hcm, hhead, hpos.ne']
    · rw [if_neg (fun hand => hcm hand.2), if_neg hcm, if_pos hcn]
      have hlt : common < m := lt_of_le_of_ne hm hcm
      have hne : head ≠ head' := fun heq => by
        have := hlength heq
        omega
      simp [← hcn, hne, hpos.ne', hlt, hlt.le, (hpos.trans hlt).ne']
  · have hlt : common < n := lt_of_le_of_ne hn hcn
    by_cases hcm : common = m
    · rw [if_neg (fun hand => hcn hand.1), if_pos hcm]
      have hne : head ≠ head' := fun heq => by
        have := hlength heq
        omega
      simp [← hcm, hne, hpos.ne', hlt, hlt.le, (hpos.trans hlt).ne']
    · have hlt' : common < m := lt_of_le_of_ne hm hcm
      have hmin' : common < Nat.min n m := Nat.lt_min.mpr ⟨hlt, hlt'⟩
      rw [if_neg (fun hand => hcn hand.1), if_neg hcm, if_neg hcn]
      simp [hpos.ne', (hpos.trans hlt).ne', (hpos.trans hlt').ne', hmin, hmin']

/-- Chains have a common entry exactly if their first entries agree. -/
theorem common_pos_iff {xs ys : List α} {n : Nat} (h : LongestCommon xs ys n)
    (hxs : 0 < xs.length) : 0 < n ↔ xs.head? = ys.head? := by
  constructor
  · intro hpos
    have htake := congrArg List.head? h.take_eq
    rwa [List.head?_take, List.head?_take, if_neg hpos.ne', if_neg hpos.ne']
      at htake
  · intro hheads
    cases xs with
    | nil => cases hxs
    | cons x xs =>
        cases ys with
        | nil => cases hheads
        | cons y ys =>
            cases hheads
            exact h.maximal [x] (List.cons_prefix_cons.mpr ⟨rfl, List.nil_prefix⟩)
              (List.cons_prefix_cons.mpr ⟨rfl, List.nil_prefix⟩)

end

-- === pinned bundle

/-- The records of a history. -/
def OccupancyPublicationHistory.records (history : OccupancyPublicationHistory) :
    List OccupancyPublicationHistoryRecord :=
  history.entries.map (·.record)

/-- Valid histories of one stream under one bundle, whose documents have
different digests where they differ. -/
structure Comparable (P : Platform)
    (first second : OccupancyPublicationHistory) : Prop where
  validFirst : first.valid P = true
  validSecond : second.valid P = true
  stream : first.stream = second.stream
  trustBundleId : first.trustBundleId = second.trustBundleId
  digests : Set.InjOn P.sha256
    (entryDocuments P first.entries ∪ entryDocuments P second.entries)

/-- The report with the histories swapped. -/
def OccupancyPublicationHistoryAudit.swap (P : Platform)
    (audit : OccupancyPublicationHistoryAudit) :
    OccupancyPublicationHistoryAudit :=
  let swapped := { audit with
    id := []
    relation := audit.relation.swap
    firstHeadPublicationId := audit.secondHeadPublicationId
    secondHeadPublicationId := audit.firstHeadPublicationId
    firstPublicationCount := audit.secondPublicationCount
    secondPublicationCount := audit.firstPublicationCount }
  { swapped with id := occupancyPublicationHistoryAuditIdentity P swapped }

/-- A report that is right about two histories. -/
structure ExactReport (P : Platform) (first second : OccupancyPublicationHistory)
    (report : OccupancyPublicationHistoryAudit) : Prop where
  counts : report.firstPublicationCount = first.records.length
    ∧ report.secondPublicationCount = second.records.length
  heads : report.firstHeadPublicationId = first.currentPublicationId
    ∧ report.secondHeadPublicationId = second.currentPublicationId
  common : LongestCommon first.records second.records report.commonPrefixCount
  relation : ∀ relation, report.relation = relation
    ↔ relation.Describes first.records second.records
  swapped : auditOccupancyPublicationHistories P second first
    = .ok (report.swap P)

/-- The audit is exact; histories that do not share the root record are
refused in both orders. -/
def AuditedExactly (P : Platform) (first second : OccupancyPublicationHistory) :
    Prop :=
  (∃ report, auditOccupancyPublicationHistories P first second = .ok report
      ∧ ExactReport P first second report)
    ∨ (first.records.head? ≠ second.records.head?
      ∧ auditOccupancyPublicationHistories P first second
        = failure .identityMismatch
          "occupancy publication histories claim the same root but do not share it"
      ∧ auditOccupancyPublicationHistories P second first
        = failure .identityMismatch
          "occupancy publication histories claim the same root but do not share it")

/-- Histories that share the root record, fork, and end in one
publication. -/
def SilentFork (first second : OccupancyPublicationHistory) : Prop :=
  first.records.head? = second.records.head?
    ∧ OccupancyPublicationHistoryRelation.forked.Describes first.records
      second.records
    ∧ first.currentPublicationId = second.currentPublicationId

namespace Comparable

variable {P : Platform} {first second : OccupancyPublicationHistory}

theorem symm (h : Comparable P first second) : Comparable P second first :=
  ⟨h.validSecond, h.validFirst, h.stream.symm, h.trustBundleId.symm, by
    rw [Set.union_comm]
    exact h.digests⟩

/-- What a valid history names. -/
theorem chain_of_valid {history : OccupancyPublicationHistory}
    (h : history.valid P = true) :
    PublicationChain P history.entries history.currentPublicationId
      ∧ validIdentifier history.stream.streamId = true
      ∧ validIdentifier history.stream.publisherServiceId = true
      ∧ validSha256 history.stream.rootPublicationId = true
      ∧ validSha256 history.trustBundleId = true := by
  unfold OccupancyPublicationHistory.valid validStream at h
  simp only [Bool.and_eq_true] at h
  obtain ⟨⟨⟨⟨⟨⟨-, ⟨⟨⟨⟨hstream, hservice⟩, hroot⟩, -⟩, -⟩, -⟩, hbundle⟩, -⟩, -⟩,
    hlinked⟩, hhead⟩ := h
  exact ⟨.of_linked hlinked hhead, hstream, hservice, hroot, hbundle⟩

theorem common (h : Comparable P first second) :
    LongestCommon first.records second.records
      (commonCount sameEntry first.entries second.entries) :=
  (chain_of_valid h.validFirst).1.longestCommon (chain_of_valid h.validSecond).1 h.digests

theorem common_symm (h : Comparable P first second) :
    commonCount sameEntry second.entries first.entries
      = commonCount sameEntry first.entries second.entries :=
  h.symm.common.unique h.common.symm

/-- The audit of comparable histories. -/
theorem audit_eq (h : Comparable P first second) :
    auditOccupancyPublicationHistories P first second
      = if commonCount sameEntry first.entries second.entries = 0 then
          failure .identityMismatch
            "occupancy publication histories claim the same root but do not share it"
        else if (publicationHistoryReport P first second
            (commonCount sameEntry first.entries second.entries)).valid P
            = false then
          failure .internalError
            "occupancy publication-history audit produced invalid output"
        else .ok (publicationHistoryReport P first second
          (commonCount sameEntry first.entries second.entries)) := by
  have hvalid : ¬(first.valid P = false ∨ second.valid P = false) := by
    rw [h.validFirst, h.validSecond]
    decide
  have hshared : ¬(first.stream.streamId ≠ second.stream.streamId
      ∨ first.stream.publisherServiceId ≠ second.stream.publisherServiceId
      ∨ first.trustBundleId ≠ second.trustBundleId
      ∨ first.stream.rootPublicationId ≠ second.stream.rootPublicationId
      ∨ first.stream.timelineId ≠ second.stream.timelineId
      ∨ first.stream.workspaceFrameId ≠ second.stream.workspaceFrameId) := by
    rw [h.stream, h.trustBundleId]
    simp
  unfold auditOccupancyPublicationHistories
  rw [if_neg hvalid, if_neg hshared]

/-- The report is valid unless it hides a fork. -/
theorem report_valid_iff (h : Comparable P first second)
    (hpos : 0 < commonCount sameEntry first.entries second.entries) :
    (publicationHistoryReport P first second
        (commonCount sameEntry first.entries second.entries)).valid P = true
      ↔ ¬(OccupancyPublicationHistoryRelation.forked.Describes first.records
          second.records
        ∧ first.currentPublicationId = second.currentPublicationId) := by
  obtain ⟨hchain, hstream, hservice, hroot, hbundle⟩ := chain_of_valid h.validFirst
  obtain ⟨hchain', -⟩ := chain_of_valid h.validSecond
  have hcommon := h.common
  have hle := hcommon.le_left
  have hle' := hcommon.le_right
  have hlength : first.records.length = first.entries.length := List.length_map _
  have hlength' : second.records.length = second.entries.length :=
    List.length_map _
  have hrelation := validRelation_iff hpos (hlength ▸ hle) (hlength' ▸ hle')
    (hchain.length_eq hchain' h.digests) fun hn hm =>
      hchain.head_eq hchain' (hcommon.eq_iff.mpr
        ⟨hn.trans hlength.symm, hm.trans hlength'.symm⟩)
  rw [← describes_iff hcommon .forked, hlength, hlength', ← hrelation]
  have hidentified : ∀ report : OccupancyPublicationHistoryAudit,
      occupancyPublicationHistoryAuditIdentity P report
        = occupancyPublicationHistoryAuditIdentity P { report with id := [] } :=
    fun _ => rfl
  unfold OccupancyPublicationHistoryAudit.valid
  rw [hidentified]
  simp only [publicationHistoryReport, P.validSha256_digest, hstream, hservice,
    hroot, hbundle, hchain.validHead, hchain'.validHead,
    (hchain.commonPublication_eq hchain' hcommon hpos).2, decide_true,
    Bool.true_and, occupancyPublicationHistoryAuditIdentity]

/-- Swapping the histories swaps the report. -/
theorem report_swap (h : Comparable P first second)
    (hpos : 0 < commonCount sameEntry first.entries second.entries) :
    publicationHistoryReport P second first
        (commonCount sameEntry first.entries second.entries)
      = (publicationHistoryReport P first second
        (commonCount sameEntry first.entries second.entries)).swap P := by
  have hpublication := ((chain_of_valid h.validFirst).1.commonPublication_eq
    (chain_of_valid h.validSecond).1 h.common hpos).1
  unfold publicationHistoryReport OccupancyPublicationHistoryAudit.swap
  simp only [h.stream, h.trustBundleId, hpublication,
    relationFor_swap first.entries.length second.entries.length]

/-- **An audit is exact unless the histories fork silently.** -/
theorem audited_iff (h : Comparable P first second) :
    AuditedExactly P first second ↔ ¬SilentFork first second := by
  have hcommon := h.common
  have hlength : first.records.length = first.entries.length := List.length_map _
  have hlength' : second.records.length = second.entries.length :=
    List.length_map _
  have hroots := common_pos_iff hcommon
    (hlength ▸ (chain_of_valid h.validFirst).1.length_pos)
  have haudit := h.audit_eq
  have haudit' := h.symm.audit_eq
  rw [h.common_symm] at haudit'
  by_cases hpos : 0 < commonCount sameEntry first.entries second.entries
  · have hvalid := h.report_valid_iff hpos
    have hvalid' := h.symm.report_valid_iff (h.common_symm.symm ▸ hpos)
    rw [h.common_symm] at hvalid'
    have hsilent : SilentFork first second
        ↔ OccupancyPublicationHistoryRelation.forked.Describes first.records
            second.records
          ∧ first.currentPublicationId = second.currentPublicationId :=
      ⟨fun hfork => hfork.2, fun hfork => ⟨hroots.mp hpos, hfork⟩⟩
    rw [hsilent, ← hvalid]
    rw [if_neg hpos.ne'] at haudit haudit'
    constructor
    · intro hexact
      rcases hexact with ⟨report, hreport, -⟩ | ⟨hheads, -⟩
      · rw [haudit, ite_failure_eq_ok, Bool.not_eq_false] at hreport
        exact hreport.1
      · exact absurd (hroots.mp hpos) hheads
    · intro hok
      have hok' : (publicationHistoryReport P second first
          (commonCount sameEntry first.entries second.entries)).valid P
          = true := by
        rw [hvalid']
        rw [hvalid] at hok
        exact fun hfork => hok ⟨⟨hfork.1.2, hfork.1.1⟩, hfork.2.symm⟩
      rw [if_neg (by rw [hok]; exact Bool.noConfusion)] at haudit
      rw [if_neg (by rw [hok']; exact Bool.noConfusion), h.report_swap hpos]
        at haudit'
      refine .inl ⟨_, haudit, ⟨hlength.symm, hlength'.symm⟩, ⟨rfl, rfl⟩, hcommon,
        fun relation => ?_, haudit'⟩
      rw [← describes_iff hcommon relation, hlength, hlength']
      rfl
  · have hzero : commonCount sameEntry first.entries second.entries = 0 := by
      omega
    have hheads : first.records.head? ≠ second.records.head? :=
      mt hroots.mpr hpos
    rw [if_pos hzero] at haudit haudit'
    exact ⟨fun _ hfork => hheads hfork.1, fun _ => .inr ⟨hheads, haudit, haudit'⟩⟩

end Comparable

end RbfSafe
