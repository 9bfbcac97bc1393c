/-
What the gate of a policy selects, and what it leaves behind.

Of the proposals the shield does not reject the scan selects the first in
the order of the mode: an accepted action comes before a repaired one, then
the keys of the mode decide, then the place in the batch. Every proposal
leaves a record. The rules of a record were written for records of any
origin, and one of them is about size: a configuration has at most 128
values. So the records of an atlas of at most 128 dimensions are those that
can be kept, and a database takes any of them that are not the same.
-/
import RbfSafe.Lib.Selection
import RbfSafe.Shield.Proofs.Decision

namespace RbfSafe.Atlas

open Lib.Selection

-- === proposals

section
variable {α : Type} [Scalar α]

/-- The context of a check is only in its message. -/
theorem PolicyProposalMetadata.validate_iff {metadata : PolicyProposalMetadata α}
    {context : Bytes} (other : Bytes) :
    metadata.validate context = .ok () ↔ metadata.validate other = .ok () := by
  unfold PolicyProposalMetadata.validate
  rw [ite_failure_eq_ok, ite_failure_eq_ok, ite_failure_eq_ok, ite_failure_eq_ok]

end

namespace LearningPolicySafetyGate

section
variable {α : Type} [InverseScalar α] [NumberScalar α] {P : Platform}
  {batch : Batch α}

/-- What is known of a proposal that was checked. -/
structure Checked (batch : Batch α) (checked : CheckedProposal α) : Prop where
  metadata : checked.decision.metadata.validate [] = .ok ()
  proposalId : validSha256 checked.decision.proposalId = true
  target : Requested batch.atlas.dimension checked.requestedTarget
  shielded : checked.decision.policyEligible = false
        ∧ checked.decision.shieldDecision = none
        ∧ checked.decision.evidence = .unknown
    ∨ ∃ shield, checked.decision.policyEligible = true
        ∧ checked.decision.shieldDecision = some shield
        ∧ checked.decision.evidence = shield.evidence
        ∧ Reported batch.atlas shield
        ∧ validSha256 shield.id = true

omit [NumberScalar α] in
theorem requested_of_validate {action : ShieldAction α} {target current : List α}
    {options : PolicyGateOptions α} {dimension : Nat}
    (hcurrent : Configuration dimension current)
    (h : validateActionAndTarget action current options = .ok target) :
    Requested dimension target := by
  have hlength : current.length = dimension := hcurrent.1
  cases action with
  | jointDelta delta =>
      unfold validateActionAndTarget at h
      obtain ⟨hdelta, h⟩ := check_eq_ok.mp h
      obtain ⟨hdelta, -⟩ := validateConfiguration_ok.mp hdelta
      dsimp only at h
      split at h
      · rename_i hfinite
        cases h
        refine .inr ⟨?_, hfinite⟩
        rw [List.length_map, List.length_zip, hdelta, Nat.min_self, hlength]
      · cases h
  | endEffector pose =>
      obtain ⟨-, h⟩ := ite_failure_eq_ok.mp h
      cases h
      exact .inl rfl
  | trajectory waypoints =>
      unfold validateActionAndTarget at h
      obtain ⟨-, h⟩ := ite_failure_eq_ok.mp h
      obtain ⟨-, h⟩ := ite_failure_eq_ok.mp h
      obtain ⟨hwaypoints, h⟩ := check_eq_ok.mp h
      cases h
      apply requested_getLastD
      rw [← hlength]
      exact @configuration_of_loop _ _ current.length _
        (fun _ => checkPolicyWaypoints current.length) (fun _ _ _ => rfl) _ 0 hwaypoints

theorem checked_proposal (hcurrent : Configuration batch.atlas.dimension batch.current)
    {index : Nat} {proposalIds : List Bytes} {proposal : PolicyProposal α}
    {checked : CheckedProposal α}
    (h : Returns (checkProposal P batch index proposalIds proposal) checked) :
    Checked batch checked := by
  unfold checkProposal at h
  obtain ⟨target, htarget, h⟩ := returns_bind.mp h
  obtain ⟨-, htarget⟩ := ite_failure_eq_ok.mp (returns_lift.mp htarget)
  obtain ⟨hmetadata, htarget⟩ := check_eq_ok.mp htarget
  have hmetadata := (PolicyProposalMetadata.validate_iff []).mp hmetadata
  have hrequested := requested_of_validate hcurrent htarget
  rcases returns_ite.mp h with ⟨-, h⟩ | ⟨-, h⟩
  · exact (not_returns_throw h).elim
  split at h
  · rw [← returns_pure.mp h]
    exact ⟨hmetadata, P.validSha256_digest _, hrequested, .inl ⟨rfl, rfl, rfl⟩⟩
  · obtain ⟨shield, hshield, h⟩ := returns_bind.mp h
    obtain ⟨hreported, -, hid⟩ := reported_checkAction hshield
    have hdigest : validSha256 shield.id = true := by
      rw [hid]
      exact P.validSha256_digest _
    rw [← returns_pure.mp h]
    exact ⟨hmetadata, P.validSha256_digest _, hrequested,
      .inr ⟨shield, rfl, rfl, rfl, hreported, hdigest⟩⟩

theorem checked_all (hcurrent : Configuration batch.atlas.dimension batch.current)
    {proposals : List (PolicyProposal α)} :
    ∀ {index : Nat} {proposalIds : List Bytes} {all : List (CheckedProposal α)},
      Returns (checkAll P batch index proposalIds proposals) all →
      ∀ checked ∈ all, Checked batch checked := by
  induction proposals with
  | nil =>
      intro index proposalIds all h checked hmem
      rw [← returns_pure.mp h] at hmem
      cases hmem
  | cons proposal rest ih =>
      intro index proposalIds all h checked hmem
      unfold checkAll at h
      obtain ⟨first, hfirst, h⟩ := returns_bind.mp h
      obtain ⟨later, hlater, h⟩ := returns_bind.mp h
      rw [← returns_pure.mp h] at hmem
      rcases List.mem_cons.mp hmem with rfl | hmem
      · exact checked_proposal hcurrent hfirst
      · exact ih hlater checked hmem

-- === records

/-- A decision at its place, once one is selected. -/
def finished (P : Platform) (selected : Option Nat) (checked : CheckedProposal α)
    (index : Nat) : PolicyGateDecision α :=
  let decision :=
    { checked.decision with selected := decide (selected = some index) }
  { decision with id := policyDecisionIdentity P decision }

/-- A label with the evidence it asks for. -/
inductive Evident (record : PolicyFeedbackRecord α) : Prop where
  | policyRejected (label : record.label = .policyRejected)
      (shield : record.shieldDecisionId = []) (evidence : record.evidence = .unknown)
  | shieldRejected (label : record.label = .shieldRejected)
      (shield : validSha256 record.shieldDecisionId = true)
      (evidence : record.evidence = .unknown)
  | eligible (label : record.label ≠ .policyRejected ∧ record.label ≠ .shieldRejected)
      (shield : validSha256 record.shieldDecisionId = true)
      (evidence : record.evidence = .certifiedConnectivity)

/-- What a record holds. -/
structure Kept (dimension : Nat) (record : PolicyFeedbackRecord α) : Prop where
  metadata : record.metadata.validate [] = .ok ()
  ids : validSha256 record.id = true ∧ validSha256 record.proposalId = true
    ∧ validSha256 record.policyDecisionId = true
  digests : validSha256 record.robotDigest = true
    ∧ validSha256 record.sceneDigest = true
  requested : Requested dimension record.requestedTarget
  output : Requested dimension record.outputTarget
  distance : nonNegativeNumber record.repairDistance = true
  evident : Evident record

omit [NumberScalar α] in
/-- Such a record passes its check, if it is not too large. -/
theorem Kept.validate {dimension : Nat} {record : PolicyFeedbackRecord α}
    (h : Kept dimension record) (hdimension : dimension ≤ kMaximumConfigurationDimension)
    (hidentity : record.id = policyFeedbackRecordIdentity P record) :
    record.validate P = .ok () := by
  have hsize : ∀ {target : List α}, Requested dimension target →
      ¬kMaximumConfigurationDimension < target.length := fun htarget =>
    Nat.not_lt.mpr (le_trans htarget.length_le hdimension)
  have hsame : ¬(record.requestedTarget ≠ [] ∧ record.outputTarget ≠ []
      ∧ record.requestedTarget.length ≠ record.outputTarget.length) := by
    intro hnot
    apply hnot.2.2
    rw [(h.requested.resolve_left hnot.1).1, (h.output.resolve_left hnot.2.1).1]
  have hmetadata := (PolicyProposalMetadata.validate_iff
    (ascii "policy feedback")).mp h.metadata
  unfold PolicyFeedbackRecord.validate
  rw [check_eq_ok, ite_failure_eq_ok, ite_failure_eq_ok, ite_failure_eq_ok]
  refine ⟨hmetadata, ?_, ?_, not_not.mpr hidentity, rfl⟩
  · simp only [h.ids, h.digests, h.distance, h.requested.finite, h.output.finite,
      hsize h.requested, hsize h.output, hsame, Bool.true_eq_false, false_or, or_false]
    cases h.evident with
    | policyRejected _ hshield hevidence => simp [hshield, hevidence]
    | shieldRejected _ hshield hevidence => simp [hshield, hevidence]
    | eligible _ hshield hevidence => simp [hshield, hevidence]
  · cases h.evident with
    | policyRejected hlabel hshield hevidence => simp [hlabel, hshield, hevidence]
    | shieldRejected hlabel hshield _ =>
        simp [hlabel, validSha256_ne_nil hshield]
    | eligible hlabel hshield hevidence =>
        simp [hlabel, validSha256_ne_nil hshield, hevidence]

omit [NumberScalar α] in
theorem feedbackLabel_eligible {decision : PolicyGateDecision α}
    {shield : ShieldDecision α} (heligible : decision.policyEligible = true)
    (hsome : decision.shieldDecision = some shield)
    (hreject : shield.outcome ≠ .reject) :
    feedbackLabel decision ≠ .policyRejected
      ∧ feedbackLabel decision ≠ .shieldRejected := by
  unfold feedbackLabel
  rw [heligible, hsome, if_neg (by decide)]
  cases houtcome : shield.outcome with
  | reject => exact absurd houtcome hreject
  | accept =>
      simp only [Option.map_some, houtcome]
      cases decision.selected <;> simp
  | repair =>
      simp only [Option.map_some, houtcome]
      cases decision.selected <;> simp

/-- Every checked proposal leaves such a record. -/
theorem kept_makeFeedback {checked : CheckedProposal α} (h : Checked batch checked)
    (hrobot : validSha256 batch.atlas.robotDigest = true)
    (hscene : validSha256 batch.atlas.sceneDigest = true)
    (selected : Option Nat) (index : Nat) :
    Kept batch.atlas.dimension
      (makeFeedback P (finished P selected checked index) checked.actionType
        checked.requestedTarget batch.atlas) := by
  have hids := P.validSha256_digest
  rcases h.shielded with ⟨heligible, hnone, hevidence⟩
    | ⟨shield, heligible, hsome, hevidence, hreported, hid⟩
  · refine ⟨h.metadata, ⟨hids _, h.proposalId, hids _⟩, ⟨hrobot, hscene⟩, ?_, ?_, ?_, ?_⟩
    · simp only [makeFeedback, finished, hnone]
      exact h.target
    · simp only [makeFeedback, finished, hnone]
      exact .inl rfl
    · simp only [makeFeedback, finished, hnone]
      exact nonNegativeNumber_zero
    · apply Evident.policyRejected
      · simp [makeFeedback, feedbackLabel, finished, heligible]
      · simp [makeFeedback, finished, hnone]
      · simp [makeFeedback, finished, hevidence]
  · refine ⟨h.metadata, ⟨hids _, h.proposalId, hids _⟩, ⟨hrobot, hscene⟩, ?_, ?_, ?_, ?_⟩
    · simp only [makeFeedback, finished, hsome]
      exact hreported.requested
    · simp only [makeFeedback, finished, hsome]
      exact hreported.output
    · simp only [makeFeedback, finished, hsome]
      exact hreported.distance
    · have hshield := hreported.evidence
      by_cases hreject : shield.outcome = .reject
      · apply Evident.shieldRejected
        · simp [makeFeedback, feedbackLabel, finished, heligible, hsome, hreject]
        · simpa [makeFeedback, finished, hsome] using hid
        · rw [if_pos hreject] at hshield
          simp [makeFeedback, finished, hevidence, hshield]
      · apply Evident.eligible
        · exact feedbackLabel_eligible heligible hsome hreject
        · simpa [makeFeedback, finished, hsome] using hid
        · rw [if_neg hreject] at hshield
          simp [makeFeedback, finished, hevidence, hshield]

-- === selection

/-- A decision at its place in the batch. -/
abbrev Placed (α : Type) [Scalar α] := PolicyGateDecision α × Nat

def outcomeOf (placed : Placed α) : Option ShieldOutcome :=
  placed.1.shieldDecision.map ShieldDecision.outcome

/-- An accepted action comes before others. -/
def acceptedFirst (a b : Placed α) : Prop :=
  outcomeOf a = some .accept ∧ outcomeOf b ≠ some .accept

/-- The keys of the modes. -/
def moreConfident (a b : Placed α) : Prop :=
  Scalar.lt b.1.metadata.confidence a.1.metadata.confidence = true

def lessUncertain (a b : Placed α) : Prop :=
  Scalar.lt (combinedUncertainty a.1.metadata) (combinedUncertainty b.1.metadata)
    = true

def modeKeys : PolicySelectionMode → List (Placed α → Placed α → Prop)
  | .inputOrder => []
  | .highestConfidence => [moreConfident, lessUncertain]
  | .lowestUncertainty => [lessUncertain, moreConfident]

/-- What a mode prefers: accepted actions, then its keys, then the place. -/
def Preferred (mode : PolicySelectionMode) : Placed α → Placed α → Prop :=
  lexAll (acceptedFirst :: modeKeys mode) fun a b => a.2 < b.2

/-- Decisions whose keys are numbers. -/
def Numbered : Set (Placed α) :=
  {placed | Scalar.le placed.1.metadata.confidence placed.1.metadata.confidence = true
    ∧ Scalar.le (combinedUncertainty placed.1.metadata)
      (combinedUncertainty placed.1.metadata) = true}

/-- Numbers are a weak order. -/
theorem weakOrder_lt {β : Type} {S : Set β} {f : β → α}
    (h : ∀ x ∈ S, Scalar.le (f x) (f x) = true) :
    WeakOrder S fun a b => Scalar.lt (f a) (f b) = true where
  asymm := by
    intro a b ha hb hab hba
    have hnot := (NumberScalar.number_lt_iff (h b hb) (h a ha)).mp hba
    rw [LawfulScalar.le_of_lt hab] at hnot
    cases hnot
  cotrans := by
    intro a b c ha hb hc hac
    by_cases hab : Scalar.lt (f a) (f b) = true
    · exact .inl hab
    · apply Or.inr
      rw [NumberScalar.number_lt_iff (h b hb) (h c hc)]
      by_contra hcb
      have hba : Scalar.le (f b) (f a) = true := by
        by_contra hle
        exact hab ((NumberScalar.number_lt_iff (h a ha) (h b hb)).mpr (by simpa using hle))
      have hca := LawfulScalar.le_trans (by simpa using hcb) hba
      have hnot := (NumberScalar.number_lt_iff (h a ha) (h c hc)).mp hac
      rw [hca] at hnot
      cases hnot

theorem weakOrder_modeKeys (mode : PolicySelectionMode) :
    ∀ key ∈ modeKeys mode, WeakOrder (Numbered (α := α)) key := by
  have hconfidence : WeakOrder (Numbered (α := α)) moreConfident :=
    (weakOrder_lt (f := fun placed : Placed α => placed.1.metadata.confidence)
      fun _ h => h.1).swap
  have huncertainty : WeakOrder (Numbered (α := α)) lessUncertain :=
    weakOrder_lt (f := fun placed : Placed α => combinedUncertainty placed.1.metadata)
      fun _ h => h.2
  intro key hkey
  cases mode with
  | inputOrder => cases hkey
  | highestConfidence =>
      rcases List.mem_pair.mp hkey with rfl | rfl
      · exact hconfidence
      · exact huncertainty
  | lowestUncertainty =>
      rcases List.mem_pair.mp hkey with rfl | rfl
      · exact huncertainty
      · exact hconfidence

theorem weakOrder_preferred (mode : PolicySelectionMode) :
    WeakOrder (Numbered (α := α)) (Preferred mode) := by
  apply WeakOrder.lexAll
  · intro key hkey
    rcases List.mem_cons.mp hkey with rfl | hkey
    · constructor
      · exact fun _ _ hab hba => hab.2 hba.1
      · intro a b c _ _ _ hac
        by_cases hb : outcomeOf b = some .accept
        · exact .inr ⟨hb, hac.2⟩
        · exact .inl ⟨hac.1, hb⟩
    · exact weakOrder_modeKeys mode key hkey
  · exact ⟨fun _ _ hab hba => Nat.lt_asymm hab hba, fun _ _ _ hac => by omega⟩

omit [NumberScalar α] in
/-- The selection is a scan. -/
theorem selectDecision_eq_scan (mode : PolicySelectionMode) :
    ∀ {l : List (Placed α)} {selected : Option (Placed α)},
      selectDecision mode l selected
        = scan (fun placed => placed.1.eligible)
            (fun a b => preferredCandidate a.1 a.2 b.1 b.2 mode) l selected := by
  intro l
  induction l with
  | nil => exact rfl
  | cons placed rest ih =>
      intro selected
      obtain ⟨decision, index⟩ := placed
      cases selected with
      | none => simp only [selectDecision, scan, ih]
      | some incumbent => simp only [selectDecision, scan, ih]

/-- A key, and what decides where two values are equal. -/
theorem key_iff {a b : α} {equal later : Bool} {r : Prop}
    (ha : Scalar.le a a = true) (hb : Scalar.le b b = true)
    (hequal : equal = true ↔ Scalar.le a b = true ∧ Scalar.le b a = true)
    (hlater : later = true ↔ r) :
    (if !equal then Scalar.lt a b else later) = true
      ↔ Scalar.lt a b = true ∨ ¬Scalar.lt b a = true ∧ r := by
  have hab := NumberScalar.number_lt_iff ha hb
  have hba := NumberScalar.number_lt_iff hb ha
  cases equal with
  | true =>
      obtain ⟨hle, hge⟩ := hequal.mp rfl
      simp [hab, hba, hle, hge, hlater]
  | false =>
      have hnot : ¬(Scalar.le a b = true ∧ Scalar.le b a = true) := fun h => by
        cases hequal.mpr h
      simp only [Bool.not_false, if_true, hab, hba]
      constructor
      · exact fun h => .inl h
      · rintro (h | ⟨h, -⟩)
        · exact h
        · by_contra hge
          exact hnot ⟨by simpa using h, by simpa using hge⟩

omit [NumberScalar α] in
theorem outcome_of_eligible {decision : PolicyGateDecision α}
    (h : decision.eligible = true) :
    decision.shieldDecision.map ShieldDecision.outcome = some .accept
      ∨ decision.shieldDecision.map ShieldDecision.outcome = some .repair := by
  unfold PolicyGateDecision.eligible at h
  cases hshield : decision.shieldDecision with
  | none =>
      rw [hshield] at h
      cases h
  | some shield =>
      rw [hshield] at h
      cases houtcome : shield.outcome with
      | accept => exact .inl (by simp [houtcome])
      | repair => exact .inr (by simp [houtcome])
      | reject => simp [houtcome] at h

omit [NumberScalar α] in
theorem eligible_of_outcome {decision : PolicyGateDecision α}
    (h : decision.shieldDecision.map ShieldDecision.outcome = some .accept
      ∨ decision.shieldDecision.map ShieldDecision.outcome = some .repair) :
    decision.eligible = true := by
  unfold PolicyGateDecision.eligible
  cases hshield : decision.shieldDecision with
  | none => simp [hshield] at h
  | some shield =>
      simp only [hshield, Option.map_some, Option.some.injEq] at h
      rcases h with h | h
      · simp [h]
      · simp [h]

/-- What the scan asks is what the order says, of a later decision. -/
theorem preferredCandidate_iff {mode : PolicySelectionMode} {earlier later : Placed α}
    (hearlier : earlier ∈ Numbered) (hlater : later ∈ Numbered)
    (hlt : earlier.2 < later.2) (hfirst : earlier.1.eligible = true)
    (hsecond : later.1.eligible = true) :
    preferredCandidate later.1 later.2 earlier.1 earlier.2 mode = true
      ↔ Preferred mode later earlier := by
  have hplace : decide (later.2 < earlier.2) = true ↔ later.2 < earlier.2 :=
    decide_eq_true_iff
  have hconfidence := NumberScalar.number_eq_iff hlater.1 hearlier.1
  have huncertainty := NumberScalar.number_eq_iff hlater.2 hearlier.2
  unfold preferredCandidate Preferred
  dsimp only
  by_cases hsame : later.1.shieldDecision.map ShieldDecision.outcome
      = earlier.1.shieldDecision.map ShieldDecision.outcome
  · have hnone : ∀ {a b : Placed α}, outcomeOf a = outcomeOf b →
        ¬acceptedFirst a b := fun heq h => h.2 (heq ▸ h.1)
    rw [if_neg (not_not.mpr hsame)]
    show _ ↔ acceptedFirst later earlier
      ∨ ¬acceptedFirst earlier later ∧ lexAll (modeKeys mode) _ later earlier
    rw [or_iff_right (hnone hsame), and_iff_right (hnone hsame.symm)]
    cases mode with
    | inputOrder =>
        constructor
        · intro h
          cases h
        · exact fun h => absurd h (Nat.lt_asymm hlt)
    | highestConfidence =>
        exact key_iff hearlier.1 hlater.1 (hconfidence.trans and_comm)
          (key_iff hlater.2 hearlier.2 huncertainty hplace)
    | lowestUncertainty =>
        exact key_iff hlater.2 hearlier.2 huncertainty
          (key_iff hearlier.1 hlater.1 (hconfidence.trans and_comm) hplace)
  · rw [if_pos hsame, decide_eq_true_iff]
    show _ ↔ acceptedFirst later earlier
      ∨ ¬acceptedFirst earlier later ∧ lexAll (modeKeys mode) _ later earlier
    constructor
    · exact fun h => .inl ⟨h, fun heq => hsame (h.trans heq.symm)⟩
    · rintro (h | ⟨hnot, -⟩)
      · exact h.1
      · rcases outcome_of_eligible hsecond with haccept | hrepair
        · exact haccept
        · rcases outcome_of_eligible hfirst with haccept | hrepair'
          · have hrefused : outcomeOf later ≠ some .accept := by
              rw [outcomeOf, hrepair]
              decide
            exact absurd ⟨haccept, hrefused⟩ hnot
          · exact absurd (hrepair.trans hrepair'.symm) hsame

/-- The metadata of a proposal compare. -/
theorem numbered_of_validate {placed : Placed α}
    (h : placed.1.metadata.validate [] = .ok ()) : placed ∈ Numbered := by
  unfold PolicyProposalMetadata.validate at h
  obtain ⟨-, h⟩ := ite_failure_eq_ok.mp h
  have hnumbers := (ite_failure_eq_ok.mp h).1
  simp only [not_or, Bool.not_eq_false, nonNegativeNumber_iff] at hnumbers
  obtain ⟨hconfidence, -, hstate, haction, -, -⟩ := hnumbers
  refine ⟨LawfulScalar.le_refl hconfidence.1, ?_⟩
  have hsum := NumberScalar.add_nonneg
    (NumberScalar.nonneg_of_not_negative hstate.1 hstate.2)
    (NumberScalar.nonneg_of_not_negative haction.1 haction.2)
  exact (NumberScalar.number_of_le hsum).2

/-- **The selection finds the first decision of the order**, if one is
eligible. -/
theorem selectDecision_spec {mode : PolicySelectionMode}
    {decisions : List (PolicyGateDecision α)}
    (h : ∀ decision ∈ decisions, decision.metadata.validate [] = .ok ()) :
    (selectDecision mode decisions.zipIdx none = none
        ∧ ∀ decision ∈ decisions, decision.eligible = false)
    ∨ ∃ decision index, decisions[index]? = some decision
      ∧ decision.eligible = true
      ∧ selectDecision mode decisions.zipIdx none = some (decision, index)
      ∧ ∀ {other place}, decisions[place]? = some other → other.eligible = true →
        place = index ∨ Preferred mode (decision, index) (other, place) := by
  have hnumbered : ∀ placed ∈ decisions.zipIdx, placed ∈ Numbered := fun placed hmem =>
    numbered_of_validate (h placed.1 (List.fst_mem_of_mem_zipIdx hmem))
  have hplaces : decisions.zipIdx.Pairwise fun a b => a.2 < b.2 := by
    rw [← List.pairwise_map, List.zipIdx_map_snd]
    exact List.pairwise_lt_range'
  have hcompares : decisions.zipIdx.Pairwise
      (Compares (fun placed => placed.1.eligible)
        (fun a b => preferredCandidate a.1 a.2 b.1 b.2 mode) (Preferred mode)) := by
    refine hplaces.imp_of_mem fun hearlier hlater hlt => ⟨?_, lexAll_total (.inl hlt)⟩
    exact fun hfirst hsecond => preferredCandidate_iff (hnumbered _ hearlier)
      (hnumbered _ hlater) hlt hfirst hsecond
  rw [selectDecision_eq_scan]
  rcases scan_none (weakOrder_preferred mode) (fun x hx _ => hnumbered x hx)
    hcompares with ⟨hnone, hall⟩ | ⟨⟨decision, index⟩, hmem, heligible, hscan, hbest⟩
  · refine .inl ⟨hnone, fun decision hdecision => ?_⟩
    obtain ⟨index, hindex⟩ := List.mem_iff_getElem?.mp hdecision
    exact hall (decision, index) (List.mk_mem_zipIdx_iff_getElem?.mpr hindex)
  · refine .inr ⟨decision, index, List.mk_mem_zipIdx_iff_getElem?.mp hmem, heligible,
      hscan, ?_⟩
    intro other place hplace hother
    rcases hbest (other, place) (List.mk_mem_zipIdx_iff_getElem?.mpr hplace) hother
      with heq | hpreferred
    · exact .inl (Prod.ext_iff.mp heq).2
    · exact .inr hpreferred

-- === reports

/-- A report with the best decision selected. -/
structure Selects (mode : PolicySelectionMode) (report : PolicyBatchReport α) :
    Prop where
  selected_iff : ∀ {index : Nat} {decision : PolicyGateDecision α},
    report.decisions[index]? = some decision →
    (decision.selected = true ↔ report.selectedIndex = some index)
  exists_iff : report.selectedIndex.isSome = true
    ↔ ∃ decision ∈ report.decisions, decision.policyEligible = true
      ∧ (decision.shieldDecision.map ShieldDecision.outcome = some .accept
        ∨ decision.shieldDecision.map ShieldDecision.outcome = some .repair)
  best : ∀ {index : Nat}, report.selectedIndex = some index →
    ∃ decision, report.decisions[index]? = some decision
      ∧ decision.eligible = true
      ∧ ∀ {other : PolicyGateDecision α} {place : Nat},
        report.decisions[place]? = some other → other.eligible = true →
        place = index ∨ Preferred mode (decision, index) (other, place)

omit [NumberScalar α] in
/-- No repaired action is selected where one is accepted. -/
theorem Selects.accepts {mode : PolicySelectionMode} {report : PolicyBatchReport α}
    (h : Selects mode report) {index : Nat} {decision : PolicyGateDecision α}
    (hdecision : report.decisions[index]? = some decision)
    (hselected : decision.selected = true) {other : PolicyGateDecision α}
    (hother : other ∈ report.decisions)
    (haccept : other.shieldDecision.map ShieldDecision.outcome = some .accept) :
    decision.shieldDecision.map ShieldDecision.outcome = some .accept := by
  obtain ⟨best, hbest, -, hpreferred⟩ := h.best ((h.selected_iff hdecision).mp hselected)
  rw [hdecision, Option.some.injEq] at hbest
  subst hbest
  obtain ⟨place, hplace⟩ := List.mem_iff_getElem?.mp hother
  have heligible : other.eligible = true := eligible_of_outcome (.inl haccept)
  rcases hpreferred hplace heligible with rfl | hfirst | ⟨hnot, -⟩
  · rw [hdecision, Option.some.injEq] at hplace
    rwa [hplace]
  · exact hfirst.1
  · by_contra hrefused
    exact hnot ⟨haccept, hrefused⟩

omit [NumberScalar α] in
theorem decisions_report (checked : List (CheckedProposal α)) (index : Nat) :
    (report P batch checked).decisions[index]?
      = checked[index]?.map fun c =>
        finished P (report P batch checked).selectedIndex c index := by
  show ((checked.zipIdx.map _).map fun c : CheckedProposal α => c.decision)[index]? = _
  rw [List.map_map, List.getElem?_map, List.getElem?_zipIdx, Option.map_map]
  simp only [Nat.zero_add]
  rfl

omit [NumberScalar α] in
/-- What is preferred is not about what is selected. -/
theorem preferred_finished {mode : PolicySelectionMode} {selected : Option Nat}
    {first second : CheckedProposal α} {index place : Nat} :
    Preferred mode (finished P selected first index, index)
        (finished P selected second place, place)
      ↔ Preferred mode (first.decision, index) (second.decision, place) := by
  cases mode
  · exact Iff.rfl
  · exact Iff.rfl
  · exact Iff.rfl

/-- The report of checked proposals. -/
theorem selects_report {checked : List (CheckedProposal α)}
    (h : ∀ c ∈ checked, Checked batch c) :
    Selects batch.options.selectionMode (report P batch checked) := by
  have hmetadata : ∀ decision ∈ checked.map (·.decision),
      decision.metadata.validate [] = .ok () := by
    intro decision hmem
    obtain ⟨c, hc, rfl⟩ := List.mem_map.mp hmem
    exact (h c hc).metadata
  have hindex : (report P batch checked).selectedIndex
      = (selectDecision batch.options.selectionMode
        (checked.map (·.decision)).zipIdx none).map Prod.snd := rfl
  have hat : ∀ {index : Nat} {decision : PolicyGateDecision α},
      (report P batch checked).decisions[index]? = some decision →
      ∃ c, checked[index]? = some c ∧ decision
        = finished P (report P batch checked).selectedIndex c index := by
    intro index decision hdecision
    rw [decisions_report] at hdecision
    obtain ⟨c, hc, hfinished⟩ := Option.map_eq_some_iff.mp hdecision
    exact ⟨c, hc, hfinished.symm⟩
  have hof : ∀ {index : Nat} {decision : PolicyGateDecision α},
      (checked.map (·.decision))[index]? = some decision →
      ∃ c, checked[index]? = some c ∧ decision = c.decision := by
    intro index decision hdecision
    rw [List.getElem?_map] at hdecision
    obtain ⟨c, hc, rfl⟩ := Option.map_eq_some_iff.mp hdecision
    exact ⟨c, hc, rfl⟩
  have hspec := @selectDecision_spec _ _ _ batch.options.selectionMode _ hmetadata
  refine ⟨?_, ?_, ?_⟩
  · intro index decision hdecision
    obtain ⟨c, -, rfl⟩ := hat hdecision
    exact decide_eq_true_iff
  · constructor
    · intro hsome
      rcases hspec with ⟨hnone, -⟩ | ⟨decision, index, hdecision, heligible, -, -⟩
      · rw [hindex, hnone] at hsome
        cases hsome
      · obtain ⟨c, hc, rfl⟩ := hof hdecision
        refine ⟨finished P (report P batch checked).selectedIndex c index,
          List.mem_of_getElem? (i := index) ?_, ?_, outcome_of_eligible heligible⟩
        · rw [decisions_report, hc]
          rfl
        · rcases (h c (List.mem_of_getElem? hc)).shielded with ⟨-, hnone, -⟩
            | ⟨_, htrue, -⟩
          · unfold PolicyGateDecision.eligible at heligible
            rw [hnone] at heligible
            cases heligible
          · exact htrue
    · intro houtcomes
      obtain ⟨decision, hmem, -, houtcome⟩ := houtcomes
      obtain ⟨index, hdecision⟩ := List.mem_iff_getElem?.mp hmem
      obtain ⟨c, hc, rfl⟩ := hat hdecision
      rcases hspec with ⟨-, hall⟩ | ⟨_, _, _, _, hselect, -⟩
      · have hnot := hall c.decision (List.mem_map.mpr ⟨c, List.mem_of_getElem? hc, rfl⟩)
        have heligible : c.decision.eligible = true := eligible_of_outcome houtcome
        rw [heligible] at hnot
        cases hnot
      · rw [hindex, hselect]
        rfl
  · intro index hselected
    rcases hspec with ⟨hnone, -⟩ | ⟨decision, place, hdecision, heligible, hselect, hbest⟩
    · rw [hindex, hnone] at hselected
      cases hselected
    · rw [hindex, hselect, Option.map_some, Option.some.injEq] at hselected
      subst hselected
      obtain ⟨c, hc, rfl⟩ := hof hdecision
      refine ⟨finished P (report P batch checked).selectedIndex c place, ?_,
        heligible, ?_⟩
      · rw [decisions_report, hc]
        rfl
      · intro other otherPlace hother hel
        obtain ⟨c', hc', rfl⟩ := hat hother
        have hplace : (checked.map (·.decision))[otherPlace]? = some c'.decision := by
          rw [List.getElem?_map, hc']
          rfl
        rw [preferred_finished]
        exact hbest hplace hel

end
end LearningPolicySafetyGate
end RbfSafe.Atlas
