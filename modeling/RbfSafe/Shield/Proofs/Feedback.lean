/-
What the calls of a gate leave behind.

A report that comes back has its records checked by nobody; the database
checks them all over again, by rules of its own. They pass, since an atlas
has at most as many dimensions as a robot has joints, which is below the
limit of a record. So reports are stored as long as no two records are the
same and the budget lasts, and a database that refuses stays as it was.

The counters of a gate are `uint64_t`. Each decision is counted twice, as
refused by the policy or checked, and then under the outcome of its check,
so the counters add up after any calls.
-/
import RbfSafe.Core.Kinematics
import RbfSafe.Atlas.Builder
import RbfSafe.Core.Host
import RbfSafe.Shield.Proofs.Policy

namespace RbfSafe.Atlas

-- === dimensions

/-- The dimensions of an atlas: `SafeAtlas::load` refuses more, and so does
the tree an atlas is built over. -/
def SafeAtlas.Sized {α : Type} (atlas : SafeAtlas α) : Prop :=
  atlas.dimension ≤ LectTree.kMaximumDimension

-- === database

namespace PolicyFeedbackDatabase

section
variable {α : Type} [MetricScalar α] {P : Platform}

/-- Records that pass their check, no two of which are the same. -/
def Admissible (P : Platform) (records : List (PolicyFeedbackRecord α)) : Prop :=
  (∀ record ∈ records, record.validate P = .ok ())
    ∧ (records.map (·.id)).Nodup

theorem insertAll_iff {records : List (PolicyFeedbackRecord α)} :
    ∀ {identities : List Bytes}, insertAll P identities records = .ok ()
      ↔ Admissible P records ∧ ∀ record ∈ records, record.id ∉ identities := by
  induction records with
  | nil => simp [insertAll, Admissible]
  | cons record rest ih =>
      intro identities
      unfold insertAll Admissible
      rw [check_eq_ok, ite_failure_eq_ok, ih, Admissible, List.forall_mem_cons,
        List.forall_mem_cons]
      simp only [List.map_cons, List.nodup_cons, List.mem_map, not_exists, not_and,
        List.mem_cons, not_or]
      constructor
      · intro h
        obtain ⟨hvalid, hnew, ⟨hall, hnodup⟩, hlater⟩ := h
        exact ⟨⟨⟨hvalid, hall⟩, fun other hother => (hlater other hother).1, hnodup⟩,
          hnew, fun other hother => (hlater other hother).2⟩
      · intro h
        obtain ⟨⟨⟨hvalid, hall⟩, hdiffers, hnodup⟩, hnew, hlater⟩ := h
        exact ⟨hvalid, hnew, ⟨hall, hnodup⟩,
          fun other hother => ⟨hdiffers other hother, hlater other hother⟩⟩

/-- A database is valid if its records are admissible. -/
theorem valid_iff {database : PolicyFeedbackDatabase α} :
    database.valid P = true ↔ Admissible P database.records := by
  have hinsert : insertAll P [] database.records = .ok () ↔ _ := insertAll_iff
  unfold valid
  cases h : insertAll P [] database.records with
  | ok value =>
      have hadmissible := hinsert.mp h
      simp [Except.isOk, Except.toBool, hadmissible.1]
  | error e =>
      have hnot : ¬Admissible P database.records := fun hadmissible => by
        rw [hinsert.mpr ⟨hadmissible, fun _ _ => List.not_mem_nil⟩] at h
        cases h
      simp [Except.isOk, Except.toBool, hnot]

theorem create_eq {records : List (PolicyFeedbackRecord α)}
    (h : Admissible P records) : create P records = .ok { records } := by
  unfold create
  rw [check_eq_ok]
  exact ⟨insertAll_iff.mpr ⟨h, fun _ _ => List.not_mem_nil⟩, rfl⟩

/-- A database takes records within its budget. -/
theorem append_eq {database : PolicyFeedbackDatabase α}
    {records : List (PolicyFeedbackRecord α)} {maximumRecords : Nat}
    (h : Admissible P (database.records ++ records)) :
    append P database records maximumRecords =
      if 0 < maximumRecords
          ∧ database.records.length + records.length ≤ maximumRecords then
        (.ok (), { records := database.records ++ records })
      else (failure .resourceLimit
        "policy feedback database exceeds record budget", database) := by
  obtain ⟨hvalid, hnodup⟩ := h
  rw [List.map_append, List.nodup_append] at hnodup
  have hinsert : insertAll P (database.records.map (·.id)) records = .ok () := by
    refine insertAll_iff.mpr ⟨⟨?_, hnodup.2.1⟩, ?_⟩
    · exact fun record hmem => hvalid record (List.mem_append_right _ hmem)
    · intro record hmem hold
      exact hnodup.2.2 _ hold _ (List.mem_map_of_mem hmem) rfl
  unfold append
  by_cases hbudget : 0 < maximumRecords
      ∧ database.records.length + records.length ≤ maximumRecords
  · rw [if_pos hbudget, if_neg (by omega), hinsert]
  · rw [if_neg hbudget, if_pos (by omega)]
    rfl

/-- A database that refuses is left as it was. -/
theorem append_failure {database : PolicyFeedbackDatabase α}
    {records : List (PolicyFeedbackRecord α)} {maximumRecords : Nat}
    (h : (append P database records maximumRecords).1 ≠ .ok ()) :
    (append P database records maximumRecords).2 = database := by
  unfold append at h ⊢
  dsimp only at h ⊢
  split
  · rename_i hok
    rw [hok] at h
    exact absurd rfl h
  · rfl

end

end PolicyFeedbackDatabase

-- === counters

/-- Counters that add up. -/
structure PolicyTelemetrySnapshot.Balanced (telemetry : PolicyTelemetrySnapshot) :
    Prop where
  proposals : telemetry.proposals
    = telemetry.policyRejections + telemetry.shieldChecks
  checks : telemetry.shieldChecks = telemetry.shieldAccepts
    + telemetry.shieldRepairs + telemetry.shieldRejections

/-- Counters that add up once some more decisions are counted. -/
structure PolicyTelemetrySnapshot.Owing (telemetry : PolicyTelemetrySnapshot)
    (n : Nat) : Prop where
  proposals : telemetry.proposals
    = telemetry.policyRejections + telemetry.shieldChecks + n.toUInt64
  checks : telemetry.shieldChecks = telemetry.shieldAccepts
    + telemetry.shieldRepairs + telemetry.shieldRejections

section
variable {α : Type} [Scalar α]

theorem PolicyTelemetrySnapshot.Owing.count {telemetry : PolicyTelemetrySnapshot}
    {n : Nat} {decision : PolicyGateDecision α} (h : telemetry.Owing (n + 1))
    (hshield : decision.policyEligible = true →
      decision.shieldDecision.isSome = true) :
    (telemetry.count decision).Owing n := by
  have hproposals : telemetry.proposals
      = telemetry.policyRejections + telemetry.shieldChecks + (n.toUInt64 + 1) := by
    rw [h.proposals, Nat.toUInt64_eq, Nat.toUInt64_eq, UInt64.ofNat_add]
    rfl
  have hchecks := h.checks
  unfold PolicyTelemetrySnapshot.count
  by_cases heligible : decision.policyEligible = false
  · rw [if_pos heligible]
    constructor
    · show telemetry.proposals
        = telemetry.policyRejections + 1 + telemetry.shieldChecks + n.toUInt64
      rw [hproposals]
      grind
    · exact hchecks
  · rw [if_neg heligible]
    obtain ⟨shield, hsome⟩ := Option.isSome_iff_exists.mp
      (hshield (Bool.eq_true_of_not_eq_false heligible))
    rw [hsome, Option.map_some]
    have hnext : telemetry.proposals
        = telemetry.policyRejections + (telemetry.shieldChecks + 1) + n.toUInt64 := by
      rw [hproposals]
      grind
    cases shield.outcome with
    | accept =>
        refine ⟨hnext, ?_⟩
        show telemetry.shieldChecks + 1 = telemetry.shieldAccepts + 1
          + telemetry.shieldRepairs + telemetry.shieldRejections
        rw [hchecks]
        grind
    | repair =>
        refine ⟨hnext, ?_⟩
        show telemetry.shieldChecks + 1 = telemetry.shieldAccepts
          + (telemetry.shieldRepairs + 1) + telemetry.shieldRejections
        rw [hchecks]
        grind
    | reject =>
        refine ⟨hnext, ?_⟩
        show telemetry.shieldChecks + 1 = telemetry.shieldAccepts
          + telemetry.shieldRepairs + (telemetry.shieldRejections + 1)
        rw [hchecks]
        grind

/-- The loop of `accumulate_telemetry`. -/
theorem PolicyTelemetrySnapshot.Owing.countAll :
    ∀ {decisions : List (PolicyGateDecision α)} {telemetry : PolicyTelemetrySnapshot},
      (∀ decision ∈ decisions, decision.policyEligible = true →
        decision.shieldDecision.isSome = true) →
      telemetry.Owing decisions.length →
      (decisions.foldl PolicyTelemetrySnapshot.count telemetry).Owing 0 := by
  intro decisions
  induction decisions with
  | nil => exact fun _ h => h
  | cons decision rest ih =>
      intro telemetry hshield h
      apply ih fun other hother => hshield other (List.mem_cons_of_mem _ hother)
      exact h.count (hshield decision List.mem_cons_self)

theorem PolicyTelemetrySnapshot.Balanced.accumulate
    {telemetry : PolicyTelemetrySnapshot} {report : PolicyBatchReport α}
    (h : telemetry.Balanced)
    (hshield : ∀ decision ∈ report.decisions, decision.policyEligible = true →
      decision.shieldDecision.isSome = true) :
    (telemetry.accumulate report).Balanced := by
  have howing : (telemetry.accumulate report).Owing 0 :=
    PolicyTelemetrySnapshot.Owing.countAll hshield ⟨by rw [h.proposals], h.checks⟩
  refine ⟨?_, howing.checks⟩
  have hproposals := howing.proposals
  rwa [show (0 : Nat).toUInt64 = 0 from rfl, UInt64.add_zero] at hproposals

end

-- === calls

namespace LearningPolicySafetyGate

section
variable {α : Type} [InverseScalar α] {P : Platform}

/-- What is done with a gate. -/
inductive GateCall (α : Type) [InverseScalar α] where
  | checkProposals (batch : Batch α) (proposals : List (PolicyProposal α))
  | resetTelemetry

/-- The telemetry after a call: one that fails, or that does not return,
counts nothing. -/
def GateCall.run (P : Platform) (telemetry : PolicyTelemetrySnapshot) :
    GateCall α → PolicyTelemetrySnapshot
  | .checkProposals batch proposals =>
      match (LearningPolicySafetyGate.checkProposals P batch telemetry proposals).run with
      | some (.ok (_, after)) => after
      | _ => telemetry
  | .resetTelemetry => {}

/-- The telemetry of a gate after calls, in any order. -/
def telemetryAfter (P : Platform) (calls : List (GateCall α)) :
    PolicyTelemetrySnapshot :=
  calls.foldl (GateCall.run P) {}

/-- A report that a gate gave, with the batch it was for. -/
def Answered (P : Platform) (batch : Batch α) (report : PolicyBatchReport α) : Prop :=
  ∃ telemetry proposals after,
    (checkProposals P batch telemetry proposals).run = some (.ok (report, after))

/-- The records of some reports, one report after the other. -/
def feedbackOf (answers : List (Batch α × PolicyBatchReport α)) :
    List (PolicyFeedbackRecord α) :=
  answers.flatMap (·.2.feedback)

variable [NumberScalar α]

/-- What a call that returns has checked. -/
theorem returns_checkProposals {batch : Batch α} {telemetry : PolicyTelemetrySnapshot}
    {proposals : List (PolicyProposal α)}
    {result : PolicyBatchReport α × PolicyTelemetrySnapshot}
    (h : Returns (checkProposals P batch telemetry proposals) result) :
    ∃ checked, (∀ c ∈ checked, Checked batch c)
      ∧ validSha256 batch.atlas.robotDigest = true
      ∧ validSha256 batch.atlas.sceneDigest = true
      ∧ result = (report P batch checked,
        telemetry.accumulate (report P batch checked)) := by
  unfold checkProposals at h
  obtain ⟨⟨⟩, hchecks, h⟩ := returns_bind.mp h
  obtain ⟨-, hchecks⟩ := check_eq_ok.mp (returns_lift.mp hchecks)
  obtain ⟨-, hchecks⟩ := ite_failure_eq_ok.mp hchecks
  obtain ⟨-, hchecks⟩ := ite_failure_eq_ok.mp hchecks
  obtain ⟨-, hchecks⟩ := ite_failure_eq_ok.mp hchecks
  obtain ⟨hcompatible, hcurrent⟩ := check_eq_ok.mp hchecks
  obtain ⟨checked, hchecked, h⟩ := returns_bind.mp h
  -- the digests are those of the robot and the scene
  obtain ⟨-, hcompatible⟩ := check_eq_ok.mp hcompatible
  obtain ⟨-, hcompatible⟩ := check_eq_ok.mp hcompatible
  obtain ⟨hrobot, hcompatible⟩ := ite_failure_eq_ok.mp hcompatible
  obtain ⟨hscene, -⟩ := ite_failure_eq_ok.mp hcompatible
  refine ⟨checked, checked_all (validateConfiguration_ok.mp hcurrent) hchecked,
    ?_, ?_, (returns_pure.mp h).symm⟩
  · rw [← not_not.mp hrobot]
    exact P.validSha256_digest _
  · rw [← not_not.mp hscene]
    exact P.validSha256_digest _

omit [NumberScalar α] in
/-- The decision that a place of the report holds. -/
theorem mem_decisions_report {batch : Batch α} {checked : List (CheckedProposal α)}
    {decision : PolicyGateDecision α}
    (h : decision ∈ (report P batch checked).decisions) :
    ∃ c ∈ checked, ∃ index,
      decision = finished P (report P batch checked).selectedIndex c index := by
  obtain ⟨index, hindex⟩ := List.mem_iff_getElem?.mp h
  rw [decisions_report] at hindex
  obtain ⟨c, hc, rfl⟩ := Option.map_eq_some_iff.mp hindex
  exact ⟨c, List.mem_of_getElem? hc, index, rfl⟩

/-- **Every record of a report passes its check.** -/
theorem validate_feedback {batch : Batch α} {report : PolicyBatchReport α}
    (h : Answered P batch report) (hsized : batch.atlas.Sized)
    {record : PolicyFeedbackRecord α} (hrecord : record ∈ report.feedback) :
    record.validate P = .ok () := by
  obtain ⟨telemetry, proposals, after, hreturns⟩ := h
  obtain ⟨checked, hchecked, hrobot, hscene, hresult⟩ := returns_checkProposals hreturns
  cases hresult
  obtain ⟨c', hc', rfl⟩ := List.mem_map.mp hrecord
  obtain ⟨p, hp, rfl⟩ := List.mem_map.mp hc'
  have hc : p.1 ∈ checked := List.fst_mem_of_mem_zipIdx hp
  have hkept := kept_makeFeedback (P := P) (hchecked p.1 hc) hrobot hscene
    (LearningPolicySafetyGate.report P batch checked).selectedIndex p.2
  exact hkept.validate (le_trans hsized (by decide)) rfl

/-- **The counters add up after any calls.** -/
theorem balanced_telemetryAfter (calls : List (GateCall α)) :
    (telemetryAfter P calls).Balanced := by
  have hrun : ∀ {telemetry : PolicyTelemetrySnapshot} (call : GateCall α),
      telemetry.Balanced → (call.run P telemetry).Balanced := by
    intro telemetry call h
    cases call with
    | resetTelemetry => exact ⟨rfl, rfl⟩
    | checkProposals batch proposals =>
        dsimp only [GateCall.run]
        split
        · rename_i report after hreturns
          obtain ⟨checked, hchecked, -, -, hresult⟩ := returns_checkProposals hreturns
          cases hresult
          apply h.accumulate
          intro decision hmem heligible
          obtain ⟨c, hc, index, rfl⟩ := mem_decisions_report hmem
          rcases (hchecked c hc).shielded with ⟨hnot, -⟩ | ⟨shield, -, hsome, -⟩
          · rw [show c.decision.policyEligible = true from heligible] at hnot
            cases hnot
          · exact Option.isSome_iff_exists.mpr ⟨shield, hsome⟩
        · exact h
  have hfold : ∀ (calls : List (GateCall α)) {telemetry : PolicyTelemetrySnapshot},
      telemetry.Balanced → (calls.foldl (GateCall.run P) telemetry).Balanced := by
    intro calls
    induction calls with
    | nil => exact fun h => h
    | cons call rest ih => exact fun h => ih (hrun call h)
  exact hfold calls ⟨rfl, rfl⟩

/-- What a report says of the selection. -/
theorem selects_of_answered {batch : Batch α} {report : PolicyBatchReport α}
    (h : Answered P batch report) : Selects batch.options.selectionMode report := by
  obtain ⟨telemetry, proposals, after, hreturns⟩ := h
  obtain ⟨checked, hchecked, -, -, hresult⟩ := returns_checkProposals hreturns
  cases hresult
  exact selects_report hchecked

omit [NumberScalar α] in
/-- At most one decision is selected. -/
theorem Selects.one {mode : PolicySelectionMode} {report : PolicyBatchReport α}
    (h : Selects mode report) {index place : Nat} {first second : PolicyGateDecision α}
    (hfirst : report.decisions[index]? = some first) (hselected : first.selected = true)
    (hsecond : report.decisions[place]? = some second)
    (hother : second.selected = true) : index = place := by
  have hindex := (h.selected_iff hfirst).mp hselected
  rw [(h.selected_iff hsecond).mp hother] at hindex
  exact (Option.some.inj hindex).symm

end

end LearningPolicySafetyGate

open LearningPolicySafetyGate PolicyFeedbackDatabase

section
variable {α : Type} [InverseScalar α] [NumberScalar α]

end

-- === one refusal

section

attribute [local instance] sampleInverse

/-- A batch over its atlas, of a gate that asks for full confidence. -/
def gateBatch (P : Platform) : Batch Float where
  robot := gateRobot
  scene := gateScene
  atlas := gateAtlas P
  queryIndex := none
  current := [Scalar.zero]
  options :=
    { minimumConfidence := Scalar.one
      maximumStateUncertainty := Scalar.one
      maximumActionUncertainty := Scalar.one
      maximumObservationAgeSeconds := Scalar.one
      maximumInferenceLatencySeconds := Scalar.one
      shield := gateShieldOptions }
  cancelled _ := false
  shieldCancelled _ _ := false

/-- A proposal of half the confidence. -/
def doubtfulProposal : PolicyProposal Float where
  action := .jointDelta [Scalar.half]
  metadata :=
    { policyId := ascii "policy"
      taskId := ascii "task"
      confidence := Scalar.half
      stateUncertainty := Scalar.zero
      actionUncertainty := Scalar.zero
      observationAgeSeconds := Scalar.zero
      inferenceLatencySeconds := Scalar.zero }

/-- What the gate makes of it. -/
def doubtfulChecked (P : Platform) : CheckedProposal Float where
  decision :=
    { metadata := doubtfulProposal.metadata
      proposalId := proposalIdentity P doubtfulProposal
      reason := .confidenceBelowMinimum }
  actionType := .jointDelta
  requestedTarget := [Scalar.add Scalar.zero Scalar.half]

theorem half_below_one : Scalar.lt (Scalar.half : Float) Scalar.one = true
    ∧ Scalar.lt (Scalar.one : Float) Scalar.one = false
    ∧ nonNegativeNumber (Scalar.one : Float) = true := by
  decide

theorem answered_doubtful (P : Platform) :
    Answered P (gateBatch P) (report P (gateBatch P) [doubtfulChecked P]) := by
  refine ⟨{}, [doubtfulProposal], _, returns_bind.mpr ⟨(), returns_lift.mpr ?_,
    returns_bind.mpr ⟨[doubtfulChecked P], ?_, returns_pure.mpr rfl⟩⟩⟩
  · have hoptions : (gateBatch P).options.validate = .ok () := by
      unfold PolicyGateOptions.validate
      rw [ite_failure_eq_ok]
      simp [gateBatch, half_below_one]
    rw [check_eq_ok, ite_failure_eq_ok, ite_failure_eq_ok, ite_failure_eq_ok, check_eq_ok]
    exact ⟨hoptions, by decide, (by decide : ¬256 < 1), (by decide : ¬false = true),
      compatible_gateAtlas P, rfl⟩
  · refine returns_bind.mpr ⟨doubtfulChecked P, ?_,
      returns_bind.mpr ⟨[], returns_pure.mpr rfl, returns_pure.mpr rfl⟩⟩
    refine returns_bind.mpr ⟨[Scalar.add Scalar.zero Scalar.half], returns_lift.mpr rfl,
      returns_ite.mpr (.inr ⟨List.not_mem_nil, ?_⟩)⟩
    have hrejected : rejectedByPolicy doubtfulProposal.metadata (gateBatch P).options
        = some .confidenceBelowMinimum := if_pos half_below_one.1
    rw [hrejected]
    exact returns_pure.mpr rfl

end

end RbfSafe.Atlas
