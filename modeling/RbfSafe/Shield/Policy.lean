/-
`policy.cpp`: the gate between a learned policy and the shield.

Every proposal of a batch is checked: the metadata, the action, that no
other proposal is the same, the thresholds of the policy, and, if it meets
them, the shield. Of the proposals the shield accepts or repairs a scan
selects one, and every proposal leaves a feedback record. The records are
kept in a database that admits a list of records as a whole.

The answers of the cancellation token are a function of the proposal and of
where its check is. The queries, the summary and the persistence of the
database are not here.
-/
import RbfSafe.Shield.Shield

namespace RbfSafe.Atlas

open Json

-- === types

/-- `PolicySelectionMode`. -/
inductive PolicySelectionMode where
  | inputOrder
  | highestConfidence
  | lowestUncertainty
deriving DecidableEq, Repr

/-- `PolicyGateReason`. -/
inductive PolicyGateReason where
  | shieldAccepted
  | shieldRepaired
  | confidenceBelowMinimum
  | stateUncertaintyExceeded
  | actionUncertaintyExceeded
  | observationTooOld
  | inferenceLatencyExceeded
  | shieldRejected
deriving DecidableEq, Repr

/-- `PolicyFeedbackLabel`. -/
inductive PolicyFeedbackLabel where
  | selectedAccepted
  | selectedRepaired
  | eligibleNotSelected
  | policyRejected
  | shieldRejected
deriving DecidableEq, Repr

/-- The enumerators as numbers. -/
def PolicyGateReason.toNat : PolicyGateReason → Nat
  | .shieldAccepted => 0
  | .shieldRepaired => 1
  | .confidenceBelowMinimum => 2
  | .stateUncertaintyExceeded => 3
  | .actionUncertaintyExceeded => 4
  | .observationTooOld => 5
  | .inferenceLatencyExceeded => 6
  | .shieldRejected => 7

def PolicyFeedbackLabel.toNat : PolicyFeedbackLabel → Nat
  | .selectedAccepted => 0
  | .selectedRepaired => 1
  | .eligibleNotSelected => 2
  | .policyRejected => 3
  | .shieldRejected => 4

def kMaximumMetadataStringBytes : Nat := 256

def kMaximumConfigurationDimension : Nat := 128

section
variable (α : Type)

/-- `PolicyProposalMetadata`. -/
structure PolicyProposalMetadata where
  policyId : Bytes
  taskId : Bytes
  episodeId : Bytes := []
  sequence : UInt64 := 0
  confidence : α
  stateUncertainty : α
  actionUncertainty : α
  observationAgeSeconds : α
  inferenceLatencySeconds : α

/-- `PolicyProposal`. -/
structure PolicyProposal where
  action : ShieldAction α
  metadata : PolicyProposalMetadata α

/-- `PolicyGateOptions`. -/
structure PolicyGateOptions where
  minimumConfidence : α
  maximumStateUncertainty : α
  maximumActionUncertainty : α
  maximumObservationAgeSeconds : α
  maximumInferenceLatencySeconds : α
  maximumProposals : Nat := 256
  selectionMode : PolicySelectionMode := .inputOrder
  shield : ShieldOptions α

/-- `PolicyGateDecision`. -/
structure PolicyGateDecision [Scalar α] where
  id : Bytes := []
  proposalId : Bytes
  metadata : PolicyProposalMetadata α
  policyEligible : Bool := false
  selected : Bool := false
  reason : PolicyGateReason := .confidenceBelowMinimum
  shieldDecision : Option (ShieldDecision α) := none
  evidence : EvidenceLevel := .unknown

/-- `PolicyFeedbackRecord`. -/
structure PolicyFeedbackRecord where
  id : Bytes := []
  proposalId : Bytes
  policyDecisionId : Bytes
  shieldDecisionId : Bytes := []
  robotDigest : Bytes
  sceneDigest : Bytes
  metadata : PolicyProposalMetadata α
  label : PolicyFeedbackLabel
  reason : PolicyGateReason
  actionType : ShieldActionType
  requestedTarget : List α
  outputTarget : List α := []
  repairDistance : α
  evidence : EvidenceLevel

/-- `PolicyBatchReport`. -/
structure PolicyBatchReport [Scalar α] where
  decisions : List (PolicyGateDecision α)
  feedback : List (PolicyFeedbackRecord α)
  selectedIndex : Option Nat

end

/-- `PolicyTelemetrySnapshot`. -/
structure PolicyTelemetrySnapshot where
  batches : UInt64 := 0
  proposals : UInt64 := 0
  policyRejections : UInt64 := 0
  shieldChecks : UInt64 := 0
  shieldAccepts : UInt64 := 0
  shieldRepairs : UInt64 := 0
  shieldRejections : UInt64 := 0
  selectedAccepts : UInt64 := 0
  selectedRepairs : UInt64 := 0

-- === checks

section
variable {α : Type} [Scalar α]

/-- A finite number that is not negative. -/
def nonNegativeNumber (value : α) : Bool :=
  Scalar.isFinite value && !Scalar.lt value Scalar.zero

/-- `validate_metadata`. -/
def PolicyProposalMetadata.validate (metadata : PolicyProposalMetadata α)
    (context : Bytes) : Result Unit :=
  if metadata.policyId = [] ∨ metadata.taskId = []
      ∨ kMaximumMetadataStringBytes < metadata.policyId.length
      ∨ kMaximumMetadataStringBytes < metadata.taskId.length
      ∨ kMaximumMetadataStringBytes < metadata.episodeId.length then
    failure .invalidArgument
      "policy metadata identifiers are empty or too long" context
  else if nonNegativeNumber metadata.confidence = false
      ∨ Scalar.lt Scalar.one metadata.confidence = true
      ∨ nonNegativeNumber metadata.stateUncertainty = false
      ∨ nonNegativeNumber metadata.actionUncertainty = false
      ∨ nonNegativeNumber metadata.observationAgeSeconds = false
      ∨ nonNegativeNumber metadata.inferenceLatencySeconds = false then
    failure .invalidArgument
      "policy confidence, uncertainty, age, or latency is invalid" context
  else .ok ()

/-- `validate_options`. -/
def PolicyGateOptions.validate (options : PolicyGateOptions α) : Result Unit :=
  if nonNegativeNumber options.minimumConfidence = false
      ∨ Scalar.lt Scalar.one options.minimumConfidence = true
      ∨ nonNegativeNumber options.maximumStateUncertainty = false
      ∨ nonNegativeNumber options.maximumActionUncertainty = false
      ∨ nonNegativeNumber options.maximumObservationAgeSeconds = false
      ∨ nonNegativeNumber options.maximumInferenceLatencySeconds = false
      ∨ options.maximumProposals = 0 then
    failure .invalidArgument "policy gate options are invalid"
      (ascii "policy gate")
  else .ok ()

/-- `action_type`. -/
def ShieldAction.actionType : ShieldAction α → ShieldActionType
  | .jointDelta _ => .jointDelta
  | .endEffector _ => .endEffectorPose
  | .trajectory _ => .trajectory

/-- The loop over the waypoints of a policy trajectory. -/
def checkPolicyWaypoints (dimension : Nat) : List (List α) → Result Unit
  | [] => .ok ()
  | waypoint :: rest => do
      validateConfiguration waypoint dimension (ascii "policy trajectory")
      checkPolicyWaypoints dimension rest

/-- `rejected_by_policy`. -/
def rejectedByPolicy (metadata : PolicyProposalMetadata α)
    (options : PolicyGateOptions α) : Option PolicyGateReason :=
  if Scalar.lt metadata.confidence options.minimumConfidence then
    some .confidenceBelowMinimum
  else if Scalar.lt options.maximumStateUncertainty metadata.stateUncertainty then
    some .stateUncertaintyExceeded
  else if Scalar.lt options.maximumActionUncertainty
      metadata.actionUncertainty then
    some .actionUncertaintyExceeded
  else if Scalar.lt options.maximumObservationAgeSeconds
      metadata.observationAgeSeconds then
    some .observationTooOld
  else if Scalar.lt options.maximumInferenceLatencySeconds
      metadata.inferenceLatencySeconds then
    some .inferenceLatencyExceeded
  else none

end

-- === identity

section
variable {α : Type} [MetricScalar α] (P : Platform)

/-- `validate_action_and_target`. -/
def validateActionAndTarget (action : ShieldAction α) (current : List α)
    (options : PolicyGateOptions α) : Result (List α) :=
  match action with
  | .jointDelta delta => do
      validateConfiguration delta current.length (ascii "policy joint delta")
      let target := (current.zip delta).map fun p => Scalar.add p.1 p.2
      if target.all Scalar.isFinite then .ok target
      else failure .invalidArgument "policy joint target is not finite"
  | .endEffector target =>
      if target.valid (Scalar.decimal 1 9) = false then
        failure .invalidArgument "policy end-effector target is invalid"
      else .ok []
  | .trajectory waypoints =>
      if waypoints = [] then
        failure .invalidArgument "policy trajectory is empty"
      else if options.shield.maximumInputWaypoints < waypoints.length then
        failure .resourceLimit "policy trajectory exceeds waypoint budget"
      else do
        checkPolicyWaypoints current.length waypoints
        .ok (waypoints.getLastD [])

/-- `metadata_json`. -/
def metadataJson (metadata : PolicyProposalMetadata α) : Json :=
  .object (obj
    [("action_uncertainty", MetricScalar.json metadata.actionUncertainty),
      ("confidence", MetricScalar.json metadata.confidence),
      ("episode_id", .string metadata.episodeId),
      ("inference_latency_seconds",
        MetricScalar.json metadata.inferenceLatencySeconds),
      ("observation_age_seconds",
        MetricScalar.json metadata.observationAgeSeconds),
      ("policy_id", .string metadata.policyId),
      ("sequence", .string (stdToString metadata.sequence.toNat)),
      ("state_uncertainty", MetricScalar.json metadata.stateUncertainty),
      ("task_id", .string metadata.taskId)])

/-- `proposal_identity`. -/
def proposalIdentity (proposal : PolicyProposal α) : Bytes :=
  P.sha256 (dump P.toLibc false 0 (.object (obj
    [("action_digest", .string (shieldActionDigest P proposal.action)),
      ("metadata", metadataJson proposal.metadata)])))

/-- `policy_decision_identity`. -/
def policyDecisionIdentity (decision : PolicyGateDecision α) : Bytes :=
  P.sha256 (dump P.toLibc false 0 (.object (obj
    [("evidence", num decision.evidence.toNat),
      ("metadata", metadataJson decision.metadata),
      ("policy_eligible", .bool decision.policyEligible),
      ("proposal_id", .string decision.proposalId),
      ("reason", num decision.reason.toNat),
      ("selected", .bool decision.selected),
      ("shield_decision_id",
        .string (decision.shieldDecision.elim [] (·.id)))])))

/-- `policy_feedback_record_identity`. -/
def policyFeedbackRecordIdentity (record : PolicyFeedbackRecord α) : Bytes :=
  P.sha256 (dump P.toLibc false 0 (.object (obj
    [("action_type", num record.actionType.toNat),
      ("evidence", num record.evidence.toNat),
      ("label", num record.label.toNat),
      ("metadata", metadataJson record.metadata),
      ("output_target", configurationJson record.outputTarget),
      ("policy_decision_id", .string record.policyDecisionId),
      ("proposal_id", .string record.proposalId),
      ("reason", num record.reason.toNat),
      ("repair_distance", MetricScalar.json record.repairDistance),
      ("requested_target", configurationJson record.requestedTarget),
      ("robot_digest", .string record.robotDigest),
      ("scene_digest", .string record.sceneDigest),
      ("shield_decision_id", .string record.shieldDecisionId)])))

-- === feedback

/-- `validate_policy_feedback_record`. -/
def PolicyFeedbackRecord.validate (record : PolicyFeedbackRecord α) :
    Result Unit := do
  record.metadata.validate (ascii "policy feedback")
  if validSha256 record.id = false ∨ validSha256 record.proposalId = false
      ∨ validSha256 record.policyDecisionId = false
      ∨ validSha256 record.robotDigest = false
      ∨ validSha256 record.sceneDigest = false
      ∨ (record.shieldDecisionId ≠ []
        ∧ validSha256 record.shieldDecisionId = false)
      ∨ nonNegativeNumber record.repairDistance = false
      ∨ record.evidence = .runtimeExecutable
      ∨ kMaximumConfigurationDimension < record.requestedTarget.length
      ∨ kMaximumConfigurationDimension < record.outputTarget.length
      ∨ (record.requestedTarget ≠ [] ∧ record.outputTarget ≠ []
        ∧ record.requestedTarget.length ≠ record.outputTarget.length)
      ∨ record.requestedTarget.all Scalar.isFinite = false
      ∨ record.outputTarget.all Scalar.isFinite = false then
    failure .invalidArgument "policy feedback record is invalid" record.id
  else if (record.label = .policyRejected
        ∧ (record.shieldDecisionId ≠ [] ∨ record.evidence ≠ .unknown))
      ∨ (record.label = .shieldRejected ∧ record.shieldDecisionId = [])
      ∨ ((record.label = .selectedAccepted ∨ record.label = .selectedRepaired
          ∨ record.label = .eligibleNotSelected)
        ∧ (record.shieldDecisionId = []
          ∨ record.evidence ≠ .certifiedConnectivity)) then
    failure .invalidArgument
      "policy feedback label contradicts its shield evidence" record.id
  else if record.id ≠ policyFeedbackRecordIdentity P record then
    failure .invalidArgument
      "policy feedback record identity is inconsistent" record.id
  else .ok ()

/-- `feedback_label`. -/
def feedbackLabel (decision : PolicyGateDecision α) : PolicyFeedbackLabel :=
  if decision.policyEligible = false then .policyRejected
  else
    match decision.shieldDecision.map ShieldDecision.outcome with
    | none => .shieldRejected
    | some .reject => .shieldRejected
    | some .accept =>
        if decision.selected then .selectedAccepted else .eligibleNotSelected
    | some .repair =>
        if decision.selected then .selectedRepaired else .eligibleNotSelected

/-- `make_feedback`. -/
def makeFeedback (decision : PolicyGateDecision α) (type : ShieldActionType)
    (requestedTarget : List α) (atlas : SafeAtlas α) : PolicyFeedbackRecord α :=
  let record : PolicyFeedbackRecord α :=
    { proposalId := decision.proposalId
      policyDecisionId := decision.id
      shieldDecisionId := decision.shieldDecision.elim [] (·.id)
      robotDigest := atlas.robotDigest
      sceneDigest := atlas.sceneDigest
      metadata := decision.metadata
      label := feedbackLabel decision
      reason := decision.reason
      actionType := type
      requestedTarget :=
        decision.shieldDecision.elim requestedTarget (·.requestedTarget)
      outputTarget :=
        decision.shieldDecision.elim [] (·.outputTrajectory.getLastD [])
      repairDistance := decision.shieldDecision.elim Scalar.zero (·.repairDistance)
      evidence := decision.evidence }
  { record with id := policyFeedbackRecordIdentity P record }

end

-- === selection

section
variable {α : Type} [Scalar α]

/-- `combined_uncertainty`. -/
def combinedUncertainty (metadata : PolicyProposalMetadata α) : α :=
  Scalar.add metadata.stateUncertainty metadata.actionUncertainty

/-- `preferred_candidate`, of decisions that have an outcome. -/
def preferredCandidate (candidate : PolicyGateDecision α) (candidateIndex : Nat)
    (incumbent : PolicyGateDecision α) (incumbentIndex : Nat)
    (mode : PolicySelectionMode) : Bool :=
  let confidence := candidate.metadata.confidence
  let incumbentConfidence := incumbent.metadata.confidence
  let uncertainty := combinedUncertainty candidate.metadata
  let incumbentUncertainty := combinedUncertainty incumbent.metadata
  let outcome := candidate.shieldDecision.map ShieldDecision.outcome
  if outcome ≠ incumbent.shieldDecision.map ShieldDecision.outcome then
    decide (outcome = some .accept)
  else
    match mode with
    | .inputOrder => false
    | .highestConfidence =>
        if !Scalar.eq confidence incumbentConfidence then
          Scalar.lt incumbentConfidence confidence
        else if !Scalar.eq uncertainty incumbentUncertainty then
          Scalar.lt uncertainty incumbentUncertainty
        else decide (candidateIndex < incumbentIndex)
    | .lowestUncertainty =>
        if !Scalar.eq uncertainty incumbentUncertainty then
          Scalar.lt uncertainty incumbentUncertainty
        else if !Scalar.eq confidence incumbentConfidence then
          Scalar.lt incumbentConfidence confidence
        else decide (candidateIndex < incumbentIndex)

/-- Whether the loop of the selection looks at a decision. -/
def PolicyGateDecision.eligible (decision : PolicyGateDecision α) : Bool :=
  decision.shieldDecision.any fun shield => decide (shield.outcome ≠ .reject)

/-- The loop of the selection. -/
def selectDecision (mode : PolicySelectionMode) :
    List (PolicyGateDecision α × Nat) → Option (PolicyGateDecision α × Nat) →
      Option (PolicyGateDecision α × Nat)
  | [], selected => selected
  | (decision, index) :: rest, selected =>
      if decision.eligible = false then selectDecision mode rest selected
      else
        match selected with
        | none => selectDecision mode rest (some (decision, index))
        | some (incumbent, incumbentIndex) =>
            if preferredCandidate decision index incumbent incumbentIndex mode then
              selectDecision mode rest (some (decision, index))
            else selectDecision mode rest selected

-- === telemetry

/-- What `accumulate_telemetry` does with one decision. -/
def PolicyTelemetrySnapshot.count (telemetry : PolicyTelemetrySnapshot)
    (decision : PolicyGateDecision α) : PolicyTelemetrySnapshot :=
  if decision.policyEligible = false then
    { telemetry with policyRejections := telemetry.policyRejections + 1 }
  else
    let telemetry :=
      { telemetry with shieldChecks := telemetry.shieldChecks + 1 }
    match decision.shieldDecision.map ShieldDecision.outcome with
    | some .accept =>
        { telemetry with
          shieldAccepts := telemetry.shieldAccepts + 1
          selectedAccepts := telemetry.selectedAccepts
            + (if decision.selected then 1 else 0) }
    | some .repair =>
        { telemetry with
          shieldRepairs := telemetry.shieldRepairs + 1
          selectedRepairs := telemetry.selectedRepairs
            + (if decision.selected then 1 else 0) }
    | some .reject =>
        { telemetry with shieldRejections := telemetry.shieldRejections + 1 }
    -- an eligible decision has an outcome
    | none => telemetry

/-- `accumulate_telemetry`. -/
def PolicyTelemetrySnapshot.accumulate (telemetry : PolicyTelemetrySnapshot)
    (report : PolicyBatchReport α) : PolicyTelemetrySnapshot :=
  report.decisions.foldl PolicyTelemetrySnapshot.count
    { telemetry with
      batches := telemetry.batches + 1
      proposals := telemetry.proposals + report.decisions.length.toUInt64 }

end

-- === gate

section
variable {α : Type} [InverseScalar α] (P : Platform)

namespace LearningPolicySafetyGate

/-- What does not change over a batch. -/
structure Batch (α : Type) [InverseScalar α] where
  robot : SerialRobotModel α
  scene : SceneSnapshot α
  atlas : SafeAtlas α
  queryIndex : Option (RegionQueryIndex α)
  current : List α
  options : PolicyGateOptions α
  /-- Asked before the batch, and before every sixty-fourth proposal. -/
  cancelled : Nat → Bool
  shieldCancelled : Nat → ShieldPlace → Bool

variable (batch : Batch α)

/-- `PolicyGateReason` of an outcome of the shield. -/
def gateReason : ShieldOutcome → PolicyGateReason
  | .accept => .shieldAccepted
  | .repair => .shieldRepaired
  | .reject => .shieldRejected

/-- A decision, before one is selected, with its action type and target. -/
structure CheckedProposal (α : Type) [Scalar α] where
  decision : PolicyGateDecision α
  actionType : ShieldActionType
  requestedTarget : List α

/-- One turn of the loop over the proposals. -/
def checkProposal (index : Nat) (proposalIds : List Bytes)
    (proposal : PolicyProposal α) : ExceptT Error Option (CheckedProposal α) := do
  let target ← (do
    if index % 64 = 0 ∧ batch.cancelled (index + 1) = true then
      failure .cancelled "policy gate was cancelled" (ascii "policy gate")
    else do
      proposal.metadata.validate (ascii "policy proposal")
      validateActionAndTarget proposal.action batch.current batch.options
    : Result _)
  let decision : PolicyGateDecision α :=
    { metadata := proposal.metadata, proposalId := proposalIdentity P proposal }
  if decision.proposalId ∈ proposalIds then
    throw ⟨.invalidArgument, "policy proposal batch contains duplicates",
      decision.proposalId⟩
  else
    match rejectedByPolicy proposal.metadata batch.options with
    | some reason =>
        pure ⟨{ decision with reason := reason }, proposal.action.actionType, target⟩
    | none => do
        let shield ← RuntimeShield.checkAction P
          { atlas := batch.atlas, queryIndex := batch.queryIndex
            current := batch.current, options := batch.options.shield
            cancelled := batch.shieldCancelled index }
          batch.robot batch.scene proposal.action
        pure ⟨{ decision with
            policyEligible := true
            evidence := shield.evidence
            reason := gateReason shield.outcome
            shieldDecision := some shield }, proposal.action.actionType, target⟩

/-- The loop over the proposals. -/
def checkAll : Nat → List Bytes → List (PolicyProposal α) →
    ExceptT Error Option (List (CheckedProposal α))
  | _, _, [] => pure []
  | index, proposalIds, proposal :: rest => do
      let checked ← checkProposal P batch index proposalIds proposal
      let later ←
        checkAll (index + 1) (checked.decision.proposalId :: proposalIds) rest
      pure (checked :: later)

/-- What is done with the decisions once all are made. -/
def report (checked : List (CheckedProposal α)) : PolicyBatchReport α :=
  let selected := (selectDecision batch.options.selectionMode
    (checked.map (·.decision)).zipIdx none).map Prod.snd
  let final := checked.zipIdx.map fun p =>
    let decision := { p.1.decision with selected := decide (selected = some p.2) }
    { p.1 with
      decision := { decision with id := policyDecisionIdentity P decision } }
  { decisions := final.map (·.decision)
    feedback := final.map fun checked =>
      makeFeedback P checked.decision checked.actionType checked.requestedTarget
        batch.atlas
    selectedIndex := selected }

/-- `LearningPolicySafetyGate::check_proposals`. -/
def checkProposals (telemetry : PolicyTelemetrySnapshot)
    (proposals : List (PolicyProposal α)) :
    ExceptT Error Option (PolicyBatchReport α × PolicyTelemetrySnapshot) := do
  (do batch.options.validate
      if proposals = [] then
        failure .invalidArgument "policy proposal batch is empty"
          (ascii "policy gate")
      else if batch.options.maximumProposals < proposals.length then
        failure .resourceLimit "policy proposal batch exceeds resource limit"
          (ascii "policy gate")
      else if batch.cancelled 0 then
        failure .cancelled "policy gate was cancelled" (ascii "policy gate")
      else do
        batch.atlas.verifyCompatible P batch.robot batch.scene
        validateConfiguration batch.current batch.atlas.dimension
          (ascii "policy current state") : Result Unit)
  let checked ← checkAll P batch 0 [] proposals
  let report := report P batch checked
  pure (report, telemetry.accumulate report)

end LearningPolicySafetyGate

end

-- === database

/-- `PolicyFeedbackDatabase`. -/
structure PolicyFeedbackDatabase (α : Type) where
  records : List (PolicyFeedbackRecord α) := []

namespace PolicyFeedbackDatabase

variable {α : Type} [MetricScalar α] (P : Platform)

/-- The loop over new records, which `create` and `append` share. -/
def insertAll : List Bytes → List (PolicyFeedbackRecord α) → Result Unit
  | _, [] => .ok ()
  | identities, record :: rest => do
      record.validate P
      if record.id ∈ identities then
        failure .invalidArgument "duplicate policy feedback record" record.id
      else insertAll (record.id :: identities) rest

/-- `PolicyFeedbackDatabase::create`. -/
def create (records : List (PolicyFeedbackRecord α)) :
    Result (PolicyFeedbackDatabase α) := do
  insertAll P [] records
  .ok { records }

/-- `PolicyFeedbackDatabase::append`, and the database it leaves. -/
def append (database : PolicyFeedbackDatabase α)
    (records : List (PolicyFeedbackRecord α)) (maximumRecords : Nat) :
    Result Unit × PolicyFeedbackDatabase α :=
  let status : Result Unit :=
    if maximumRecords = 0 ∨ maximumRecords < records.length
        ∨ maximumRecords - records.length < database.records.length then
      failure .resourceLimit "policy feedback database exceeds record budget"
    else insertAll P (database.records.map (·.id)) records
  match status with
  | .ok () => (.ok (), { records := database.records ++ records })
  | .error e => (.error e, database)

/-- `PolicyFeedbackDatabase::valid`. -/
def valid (database : PolicyFeedbackDatabase α) : Bool :=
  (insertAll P [] database.records).isOk

end PolicyFeedbackDatabase

end RbfSafe.Atlas
