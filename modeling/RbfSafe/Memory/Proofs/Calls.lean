/-
What a call can do to a memory, said once.

`MemoryEffect` lists the five changes the operations make, with the
guards they have passed; `call_effect` reads it off the four bodies. A
failing call changes nothing. Every effect keeps the artifacts what the
log makes of them (`Consistent.effect`), whatever the ids digest to.
-/
import RbfSafe.Memory.Proofs.Replay

namespace RbfSafe

open Lib.Journal

-- === the checks

section
variable (P : Platform)

/-- The checks an artifact has passed. -/
structure CheckedArtifact (a : MemoryArtifact) : Prop where
  tags : normalizeTags a.tags = .ok a.tags
  id : validSha256 a.id = true
  deploymentId : validIdentifier a.deploymentId = true
  robotDigest : validSha256 a.robotDigest = true
  sceneDigest : validSha256 a.sceneDigest = true
  taskId : validIdentifier a.taskId = true
  contentDigest : validSha256 a.contentDigest = true
  locator : validText a.locator kMaximumLocatorBytes = true
  generation : a.generation ≠ 0
  registeredSequence : a.registeredSequence ≠ 0
  identity : memoryArtifactIdentity P a = a.id

theorem validateMemoryArtifact_iff {a : MemoryArtifact} :
    validateMemoryArtifact P a = .ok () ↔ CheckedArtifact P a := by
  unfold validateMemoryArtifact
  rw [bind_eq_ok]
  constructor
  · rintro ⟨tags, htags, h⟩
    rw [ite_failure_eq_ok, ite_failure_eq_ok] at h
    simp only [not_or, not_not, Bool.not_eq_false] at h
    obtain ⟨⟨rfl, hid, hdeployment, hrobot, hscene, htask, hcontent,
      hlocator, hgeneration, hregistered⟩, hidentity, -⟩ := h
    exact ⟨htags, hid, hdeployment, hrobot, hscene, htask, hcontent,
      hlocator, hgeneration, hregistered, hidentity⟩
  · intro h
    refine ⟨a.tags, h.tags, ?_⟩
    rw [ite_failure_eq_ok, ite_failure_eq_ok]
    simp only [not_or, not_not, Bool.not_eq_false]
    exact ⟨⟨trivial, h.id, h.deploymentId, h.robotDigest, h.sceneDigest,
      h.taskId, h.contentDigest, h.locator, h.generation,
      h.registeredSequence⟩, h.identity, trivial⟩

/-- The checks an event has passed. -/
structure CheckedEvent (e : MemoryEvent) : Prop where
  id : validSha256 e.id = true
  sequence : e.sequence ≠ 0
  artifactId : validSha256 e.artifactId = true
  taskId : validIdentifier e.taskId = true
  detail : validText e.detail kMaximumDetailBytes = true
  moves : e.changesState = true ↔ e.previousState ≠ e.currentState
  identity : memoryEventIdentity P e = e.id

theorem validateMemoryEvent_iff {e : MemoryEvent} :
    validateMemoryEvent P e = .ok () ↔ CheckedEvent P e := by
  unfold validateMemoryEvent
  rw [ite_failure_eq_ok, ite_failure_eq_ok, ite_failure_eq_ok]
  simp only [not_or, not_not, Bool.not_eq_false, and_true, not_and]
  constructor
  · rintro ⟨⟨hid, hsequence, hartifact, htask, hdetail⟩, ⟨hchanges, hkeeps⟩,
      hidentity⟩
    refine ⟨hid, hsequence, hartifact, htask, hdetail, ?_, hidentity⟩
    constructor
    · exact hchanges
    · intro hne
      by_contra hfalse
      exact hne (hkeeps (by simpa using hfalse))
  · intro h
    refine ⟨⟨h.id, h.sequence, h.artifactId, h.taskId, h.detail⟩,
      ⟨h.moves.mp, fun hfalse => ?_⟩, h.identity⟩
    by_contra hne
    rw [h.moves.mpr hne] at hfalse
    cases hfalse

section
variable (sequence : Nat) (type : MemoryEventType) (a : MemoryArtifact)
  (previousState : MemoryArtifactState) (taskId detail : Bytes)

@[simp] theorem makeEvent_type :
    (makeEvent P sequence type a previousState taskId detail).type = type := rfl

@[simp] theorem makeEvent_artifactId :
    (makeEvent P sequence type a previousState taskId detail).artifactId
      = a.id := rfl

@[simp] theorem makeEvent_detail :
    (makeEvent P sequence type a previousState taskId detail).detail
      = detail := rfl

end

/-- An event `make_event` builds passes its checks. -/
theorem validateMemoryEvent_makeEvent {sequence : Nat}
    {type : MemoryEventType} {a : MemoryArtifact}
    {previousState : MemoryArtifactState} {taskId detail : Bytes}
    (hsequence : sequence ≠ 0) (hid : validSha256 a.id = true)
    (htask : validIdentifier taskId = true)
    (hdetail : validText detail kMaximumDetailBytes = true)
    (hmoves : (type = .stateTransition ∨ type = .sceneInvalidated)
      ↔ previousState ≠ a.state) :
    validateMemoryEvent P
      (makeEvent P sequence type a previousState taskId detail) = .ok () := by
  rw [validateMemoryEvent_iff]
  refine ⟨P.validSha256_digest _, hsequence, hid, htask, hdetail, ?_, rfl⟩
  unfold MemoryEvent.changesState
  rw [Bool.or_eq_true, decide_eq_true_eq, decide_eq_true_eq]
  exact hmoves

-- === effects

namespace SafetyMemory

/-- The memory after a new artifact. -/
def registered (memory : SafetyMemory) (a : MemoryArtifact) :
    SafetyMemory where
  artifacts := memory.artifacts.insertIdx (findArtifact memory.artifacts a.id) a
  events := memory.events ++ [makeEvent P memory.nextSequence .registered a
    .active a.taskId (ascii "registered")]
  nextSequence := memory.nextSequence + 1

/-- An artifact in its next state. -/
def moved (a : MemoryArtifact) (target : MemoryArtifactState) :
    MemoryArtifact :=
  { a with state := target, generation := a.generation + 1 }

/-- The memory after a transition. -/
def transitioned (memory : SafetyMemory) (a : MemoryArtifact)
    (target : MemoryArtifactState) (detail : Bytes) : SafetyMemory where
  artifacts := memory.artifacts.set (findArtifact memory.artifacts a.id)
    (moved a target)
  events := memory.events ++ [makeEvent P memory.nextSequence
    .stateTransition (moved a target) a.state a.taskId detail]
  nextSequence := memory.nextSequence + 1

/-- The memory after a scene has been invalidated. -/
def invalidated (memory : SafetyMemory)
    (deploymentId sceneDigest detail : Bytes) : SafetyMemory where
  artifacts := memory.artifacts.map fun a =>
    if inScene deploymentId sceneDigest a then staled a else a
  events := memory.events ++ sceneEvents P deploymentId sceneDigest detail
    memory.artifacts memory.nextSequence
  nextSequence := memory.nextSequence
    + memory.artifacts.countP (inScene deploymentId sceneDigest)

/-- The memory after a recorded reuse. -/
def reused (memory : SafetyMemory) (a : MemoryArtifact)
    (taskId detail : Bytes) : SafetyMemory where
  artifacts := memory.artifacts
  events := memory.events ++ [makeEvent P memory.nextSequence .reuseRecorded
    a a.state taskId detail]
  nextSequence := memory.nextSequence + 1

end SafetyMemory

open SafetyMemory

/-- What a call under limits can do to a memory. -/
inductive MemoryEffect (maximumArtifacts maximumEvents : Nat)
    (memory : SafetyMemory) : SafetyMemory → Prop
  | unchanged : MemoryEffect maximumArtifacts maximumEvents memory memory
  | registered {a : MemoryArtifact}
      (hchecked : validateMemoryArtifact P a = .ok ())
      (hnew : lookupArtifact memory.artifacts a.id = none)
      (hstate : a.state = .active) (hgeneration : a.generation = 1)
      (hsequence : a.registeredSequence = memory.nextSequence)
      (hartifacts : memory.artifacts.length < maximumArtifacts)
      (hevents : memory.events.length < maximumEvents) :
      MemoryEffect maximumArtifacts maximumEvents memory
        (memory.registered P a)
  | transitioned {a : MemoryArtifact} {target : MemoryArtifactState}
      {detail : Bytes}
      (hfound : lookupArtifact memory.artifacts a.id = some a)
      (hallowed : transitionAllowed a.state target = true)
      (hdetail : validText detail kMaximumDetailBytes = true)
      (hevents : memory.events.length < maximumEvents) :
      MemoryEffect maximumArtifacts maximumEvents memory
        (memory.transitioned P a target detail)
  | invalidated {deploymentId sceneDigest detail : Bytes}
      (hdetail : validText detail kMaximumDetailBytes = true)
      (hevents : memory.artifacts.countP (inScene deploymentId sceneDigest)
        ≤ maximumEvents - min maximumEvents memory.events.length) :
      MemoryEffect maximumArtifacts maximumEvents memory
        (memory.invalidated P deploymentId sceneDigest detail)
  | reused {a : MemoryArtifact} {taskId detail : Bytes}
      (hfound : lookupArtifact memory.artifacts a.id = some a)
      (hactive : a.state = .active)
      (htask : validIdentifier taskId = true)
      (hdetail : validText detail kMaximumDetailBytes = true)
      (hevents : memory.events.length < maximumEvents) :
      MemoryEffect maximumArtifacts maximumEvents memory
        (memory.reused P a taskId detail)

/-- The limit on artifacts a call is made with. -/
def MemoryCall.maximumArtifacts : MemoryCall → Nat
  | .registerArtifact _ maximumArtifacts _ => maximumArtifacts
  | _ => 0

/-- The limit on events a call is made with. -/
def MemoryCall.maximumEvents : MemoryCall → Nat
  | .registerArtifact _ _ maximumEvents => maximumEvents
  | .transition _ _ _ _ maximumEvents => maximumEvents
  | .invalidateScene _ _ _ maximumEvents => maximumEvents
  | .recordReuse _ _ _ maximumEvents => maximumEvents

theorem lookupArtifact_id {artifacts : List MemoryArtifact} {id : Bytes}
    {a : MemoryArtifact} (h : lookupArtifact artifacts id = some a) :
    a.id = id ∧ artifacts[findArtifact artifacts id]? = some a := by
  unfold lookupArtifact at h
  rw [Option.filter_eq_some_iff, decide_eq_true_eq] at h
  exact ⟨h.2, h.1⟩

/-- The conditions under which an artifact is reusable as it is. -/
structure DirectReuse (a : MemoryArtifact) (query : MemoryReuseQuery) :
    Prop where
  deployment : a.deploymentId = query.deploymentId
  robot : a.robotDigest = query.robotDigest
  type : query.type.any (fun type => a.type ≠ type) = false
  task : query.includeSameTask = true ∨ a.taskId ≠ query.targetTaskId
  evidence : query.minimumEvidence.toNat ≤ a.evidence.toNat
  tags : includesAllTags a.tags
    (Lib.Sorting.sortUnique id query.requiredTags) = true
  active : a.state = .active
  scene : a.sceneDigest = query.sceneDigest

/-- A chain of guards ends in its last branch. -/
theorem disposition_ite {c : Prop} [Decidable c] {a : MemoryArtifact}
    {disposition : ReuseDisposition} {crossTask : Bool} {reason : String}
    {candidate : MemoryReuseCandidate} (h : disposition ≠ .direct) :
    (if c then ⟨a, disposition, crossTask, reason⟩
        else candidate : MemoryReuseCandidate).disposition = .direct
      ↔ ¬c ∧ candidate.disposition = .direct := by
  by_cases hc : c
  · rw [if_pos hc]
    exact ⟨fun hdirect => absurd hdirect h, fun hand => absurd hc hand.1⟩
  · rw [if_neg hc]
    exact ⟨fun hdirect => ⟨hc, hdirect⟩, And.right⟩

theorem assess_direct {a : MemoryArtifact} {query : MemoryReuseQuery} :
    (assess a query).disposition = .direct ↔ DirectReuse a query := by
  have hineligible : ReuseDisposition.ineligible ≠ .direct := by decide
  have hstale : ReuseDisposition.requiresRevalidation ≠ .direct := by decide
  unfold assess
  dsimp only
  rw [disposition_ite hineligible, disposition_ite hineligible,
    disposition_ite hineligible, disposition_ite hineligible,
    disposition_ite hineligible, disposition_ite hineligible,
    disposition_ite hineligible, disposition_ite hstale,
    disposition_ite hstale]
  simp only [not_not, not_and_or, not_or, Bool.not_eq_true, Bool.not_eq_false,
    Nat.not_lt, decide_eq_false_iff_not, and_true]
  constructor
  · rintro ⟨hdeployment, hrobot, htype, htask, hevidence, htags, ⟨hq, hr⟩, hs,
      hscene⟩
    refine ⟨hdeployment, hrobot, htype, htask, hevidence, htags, ?_, hscene⟩
    cases hstate : a.state with
    | active => rfl
    | stale => exact absurd hstate hs
    | quarantined => exact absurd hstate hq
    | retired => exact absurd hstate hr
  · intro h
    have hactive := h.active
    refine ⟨h.deployment, h.robot, h.type, h.task, h.evidence, h.tags, ?_, ?_,
      h.scene⟩
    · rw [hactive]
      exact ⟨by simp, by simp⟩
    · rw [hactive]
      simp

theorem artifact_ite {c : Prop} [Decidable c] {a : MemoryArtifact}
    {refused candidate : MemoryReuseCandidate} (h : refused.artifact = a)
    (h' : candidate.artifact = a) :
    (if c then refused else candidate).artifact = a := by
  by_cases hc : c
  · rw [if_pos hc, h]
  · rw [if_neg hc, h']

theorem assess_artifact (a : MemoryArtifact) (query : MemoryReuseQuery) :
    (assess a query).artifact = a := by
  unfold assess
  apply artifact_ite rfl
  apply artifact_ite rfl
  apply artifact_ite rfl
  apply artifact_ite rfl
  apply artifact_ite rfl
  apply artifact_ite rfl
  apply artifact_ite rfl
  apply artifact_ite rfl
  exact artifact_ite rfl rfl

-- === reading the effects

/-- A call fails and leaves the memory alone, or succeeds with an
effect. -/
def Lands {α : Type} (maximumArtifacts maximumEvents : Nat)
    (memory : SafetyMemory) (outcome : Result α × SafetyMemory) : Prop :=
  (∃ e, outcome.1 = .error e ∧ outcome.2 = memory)
    ∨ ∃ value, outcome.1 = .ok value
      ∧ MemoryEffect P maximumArtifacts maximumEvents memory outcome.2

section
variable {α β : Type} {maximumArtifacts maximumEvents : Nat}
  {memory : SafetyMemory}

theorem lands_error (e : Error) :
    Lands P maximumArtifacts maximumEvents memory
      ((.error e, memory) : Result α × SafetyMemory) :=
  Or.inl ⟨e, rfl, rfl⟩

theorem lands_failure (code : StatusCode) (message : String)
    (context : Bytes) :
    Lands P maximumArtifacts maximumEvents memory
      ((failure code message context, memory) : Result α × SafetyMemory) :=
  lands_error P _

theorem lands_ok (value : α) {next : SafetyMemory}
    (h : MemoryEffect P maximumArtifacts maximumEvents memory next) :
    Lands P maximumArtifacts maximumEvents memory
      ((.ok value, next) : Result α × SafetyMemory) :=
  Or.inr ⟨value, rfl, h⟩

theorem Lands.map {outcome : Result α × SafetyMemory}
    (h : Lands P maximumArtifacts maximumEvents memory outcome)
    (f : α → β) :
    Lands P maximumArtifacts maximumEvents memory
      (outcome.map (Except.map f) id) := by
  obtain ⟨result, next⟩ := outcome
  rcases h with ⟨e, rfl, rfl⟩ | ⟨value, rfl, heffect⟩
  · exact Or.inl ⟨e, rfl, rfl⟩
  · exact Or.inr ⟨f value, rfl, heffect⟩

end

theorem registerArtifact_lands (memory : SafetyMemory)
    (input : MemoryArtifactInput) (maximumArtifacts maximumEvents : Nat) :
    Lands P maximumArtifacts maximumEvents memory
      (memory.registerArtifact P input maximumArtifacts maximumEvents) := by
  unfold SafetyMemory.registerArtifact
  split
  · exact lands_failure P _ _ _
  cases htags : normalizeTags input.tags with
  | error e => exact lands_error P e
  | ok tags =>
    dsimp only
    cases hcheck : validateMemoryArtifact P
        (artifactOf P input tags memory.nextSequence) with
    | error e => exact lands_error P e
    | ok checked =>
      dsimp only
      cases hlookup : lookupArtifact memory.artifacts
          (artifactOf P input tags memory.nextSequence).id with
      | some existing => exact lands_ok P _ .unchanged
      | none =>
        dsimp only
        split
        · exact lands_failure P _ _ _
        rename_i hroom
        simp only [not_or, Nat.not_le] at hroom
        exact lands_ok P _
          (.registered hcheck hlookup rfl rfl rfl hroom.1 hroom.2)

theorem transition_lands (memory : SafetyMemory) (artifactId : Bytes)
    (expectedGeneration : Nat) (targetState : MemoryArtifactState)
    (detail : Bytes) (maximumArtifacts maximumEvents : Nat) :
    Lands P maximumArtifacts maximumEvents memory
      (memory.transition P artifactId expectedGeneration targetState detail
        maximumEvents) := by
  unfold SafetyMemory.transition
  split
  · exact lands_failure P _ _ _
  rename_i hrequest
  simp only [not_or, Bool.not_eq_false] at hrequest
  cases hlookup : lookupArtifact memory.artifacts artifactId with
  | none => exact lands_failure P _ _ _
  | some a =>
    dsimp only
    split
    · exact lands_failure P _ _ _
    split
    · exact lands_failure P _ _ _
    rename_i hallowed
    split
    · exact lands_failure P _ _ _
    rename_i hroom
    obtain ⟨rfl, -⟩ := lookupArtifact_id hlookup
    exact lands_ok P _ (.transitioned hlookup (by simpa using hallowed)
      hrequest.2.1 (Nat.not_le.mp hroom))

theorem invalidateScene_lands (memory : SafetyMemory)
    (deploymentId sceneDigest detail : Bytes)
    (maximumArtifacts maximumEvents : Nat) :
    Lands P maximumArtifacts maximumEvents memory
      (memory.invalidateScene P deploymentId sceneDigest detail
        maximumEvents) := by
  unfold SafetyMemory.invalidateScene
  split
  · exact lands_failure P _ _ _
  rename_i hrequest
  simp only [not_or, Bool.not_eq_false] at hrequest
  dsimp only
  split
  · exact lands_failure P _ _ _
  rename_i hroom
  exact lands_ok P _ (.invalidated hrequest.2.2.1 (Nat.not_lt.mp hroom))

theorem assessReuse_ok {memory : SafetyMemory} {artifactId : Bytes}
    {query : MemoryReuseQuery} {candidate : MemoryReuseCandidate} :
    memory.assessReuse artifactId query = .ok candidate
      ↔ validateReuseQuery query = .ok () ∧ validSha256 artifactId = true
        ∧ ∃ found, lookupArtifact memory.artifacts artifactId = some found
          ∧ candidate = assess found query := by
  unfold SafetyMemory.assessReuse SafetyMemory.artifact
  rw [check_eq_ok]
  cases hid : validSha256 artifactId with
  | false => simp [failure]
  | true =>
    rw [if_neg (by simp), ok_bind]
    cases hlookup : lookupArtifact memory.artifacts artifactId with
    | none => simp
    | some found => simp [eq_comm]

theorem validateReuseQuery_iff {query : MemoryReuseQuery} :
    validateReuseQuery query = .ok ()
      ↔ validIdentifier query.deploymentId = true
        ∧ validSha256 query.robotDigest = true
        ∧ validSha256 query.sceneDigest = true
        ∧ validIdentifier query.targetTaskId = true
        ∧ query.maximumResults ≠ 0
        ∧ ∃ tags, normalizeTags query.requiredTags = .ok tags := by
  unfold validateReuseQuery
  rw [ite_failure_eq_ok, bind_eq_ok]
  simp only [not_or, Bool.not_eq_false, and_true, and_assoc, ne_eq]

theorem recordReuse_lands (memory : SafetyMemory) (artifactId : Bytes)
    (query : MemoryReuseQuery) (detail : Bytes)
    (maximumArtifacts maximumEvents : Nat) :
    Lands P maximumArtifacts maximumEvents memory
      (memory.recordReuse P artifactId query detail maximumEvents) := by
  unfold SafetyMemory.recordReuse
  cases hassess : memory.assessReuse artifactId query with
  | error e => exact lands_error P e
  | ok candidate =>
    dsimp only
    split
    · exact lands_failure P _ _ _
    rename_i hdirect
    split
    · exact lands_failure P _ _ _
    rename_i hrequest
    split
    · exact lands_failure P _ _ _
    rename_i hroom
    simp only [not_or, Bool.not_eq_false] at hrequest
    obtain ⟨hquery, -, found, hlookup, rfl⟩ := assessReuse_ok.mp hassess
    rw [not_not, assess_direct] at hdirect
    obtain ⟨rfl, -⟩ := lookupArtifact_id hlookup
    rw [assess_artifact]
    exact lands_ok P _ (.reused hlookup hdirect.active
      (validateReuseQuery_iff.mp hquery).2.2.2.1 hrequest.1
      (Nat.not_le.mp hroom))

/-- Every call fails without a trace or has one of the effects. -/
theorem call_lands (memory : SafetyMemory) (call : MemoryCall) :
    Lands P call.maximumArtifacts call.maximumEvents memory
      (memory.call P call) := by
  cases call with
  | registerArtifact input maximumArtifacts maximumEvents =>
      exact (registerArtifact_lands P memory input _ _).map P _
  | transition artifactId expectedGeneration targetState detail maximumEvents =>
      exact (transition_lands P memory artifactId expectedGeneration
        targetState detail _ _).map P _
  | invalidateScene deploymentId sceneDigest detail maximumEvents =>
      exact (invalidateScene_lands P memory deploymentId sceneDigest detail
        _ _).map P _
  | recordReuse artifactId query detail maximumEvents =>
      exact (recordReuse_lands P memory artifactId query detail _ _).map P _

theorem call_effect (memory : SafetyMemory) (call : MemoryCall) :
    MemoryEffect P call.maximumArtifacts call.maximumEvents memory
      (memory.call P call).2 := by
  rcases call_lands P memory call with ⟨e, -, hsame⟩ | ⟨value, -, heffect⟩
  · rw [hsame]
    exact .unchanged
  · exact heffect

theorem call_error {memory : SafetyMemory} {call : MemoryCall} {e : Error}
    (h : (memory.call P call).1 = .error e) :
    (memory.call P call).2 = memory := by
  rcases call_lands P memory call with ⟨e, -, hsame⟩ | ⟨value, hok, -⟩
  · exact hsame
  · rw [hok] at h
    cases h

end

end RbfSafe
