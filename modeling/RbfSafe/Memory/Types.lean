/-
Safety memory: the registry of reusable artifacts and the log of what
happened to them.

An artifact is content under an identity, with a lifecycle state beside
it; an event records one registration, transition or reuse. The
sequence numbers and generations count events, of which a valid memory
has at most `kMaximumMemoryEvents`; they are natural numbers here.

An enumerator of the source may be out of range where it was cast from
an integer; the checks against that have nothing to check in an
inductive type.
-/
import RbfSafe.Execution.Deployment
import RbfSafe.Lib.Sorting

namespace RbfSafe

open Json

-- === vocabulary

/-- `MemoryArtifactType`. -/
inductive MemoryArtifactType where
  | safeAtlas
  | regionDatabase
  | safeCorridor
  | trajectoryAudit
  | policyFeedback
  | runtimeTrace
  | fleetSchedule
deriving DecidableEq, Repr

def MemoryArtifactType.toNat : MemoryArtifactType → Nat
  | .safeAtlas => 0
  | .regionDatabase => 1
  | .safeCorridor => 2
  | .trajectoryAudit => 3
  | .policyFeedback => 4
  | .runtimeTrace => 5
  | .fleetSchedule => 6

/-- `MemoryArtifactState`. -/
inductive MemoryArtifactState where
  | active
  | stale
  | quarantined
  | retired
deriving DecidableEq, Repr

def MemoryArtifactState.toNat : MemoryArtifactState → Nat
  | .active => 0
  | .stale => 1
  | .quarantined => 2
  | .retired => 3

/-- `MemoryEventType`. -/
inductive MemoryEventType where
  | registered
  | stateTransition
  | reuseRecorded
  | sceneInvalidated
deriving DecidableEq, Repr

def MemoryEventType.toNat : MemoryEventType → Nat
  | .registered => 0
  | .stateTransition => 1
  | .reuseRecorded => 2
  | .sceneInvalidated => 3

/-- `ReuseDisposition`. -/
inductive ReuseDisposition where
  | direct
  | requiresRevalidation
  | ineligible
deriving DecidableEq, Repr

/-- `MemoryArtifactInput`. -/
structure MemoryArtifactInput where
  type : MemoryArtifactType := .safeAtlas
  deploymentId : Bytes := []
  robotDigest : Bytes := []
  sceneDigest : Bytes := []
  taskId : Bytes := []
  contentDigest : Bytes := []
  locator : Bytes := []
  evidence : EvidenceLevel := .unknown
  tags : List Bytes := []
deriving DecidableEq

/-- `MemoryArtifact`. -/
structure MemoryArtifact where
  id : Bytes := []
  type : MemoryArtifactType := .safeAtlas
  state : MemoryArtifactState := .active
  deploymentId : Bytes := []
  robotDigest : Bytes := []
  sceneDigest : Bytes := []
  taskId : Bytes := []
  contentDigest : Bytes := []
  locator : Bytes := []
  evidence : EvidenceLevel := .unknown
  tags : List Bytes := []
  generation : Nat := 0
  registeredSequence : Nat := 0
deriving DecidableEq

/-- `MemoryEvent`. -/
structure MemoryEvent where
  id : Bytes := []
  sequence : Nat := 0
  type : MemoryEventType := .registered
  artifactId : Bytes := []
  previousState : MemoryArtifactState := .active
  currentState : MemoryArtifactState := .active
  taskId : Bytes := []
  detail : Bytes := []
deriving DecidableEq

/-- `MemoryReuseQuery`. -/
structure MemoryReuseQuery where
  deploymentId : Bytes := []
  robotDigest : Bytes := []
  sceneDigest : Bytes := []
  targetTaskId : Bytes := []
  type : Option MemoryArtifactType := none
  minimumEvidence : EvidenceLevel := .unknown
  requiredTags : List Bytes := []
  includeSameTask : Bool := true
  includeRevalidationCandidates : Bool := false
  maximumResults : Nat := 100000

/-- `MemoryReuseCandidate`. -/
structure MemoryReuseCandidate where
  artifact : MemoryArtifact
  disposition : ReuseDisposition := .ineligible
  crossTask : Bool := false
  reason : String := ""

/-- `kMaximumLocatorBytes`. -/
def kMaximumLocatorBytes : Nat := 4096

/-- `kMaximumDetailBytes`. -/
def kMaximumDetailBytes : Nat := 4096

/-- `kMaximumTags`. -/
def kMaximumTags : Nat := 64

/-- `kMaximumTagBytes`. -/
def kMaximumTagBytes : Nat := 128

/-- The artifacts `SafetyMemory::valid` admits. -/
def kMaximumMemoryArtifacts : Nat := 1000000

/-- The events `SafetyMemory::valid` admits. -/
def kMaximumMemoryEvents : Nat := 4000000

/-- `normalize_tags`: the tags it leaves behind. -/
def normalizeTags (tags : List Bytes) : Result (List Bytes) :=
  if kMaximumTags < tags.length then
    failure .resourceLimit "memory artifact has too many tags"
  else if tags.all (fun tag => validText tag kMaximumTagBytes) = false then
    failure .invalidArgument "memory artifact tag is invalid"
  else .ok (Lib.Sorting.sortUnique id tags)

/-- `transition_allowed`. -/
def transitionAllowed (source target : MemoryArtifactState) : Bool :=
  if source = .active then
    target = .stale || target = .quarantined || target = .retired
  else if source = .stale then
    target = .quarantined || target = .retired
  else source = .quarantined && target = .retired

-- === identities

/-- `artifact_identity_json`. -/
def artifactIdentityJson (artifact : MemoryArtifact) : Json :=
  object (obj
    [("content_digest", string artifact.contentDigest),
      ("deployment_id", string artifact.deploymentId),
      ("evidence", num artifact.evidence.toNat),
      ("locator", string artifact.locator),
      ("robot_digest", string artifact.robotDigest),
      ("scene_digest", string artifact.sceneDigest),
      ("tags", array (artifact.tags.map string)),
      ("task_id", string artifact.taskId),
      ("type", num artifact.type.toNat)])

/-- `event_identity_json`. -/
def eventIdentityJson (event : MemoryEvent) : Json :=
  object (obj
    [("artifact_id", string event.artifactId),
      ("current_state", num event.currentState.toNat),
      ("detail", string event.detail),
      ("previous_state", num event.previousState.toNat),
      ("sequence", uint event.sequence),
      ("task_id", string event.taskId),
      ("type", num event.type.toNat)])

section
variable (P : Platform)

/-- `internal::memory_artifact_identity`. -/
def memoryArtifactIdentity (artifact : MemoryArtifact) : Bytes :=
  P.sha256 ((artifactIdentityJson artifact).dump P.toLibc false 0)

/-- `internal::memory_event_identity`. -/
def memoryEventIdentity (event : MemoryEvent) : Bytes :=
  P.sha256 ((eventIdentityJson event).dump P.toLibc false 0)

-- === checks

/-- `internal::validate_memory_artifact`. -/
def validateMemoryArtifact (artifact : MemoryArtifact) : Result Unit := do
  let tags ← normalizeTags artifact.tags
  if tags ≠ artifact.tags ∨ validSha256 artifact.id = false
      ∨ validIdentifier artifact.deploymentId = false
      ∨ validSha256 artifact.robotDigest = false
      ∨ validSha256 artifact.sceneDigest = false
      ∨ validIdentifier artifact.taskId = false
      ∨ validSha256 artifact.contentDigest = false
      ∨ validText artifact.locator kMaximumLocatorBytes = false
      ∨ artifact.generation = 0 ∨ artifact.registeredSequence = 0 then
    failure .invalidArgument "memory artifact is invalid" artifact.id
  else if memoryArtifactIdentity P artifact ≠ artifact.id then
    failure .identityMismatch
      "memory artifact identity does not match its content" artifact.id
  else .ok ()

/-- The `changes_state` of `internal::validate_memory_event`. -/
def MemoryEvent.changesState (event : MemoryEvent) : Bool :=
  event.type = .stateTransition || event.type = .sceneInvalidated

/-- `internal::validate_memory_event`. -/
def validateMemoryEvent (event : MemoryEvent) : Result Unit :=
  if validSha256 event.id = false ∨ event.sequence = 0
      ∨ validSha256 event.artifactId = false
      ∨ validIdentifier event.taskId = false
      ∨ validText event.detail kMaximumDetailBytes = false then
    failure .invalidArgument "memory event is invalid" event.id
  else if (event.changesState = true
        ∧ event.previousState = event.currentState)
      ∨ (event.changesState = false
        ∧ event.previousState ≠ event.currentState) then
    failure .invalidArgument "memory event state transition is inconsistent"
      event.id
  else if memoryEventIdentity P event ≠ event.id then
    failure .identityMismatch
      "memory event identity does not match its content" event.id
  else .ok ()

/-- `validate_reuse_query`. -/
def validateReuseQuery (query : MemoryReuseQuery) : Result Unit :=
  if validIdentifier query.deploymentId = false
      ∨ validSha256 query.robotDigest = false
      ∨ validSha256 query.sceneDigest = false
      ∨ validIdentifier query.targetTaskId = false
      ∨ query.maximumResults = 0 then
    failure .invalidArgument "memory reuse query is invalid"
  else do
    let _ ← normalizeTags query.requiredTags
    .ok ()

/-- `make_event`. -/
def makeEvent (sequence : Nat) (type : MemoryEventType)
    (artifact : MemoryArtifact) (previousState : MemoryArtifactState)
    (taskId detail : Bytes) : MemoryEvent :=
  let event : MemoryEvent :=
    { sequence, type, artifactId := artifact.id, previousState
      currentState := artifact.state, taskId, detail }
  { event with id := memoryEventIdentity P event }

end

-- === reuse

/-- `includes_all_tags`: `std::includes` on two sorted ranges. -/
def includesAllTags : List Bytes → List Bytes → Bool
  | _, [] => true
  | [], _ :: _ => false
  | available :: rest, required :: others =>
      if required < available then false
      else if available < required then
        includesAllTags rest (required :: others)
      else includesAllTags rest others

/-- `assess`. -/
def assess (artifact : MemoryArtifact) (query : MemoryReuseQuery) :
    MemoryReuseCandidate :=
  let crossTask := decide (artifact.taskId ≠ query.targetTaskId)
  let result : MemoryReuseCandidate := { artifact, crossTask }
  if artifact.deploymentId ≠ query.deploymentId then
    { result with reason := "deployment identity does not match" }
  else if artifact.robotDigest ≠ query.robotDigest then
    { result with reason := "robot identity does not match" }
  else if query.type.any (fun type => artifact.type ≠ type) then
    { result with reason := "artifact type does not match" }
  else if query.includeSameTask = false ∧ crossTask = false then
    { result with reason := "same-task artifacts are excluded" }
  else if artifact.evidence.toNat < query.minimumEvidence.toNat then
    { result with
      reason := "artifact evidence is below the requested minimum" }
  else if includesAllTags artifact.tags
      (Lib.Sorting.sortUnique id query.requiredTags) = false then
    { result with reason := "artifact tags do not satisfy the query" }
  else if artifact.state = .quarantined ∨ artifact.state = .retired then
    { result with reason := "artifact lifecycle state forbids reuse" }
  else if artifact.state = .stale then
    { result with disposition := .requiresRevalidation
                  reason := "artifact is stale" }
  else if artifact.sceneDigest ≠ query.sceneDigest then
    { result with disposition := .requiresRevalidation
                  reason := "scene identity changed" }
  else
    { result with
      disposition := .direct
      reason := if crossTask then "exact identities permit cross-task reuse"
        else "exact identities permit reuse" }

end RbfSafe
