/-
`SafetyMemory`: its four operations and the replay that checks it.

An operation returns its result beside the memory it leaves behind, so
that what a failing call does to the memory can be read off. The
artifacts are kept in the order of their ids; `std::lower_bound` on them
is the first place whose id is not less.
-/
import Mathlib.Data.List.AList
import RbfSafe.Memory.Types

namespace RbfSafe

/-- `SafetyMemory`. -/
structure SafetyMemory where
  artifacts : List MemoryArtifact := []
  events : List MemoryEvent := []
  nextSequence : Nat := 1
deriving DecidableEq

/-- `find_artifact`: the place `std::lower_bound` returns. -/
def findArtifact (artifacts : List MemoryArtifact) (id : Bytes) : Nat :=
  artifacts.findIdx fun artifact => !decide (artifact.id < id)

/-- The artifact at the place `find_artifact` returns, if it has the
id. -/
def lookupArtifact (artifacts : List MemoryArtifact) (id : Bytes) :
    Option MemoryArtifact :=
  artifacts[findArtifact artifacts id]?.filter fun artifact =>
    artifact.id = id

namespace SafetyMemory

section
variable (P : Platform)

/-- The artifact `SafetyMemory::register_artifact` builds from an input
with normalized tags. -/
def artifactOf (input : MemoryArtifactInput) (tags : List Bytes)
    (nextSequence : Nat) : MemoryArtifact :=
  let artifact : MemoryArtifact :=
    { type := input.type
      state := .active
      deploymentId := input.deploymentId
      robotDigest := input.robotDigest
      sceneDigest := input.sceneDigest
      taskId := input.taskId
      contentDigest := input.contentDigest
      locator := input.locator
      evidence := input.evidence
      tags
      generation := 1
      registeredSequence := nextSequence }
  { artifact with id := memoryArtifactIdentity P artifact }

/-- `SafetyMemory::register_artifact`. -/
def registerArtifact (memory : SafetyMemory) (input : MemoryArtifactInput)
    (maximumArtifacts maximumEvents : Nat) :
    Result MemoryArtifact × SafetyMemory :=
  if maximumArtifacts = 0 ∨ maximumEvents = 0 then
    (failure .invalidArgument "safety memory limits must be positive", memory)
  else match normalizeTags input.tags with
    | .error e => (.error e, memory)
    | .ok tags =>
        let artifact := artifactOf P input tags memory.nextSequence
        match validateMemoryArtifact P artifact with
        | .error e => (.error e, memory)
        | .ok () =>
            match lookupArtifact memory.artifacts artifact.id with
            | some existing => (.ok existing, memory)
            | none =>
                if maximumArtifacts ≤ memory.artifacts.length
                    ∨ maximumEvents ≤ memory.events.length then
                  (failure .resourceLimit
                    "safety memory registration exceeds configured limits",
                    memory)
                else
                  let event := makeEvent P memory.nextSequence .registered
                    artifact .active artifact.taskId (ascii "registered")
                  (.ok artifact,
                    { artifacts := memory.artifacts.insertIdx
                        (findArtifact memory.artifacts artifact.id) artifact
                      events := memory.events ++ [event]
                      nextSequence := memory.nextSequence + 1 })

/-- `SafetyMemory::transition`. -/
def transition (memory : SafetyMemory) (artifactId : Bytes)
    (expectedGeneration : Nat) (targetState : MemoryArtifactState)
    (detail : Bytes) (maximumEvents : Nat) :
    Result MemoryArtifact × SafetyMemory :=
  if validSha256 artifactId = false
      ∨ validText detail kMaximumDetailBytes = false ∨ maximumEvents = 0 then
    (failure .invalidArgument "memory transition request is invalid", memory)
  else match lookupArtifact memory.artifacts artifactId with
    | none =>
        (failure .invalidArgument "memory artifact does not exist" artifactId,
          memory)
    | some position =>
        if position.generation ≠ expectedGeneration then
          (failure .identityMismatch
            "memory artifact generation does not match" artifactId, memory)
        else if transitionAllowed position.state targetState = false then
          (failure .invalidArgument
            "memory artifact state transition is not allowed" artifactId,
            memory)
        else if maximumEvents ≤ memory.events.length then
          (failure .resourceLimit "safety memory event limit reached", memory)
        else
          let artifact := { position with
            state := targetState, generation := position.generation + 1 }
          let event := makeEvent P memory.nextSequence .stateTransition
            artifact position.state artifact.taskId detail
          (.ok artifact,
            { artifacts := memory.artifacts.set
                (findArtifact memory.artifacts artifactId) artifact
              events := memory.events ++ [event]
              nextSequence := memory.nextSequence + 1 })

/-- The artifacts `SafetyMemory::invalidate_scene` selects. -/
def inScene (deploymentId sceneDigest : Bytes) (artifact : MemoryArtifact) :
    Bool :=
  artifact.state = .active && artifact.deploymentId = deploymentId
    && artifact.sceneDigest = sceneDigest

/-- What `SafetyMemory::invalidate_scene` makes of a selected artifact. -/
def staled (artifact : MemoryArtifact) : MemoryArtifact :=
  { artifact with state := .stale, generation := artifact.generation + 1 }

/-- The events of the loop of `SafetyMemory::invalidate_scene`. -/
def sceneEvents (deploymentId sceneDigest detail : Bytes) :
    List MemoryArtifact → Nat → List MemoryEvent
  | [], _ => []
  | artifact :: rest, next =>
      if inScene deploymentId sceneDigest artifact then
        makeEvent P next .sceneInvalidated (staled artifact) artifact.state
            artifact.taskId detail
          :: sceneEvents deploymentId sceneDigest detail rest (next + 1)
      else sceneEvents deploymentId sceneDigest detail rest next

/-- `SafetyMemory::invalidate_scene`. The loop changes each selected
artifact in place and appends its event. -/
def invalidateScene (memory : SafetyMemory)
    (deploymentId sceneDigest detail : Bytes) (maximumEvents : Nat) :
    Result Nat × SafetyMemory :=
  if validIdentifier deploymentId = false ∨ validSha256 sceneDigest = false
      ∨ validText detail kMaximumDetailBytes = false ∨ maximumEvents = 0 then
    (failure .invalidArgument "scene invalidation request is invalid", memory)
  else
    let count := memory.artifacts.countP (inScene deploymentId sceneDigest)
    if maximumEvents - min maximumEvents memory.events.length < count then
      (failure .resourceLimit "scene invalidation exceeds event limit", memory)
    else
      (.ok count,
        { artifacts := memory.artifacts.map fun artifact =>
            if inScene deploymentId sceneDigest artifact then staled artifact
            else artifact
          events := memory.events ++ sceneEvents P deploymentId sceneDigest
            detail memory.artifacts memory.nextSequence
          nextSequence := memory.nextSequence + count })

/-- `SafetyMemory::artifact`. -/
def artifact (memory : SafetyMemory) (artifactId : Bytes) :
    Result (Option MemoryArtifact) :=
  if validSha256 artifactId = false then
    failure .invalidArgument "memory artifact ID is invalid"
  else .ok (lookupArtifact memory.artifacts artifactId)

/-- `SafetyMemory::assess_reuse`. -/
def assessReuse (memory : SafetyMemory) (artifactId : Bytes)
    (query : MemoryReuseQuery) : Result MemoryReuseCandidate := do
  let _ ← validateReuseQuery query
  match ← memory.artifact artifactId with
  | none =>
      failure .invalidArgument "memory artifact does not exist" artifactId
  | some found => .ok (assess found query)

/-- `SafetyMemory::record_reuse`. -/
def recordReuse (memory : SafetyMemory) (artifactId : Bytes)
    (query : MemoryReuseQuery) (detail : Bytes) (maximumEvents : Nat) :
    Result Unit × SafetyMemory :=
  match memory.assessReuse artifactId query with
  | .error e => (.error e, memory)
  | .ok candidate =>
      if candidate.disposition ≠ .direct then
        (failure .identityMismatch
          "only direct-reuse artifacts can be recorded" artifactId, memory)
      else if validText detail kMaximumDetailBytes = false
          ∨ maximumEvents = 0 then
        (failure .invalidArgument "reuse audit detail is invalid", memory)
      else if maximumEvents ≤ memory.events.length then
        (failure .resourceLimit "safety memory event limit reached", memory)
      else
        let source := candidate.artifact
        let event := makeEvent P memory.nextSequence .reuseRecorded source
          source.state query.targetTaskId detail
        (.ok (), { memory with
          events := memory.events ++ [event]
          nextSequence := memory.nextSequence + 1 })

-- === replay

/-- What `SafetyMemory::valid` carries along its walk over the events. -/
structure Replay where
  /-- `replay_state`. -/
  state : AList fun _ : Bytes => MemoryArtifactState := ∅
  /-- `replay_generation`. -/
  generation : AList fun _ : Bytes => Nat := ∅
  expectedSequence : Nat := 1
  eventIds : List Bytes := []

/-- The first loop of `SafetyMemory::valid`. -/
def artifactsOrdered (previousArtifactId : Bytes) :
    List MemoryArtifact → Bool
  | [] => true
  | artifact :: rest =>
      (validateMemoryArtifact P artifact).isOk
        && (previousArtifactId.isEmpty || previousArtifactId < artifact.id)
        && artifactsOrdered artifact.id rest

/-- The second loop of `SafetyMemory::valid` on one event. -/
def replayEvent (artifacts : List MemoryArtifact) (replay : Replay)
    (event : MemoryEvent) : Option Replay :=
  if (validateMemoryEvent P event).isOk = false
      ∨ event.sequence ≠ replay.expectedSequence
      ∨ event.id ∈ replay.eventIds then none
  else match lookupArtifact artifacts event.artifactId with
    | none => none
    | some stored =>
        let next := { replay with
          expectedSequence := replay.expectedSequence + 1
          eventIds := event.id :: replay.eventIds }
        if event.type = .registered then
          if event.artifactId ∈ replay.state
              ∨ event.previousState ≠ .active ∨ event.currentState ≠ .active
              ∨ stored.registeredSequence ≠ event.sequence
              ∨ event.taskId ≠ stored.taskId
              ∨ event.detail ≠ ascii "registered" then none
          else some { next with
            state := replay.state.insert event.artifactId .active
            generation := replay.generation.insert event.artifactId 1 }
        else match replay.state.lookup event.artifactId with
          | none => none
          | some state =>
              if state ≠ event.previousState then none
              else if event.type = .reuseRecorded then
                if event.currentState ≠ state then none else some next
              else if event.taskId ≠ stored.taskId
                  ∨ transitionAllowed state event.currentState = false then
                none
              else some { next with
                state := replay.state.insert event.artifactId
                  event.currentState
                generation := replay.generation.insert event.artifactId
                  ((replay.generation.lookup event.artifactId).getD 0 + 1) }

/-- `SafetyMemory::valid`. -/
def valid (memory : SafetyMemory) : Bool :=
  if memory.nextSequence = 0
      ∨ kMaximumMemoryArtifacts < memory.artifacts.length
      ∨ kMaximumMemoryEvents < memory.events.length
      ∨ artifactsOrdered P [] memory.artifacts = false then false
  else match memory.events.foldlM (replayEvent P memory.artifacts)
      ({} : Replay) with
    | none => false
    | some replay =>
        decide (memory.nextSequence = replay.expectedSequence)
          && decide (replay.state.keys.length = memory.artifacts.length)
          && memory.artifacts.all fun artifact =>
            decide ((replay.state.lookup artifact.id).getD .active
                = artifact.state)
              && decide ((replay.generation.lookup artifact.id).getD 0
                = artifact.generation)

-- === calls

end

end SafetyMemory

/-- A call of an operation that changes the memory. -/
inductive MemoryCall where
  | registerArtifact (input : MemoryArtifactInput)
      (maximumArtifacts maximumEvents : Nat)
  | transition (artifactId : Bytes) (expectedGeneration : Nat)
      (targetState : MemoryArtifactState) (detail : Bytes)
      (maximumEvents : Nat)
  | invalidateScene (deploymentId sceneDigest detail : Bytes)
      (maximumEvents : Nat)
  | recordReuse (artifactId : Bytes) (query : MemoryReuseQuery)
      (detail : Bytes) (maximumEvents : Nat)

/-- What a call that succeeds returns. -/
inductive MemoryReply where
  | artifact (artifact : MemoryArtifact)
  | count (count : Nat)
  | recorded

namespace SafetyMemory

variable (P : Platform)

/-- A call on a memory. -/
def call (memory : SafetyMemory) :
    MemoryCall → Result MemoryReply × SafetyMemory
  | .registerArtifact input maximumArtifacts maximumEvents =>
      (memory.registerArtifact P input maximumArtifacts maximumEvents).map
        (Except.map .artifact) id
  | .transition artifactId expectedGeneration targetState detail
      maximumEvents =>
      (memory.transition P artifactId expectedGeneration targetState detail
        maximumEvents).map (Except.map .artifact) id
  | .invalidateScene deploymentId sceneDigest detail maximumEvents =>
      (memory.invalidateScene P deploymentId sceneDigest detail
        maximumEvents).map (Except.map .count) id
  | .recordReuse artifactId query detail maximumEvents =>
      (memory.recordReuse P artifactId query detail maximumEvents).map
        (Except.map fun _ => .recorded) id

/-- A sequence of calls, failing ones among them. -/
def run (memory : SafetyMemory) (calls : List MemoryCall) : SafetyMemory :=
  calls.foldl (fun memory call => (memory.call P call).2) memory

end SafetyMemory

end RbfSafe
