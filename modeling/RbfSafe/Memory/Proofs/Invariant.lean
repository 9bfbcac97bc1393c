/-
The run invariant of `SafetyMemory`.

After any calls whatever, failing ones among them, the log is numbered,
every artifact is where the log has brought it, and the next call, if it
fails, leaves no trace (`safetyMemory_run`). Under the limits of
`SafetyMemory::valid` the memory is valid, unless two of its event
documents have one digest.
-/
import RbfSafe.Memory.Proofs.Runs

namespace RbfSafe

open Lib.Journal SafetyMemory

section
variable (P : Platform) {memory : SafetyMemory}

-- === the next call

/-- What becomes of an artifact in one effect. -/
def Advances (a b : MemoryArtifact) : Prop :=
  b = a ∨ (SameRecord a b ∧ transitionAllowed a.state b.state = true
    ∧ b.generation = a.generation + 1)

theorem advances_effect (h : Consistent P memory)
    {maximumArtifacts maximumEvents : Nat} {next : SafetyMemory}
    (heffect : MemoryEffect P maximumArtifacts maximumEvents memory next)
    {a : MemoryArtifact} (ha : a ∈ memory.artifacts) :
    ∃ b ∈ next.artifacts, Advances a b := by
  cases heffect with
  | unchanged => exact ⟨a, ha, Or.inl rfl⟩
  | registered _ hnew _ _ _ _ _ =>
      obtain ⟨before, after, hsplit, hinsert, -, -⟩ :=
        insertArtifact_split h.ordered hnew
      refine ⟨a, ?_, Or.inl rfl⟩
      unfold SafetyMemory.registered
      rw [hinsert]
      rw [hsplit, List.mem_append] at ha
      rw [List.mem_append, List.mem_cons]
      tauto
  | @transitioned position target detail hfound hallowed _ _ =>
      obtain ⟨before, after, hsplit, hset⟩ :=
        lookupArtifact_split h.ordered hfound (moved position target)
      unfold SafetyMemory.transitioned
      rw [hset]
      rw [hsplit, List.mem_append, List.mem_cons] at ha
      rcases ha with ha | rfl | ha
      · exact ⟨a, List.mem_append_left _ ha, Or.inl rfl⟩
      · exact ⟨_, List.mem_append_right _ List.mem_cons_self,
          Or.inr ⟨sameRecord_moved a target, hallowed, rfl⟩⟩
      · exact ⟨a, List.mem_append_right _ (List.mem_cons_of_mem _ ha),
          Or.inl rfl⟩
  | @invalidated deploymentId sceneDigest detail _ _ =>
      refine ⟨_, List.mem_map.mpr ⟨a, ha, rfl⟩, ?_⟩
      by_cases hin : inScene deploymentId sceneDigest a = true
      · rw [if_pos hin]
        refine Or.inr ⟨rfl, ?_, rfl⟩
        rw [(inScene_iff.mp hin).1]
        rfl
      · rw [if_neg hin]
        exact Or.inl rfl
  | reused _ _ _ _ _ => exact ⟨a, ha, Or.inl rfl⟩

/-- Nothing is allowed to a retired artifact. -/
theorem Advances.retired {a b : MemoryArtifact} (h : Advances a b)
    (hretired : a.state = .retired) : b = a := by
  rcases h with rfl | ⟨-, hallowed, -⟩
  · rfl
  · rw [hretired] at hallowed
    cases hstate : b.state <;> rw [hstate] at hallowed <;> cases hallowed

theorem retired_run (h : Consistent P memory) {a : MemoryArtifact}
    (ha : a ∈ memory.artifacts) (hretired : a.state = .retired)
    (calls : List MemoryCall) : a ∈ (memory.run P calls).artifacts := by
  induction calls generalizing memory with
  | nil => exact ha
  | cons call calls ih =>
      have heffect := call_effect P memory call
      obtain ⟨b, hb, hadvances⟩ := advances_effect P h heffect ha
      rw [hadvances.retired hretired] at hb
      exact ih (h.effect P heffect) hb

/-- An input that describes the content of an artifact. -/
structure MemoryArtifactInput.Describes (input : MemoryArtifactInput)
    (a : MemoryArtifact) : Prop where
  tags : normalizeTags input.tags = .ok a.tags
  type : input.type = a.type
  deploymentId : input.deploymentId = a.deploymentId
  robotDigest : input.robotDigest = a.robotDigest
  sceneDigest : input.sceneDigest = a.sceneDigest
  taskId : input.taskId = a.taskId
  contentDigest : input.contentDigest = a.contentDigest
  locator : input.locator = a.locator
  evidence : input.evidence = a.evidence

theorem artifactOf_describes {input : MemoryArtifactInput} {a : MemoryArtifact}
    (h : input.Describes a) (hidentity : memoryArtifactIdentity P a = a.id)
    (next : Nat) :
    artifactOf P input a.tags next
      = { a with state := .active, generation := 1
                 registeredSequence := next } := by
  have hid : (artifactOf P input a.tags next).id = a.id := by
    rw [← hidentity]
    unfold artifactOf memoryArtifactIdentity artifactIdentityJson
    simp only [h.type, h.deploymentId, h.robotDigest, h.sceneDigest, h.taskId,
      h.contentDigest, h.locator, h.evidence]
  calc artifactOf P input a.tags next
      = { artifactOf P input a.tags next with id := a.id } := by rw [← hid]
    _ = _ := by
        unfold artifactOf
        simp only [h.type, h.deploymentId, h.robotDigest, h.sceneDigest,
          h.taskId, h.contentDigest, h.locator, h.evidence]

/-- Registering what is there already returns it. -/
theorem register_existing (h : Consistent P memory)
    {input : MemoryArtifactInput} {a : MemoryArtifact}
    (ha : a ∈ memory.artifacts) (hinput : input.Describes a)
    {maximumArtifacts maximumEvents : Nat} (hartifacts : maximumArtifacts ≠ 0)
    (hevents : maximumEvents ≠ 0) :
    memory.registerArtifact P input maximumArtifacts maximumEvents
      = (.ok a, memory) := by
  have hfacts := h.checkedArtifact P ha
  have hbuilt := artifactOf_describes P hinput hfacts.identity
    memory.nextSequence
  have hchecked : validateMemoryArtifact P
      (artifactOf P input a.tags memory.nextSequence) = .ok () := by
    rw [hbuilt, validateMemoryArtifact_iff]
    exact { hfacts with
      generation := one_ne_zero
      registeredSequence := by
        have := h.sequence
        show memory.nextSequence ≠ 0
        omega }
  have hlookup : lookupArtifact memory.artifacts
      (artifactOf P input a.tags memory.nextSequence).id = some a := by
    rw [hbuilt]
    exact (lookupArtifact_eq_some h.ordered).mpr ⟨ha, rfl⟩
  unfold SafetyMemory.registerArtifact
  rw [if_neg (by tauto), hinput.tags]
  dsimp only
  rw [hchecked]
  dsimp only
  rw [hlookup]

-- === the run

/-- What holds of a memory after any calls. -/
structure RunFacts (memory : SafetyMemory) : Prop where
  /-- The memory is valid, unless two events collide. -/
  valid : Set.InjOn P.sha256 (eventDocuments P.toLibc memory.events) →
    memory.valid P = true
  /-- A call that fails leaves everything as it was. -/
  failed : ∀ call e, (memory.call P call).1 = .error e →
    (memory.call P call).2 = memory
  /-- Events are numbered from one, without gaps. -/
  numbered : ∀ (i : Nat) (event : MemoryEvent),
    memory.events[i]? = some event → event.sequence = i + 1
  nextSequence : memory.nextSequence = memory.events.length + 1
  /-- The generation counts the events that changed the state. -/
  generation : ∀ a ∈ memory.artifacts,
    a.generation = 1 + changesOf memory.events a.id
  /-- The last event of an artifact left it in the state it is in. -/
  state : ∀ a ∈ memory.artifacts,
    stateAfter memory.events a.id = some a.state
  /-- An event that changes a state moves it along an allowed transition
  from where the events before it had left it. -/
  moves : ∀ (i : Nat) (event : MemoryEvent),
    memory.events[i]? = some event → event.changesState = true →
    stateAfter (memory.events.take i) event.artifactId
        = some event.previousState
      ∧ transitionAllowed event.previousState event.currentState = true
  /-- The next call keeps every artifact, or moves it on. -/
  advances : ∀ call, ∀ a ∈ memory.artifacts,
    ∃ b ∈ (memory.call P call).2.artifacts, Advances a b
  /-- No further calls change a retired artifact. -/
  retired : ∀ a ∈ memory.artifacts, a.state = .retired →
    ∀ calls, a ∈ (memory.run P calls).artifacts
  /-- A re-registration returns the artifact, unchanged. -/
  reregistered : ∀ a ∈ memory.artifacts, ∀ input : MemoryArtifactInput,
    input.Describes a → ∀ maximumArtifacts maximumEvents : Nat,
    maximumArtifacts ≠ 0 → maximumEvents ≠ 0 →
    memory.registerArtifact P input maximumArtifacts maximumEvents
      = (.ok a, memory)

theorem Consistent.moves (h : Consistent P memory) {i : Nat}
    {event : MemoryEvent} (hi : memory.events[i]? = some event)
    (hchanges : event.changesState = true) :
    stateAfter (memory.events.take i) event.artifactId
        = some event.previousState
      ∧ transitionAllowed event.previousState event.currentState = true := by
  obtain ⟨-, -, stored, -, -, hevent⟩ := admitted_iff.mp h.journal i event hi
  unfold EventAdmitted at hevent
  unfold MemoryEvent.changesState at hchanges
  cases htype : event.type with
  | registered => simp [htype] at hchanges
  | reuseRecorded => simp [htype] at hchanges
  | stateTransition =>
      rw [htype] at hevent
      exact ⟨hevent.1, hevent.2.2⟩
  | sceneInvalidated =>
      rw [htype] at hevent
      exact ⟨hevent.1, hevent.2.2⟩

theorem limited_empty : ({} : SafetyMemory).Limited :=
  ⟨Nat.zero_le _, Nat.zero_le _⟩

/-- **The run invariant.** -/
theorem safetyMemory_run (calls : List MemoryCall)
    (hcalls : ∀ call ∈ calls, call.Limited) :
    RunFacts P (SafetyMemory.run P {} calls) := by
  have h : Consistent P (SafetyMemory.run P {} calls) :=
    (consistent_empty P).run P calls
  have hlimited := Limited.run P limited_empty hcalls
  constructor
  case valid =>
    intro hdigest
    exact (valid_iff P _).mpr ⟨h, h.ids_nodup P hdigest, hlimited⟩
  case failed => exact fun call e herror => call_error P herror
  case numbered => exact fun i event hi => h.numbered P hi
  case nextSequence => exact h.sequence
  case generation => exact h.generation
  case state => exact h.state
  case moves => exact fun i event hi hchanges => h.moves P hi hchanges
  case advances =>
    exact fun call a ha => advances_effect P h (call_effect P _ call) ha
  case retired =>
    exact fun a ha hretired calls => retired_run P h ha hretired calls
  case reregistered =>
    exact fun a ha input hinput _ _ hartifacts hevents =>
      register_existing P h ha hinput hartifacts hevents

end

/-- A digest of sixty-four zeros. -/
def zeroDigest : Bytes := List.replicate 64 48

/-- An input that passes every check. -/
def sampleArtifactInput : MemoryArtifactInput where
  deploymentId := ascii "cell"
  robotDigest := zeroDigest
  sceneDigest := zeroDigest
  taskId := ascii "pick"
  contentDigest := zeroDigest
  locator := ascii "atlas"

theorem safetyMemory_run_sample :
    RunFacts (host fun _ _ _ => true)
      (SafetyMemory.run (host fun _ _ _ => true) {}
        [.registerArtifact sampleArtifactInput 1 4,
          .invalidateScene (ascii "cell") zeroDigest (ascii "moved") 4,
          .transition [] 0 .active [] 0]) := by
  apply safetyMemory_run
  intro call hcall
  simp only [List.mem_cons, List.not_mem_nil, or_false] at hcall
  rcases hcall with rfl | rfl | rfl <;> exact ⟨by decide, by decide⟩

end RbfSafe
