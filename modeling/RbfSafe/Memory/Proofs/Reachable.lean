/-
Which valid memories the operations can produce.

The replay of `SafetyMemory::valid` is weaker than the operations in two
places. It lets a reuse be recorded in any state, and a scene
invalidation move an artifact along any allowed transition, alone; the
operations record a reuse of an active artifact only, and invalidate all
active artifacts of a scene at once, in the order of their ids. These
are the only places: a valid memory whose log does neither is produced
by calls that succeed (`reachable_iff`).

A log is turned back into calls from its front. The memory of a prefix
is determined by the prefix and the stored contents (`Past.unique`), so
the call that the next event asks for has to produce the memory of the
longer prefix.
-/
import RbfSafe.Core.Proofs.Sha256
import RbfSafe.Memory.Proofs.Invariant

namespace RbfSafe

open Lib.Journal SafetyMemory

/-- Artifacts of one deployment and one scene. -/
def SameScene (a b : MemoryArtifact) : Prop :=
  a.deploymentId = b.deploymentId ∧ a.sceneDigest = b.sceneDigest

/-- The log of a memory reads as operations write it. -/
structure OperationalLog (memory : SafetyMemory) : Prop where
  /-- Reuse is recorded of active artifacts only. -/
  reuse : ∀ (i : Nat) (event : MemoryEvent),
    memory.events[i]? = some event → event.type = .reuseRecorded →
    event.previousState = .active
  /-- A scene invalidation makes an active artifact stale. -/
  stales : ∀ (i : Nat) (event : MemoryEvent),
    memory.events[i]? = some event → event.type = .sceneInvalidated →
    event.previousState = .active ∧ event.currentState = .stale
  /-- No active artifact of the scene comes before it. -/
  least : ∀ (i : Nat) (event : MemoryEvent),
    memory.events[i]? = some event → event.type = .sceneInvalidated →
    ∀ a ∈ memory.artifacts, a.id = event.artifactId →
    ∀ b ∈ memory.artifacts, SameScene a b → b.id < a.id →
    stateAfter (memory.events.take i) b.id ≠ some .active
  /-- While one is left active, the next event invalidates one of the
  scene too, for the same reason. -/
  exhaustive : ∀ (i : Nat) (event : MemoryEvent),
    memory.events[i]? = some event → event.type = .sceneInvalidated →
    ∀ a ∈ memory.artifacts, a.id = event.artifactId →
    ∀ b ∈ memory.artifacts, SameScene a b →
    stateAfter (memory.events.take (i + 1)) b.id = some .active →
    ∃ next, memory.events[i + 1]? = some next
      ∧ next.type = .sceneInvalidated ∧ next.detail = event.detail
      ∧ ∃ c ∈ memory.artifacts, c.id = next.artifactId ∧ SameScene a c

section
variable (P : Platform)

/-- The memories that calls which succeed produce from the empty one. -/
inductive Reachable : SafetyMemory → Prop
  | empty : Reachable {}
  | call {memory : SafetyMemory} {call : MemoryCall} {reply : MemoryReply}
      (h : Reachable memory) (hok : (memory.call P call).1 = .ok reply) :
      Reachable (memory.call P call).2

theorem Reachable.of_call {memory next : SafetyMemory} {call : MemoryCall}
    {reply : MemoryReply} (h : Reachable P memory)
    (hcall : memory.call P call = (.ok reply, next)) : Reachable P next := by
  have hnext := Reachable.call h (congrArg Prod.fst hcall)
  rwa [hcall] at hnext

/-- An operation that succeeds is a call that succeeds. -/
theorem Reachable.of_outcome {α : Type} {memory next : SafetyMemory}
    (call : MemoryCall) {outcome : Result α × SafetyMemory} {value : α}
    {reply : α → MemoryReply} (h : Reachable P memory)
    (hcall : memory.call P call = outcome.map (Except.map reply) id)
    (hok : outcome = (.ok value, next)) : Reachable P next := by
  rw [hok] at hcall
  exact h.of_call P hcall

theorem Reachable.consistent {memory : SafetyMemory}
    (h : Reachable P memory) : Consistent P memory := by
  induction h with
  | empty => exact consistent_empty P
  | call _ _ ih => exact ih.effect P (call_effect P _ _)

-- === past of a memory

/-- A memory whose log is a prefix of another's, about the same
contents. -/
structure Past (memory past : SafetyMemory) (n : Nat) : Prop where
  consistent : Consistent P past
  events : past.events = memory.events.take n
  artifacts : ∀ a ∈ past.artifacts, ∃ b ∈ memory.artifacts, SameRecord a b

/-- Records of one id in one memory, in the same state, are the same. -/
theorem eq_of_sameRecord {a b c d : MemoryArtifact} (hac : SameRecord a c)
    (hbd : SameRecord b d) (hcd : c = d) (hstate : a.state = b.state)
    (hgeneration : a.generation = b.generation) : a = b := by
  calc a = { c with state := a.state, generation := a.generation } := hac.symm
    _ = { d with state := b.state, generation := b.generation } := by
        rw [hcd, hstate, hgeneration]
    _ = b := Eq.symm hbd.symm

variable {memory past : SafetyMemory} {n : Nat}

/-- An artifact has events in the log of a consistent memory exactly if
it is stored there. -/
theorem Consistent.stored_of_state (h : Consistent P memory) {id : Bytes}
    {state : MemoryArtifactState}
    (hstate : stateAfter memory.events id = some state) :
    ∃ a ∈ memory.artifacts, a.id = id ∧ a.state = state := by
  by_contra hnone
  have hfresh : ∀ a ∈ memory.artifacts, a.id ≠ id := by
    intro a ha hid
    refine hnone ⟨a, ha, hid, ?_⟩
    have hown := h.state a ha
    rw [hid, hstate] at hown
    exact (Option.some.inj hown).symm
  rw [stateAfter_fresh P h.journal hfresh] at hstate
  cases hstate

/-- Sorted lists with the same members are the same. -/
theorem eq_of_mem_iff {l l' : List MemoryArtifact}
    (hl : l.Pairwise fun a b => a.id < b.id)
    (hl' : l'.Pairwise fun a b => a.id < b.id)
    (h : ∀ a, a ∈ l ↔ a ∈ l') : l = l' := by
  have hnodup : ∀ {l : List MemoryArtifact},
      l.Pairwise (fun a b => a.id < b.id) → l.Nodup := by
    intro l hl
    refine hl.imp ?_
    rintro a b hab rfl
    exact List.lt_irrefl _ hab
  have hperm := (List.perm_ext_iff_of_nodup (hnodup hl) (hnodup hl')).mpr h
  refine hperm.eq_of_pairwise ?_ hl hl'
  intro a b _ _ hab hba
  exact absurd (List.lt_trans hab hba) (List.lt_irrefl _)

/-- **The memory of a prefix is determined.** -/
theorem Past.unique {past' : SafetyMemory} (hmemory : Consistent P memory)
    (h : Past P memory past n) (h' : Past P memory past' n) :
    past = past' := by
  have hmem : ∀ {r s : SafetyMemory}, Past P memory r n → Past P memory s n →
      ∀ a ∈ r.artifacts, a ∈ s.artifacts := by
    intro r s hr hs a ha
    have hevents : s.events = r.events := by rw [hs.events, hr.events]
    have hstate := hr.consistent.state a ha
    rw [← hevents] at hstate
    obtain ⟨b, hb, hid, hbstate⟩ := hs.consistent.stored_of_state P hstate
    obtain ⟨c, hc, hac⟩ := hr.artifacts a ha
    obtain ⟨d, hd, hbd⟩ := hs.artifacts b hb
    have hcd : c = d := eq_of_artifact_id hmemory.ordered hc hd
      (by rw [hac.id, hbd.id, hid])
    have hgeneration : a.generation = b.generation := by
      rw [hr.consistent.generation a ha, hs.consistent.generation b hb,
        hevents, hid]
    rwa [eq_of_sameRecord hac hbd hcd hbstate.symm hgeneration]
  have hartifacts : past.artifacts = past'.artifacts :=
    eq_of_mem_iff h.consistent.ordered h'.consistent.ordered fun a =>
      ⟨hmem h h' a, hmem h' h a⟩
  have hevents : past.events = past'.events := by
    rw [h.events, h'.events]
  have hsequence : past.nextSequence = past'.nextSequence := by
    rw [h.consistent.sequence, h'.consistent.sequence, hevents]
  cases past
  cases past'
  simp_all

theorem past_self (h : Consistent P memory) :
    Past P memory memory memory.events.length where
  consistent := h
  events := (List.take_length).symm
  artifacts a ha := ⟨a, ha, .refl a⟩

theorem past_empty (memory : SafetyMemory) : Past P memory {} 0 where
  consistent := consistent_empty P
  events := rfl
  artifacts _ ha := absurd ha List.not_mem_nil

-- === one event, one call

/-- A checked event is the one `make_event` builds. -/
theorem eq_makeEvent {event : MemoryEvent} {a : MemoryArtifact}
    (hidentity : memoryEventIdentity P event = event.id)
    (hid : a.id = event.artifactId) (hstate : a.state = event.currentState) :
    event = makeEvent P event.sequence event.type a event.previousState
      event.taskId event.detail := by
  calc event = { event with id := memoryEventIdentity P event } := by
        rw [hidentity]
    _ = _ := by
        unfold makeEvent
        rw [hid, hstate]
        rfl

theorem take_snoc {α : Type} {l : List α} {n : Nat} {a : α}
    (h : l[n]? = some a) : l.take (n + 1) = l.take n ++ [a] := by
  rw [List.take_add_one, h, Option.toList_some]

theorem Past.sequence (h : Past P memory past n) {event : MemoryEvent}
    (hn : memory.events[n]? = some event) :
    past.events.length = n ∧ past.nextSequence = n + 1 := by
  have hlt := (List.getElem?_eq_some_iff.mp hn).1
  have hlength : past.events.length = n := by
    rw [h.events, List.length_take, Nat.min_eq_left hlt.le]
  exact ⟨hlength, by rw [h.consistent.sequence, hlength]⟩

/-- The event at the end of a prefix, against the memory of the prefix. -/
theorem Past.follows (hmemory : Consistent P memory)
    {event : MemoryEvent} (hn : memory.events[n]? = some event) :
    CheckedEvent P event ∧ event.sequence = n + 1
      ∧ ∃ stored ∈ memory.artifacts, stored.id = event.artifactId
        ∧ EventAdmitted stored
          (stateAfter (memory.events.take n) event.artifactId) event := by
  have hlt := (List.getElem?_eq_some_iff.mp hn).1
  obtain ⟨hvalid, hsequence, hstored⟩ :=
    admitted_iff.mp hmemory.journal n event hn
  rw [List.length_take, Nat.min_eq_left hlt.le] at hsequence
  exact ⟨(validateMemoryEvent_iff P).mp hvalid, hsequence, hstored⟩

/-- The artifact an event changes is stored in the memory before it. -/
theorem Past.stored (h : Past P memory past n)
    (hmemory : Consistent P memory) {stored : MemoryArtifact}
    (hstored : stored ∈ memory.artifacts) {state : MemoryArtifactState}
    (hstate : stateAfter (memory.events.take n) stored.id = some state) :
    ∃ a ∈ past.artifacts, lookupArtifact past.artifacts a.id = some a
      ∧ SameRecord a stored ∧ a.state = state := by
  rw [← h.events] at hstate
  obtain ⟨a, ha, hid, hastate⟩ := h.consistent.stored_of_state P hstate
  obtain ⟨b, hb, hsame⟩ := h.artifacts a ha
  have hbs : b = stored := eq_of_artifact_id hmemory.ordered hb hstored
    (hsame.id.trans hid)
  exact ⟨a, ha, (lookupArtifact_eq_some h.consistent.ordered).mpr ⟨ha, rfl⟩,
    hbs ▸ hsame, hastate⟩

theorem Past.snoc (h : Past P memory past n) {event : MemoryEvent}
    (hn : memory.events[n]? = some event) {next : SafetyMemory}
    (hnext : Reachable P next) (hevents : next.events = past.events ++ [event])
    (hartifacts : ∀ a ∈ next.artifacts, (∃ b ∈ past.artifacts, SameRecord b a)
      ∨ ∃ b ∈ memory.artifacts, SameRecord a b) :
    Past P memory next (n + 1) where
  consistent := hnext.consistent
  events := by rw [hevents, h.events, take_snoc hn]
  artifacts a ha := by
    rcases hartifacts a ha with ⟨b, hb, hsame⟩ | hdirect
    · obtain ⟨c, hc, hsame'⟩ := h.artifacts b hb
      exact ⟨c, hc, hsame.symm.trans hsame'⟩
    · exact hdirect

/-- A registration is made by `register_artifact`. -/
theorem Past.registered (h : Past P memory past n)
    (hmemory : Consistent P memory) (hpast : Reachable P past)
    {event : MemoryEvent} (hn : memory.events[n]? = some event)
    (htype : event.type = .registered) :
    ∃ next, Reachable P next ∧ Past P memory next (n + 1) := by
  obtain ⟨hevent, hsequence, stored, hmem, hid, hadmitted⟩ :=
    Past.follows P hmemory hn
  unfold EventAdmitted at hadmitted
  rw [htype] at hadmitted
  obtain ⟨hnone, hprevious, hcurrent, hregistered, htask, hdetail⟩ := hadmitted
  obtain ⟨hlength, hnext⟩ := h.sequence P hn
  have hfacts := hmemory.checkedArtifact P hmem
  let input : MemoryArtifactInput :=
    { type := stored.type, deploymentId := stored.deploymentId
      robotDigest := stored.robotDigest, sceneDigest := stored.sceneDigest
      taskId := stored.taskId, contentDigest := stored.contentDigest
      locator := stored.locator, evidence := stored.evidence
      tags := stored.tags }
  have hinput : input.Describes stored :=
    ⟨hfacts.tags, rfl, rfl, rfl, rfl, rfl, rfl, rfl, rfl⟩
  have hbuilt := artifactOf_describes P hinput hfacts.identity
    past.nextSequence
  have hchecked : validateMemoryArtifact P
      (artifactOf P input stored.tags past.nextSequence) = .ok () := by
    rw [hbuilt, validateMemoryArtifact_iff]
    exact { hfacts with
      generation := one_ne_zero
      registeredSequence := by
        show past.nextSequence ≠ 0
        omega }
  have hsame : SameRecord (artifactOf P input stored.tags past.nextSequence)
      stored := by
    rw [hbuilt]
    unfold SameRecord
    rw [hnext, ← hsequence, ← hregistered]
  have hnew : lookupArtifact past.artifacts
      (artifactOf P input stored.tags past.nextSequence).id = none := by
    rw [lookupArtifact_eq_none h.consistent.ordered]
    intro a ha haid
    have hstate := h.consistent.state a ha
    rw [haid, ← hsame.id, hid, h.events, hnone] at hstate
    cases hstate
  have hcall : past.registerArtifact P input (past.artifacts.length + 1)
      (past.events.length + 1) = (.ok (artifactOf P input stored.tags
        past.nextSequence), past.registered P (artifactOf P input stored.tags
          past.nextSequence)) := by
    unfold SafetyMemory.registerArtifact
    rw [if_neg (by omega), hinput.tags]
    dsimp only
    rw [hchecked]
    dsimp only
    rw [hnew]
    dsimp only
    rw [if_neg (by omega)]
    rfl
  have hreach := Reachable.of_outcome P (.registerArtifact input
    (past.artifacts.length + 1) (past.events.length + 1)) hpast rfl hcall
  refine ⟨_, hreach, h.snoc P hn hreach ?_ ?_⟩
  · show past.events ++ [_] = past.events ++ [event]
    rw [eq_makeEvent P hevent.identity (hsame.id.symm.trans hid)
      (by rw [hbuilt, hcurrent]), hsequence, htype, hprevious, htask, hdetail,
      hnext]
    rfl
  · intro a ha
    obtain ⟨before, after, hsplit, hinsert, -, -⟩ :=
      insertArtifact_split h.consistent.ordered hnew
    have ha : a ∈ (past.registered P (artifactOf P input stored.tags
        past.nextSequence)).artifacts := ha
    unfold SafetyMemory.registered at ha
    rw [hinsert, List.mem_append, List.mem_cons] at ha
    have hold : ∀ b, b ∈ before ∨ b ∈ after → b ∈ past.artifacts := by
      intro b hb
      rw [hsplit, List.mem_append]
      exact hb
    rcases ha with ha | rfl | ha
    · exact Or.inl ⟨a, hold a (Or.inl ha), .refl a⟩
    · exact Or.inr ⟨stored, hmem, hsame⟩
    · exact Or.inl ⟨a, hold a (Or.inr ha), .refl a⟩

/-- A transition is made by `transition`. -/
theorem Past.transitioned (h : Past P memory past n)
    (hmemory : Consistent P memory) (hpast : Reachable P past)
    {event : MemoryEvent} (hn : memory.events[n]? = some event)
    (htype : event.type = .stateTransition) :
    ∃ next, Reachable P next ∧ Past P memory next (n + 1) := by
  obtain ⟨hevent, hsequence, stored, hmem, hid, hadmitted⟩ :=
    Past.follows P hmemory hn
  unfold EventAdmitted at hadmitted
  rw [htype] at hadmitted
  obtain ⟨hstate, htask, hallowed⟩ := hadmitted
  obtain ⟨hlength, hnext⟩ := h.sequence P hn
  rw [← hid] at hstate
  obtain ⟨a, ha, hfound, hsame, hastate⟩ := h.stored P hmemory hmem hstate
  have hfacts := h.consistent.checkedArtifact P ha
  have hcall : past.transition P a.id a.generation event.currentState
      event.detail (past.events.length + 1)
      = (.ok (moved a event.currentState),
        past.transitioned P a event.currentState event.detail) := by
    unfold SafetyMemory.transition
    rw [if_neg (by simp [hfacts.id, hevent.detail]), hfound]
    dsimp only
    rw [if_neg (by simp), if_neg (by simp [hastate, hallowed]),
      if_neg (by omega)]
    rfl
  have hreach := Reachable.of_outcome P (.transition a.id a.generation
    event.currentState event.detail (past.events.length + 1)) hpast rfl hcall
  refine ⟨_, hreach, h.snoc P hn hreach ?_ ?_⟩
  · show past.events ++ [_] = past.events ++ [event]
    rw [@eq_makeEvent P event (moved a event.currentState) hevent.identity
      (hsame.id.symm.trans hid) rfl, hsequence, htype, htask, hnext, hastate,
      hsame]
    rfl
  · intro b hb
    refine Or.inl ?_
    rcases List.mem_or_eq_of_mem_set hb with hb | rfl
    · exact ⟨b, hb, .refl b⟩
    · exact ⟨a, ha, sameRecord_moved a _⟩

/-- A query that asks for an artifact as it is. -/
def queryFor (a : MemoryArtifact) (targetTaskId : Bytes) :
    MemoryReuseQuery where
  deploymentId := a.deploymentId
  robotDigest := a.robotDigest
  sceneDigest := a.sceneDigest
  targetTaskId := targetTaskId

theorem directReuse_queryFor {a : MemoryArtifact} (hactive : a.state = .active)
    (taskId : Bytes) : DirectReuse a (queryFor a taskId) where
  deployment := rfl
  robot := rfl
  type := rfl
  task := Or.inl rfl
  evidence := Nat.zero_le _
  tags := by
    have hnil : (queryFor a taskId).requiredTags = [] := rfl
    rw [hnil, Lib.Sorting.sortUnique_nil]
    cases a.tags <;> rfl
  active := hactive
  scene := rfl

theorem normalizeTags_nil : normalizeTags [] = .ok [] := by
  unfold normalizeTags
  rw [if_neg (by simp), if_neg (by simp), Lib.Sorting.sortUnique_nil]

/-- The reuse of an active artifact is made by `record_reuse`. -/
theorem Past.reused (h : Past P memory past n)
    (hmemory : Consistent P memory) (hpast : Reachable P past)
    {event : MemoryEvent} (hn : memory.events[n]? = some event)
    (htype : event.type = .reuseRecorded)
    (hactive : event.previousState = .active) :
    ∃ next, Reachable P next ∧ Past P memory next (n + 1) := by
  obtain ⟨hevent, hsequence, stored, hmem, hid, hadmitted⟩ :=
    Past.follows P hmemory hn
  unfold EventAdmitted at hadmitted
  rw [htype] at hadmitted
  obtain ⟨hstate, hcurrent⟩ := hadmitted
  obtain ⟨hlength, hnext⟩ := h.sequence P hn
  rw [← hid] at hstate
  obtain ⟨a, ha, hfound, hsame, hastate⟩ := h.stored P hmemory hmem hstate
  have hfacts := h.consistent.checkedArtifact P ha
  have hassess : past.assessReuse a.id (queryFor a event.taskId)
      = .ok (assess a (queryFor a event.taskId)) := by
    have hresults : (queryFor a event.taskId).maximumResults ≠ 0 := by
      show 100000 ≠ 0
      omega
    exact assessReuse_ok.mpr ⟨validateReuseQuery_iff.mpr ⟨hfacts.deploymentId,
      hfacts.robotDigest, hfacts.sceneDigest, hevent.taskId, hresults, [],
      normalizeTags_nil⟩, hfacts.id, a, hfound, rfl⟩
  have hdirect := assess_direct.mpr
    (directReuse_queryFor (hastate.trans hactive) event.taskId)
  have hcall : past.recordReuse P a.id (queryFor a event.taskId) event.detail
      (past.events.length + 1)
      = (.ok (), past.reused P a event.taskId event.detail) := by
    unfold SafetyMemory.recordReuse
    rw [hassess]
    dsimp only
    rw [if_neg (not_not.mpr hdirect), if_neg (by simp [hevent.detail]),
      if_neg (by omega), assess_artifact]
    rfl
  have hreach := Reachable.of_outcome P (.recordReuse a.id
    (queryFor a event.taskId) event.detail (past.events.length + 1)) hpast rfl
    hcall
  refine ⟨_, hreach, h.snoc P hn hreach ?_ (fun b hb => Or.inl ⟨b, hb, .refl b⟩)⟩
  show past.events ++ [_] = past.events ++ [event]
  rw [@eq_makeEvent P event a hevent.identity (hsame.id.symm.trans hid)
    (hastate.trans hcurrent.symm), hsequence, htype, hnext, hastate]
  rfl

-- === one scene, one call

/-- The next event of the log invalidates an artifact of the scene. -/
def InvalidatesNext (memory : SafetyMemory)
    (deploymentId sceneDigest detail : Bytes) (p : Nat) : Prop :=
  ∃ event, memory.events[p]? = some event ∧ event.type = .sceneInvalidated
    ∧ event.detail = detail ∧ ∃ c ∈ memory.artifacts,
      c.id = event.artifactId ∧ c.deploymentId = deploymentId
        ∧ c.sceneDigest = sceneDigest

/-- A place in the loop of `invalidate_scene`, and the prefix of the log
it has come to. -/
structure LoopPlace (memory : SafetyMemory)
    (deploymentId sceneDigest detail : Bytes)
    (visited rest : List MemoryArtifact) (p : Nat) : Prop where
  ordered : (visited ++ rest).Pairwise fun a b => a.id < b.id
  stored : ∀ c ∈ memory.artifacts, ∀ state,
    stateAfter (memory.events.take p) c.id = some state →
    ∃ a ∈ visited ++ rest, a.id = c.id
  record : ∀ a ∈ visited ++ rest, ∃ c ∈ memory.artifacts, SameRecord a c
  before : ∀ a ∈ visited, a.deploymentId = deploymentId →
    a.sceneDigest = sceneDigest →
    stateAfter (memory.events.take p) a.id ≠ some .active
  after : ∀ a ∈ rest, stateAfter (memory.events.take p) a.id = some a.state
  next : (∃ a ∈ rest, inScene deploymentId sceneDigest a = true) →
    InvalidatesNext memory deploymentId sceneDigest detail p

section Loop
variable {deploymentId sceneDigest detail : Bytes} {a : MemoryArtifact}
  {visited rest : List MemoryArtifact} {p : Nat}

/-- The record of an artifact the loop has come to. -/
theorem LoopPlace.eq_record
    (h : LoopPlace memory deploymentId sceneDigest detail visited rest p)
    (hmemory : Consistent P memory) (ha : a ∈ visited ++ rest)
    {c : MemoryArtifact} (hc : c ∈ memory.artifacts) (hid : a.id = c.id) :
    SameRecord a c := by
  obtain ⟨d, hd, hsame⟩ := h.record a ha
  have hdc : d = c :=
    eq_of_artifact_id hmemory.ordered hd hc (hsame.id.trans hid)
  exact hdc ▸ hsame

/-- The loop passes over an artifact it does not select. -/
theorem LoopPlace.skip
    (h : LoopPlace memory deploymentId sceneDigest detail visited (a :: rest)
      p) (hin : inScene deploymentId sceneDigest a = false) :
    LoopPlace memory deploymentId sceneDigest detail (visited ++ [a]) rest
      p := by
  have happend : visited ++ [a] ++ rest = visited ++ a :: rest := by
    rw [List.append_assoc, List.singleton_append]
  constructor
  case ordered => exact happend ▸ h.ordered
  case stored => exact happend ▸ h.stored
  case record => exact happend ▸ h.record
  case before =>
    intro b hb hdeployment hscene hactive
    rcases List.mem_append.mp hb with hb | hb
    · exact h.before b hb hdeployment hscene hactive
    · rw [List.mem_singleton.mp hb] at hdeployment hscene hactive
      rw [h.after a List.mem_cons_self] at hactive
      have hsome := inScene_iff.mpr
        ⟨Option.some.inj hactive, hdeployment, hscene⟩
      rw [hin] at hsome
      cases hsome
  case after => exact fun b hb => h.after b (List.mem_cons_of_mem _ hb)
  case next =>
    rintro ⟨b, hb, hbin⟩
    exact h.next ⟨b, List.mem_cons_of_mem _ hb, hbin⟩

/-- The event at the place of a selected artifact is about it. -/
theorem LoopPlace.event
    (h : LoopPlace memory deploymentId sceneDigest detail visited (a :: rest)
      p) (hmemory : Consistent P memory) (hlog : OperationalLog memory)
    (hin : inScene deploymentId sceneDigest a = true) :
    memory.events[p]? = some (makeEvent P (p + 1) .sceneInvalidated (staled a)
      a.state a.taskId detail) := by
  obtain ⟨event, hp, htype, hdetail, c, hc, hid, hdeployment, hscene⟩ :=
    h.next ⟨a, List.mem_cons_self, hin⟩
  obtain ⟨hevent, hsequence, stored, hstored, hstoredId, hadmitted⟩ :=
    Past.follows P hmemory hp
  unfold EventAdmitted at hadmitted
  rw [htype] at hadmitted
  obtain ⟨hstate, htask, -⟩ := hadmitted
  obtain ⟨hprevious, hcurrent⟩ := hlog.stales p event hp htype
  obtain ⟨hactive, hadeployment, hascene⟩ := inScene_iff.mp hin
  have hmemA : a ∈ visited ++ a :: rest :=
    List.mem_append_right _ List.mem_cons_self
  rw [← hid, hprevious] at hstate
  have hsame : a.id = c.id := by
    obtain ⟨b, hb, hbid⟩ := h.stored c hc _ hstate
    have hbc := h.eq_record P hmemory hb hc hbid
    rcases List.mem_append.mp hb with hvisited | htail
    · refine absurd (hbid ▸ hstate) (h.before b hvisited ?_ ?_)
      · rw [← hdeployment, hbc]
      · rw [← hscene, hbc]
    · rcases List.mem_cons.mp htail with rfl | htail
      · exact hbid
      · -- the loop would have come to `a` first
        obtain ⟨d, hd, had⟩ := h.record a hmemA
        have hlt := (List.pairwise_cons.mp
          (List.pairwise_append.mp h.ordered).2.1).1 b htail
        have hscenes : SameScene c d := by
          refine ⟨?_, ?_⟩
          · rw [hdeployment, had, hadeployment]
          · rw [hscene, had, hascene]
        have hleast := hlog.least p event hp htype c hc hid d hd hscenes
          (by rw [had.id, ← hbid]; exact hlt)
        rw [had.id, h.after a List.mem_cons_self, hactive] at hleast
        exact absurd rfl hleast
  have hrecord : SameRecord a stored := h.eq_record P hmemory hmemA hstored
    (by rw [hsame, hid, hstoredId])
  rw [hp, @eq_makeEvent P event (staled a) hevent.identity
    (hsame.trans hid) hcurrent.symm, hsequence, htype, hprevious, hactive,
    htask, hdetail, hrecord]

/-- The loop moves past an artifact it selects, the log past its event. -/
theorem LoopPlace.step
    (h : LoopPlace memory deploymentId sceneDigest detail visited (a :: rest)
      p) (hmemory : Consistent P memory) (hlog : OperationalLog memory)
    (hin : inScene deploymentId sceneDigest a = true) :
    LoopPlace memory deploymentId sceneDigest detail (visited ++ [a]) rest
      (p + 1) := by
  have hp := h.event P hmemory hlog hin
  have htake := take_snoc hp
  have hmemA : a ∈ visited ++ a :: rest :=
    List.mem_append_right _ List.mem_cons_self
  have happend : visited ++ [a] ++ rest = visited ++ a :: rest := by
    rw [List.append_assoc, List.singleton_append]
  have hother : ∀ id, a.id ≠ id →
      stateAfter (memory.events.take (p + 1)) id
        = stateAfter (memory.events.take p) id := by
    intro id hne
    rw [htake, stateAfter_snoc]
    exact if_neg hne
  have hown : stateAfter (memory.events.take (p + 1)) a.id = some .stale := by
    rw [htake, stateAfter_snoc]
    exact if_pos rfl
  obtain ⟨-, hadeployment, hascene⟩ := inScene_iff.mp hin
  have hafter : ∀ b ∈ rest,
      stateAfter (memory.events.take (p + 1)) b.id = some b.state := by
    intro b hb
    rw [hother b.id (ne_of_split h.ordered (Or.inr hb))]
    exact h.after b (List.mem_cons_of_mem _ hb)
  constructor
  case ordered => exact happend ▸ h.ordered
  case stored =>
    intro c hc state hstate
    rw [happend]
    by_cases hid : a.id = c.id
    · exact ⟨a, hmemA, hid⟩
    · rw [hother c.id hid] at hstate
      exact h.stored c hc state hstate
  case record => exact happend ▸ h.record
  case before =>
    intro b hb hdeployment hscene
    rcases List.mem_append.mp hb with hb | hb
    · rw [hother b.id (ne_of_split h.ordered (Or.inl hb))]
      exact h.before b hb hdeployment hscene
    · rw [List.mem_singleton.mp hb, hown]
      simp
  case after => exact hafter
  case next =>
    rintro ⟨b, hb, hbin⟩
    obtain ⟨hbactive, hbdeployment, hbscene⟩ := inScene_iff.mp hbin
    obtain ⟨c, hc, hac⟩ := h.record a hmemA
    obtain ⟨d, hd, hbd⟩ := h.record b
      (List.mem_append_right _ (List.mem_cons_of_mem _ hb))
    have hscenes : SameScene c d := by
      refine ⟨?_, ?_⟩
      · rw [hac, hbd, hadeployment, hbdeployment]
      · rw [hac, hbd, hascene, hbscene]
    obtain ⟨event, hnext, htype, hdetail, e, he, heid, hscene⟩ :=
      hlog.exhaustive p _ hp rfl c hc hac.id d hd hscenes
        (by rw [hbd.id, hafter b hb, hbactive])
    refine ⟨event, hnext, htype, hdetail, e, he, heid, ?_, ?_⟩
    · rw [← hscene.1, hac, hadeployment]
    · rw [← hscene.2, hac, hascene]

/-- **The log goes on with the events of the loop.** -/
theorem LoopPlace.events
    (h : LoopPlace memory deploymentId sceneDigest detail visited rest p)
    (hmemory : Consistent P memory) (hlog : OperationalLog memory) :
    memory.events.take (p + rest.countP (inScene deploymentId sceneDigest))
      = memory.events.take p ++ sceneEvents P deploymentId sceneDigest detail
        rest (p + 1) := by
  induction rest generalizing visited p with
  | nil => rw [List.countP_nil, sceneEvents, List.append_nil, Nat.add_zero]
  | cons a rest ih =>
      cases hin : inScene deploymentId sceneDigest a with
      | false =>
          rw [List.countP_cons_of_neg (by simp [hin]), sceneEvents_skip P hin]
          exact ih (h.skip hin)
      | true =>
          rw [List.countP_cons_of_pos hin, sceneEvents_cons P hin,
            List.append_cons, ← take_snoc (h.event P hmemory hlog hin),
            ← ih (h.step P hmemory hlog hin)]
          congr 1
          omega

end Loop

/-- A scene invalidation, and those that follow it, are made by one
`invalidate_scene`. -/
theorem Past.invalidated (h : Past P memory past n)
    (hmemory : Consistent P memory) (hlog : OperationalLog memory)
    (hpast : Reachable P past) {event : MemoryEvent}
    (hn : memory.events[n]? = some event)
    (htype : event.type = .sceneInvalidated) :
    ∃ m, n < m ∧ ∃ next, Reachable P next ∧ Past P memory next m := by
  obtain ⟨hevent, -, stored, hmem, hid, hadmitted⟩ :=
    Past.follows P hmemory hn
  unfold EventAdmitted at hadmitted
  rw [htype] at hadmitted
  obtain ⟨hstate, -, -⟩ := hadmitted
  obtain ⟨hlength, hnext⟩ := h.sequence P hn
  rw [← hid, (hlog.stales n event hn htype).1] at hstate
  obtain ⟨a, ha, -, hsame, hastate⟩ := h.stored P hmemory hmem hstate
  have hfacts := h.consistent.checkedArtifact P ha
  have hplace : LoopPlace memory a.deploymentId a.sceneDigest event.detail []
      past.artifacts n := by
    constructor
    case ordered => exact h.consistent.ordered
    case stored =>
      intro c hc state hcstate
      rw [← h.events] at hcstate
      obtain ⟨b, hb, hbid, -⟩ := h.consistent.stored_of_state P hcstate
      exact ⟨b, hb, hbid⟩
    case record => exact h.artifacts
    case before => exact fun b hb => absurd hb List.not_mem_nil
    case after =>
      intro b hb
      rw [← h.events]
      exact h.consistent.state b hb
    case next =>
      intro _
      refine ⟨event, hn, htype, rfl, stored, hmem, hid, ?_, ?_⟩
      · rw [hsame]
      · rw [hsame]
  have hcount : 0 < past.artifacts.countP
      (inScene a.deploymentId a.sceneDigest) :=
    List.countP_pos_iff.mpr ⟨a, ha, inScene_iff.mpr ⟨hastate, rfl, rfl⟩⟩
  let maximumEvents := past.events.length
    + past.artifacts.countP (inScene a.deploymentId a.sceneDigest)
  have hcall : past.invalidateScene P a.deploymentId a.sceneDigest
      event.detail maximumEvents
      = (.ok (past.artifacts.countP (inScene a.deploymentId a.sceneDigest)),
        past.invalidated P a.deploymentId a.sceneDigest event.detail) := by
    unfold SafetyMemory.invalidateScene
    rw [if_neg (by
      simp only [hfacts.deploymentId, hfacts.sceneDigest, hevent.detail,
        Bool.true_eq_false, false_or]
      omega)]
    dsimp only
    rw [if_neg (by omega)]
    rfl
  have hreach := Reachable.of_outcome P (.invalidateScene a.deploymentId
    a.sceneDigest event.detail maximumEvents) hpast rfl hcall
  refine ⟨n + past.artifacts.countP (inScene a.deploymentId a.sceneDigest),
    by omega, _, hreach, hreach.consistent, ?_, ?_⟩
  · rw [hplace.events P hmemory hlog, ← h.events, ← hnext]
    rfl
  · intro b hb
    obtain ⟨c, hc, rfl⟩ := List.mem_map.mp hb
    obtain ⟨d, hd, hcd⟩ := h.artifacts c hc
    exact ⟨d, hd, (sameRecord_staled c).symm.trans hcd⟩

/-- **An operational log is turned back into calls.** -/
theorem Past.reachable (hmemory : Consistent P memory)
    (hlog : OperationalLog memory) (h : Past P memory past n)
    (hpast : Reachable P past) (hn : n ≤ memory.events.length) :
    Reachable P memory := by
  induction hk : memory.events.length - n using Nat.strong_induction_on
    generalizing n past with
  | _ k ih =>
    rcases Nat.lt_or_ge n memory.events.length with hlt | hge
    · have hget := List.getElem?_eq_getElem hlt
      have hstep : ∃ m, n < m ∧ ∃ next, Reachable P next
          ∧ Past P memory next m := by
        cases htype : memory.events[n].type with
        | registered =>
            exact ⟨n + 1, by omega, h.registered P hmemory hpast hget htype⟩
        | stateTransition =>
            exact ⟨n + 1, by omega, h.transitioned P hmemory hpast hget htype⟩
        | reuseRecorded =>
            exact ⟨n + 1, by omega, h.reused P hmemory hpast hget htype
              (hlog.reuse n _ hget htype)⟩
        | sceneInvalidated =>
            exact h.invalidated P hmemory hlog hpast hget htype
      obtain ⟨m, hm, next, hreach, hnext⟩ := hstep
      rcases Nat.lt_or_ge memory.events.length m with hover | hwithin
      · have hall : Past P memory next memory.events.length := by
          refine ⟨hnext.consistent, ?_, hnext.artifacts⟩
          rw [hnext.events, List.take_of_length_le hover.le,
            List.take_length]
        rwa [← hall.unique P hmemory (past_self P hmemory)]
      · exact ih (memory.events.length - m) (by omega) hnext hreach hwithin rfl
    · have hend : n = memory.events.length := Nat.le_antisymm hn hge
      subst hend
      rwa [← h.unique P hmemory (past_self P hmemory)]

-- === what operations write

/-- `OperationalLog` at one place of the log. -/
structure OperationalAt (memory : SafetyMemory) (i : Nat)
    (event : MemoryEvent) : Prop where
  reuse : event.type = .reuseRecorded → event.previousState = .active
  stales : event.type = .sceneInvalidated →
    event.previousState = .active ∧ event.currentState = .stale
  least : event.type = .sceneInvalidated →
    ∀ a ∈ memory.artifacts, a.id = event.artifactId →
    ∀ b ∈ memory.artifacts, SameScene a b → b.id < a.id →
    stateAfter (memory.events.take i) b.id ≠ some .active
  exhaustive : event.type = .sceneInvalidated →
    ∀ a ∈ memory.artifacts, a.id = event.artifactId →
    ∀ b ∈ memory.artifacts, SameScene a b →
    stateAfter (memory.events.take (i + 1)) b.id = some .active →
    ∃ next, memory.events[i + 1]? = some next
      ∧ next.type = .sceneInvalidated ∧ next.detail = event.detail
      ∧ ∃ c ∈ memory.artifacts, c.id = next.artifactId ∧ SameScene a c

theorem operationalLog_iff (memory : SafetyMemory) :
    OperationalLog memory ↔ ∀ (i : Nat) (event : MemoryEvent),
      memory.events[i]? = some event → OperationalAt memory i event := by
  constructor
  · intro h i event hi
    exact ⟨h.reuse i event hi, h.stales i event hi, h.least i event hi,
      h.exhaustive i event hi⟩
  · intro h
    exact ⟨fun i event hi => (h i event hi).reuse,
      fun i event hi => (h i event hi).stales,
      fun i event hi => (h i event hi).least,
      fun i event hi => (h i event hi).exhaustive⟩

theorem SameRecord.sameScene {a b c d : MemoryArtifact} (hac : SameRecord a c)
    (hbd : SameRecord b d) (h : SameScene c d) : SameScene a b := by
  unfold SameScene at h ⊢
  rw [hac, hbd] at h
  exact h

theorem stateAfter_take_none {log : List MemoryEvent} {id : Bytes}
    (h : stateAfter log id = none) (n : Nat) :
    stateAfter (log.take n) id = none := by
  rw [stateAfter_eq_none] at h ⊢
  exact fun event hevent => h event (List.mem_of_mem_take hevent)

/-- A longer log says nothing new about an earlier place. -/
theorem OperationalAt.extend {next : SafetyMemory} {extra : List MemoryEvent}
    (hevents : next.events = memory.events ++ extra)
    (hkept : ∀ a ∈ memory.artifacts, ∃ b ∈ next.artifacts, SameRecord a b)
    (hartifacts : ∀ b ∈ next.artifacts, (∃ a ∈ memory.artifacts, SameRecord a b)
      ∨ stateAfter memory.events b.id = none)
    {i : Nat} {event : MemoryEvent} (hi : memory.events[i]? = some event)
    (h : OperationalAt memory i event) : OperationalAt next i event := by
  have hlt := (List.getElem?_eq_some_iff.mp hi).1
  have htake : ∀ n ≤ memory.events.length,
      next.events.take n = memory.events.take n := by
    intro n hn
    rw [hevents, List.take_append_of_le_length hn]
  have hsubject : ∀ a ∈ next.artifacts, a.id = event.artifactId →
      ∃ b ∈ memory.artifacts, SameRecord b a := by
    intro a ha hid
    refine (hartifacts a ha).resolve_right fun hnone => ?_
    exact stateAfter_eq_none.mp hnone event (List.mem_of_getElem? hi) hid.symm
  have hactive : ∀ b ∈ next.artifacts, ∀ n ≤ memory.events.length,
      stateAfter (next.events.take n) b.id = some .active →
      ∃ c ∈ memory.artifacts, SameRecord c b
        ∧ stateAfter (memory.events.take n) c.id = some .active := by
    intro b hb n hn hstate
    rw [htake n hn] at hstate
    rcases hartifacts b hb with ⟨c, hc, hcb⟩ | hnone
    · exact ⟨c, hc, hcb, hcb.id ▸ hstate⟩
    · rw [stateAfter_take_none hnone] at hstate
      cases hstate
  constructor
  case reuse => exact h.reuse
  case stales => exact h.stales
  case least =>
    intro htype a ha hid b hb hscene hbefore hstate
    obtain ⟨c, hc, hca⟩ := hsubject a ha hid
    obtain ⟨d, hd, hdb, hdstate⟩ := hactive b hb i hlt.le hstate
    exact h.least htype c hc (hca.id.symm.trans hid) d hd
      (hca.sameScene hdb hscene) (by rw [← hca.id, ← hdb.id]; exact hbefore)
      hdstate
  case exhaustive =>
    intro htype a ha hid b hb hscene hstate
    obtain ⟨c, hc, hca⟩ := hsubject a ha hid
    obtain ⟨d, hd, hdb, hdstate⟩ := hactive b hb (i + 1) hlt hstate
    obtain ⟨event', hnext, htype', hdetail, e, he, heid, hscene'⟩ :=
      h.exhaustive htype c hc (hca.id.symm.trans hid) d hd
        (hca.sameScene hdb hscene) hdstate
    obtain ⟨f, hf, hef⟩ := hkept e he
    refine ⟨event', ?_, htype', hdetail, f, hf, hef.id.trans heid, ?_⟩
    · rw [hevents, List.getElem?_append_left
        (List.getElem?_eq_some_iff.mp hnext).1, hnext]
    · exact hca.symm.sameScene hef.symm hscene'

section Batch
variable {deploymentId sceneDigest detail : Bytes}

theorem sceneEvents_filter (rest : List MemoryArtifact) (next : Nat) :
    sceneEvents P deploymentId sceneDigest detail rest next
      = sceneEvents P deploymentId sceneDigest detail
        (rest.filter (inScene deploymentId sceneDigest)) next := by
  induction rest generalizing next with
  | nil => rfl
  | cons a rest ih =>
      cases hin : inScene deploymentId sceneDigest a with
      | false =>
          rw [sceneEvents_skip P hin, List.filter_cons_of_neg (by simp [hin]),
            ih]
      | true =>
          rw [sceneEvents_cons P hin, List.filter_cons_of_pos hin,
            sceneEvents_cons P hin, ih]

theorem sceneEvents_take {selected : List MemoryArtifact}
    (hall : ∀ a ∈ selected, inScene deploymentId sceneDigest a = true)
    (next j : Nat) :
    (sceneEvents P deploymentId sceneDigest detail selected next).take j
      = sceneEvents P deploymentId sceneDigest detail (selected.take j)
        next := by
  induction selected generalizing next j with
  | nil => simp [sceneEvents]
  | cons a selected ih =>
      have hin := hall a List.mem_cons_self
      cases j with
      | zero => rfl
      | succ j =>
          rw [sceneEvents_cons P hin, List.take_succ_cons, List.take_succ_cons,
            sceneEvents_cons P hin,
            ih (fun b hb => hall b (List.mem_cons_of_mem _ hb))]

theorem sceneEvents_get {selected : List MemoryArtifact}
    (hall : ∀ a ∈ selected, inScene deploymentId sceneDigest a = true)
    (next j : Nat) :
    (sceneEvents P deploymentId sceneDigest detail selected next)[j]?
      = selected[j]?.map fun a => makeEvent P (next + j) .sceneInvalidated
        (staled a) a.state a.taskId detail := by
  induction selected generalizing next j with
  | nil => simp [sceneEvents]
  | cons a selected ih =>
      rw [sceneEvents_cons P (hall a List.mem_cons_self)]
      cases j with
      | zero => rfl
      | succ j =>
          rw [List.getElem?_cons_succ, List.getElem?_cons_succ,
            ih (fun b hb => hall b (List.mem_cons_of_mem _ hb)),
            Nat.add_assoc, Nat.add_comm 1 j]

/-- In a sorted list, what comes before in the order is among the first. -/
theorem mem_take_of_id_lt {selected : List MemoryArtifact}
    (hordered : selected.Pairwise fun a b => a.id < b.id) {a b : MemoryArtifact}
    {j : Nat} (hj : selected[j]? = some a) (hb : b ∈ selected)
    (hlt : b.id < a.id) : b ∈ selected.take j := by
  obtain ⟨k, hk⟩ := List.mem_iff_getElem?.mp hb
  obtain ⟨hjlt, hja⟩ := List.getElem?_eq_some_iff.mp hj
  obtain ⟨hklt, hkb⟩ := List.getElem?_eq_some_iff.mp hk
  rcases Nat.lt_trichotomy k j with hkj | rfl | hjk
  · refine List.mem_of_getElem? (i := k) ?_
    rw [List.getElem?_take_of_lt hkj, hk]
  · rw [hja] at hkb
    rw [hkb] at hlt
    exact absurd hlt (List.lt_irrefl _)
  · have hgt := List.pairwise_iff_getElem.mp hordered j k hjlt hklt hjk
    rw [hja, hkb] at hgt
    exact absurd (List.lt_trans hlt hgt) (List.lt_irrefl _)

/-- The events one `invalidate_scene` writes are operational. -/
theorem operationalAt_invalidated (hmemory : Consistent P memory) {j : Nat}
    {event : MemoryEvent}
    (hj : (sceneEvents P deploymentId sceneDigest detail memory.artifacts
      memory.nextSequence)[j]? = some event) :
    OperationalAt (memory.invalidated P deploymentId sceneDigest detail)
      (memory.events.length + j) event := by
  obtain ⟨selected, hdef⟩ : ∃ selected, selected
      = memory.artifacts.filter (inScene deploymentId sceneDigest) := ⟨_, rfl⟩
  have hmem : ∀ a, a ∈ selected ↔ a ∈ memory.artifacts
      ∧ inScene deploymentId sceneDigest a = true := by
    intro a
    rw [hdef, List.mem_filter]
  have hall : ∀ a ∈ selected, inScene deploymentId sceneDigest a = true :=
    fun a ha => ((hmem a).mp ha).2
  have hselected : selected.Pairwise fun a b => a.id < b.id := by
    rw [hdef]
    exact hmemory.ordered.sublist List.filter_sublist
  have hwritten : (memory.invalidated P deploymentId sceneDigest
      detail).events = memory.events ++ sceneEvents P deploymentId sceneDigest
        detail selected memory.nextSequence := by
    unfold SafetyMemory.invalidated
    rw [sceneEvents_filter, hdef]
  rw [sceneEvents_filter, ← hdef, sceneEvents_get P hall] at hj
  obtain ⟨a, haj, rfl⟩ := Option.map_eq_some_iff.mp hj
  have ha : a ∈ selected := List.mem_of_getElem? haj
  obtain ⟨hactive, hadeployment, hascene⟩ := inScene_iff.mp (hall a ha)
  have hsubject : ∀ b ∈ (memory.invalidated P deploymentId sceneDigest
      detail).artifacts, b.id = a.id → SameRecord a b := by
    intro b hb hid
    obtain ⟨c, hc, rfl⟩ := List.mem_map.mp hb
    have hca : c = a := by
      refine eq_of_artifact_id hmemory.ordered hc ((hmem a).mp ha).1 ?_
      rw [← hid]
      exact (sameRecord_staled c).id.symm
    rw [hca]
    exact sameRecord_staled a
  -- what is still active after `k` of the events has not been visited
  have hpending : ∀ k, ∀ b ∈ (memory.invalidated P deploymentId sceneDigest
      detail).artifacts, SameScene a b →
      stateAfter ((memory.invalidated P deploymentId sceneDigest
        detail).events.take (memory.events.length + k)) b.id = some .active →
      ∃ c ∈ selected, c.id = b.id ∧ c ∉ selected.take k := by
    intro k b hb hscene hstate
    obtain ⟨c, hc, rfl⟩ := List.mem_map.mp hb
    have hcsame := @sameRecord_staled deploymentId sceneDigest c
    rw [hwritten, List.take_length_add_append, sceneEvents_take P hall,
      hcsame.id] at hstate
    have huntouched : ∀ s ∈ selected.take k,
        inScene deploymentId sceneDigest s = true → s.id ≠ c.id := by
      intro s hs hsin hid
      have htouched := (@sceneEvents_touched P deploymentId sceneDigest detail
        s (selected.take k) memory.nextSequence memory.events
        (hselected.sublist (List.take_sublist _ _)) hs hsin).1
      rw [hid, hstate] at htouched
      cases htouched
    rw [(sceneEvents_untouched P _ _ _ huntouched).1,
      hmemory.state c hc] at hstate
    have hcin : inScene deploymentId sceneDigest c = true := by
      refine inScene_iff.mpr ⟨Option.some.inj hstate, ?_, ?_⟩
      · rw [← hadeployment, hscene.1, hcsame.deploymentId]
      · rw [← hascene, hscene.2, hcsame.sceneDigest]
    have hcmem : c ∈ selected := (hmem c).mpr ⟨hc, hcin⟩
    exact ⟨c, hcmem, hcsame.id.symm, fun hk => huntouched c hk hcin rfl⟩
  constructor
  case reuse => exact fun htype => by cases htype
  case stales => exact fun _ => ⟨hactive, rfl⟩
  case least =>
    intro _ a' ha' hid b hb hscene hbefore hstate
    have hsame := hsubject a' ha' hid
    obtain ⟨c, hc, hcid, hnot⟩ := hpending j b hb
      (hsame.sameScene (.refl b) hscene) hstate
    refine hnot (mem_take_of_id_lt hselected haj hc ?_)
    rw [hcid, ← hsame.id]
    exact hbefore
  case exhaustive =>
    intro _ a' ha' hid b hb hscene hstate
    have hsame := hsubject a' ha' hid
    obtain ⟨c, hc, hcid, hnot⟩ := hpending (j + 1) b hb
      (hsame.sameScene (.refl b) hscene) hstate
    have hmore : j + 1 < selected.length := by
      by_contra hle
      rw [List.take_of_length_le (Nat.not_lt.mp hle)] at hnot
      exact hnot hc
    obtain ⟨d, hget⟩ : ∃ d, selected[j + 1]? = some d :=
      ⟨_, List.getElem?_eq_getElem hmore⟩
    have hd : d ∈ selected := List.mem_of_getElem? hget
    obtain ⟨-, hddeployment, hdscene⟩ := inScene_iff.mp (hall d hd)
    have hdsame := @sameRecord_staled deploymentId sceneDigest d
    refine ⟨makeEvent P (memory.nextSequence + (j + 1)) .sceneInvalidated
      (staled d) d.state d.taskId detail, ?_, makeEvent_type .., ?_, _,
      List.mem_map.mpr ⟨d, ((hmem d).mp hd).1, rfl⟩, ?_, ?_, ?_⟩
    · rw [hwritten, Nat.add_assoc, List.getElem?_append_right
        (Nat.le_add_right _ _), Nat.add_sub_cancel_left,
        sceneEvents_get P hall, hget, Option.map_some]
    · rw [makeEvent_detail, makeEvent_detail]
    · rw [hdsame.id, makeEvent_artifactId]
      rfl
    · rw [hsame.deploymentId, hdsame.deploymentId, hadeployment, hddeployment]
    · rw [hsame.sceneDigest, hdsame.sceneDigest, hascene, hdscene]

end Batch

/-- One event of a type that asks for nothing more. -/
theorem OperationalLog.snoc (hlog : OperationalLog memory)
    {next : SafetyMemory} {event : MemoryEvent}
    (hevents : next.events = memory.events ++ [event])
    (hkept : ∀ a ∈ memory.artifacts, ∃ b ∈ next.artifacts, SameRecord a b)
    (hartifacts : ∀ b ∈ next.artifacts, (∃ a ∈ memory.artifacts, SameRecord a b)
      ∨ stateAfter memory.events b.id = none)
    (htype : event.type ≠ .sceneInvalidated)
    (hreuse : event.type = .reuseRecorded → event.previousState = .active) :
    OperationalLog next := by
  rw [operationalLog_iff] at hlog ⊢
  intro i found hi
  rw [hevents] at hi
  rcases Nat.lt_or_ge i memory.events.length with hlt | hge
  · rw [List.getElem?_append_left hlt] at hi
    exact (hlog i found hi).extend hevents hkept hartifacts hi
  · rw [List.getElem?_append_right hge, List.getElem?_singleton] at hi
    split at hi
    · cases hi
      exact ⟨hreuse, fun h => absurd h htype, fun h => absurd h htype,
        fun h => absurd h htype⟩
    · cases hi

theorem kept_effect (h : Consistent P memory)
    {maximumArtifacts maximumEvents : Nat} {next : SafetyMemory}
    (heffect : MemoryEffect P maximumArtifacts maximumEvents memory next) :
    ∀ a ∈ memory.artifacts, ∃ b ∈ next.artifacts, SameRecord a b := by
  intro a ha
  obtain ⟨b, hb, hadvances⟩ := advances_effect P h heffect ha
  refine ⟨b, hb, ?_⟩
  rcases hadvances with rfl | ⟨hsame, -, -⟩
  · exact .refl b
  · exact hsame

/-- **Every effect leaves an operational log operational.** -/
theorem OperationalLog.effect (hlog : OperationalLog memory)
    (h : Consistent P memory) {maximumArtifacts maximumEvents : Nat}
    {next : SafetyMemory}
    (heffect : MemoryEffect P maximumArtifacts maximumEvents memory next) :
    OperationalLog next := by
  have hkept := kept_effect P h heffect
  cases heffect with
  | unchanged => exact hlog
  | @registered a _ hnew _ _ _ _ _ =>
      refine hlog.snoc rfl hkept ?_ (fun htype => by cases htype)
        (fun htype => by cases htype)
      intro b hb
      obtain ⟨before, after, hsplit, hinsert, -, -⟩ :=
        insertArtifact_split h.ordered hnew
      have hb : b ∈ (memory.registered P a).artifacts := hb
      unfold SafetyMemory.registered at hb
      rw [hinsert, List.mem_append, List.mem_cons] at hb
      rcases hb with hb | rfl | hb
      · exact Or.inl ⟨b, hsplit ▸ List.mem_append_left _ hb, .refl b⟩
      · exact Or.inr (stateAfter_fresh P h.journal
          ((lookupArtifact_eq_none h.ordered).mp hnew))
      · exact Or.inl ⟨b, hsplit ▸ List.mem_append_right _ hb, .refl b⟩
  | @transitioned a target _ hfound _ _ _ =>
      refine hlog.snoc rfl hkept ?_ (fun htype => by cases htype)
        (fun htype => by cases htype)
      intro b hb
      rcases List.mem_or_eq_of_mem_set hb with hb | rfl
      · exact Or.inl ⟨b, hb, .refl b⟩
      · exact Or.inl ⟨a, ((lookupArtifact_eq_some h.ordered).mp hfound).1,
          sameRecord_moved a target⟩
  | @invalidated deploymentId sceneDigest detail _ _ =>
      have hold : ∀ b ∈ (memory.invalidated P deploymentId sceneDigest
          detail).artifacts, (∃ a ∈ memory.artifacts, SameRecord a b)
            ∨ stateAfter memory.events b.id = none := by
        intro b hb
        obtain ⟨a, ha, rfl⟩ := List.mem_map.mp hb
        exact Or.inl ⟨a, ha, sameRecord_staled a⟩
      rw [operationalLog_iff] at hlog ⊢
      intro i event hi
      have happend : (memory.invalidated P deploymentId sceneDigest
          detail).events = memory.events ++ sceneEvents P deploymentId
            sceneDigest detail memory.artifacts memory.nextSequence := rfl
      rw [happend] at hi
      rcases Nat.lt_or_ge i memory.events.length with hlt | hge
      · rw [List.getElem?_append_left hlt] at hi
        exact (hlog i event hi).extend happend hkept hold hi
      · rw [List.getElem?_append_right hge] at hi
        have hat := operationalAt_invalidated P h hi
        rwa [Nat.add_sub_cancel' hge] at hat
  | reused hfound hactive _ _ _ =>
      exact hlog.snoc rfl hkept (fun b hb => Or.inl ⟨b, hb, .refl b⟩)
        (fun htype => by cases htype) (fun _ => hactive)

theorem Reachable.operationalLog (h : Reachable P memory) :
    OperationalLog memory := by
  induction h with
  | empty =>
      rw [operationalLog_iff]
      intro i event hi
      cases hi
  | call hreach hok ih =>
      exact ih.effect P hreach.consistent (call_effect P _ _)

/-- **A valid memory is produced by the operations if and only if its log
reads as they write it.** -/
theorem reachable_iff (memory : SafetyMemory) (h : memory.valid P = true) :
    Reachable P memory ↔ OperationalLog memory := by
  obtain ⟨hmemory, -⟩ := (valid_iff P memory).mp h
  constructor
  · exact fun hreach => hreach.operationalLog
  · exact fun hlog => (past_empty P memory).reachable P hmemory hlog .empty
      (Nat.zero_le _)

end

/-- The artifact of the sample input, as it is registered first. -/
def sampleArtifact : MemoryArtifact where
  id := ascii
    "409e33c7433ea3014f2d0312691fad92735d9b73813a1bda05245f205daf7899"
  deploymentId := ascii "cell"
  robotDigest := zeroDigest
  sceneDigest := zeroDigest
  taskId := ascii "pick"
  contentDigest := zeroDigest
  locator := ascii "atlas"
  generation := 1
  registeredSequence := 1

/-- Its registration. -/
def sampleRegistration : MemoryEvent where
  id := ascii
    "c34f0be6c1597b24071bdbecc539b76bbb878d2ef5e9a5e8ef0d130f69f39b91"
  sequence := 1
  artifactId := sampleArtifact.id
  taskId := ascii "pick"
  detail := ascii "registered"

/-- The memory of one registered artifact. -/
def sampleMemory : SafetyMemory where
  artifacts := [sampleArtifact]
  events := [sampleRegistration]
  nextSequence := 2

theorem reachable_iff_sample :
    sampleMemory.valid (host fun _ _ _ => true) = true
      ∧ (Reachable (host fun _ _ _ => true) sampleMemory
        ↔ OperationalLog sampleMemory) := by
  have hvalid : sampleMemory.valid (host fun _ _ _ => true) = true := by
    rw [host_eq]
    decide +kernel
  exact ⟨hvalid, reachable_iff _ _ hvalid⟩

/-- An artifact that a scene invalidation has retired. -/
def retiredByScene : SafetyMemory where
  artifacts := [{ sampleArtifact with state := .retired, generation := 2 }]
  events :=
    [sampleRegistration,
      { id := ascii
          "ff59ff260ce90871b21c8655149306bfc341e482dc402e79e3fd6f7e63749d19"
        sequence := 2
        type := .sceneInvalidated
        artifactId := sampleArtifact.id
        currentState := .retired
        taskId := ascii "pick"
        detail := ascii "gone" }]
  nextSequence := 3

/-- **The replay accepts a memory no calls produce.** -/
theorem valid_not_reachable :
    retiredByScene.valid (host fun _ _ _ => true) = true
      ∧ ¬Reachable (host fun _ _ _ => true) retiredByScene := by
  refine ⟨by rw [host_eq]; decide +kernel, fun hreach => ?_⟩
  have hstales := hreach.operationalLog.stales 1 _ rfl rfl
  cases hstales.2

end RbfSafe
