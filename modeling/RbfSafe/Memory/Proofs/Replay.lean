/-
What the replay of `SafetyMemory::valid` accepts, without the replay.

The state of an artifact after a prefix of the log is the one its last
event left it in, and its generation counts the events that changed it.
An event is admitted against that prefix and the stored artifact. The
maps `valid` carries along represent exactly these two functions of the
prefix, so a memory is valid if and only if its log is admitted and its
artifacts are what the log makes of them (`valid_iff`).
-/
import RbfSafe.Lib.Journal
import RbfSafe.Memory.Operations

namespace RbfSafe

open Lib.Journal

-- === finding artifacts

theorem findArtifact_cons (a : MemoryArtifact) (artifacts : List MemoryArtifact)
    (id : Bytes) :
    findArtifact (a :: artifacts) id
      = if a.id < id then findArtifact artifacts id + 1 else 0 := by
  unfold findArtifact
  rw [List.findIdx_cons]
  by_cases h : a.id < id <;> simp [h]

/-- `std::lower_bound` splits the artifacts. -/
theorem findArtifact_split {artifacts : List MemoryArtifact}
    (hordered : artifacts.Pairwise fun a b => a.id < b.id) (id : Bytes) :
    ∃ before after, artifacts = before ++ after
      ∧ findArtifact artifacts id = before.length
      ∧ (∀ a ∈ before, a.id < id) ∧ (∀ a ∈ after, ¬a.id < id) := by
  induction artifacts with
  | nil => exact ⟨[], [], rfl, rfl, by simp, by simp⟩
  | cons a artifacts ih =>
      obtain ⟨hhead, htail⟩ := List.pairwise_cons.mp hordered
      rw [findArtifact_cons]
      by_cases h : a.id < id
      · obtain ⟨before, after, rfl, hplace, hbefore, hafter⟩ := ih htail
        refine ⟨a :: before, after, rfl, ?_, ?_, hafter⟩
        · rw [if_pos h, hplace, List.length_cons]
        · intro b hb
          rcases List.mem_cons.mp hb with rfl | hb
          · exact h
          · exact hbefore b hb
      · refine ⟨[], a :: artifacts, rfl, if_neg h, by simp, ?_⟩
        intro b hb hlt
        rcases List.mem_cons.mp hb with rfl | hb
        · exact h hlt
        · exact h (List.lt_trans (hhead b hb) hlt)

theorem eq_of_artifact_id {artifacts : List MemoryArtifact}
    (hordered : artifacts.Pairwise fun a b => a.id < b.id)
    {a b : MemoryArtifact} (ha : a ∈ artifacts) (hb : b ∈ artifacts)
    (hid : a.id = b.id) : a = b := by
  have hnodup : (artifacts.map (·.id)).Nodup := by
    refine List.Pairwise.imp ?_ (List.pairwise_map.mpr hordered)
    intro x y hxy heq
    exact List.lt_irrefl _ (heq ▸ hxy)
  exact List.inj_on_of_nodup_map hnodup ha hb hid

/-- Looking an artifact up among sorted ones. -/
theorem lookupArtifact_eq_some {artifacts : List MemoryArtifact}
    (hordered : artifacts.Pairwise fun a b => a.id < b.id) {id : Bytes}
    {a : MemoryArtifact} :
    lookupArtifact artifacts id = some a ↔ a ∈ artifacts ∧ a.id = id := by
  obtain ⟨before, after, rfl, hplace, hbefore, hafter⟩ :=
    findArtifact_split hordered id
  unfold lookupArtifact
  rw [hplace, List.getElem?_append_right le_rfl, Nat.sub_self,
    Option.filter_eq_some_iff, decide_eq_true_eq]
  constructor
  · rintro ⟨hget, hid⟩
    exact ⟨List.mem_append_right _ (List.mem_of_getElem? hget), hid⟩
  · rintro ⟨hmem, hid⟩
    refine ⟨?_, hid⟩
    rcases List.mem_append.mp hmem with hmem | hmem
    · exact absurd (hid ▸ hbefore a hmem) (List.lt_irrefl _)
    · cases after with
      | nil => exact absurd hmem List.not_mem_nil
      | cons first after =>
          rcases List.mem_cons.mp hmem with rfl | hmem
          · rfl
          · have hpair := (List.pairwise_append.mp hordered).2.1
            have hlt := (List.pairwise_cons.mp hpair).1 a hmem
            rw [hid] at hlt
            exact absurd hlt (hafter first List.mem_cons_self)

theorem lookupArtifact_eq_none {artifacts : List MemoryArtifact}
    (hordered : artifacts.Pairwise fun a b => a.id < b.id) {id : Bytes} :
    lookupArtifact artifacts id = none ↔ ∀ a ∈ artifacts, a.id ≠ id := by
  rw [Option.eq_none_iff_forall_not_mem]
  constructor
  · intro h a ha hid
    exact h a ((lookupArtifact_eq_some hordered).mpr ⟨ha, hid⟩)
  · intro h a ha
    obtain ⟨hmem, hid⟩ := (lookupArtifact_eq_some hordered).mp ha
    exact h a hmem hid

-- === reading the log

/-- The state an artifact is in after a prefix of the log. -/
def stateAfter (log : List MemoryEvent) (id : Bytes) :
    Option MemoryArtifactState :=
  (log.reverse.find? fun event => event.artifactId = id).map
    (·.currentState)

/-- The number of its events that changed the state. -/
def changesOf (log : List MemoryEvent) (id : Bytes) : Nat :=
  log.countP fun event => event.artifactId = id && event.changesState

@[simp] theorem stateAfter_nil (id : Bytes) : stateAfter [] id = none := rfl

@[simp] theorem changesOf_nil (id : Bytes) : changesOf [] id = 0 := rfl

theorem stateAfter_snoc (log : List MemoryEvent) (event : MemoryEvent)
    (id : Bytes) :
    stateAfter (log ++ [event]) id
      = if event.artifactId = id then some event.currentState
        else stateAfter log id := by
  unfold stateAfter
  rw [List.reverse_append, List.reverse_singleton, List.singleton_append,
    List.find?_cons]
  by_cases h : event.artifactId = id <;> simp [h]

theorem changesOf_snoc (log : List MemoryEvent) (event : MemoryEvent)
    (id : Bytes) :
    changesOf (log ++ [event]) id
      = changesOf log id + if event.artifactId = id ∧ event.changesState
          then 1 else 0 := by
  unfold changesOf
  rw [List.countP_append, List.countP_singleton]
  simp only [Bool.and_eq_true, decide_eq_true_eq]

theorem stateAfter_eq_none {log : List MemoryEvent} {id : Bytes} :
    stateAfter log id = none ↔ ∀ event ∈ log, event.artifactId ≠ id := by
  unfold stateAfter
  rw [Option.map_eq_none_iff, List.find?_eq_none]
  simp

/-- An artifact without an event has no change. -/
theorem changesOf_eq_zero {log : List MemoryEvent} {id : Bytes}
    (h : stateAfter log id = none) : changesOf log id = 0 := by
  unfold changesOf
  rw [List.countP_eq_zero]
  intro event hevent
  simp [stateAfter_eq_none.mp h event hevent]

-- === admitted events

/-- What `SafetyMemory::valid` asks of an event, given the state its
artifact was in. -/
def EventAdmitted (stored : MemoryArtifact)
    (before : Option MemoryArtifactState) (event : MemoryEvent) : Prop :=
  match event.type with
  | .registered => before = none ∧ event.previousState = .active
      ∧ event.currentState = .active
      ∧ stored.registeredSequence = event.sequence
      ∧ event.taskId = stored.taskId ∧ event.detail = ascii "registered"
  | .reuseRecorded => before = some event.previousState
      ∧ event.currentState = event.previousState
  | _ => before = some event.previousState ∧ event.taskId = stored.taskId
      ∧ transitionAllowed event.previousState event.currentState = true

section
variable (P : Platform)

/-- An event that may follow a log. -/
def Follows (artifacts : List MemoryArtifact) (log : List MemoryEvent)
    (event : MemoryEvent) : Prop :=
  validateMemoryEvent P event = .ok () ∧ event.sequence = log.length + 1
    ∧ ∃ stored ∈ artifacts, stored.id = event.artifactId
      ∧ EventAdmitted stored (stateAfter log event.artifactId) event

/-- An event that follows a log, under an id that is new to it. -/
def Admits (artifacts : List MemoryArtifact) (log : List MemoryEvent)
    (event : MemoryEvent) : Prop :=
  Follows P artifacts log event ∧ ∀ earlier ∈ log, earlier.id ≠ event.id

/-- Artifacts that are what the log makes of them. -/
structure Consistent (memory : SafetyMemory) : Prop where
  checked : ∀ a ∈ memory.artifacts, validateMemoryArtifact P a = .ok ()
  ordered : memory.artifacts.Pairwise fun a b => a.id < b.id
  journal : Admitted (Follows P memory.artifacts) memory.events
  sequence : memory.nextSequence = memory.events.length + 1
  state : ∀ a ∈ memory.artifacts,
    stateAfter memory.events a.id = some a.state
  generation : ∀ a ∈ memory.artifacts,
    a.generation = 1 + changesOf memory.events a.id

-- === the walk of valid

/-- The maps of the walk, and the prefix they stand for. -/
structure Represents (artifacts : List MemoryArtifact)
    (log : List MemoryEvent) (replay : SafetyMemory.Replay) : Prop where
  state : ∀ id, replay.state.lookup id = stateAfter log id
  generation : ∀ id, replay.generation.lookup id
    = (stateAfter log id).map fun _ => 1 + changesOf log id
  sequence : replay.expectedSequence = log.length + 1
  eventIds : ∀ id, id ∈ replay.eventIds ↔ ∃ event ∈ log, event.id = id
  stored : ∀ id ∈ replay.state.keys, ∃ a ∈ artifacts, a.id = id

theorem isOk_iff {r : Result Unit} : r.isOk = true ↔ r = .ok () := by
  cases r <;> simp [Except.isOk, Except.toBool]

theorem represents_nil (artifacts : List MemoryArtifact) :
    Represents artifacts [] {} where
  state _ := rfl
  generation _ := rfl
  sequence := rfl
  eventIds id := by simp
  stored id h := absurd h List.not_mem_nil

/-- What an event of each type does to the maps. -/
theorem Represents.snoc {artifacts : List MemoryArtifact}
    {log : List MemoryEvent} {replay next : SafetyMemory.Replay}
    {event : MemoryEvent} (h : Represents artifacts log replay)
    (hstored : ∃ a ∈ artifacts, a.id = event.artifactId)
    (hstate : ∀ id, next.state.lookup id = stateAfter (log ++ [event]) id)
    (hgeneration : ∀ id, next.generation.lookup id
      = (stateAfter (log ++ [event]) id).map fun _ =>
          1 + changesOf (log ++ [event]) id)
    (hsequence : next.expectedSequence = replay.expectedSequence + 1)
    (hids : next.eventIds = event.id :: replay.eventIds) :
    Represents artifacts (log ++ [event]) next where
  state := hstate
  generation := hgeneration
  sequence := by
    rw [hsequence, h.sequence, List.length_append, List.length_singleton]
  eventIds id := by
    rw [hids, List.mem_cons, h.eventIds]
    simp only [List.mem_append, List.mem_singleton]
    constructor
    · rintro (rfl | ⟨earlier, hearlier, hid⟩)
      · exact ⟨event, Or.inr rfl, rfl⟩
      · exact ⟨earlier, Or.inl hearlier, hid⟩
    · rintro ⟨earlier, hearlier | rfl, hid⟩
      · exact Or.inr ⟨earlier, hearlier, hid⟩
      · exact Or.inl hid.symm
  stored id hid := by
    have hsome : (next.state.lookup id).isSome = true :=
      AList.lookup_isSome.mpr hid
    rw [hstate, stateAfter_snoc] at hsome
    by_cases hsame : event.artifactId = id
    · exact hsame ▸ hstored
    · rw [if_neg hsame, ← h.state] at hsome
      exact h.stored id (AList.lookup_isSome.mp hsome)

theorem lookup_insert_ite {β : Type} (map : AList fun _ : Bytes => β)
    (key id : Bytes) (value : β) :
    (map.insert key value).lookup id
      = if key = id then some value else map.lookup id := by
  by_cases h : key = id
  · subst h
    rw [if_pos rfl, AList.lookup_insert]
  · rw [if_neg h, AList.lookup_insert_ne (Ne.symm h)]

/-- The maps after an event that changes a state, or registers one. -/
theorem Represents.inserted {artifacts : List MemoryArtifact}
    {log : List MemoryEvent} {replay : SafetyMemory.Replay}
    {event : MemoryEvent} (h : Represents artifacts log replay)
    (hstored : ∃ a ∈ artifacts, a.id = event.artifactId) {generation : Nat}
    (hgeneration : generation
      = 1 + changesOf (log ++ [event]) event.artifactId) :
    Represents artifacts (log ++ [event])
      { expectedSequence := replay.expectedSequence + 1
        eventIds := event.id :: replay.eventIds
        state := replay.state.insert event.artifactId event.currentState
        generation := replay.generation.insert event.artifactId
          generation } := by
  refine h.snoc hstored (fun id => ?_) (fun id => ?_) rfl rfl
  · rw [lookup_insert_ite, stateAfter_snoc, h.state]
  · rw [lookup_insert_ite, stateAfter_snoc]
    by_cases hid : event.artifactId = id
    · subst hid
      rw [if_pos rfl, if_pos rfl, hgeneration, Option.map_some]
    · rw [if_neg hid, if_neg hid, h.generation, changesOf_snoc,
        if_neg fun hand => hid hand.1]
      rfl

/-- The maps after an event that changes nothing. -/
theorem Represents.recorded {artifacts : List MemoryArtifact}
    {log : List MemoryEvent} {replay : SafetyMemory.Replay}
    {event : MemoryEvent} (h : Represents artifacts log replay)
    (hstored : ∃ a ∈ artifacts, a.id = event.artifactId)
    (hstate : stateAfter log event.artifactId = some event.currentState)
    (hunchanged : event.changesState = false) :
    Represents artifacts (log ++ [event])
      { replay with
        expectedSequence := replay.expectedSequence + 1
        eventIds := event.id :: replay.eventIds } := by
  have hsame : ∀ id, stateAfter (log ++ [event]) id = stateAfter log id := by
    intro id
    rw [stateAfter_snoc]
    by_cases hid : event.artifactId = id
    · rw [if_pos hid, ← hid, hstate]
    · rw [if_neg hid]
  have hcount : ∀ id, changesOf (log ++ [event]) id = changesOf log id := by
    intro id
    rw [changesOf_snoc, hunchanged]
    simp
  refine h.snoc hstored (fun id => ?_) (fun id => ?_) rfl rfl
  · rw [hsame, h.state]
  · rw [hsame, hcount, h.generation]

theorem changesState_eq {event : MemoryEvent}
    (hregistered : event.type ≠ .registered)
    (hreuse : event.type ≠ .reuseRecorded) : event.changesState = true := by
  unfold MemoryEvent.changesState
  cases htype : event.type <;> simp_all

theorem replayEvent_sound {artifacts : List MemoryArtifact}
    (hordered : artifacts.Pairwise fun a b => a.id < b.id)
    {log : List MemoryEvent} {replay next : SafetyMemory.Replay}
    {event : MemoryEvent} (h : Represents artifacts log replay)
    (hstep : SafetyMemory.replayEvent P artifacts replay event = some next) :
    Admits P artifacts log event
      ∧ Represents artifacts (log ++ [event]) next := by
  unfold SafetyMemory.replayEvent at hstep
  by_cases hcheck : (validateMemoryEvent P event).isOk = false
      ∨ event.sequence ≠ replay.expectedSequence
      ∨ event.id ∈ replay.eventIds
  · rw [if_pos hcheck] at hstep
    cases hstep
  rw [if_neg hcheck] at hstep
  simp only [not_or, Bool.not_eq_false, isOk_iff, not_not] at hcheck
  obtain ⟨hvalid, hsequence, hfresh⟩ := hcheck
  cases hlookup : lookupArtifact artifacts event.artifactId with
  | none =>
      rw [hlookup] at hstep
      cases hstep
  | some stored =>
    rw [hlookup] at hstep
    obtain ⟨hmem, hid⟩ := (lookupArtifact_eq_some hordered).mp hlookup
    have hstored : ∃ a ∈ artifacts, a.id = event.artifactId := ⟨stored, hmem, hid⟩
    have hadmits : EventAdmitted stored (stateAfter log event.artifactId)
        event → Admits P artifacts log event := by
      intro hevent
      refine ⟨⟨hvalid, hsequence.trans h.sequence, stored, hmem, hid, hevent⟩,
        ?_⟩
      intro earlier hearlier hsame
      exact hfresh ((h.eventIds _).mpr ⟨earlier, hearlier, hsame⟩)
    dsimp only at hstep
    by_cases hregistered : event.type = .registered
    · -- a registration: the artifact has no event before it
      rw [if_pos hregistered] at hstep
      by_cases hbad : event.artifactId ∈ replay.state
          ∨ event.previousState ≠ .active ∨ event.currentState ≠ .active
          ∨ stored.registeredSequence ≠ event.sequence
          ∨ event.taskId ≠ stored.taskId
          ∨ event.detail ≠ ascii "registered"
      · rw [if_pos hbad] at hstep
        cases hstep
      rw [if_neg hbad] at hstep
      simp only [not_or, not_not] at hbad
      obtain ⟨hnew, hprevious, hcurrent, hregisteredAt, htask, hdetail⟩ := hbad
      have hnone : stateAfter log event.artifactId = none := by
        rw [← h.state, AList.lookup_eq_none]
        exact hnew
      refine ⟨hadmits ?_, ?_⟩
      · unfold EventAdmitted
        rw [hregistered]
        exact ⟨hnone, hprevious, hcurrent, hregisteredAt, htask, hdetail⟩
      · have hgeneration : 1 = 1 + changesOf (log ++ [event])
            event.artifactId := by
          rw [changesOf_snoc, changesOf_eq_zero hnone]
          simp [MemoryEvent.changesState, hregistered]
        have hnext := h.inserted hstored hgeneration
        rw [hcurrent] at hnext
        cases hstep
        exact hnext
    rw [if_neg hregistered] at hstep
    cases hstate : replay.state.lookup event.artifactId with
    | none =>
        rw [hstate] at hstep
        cases hstep
    | some state =>
      rw [hstate] at hstep
      dsimp only at hstep
      by_cases hprevious : state ≠ event.previousState
      · rw [if_pos hprevious] at hstep
        cases hstep
      rw [if_neg hprevious] at hstep
      rw [not_not] at hprevious
      subst hprevious
      rw [h.state] at hstate
      by_cases hreuse : event.type = .reuseRecorded
      · -- a reuse: the state stays as it was
        rw [if_pos hreuse] at hstep
        by_cases hcurrent : event.currentState ≠ event.previousState
        · rw [if_pos hcurrent] at hstep
          cases hstep
        rw [if_neg hcurrent] at hstep
        rw [not_not] at hcurrent
        refine ⟨hadmits ?_, ?_⟩
        · unfold EventAdmitted
          rw [hreuse]
          exact ⟨hstate, hcurrent⟩
        · have hnext := h.recorded hstored (hcurrent ▸ hstate)
            (by simp [MemoryEvent.changesState, hreuse])
          cases hstep
          exact hnext
      · -- a transition
        rw [if_neg hreuse] at hstep
        by_cases hbad : event.taskId ≠ stored.taskId
            ∨ transitionAllowed event.previousState event.currentState = false
        · rw [if_pos hbad] at hstep
          cases hstep
        rw [if_neg hbad] at hstep
        simp only [not_or, not_not, Bool.not_eq_false] at hbad
        have hchanges := changesState_eq hregistered hreuse
        refine ⟨hadmits ?_, ?_⟩
        · unfold EventAdmitted
          cases htype : event.type with
          | registered => exact absurd htype hregistered
          | reuseRecorded => exact absurd htype hreuse
          | stateTransition => exact ⟨hstate, hbad.1, hbad.2⟩
          | sceneInvalidated => exact ⟨hstate, hbad.1, hbad.2⟩
        · have hgeneration :
              (replay.generation.lookup event.artifactId).getD 0 + 1
                = 1 + changesOf (log ++ [event]) event.artifactId := by
            rw [h.generation, hstate, changesOf_snoc, if_pos ⟨rfl, hchanges⟩]
            simp
            omega
          have hnext := h.inserted hstored hgeneration
          cases hstep
          exact hnext

theorem replayEvent_complete {artifacts : List MemoryArtifact}
    (hordered : artifacts.Pairwise fun a b => a.id < b.id)
    {log : List MemoryEvent} {replay : SafetyMemory.Replay}
    {event : MemoryEvent} (h : Represents artifacts log replay)
    (hadmits : Admits P artifacts log event) :
    ∃ next, SafetyMemory.replayEvent P artifacts replay event
      = some next := by
  obtain ⟨⟨hvalid, hsequence, stored, hmem, hid, hevent⟩, hfresh⟩ := hadmits
  have hcheck : ¬((validateMemoryEvent P event).isOk = false
      ∨ event.sequence ≠ replay.expectedSequence
      ∨ event.id ∈ replay.eventIds) := by
    simp only [not_or, Bool.not_eq_false, isOk_iff, not_not]
    refine ⟨hvalid, hsequence.trans h.sequence.symm, fun hseen => ?_⟩
    obtain ⟨earlier, hearlier, hsame⟩ := (h.eventIds _).mp hseen
    exact hfresh earlier hearlier hsame
  have hlookup := (lookupArtifact_eq_some hordered).mpr ⟨hmem, hid⟩
  unfold SafetyMemory.replayEvent
  rw [if_neg hcheck, hlookup]
  dsimp only
  unfold EventAdmitted at hevent
  cases htype : event.type with
  | registered =>
      rw [htype] at hevent
      obtain ⟨hnone, hprevious, hcurrent, hregistered, htask, hdetail⟩ := hevent
      have hnew : event.artifactId ∉ replay.state := by
        rw [← AList.lookup_eq_none, h.state, hnone]
      simp [hnew, hprevious, hcurrent, hregistered, htask, hdetail]
  | reuseRecorded =>
      rw [htype] at hevent
      obtain ⟨hstate, hcurrent⟩ := hevent
      rw [← h.state] at hstate
      simp [hstate, hcurrent]
  | stateTransition =>
      rw [htype] at hevent
      obtain ⟨hstate, htask, hallowed⟩ := hevent
      rw [← h.state] at hstate
      simp [hstate, htask, hallowed]
  | sceneInvalidated =>
      rw [htype] at hevent
      obtain ⟨hstate, htask, hallowed⟩ := hevent
      rw [← h.state] at hstate
      simp [hstate, htask, hallowed]

theorem replays {artifacts : List MemoryArtifact}
    (hordered : artifacts.Pairwise fun a b => a.id < b.id) :
    Replays (Admits P artifacts) (SafetyMemory.replayEvent P artifacts)
      (Represents artifacts) where
  sound h hstep := replayEvent_sound P hordered h hstep
  complete h hadmits := replayEvent_complete P hordered h hadmits

-- === valid memories

theorem validArtifact_id {a : MemoryArtifact}
    (h : validateMemoryArtifact P a = .ok ()) : validSha256 a.id = true := by
  unfold validateMemoryArtifact at h
  obtain ⟨tags, -, h⟩ := bind_eq_ok.mp h
  rw [ite_failure_eq_ok] at h
  simp only [not_or, Bool.not_eq_false] at h
  exact h.1.2.1

/-- The first loop checks every artifact, and the order of their ids. -/
theorem artifactsOrdered_iff (previous : Bytes)
    (artifacts : List MemoryArtifact) :
    SafetyMemory.artifactsOrdered P previous artifacts = true
      ↔ (∀ a ∈ artifacts, validateMemoryArtifact P a = .ok ())
        ∧ artifacts.Pairwise (fun a b => a.id < b.id)
        ∧ (previous ≠ [] → ∀ a ∈ artifacts, previous < a.id) := by
  induction artifacts generalizing previous with
  | nil => simp [SafetyMemory.artifactsOrdered]
  | cons a artifacts ih =>
      unfold SafetyMemory.artifactsOrdered
      rw [Bool.and_eq_true, Bool.and_eq_true, ih, isOk_iff, Bool.or_eq_true,
        List.isEmpty_iff, decide_eq_true_eq]
      constructor
      · rintro ⟨⟨hcheck, hbefore⟩, hrest, hordered, hafter⟩
        have hne := validSha256_ne_nil (validArtifact_id P hcheck)
        refine ⟨?_, List.pairwise_cons.mpr ⟨hafter hne, hordered⟩, ?_⟩
        · intro b hb
          rcases List.mem_cons.mp hb with rfl | hb
          · exact hcheck
          · exact hrest b hb
        · intro hprevious b hb
          have hlt := hbefore.resolve_left hprevious
          rcases List.mem_cons.mp hb with rfl | hb
          · exact hlt
          · exact List.lt_trans hlt (hafter hne b hb)
      · rintro ⟨hcheck, hordered, hbefore⟩
        obtain ⟨hhead, htail⟩ := List.pairwise_cons.mp hordered
        refine ⟨⟨hcheck a List.mem_cons_self, ?_⟩,
          fun b hb => hcheck b (List.mem_cons_of_mem _ hb), htail,
          fun _ => hhead⟩
        by_cases hprevious : previous = []
        · exact Or.inl hprevious
        · exact Or.inr (hbefore hprevious a List.mem_cons_self)

/-- Registered ids and stored ids are the same, if there are as many. -/
theorem Represents.registered {artifacts : List MemoryArtifact}
    {log : List MemoryEvent} {replay : SafetyMemory.Replay}
    (h : Represents artifacts log replay)
    (hordered : artifacts.Pairwise fun a b => a.id < b.id) :
    replay.state.keys.length = artifacts.length
      ↔ ∀ a ∈ artifacts, (stateAfter log a.id).isSome = true := by
  have hnodup : (artifacts.map (·.id)).Nodup := by
    refine List.Pairwise.imp ?_ (List.pairwise_map.mpr hordered)
    intro x y hxy heq
    exact List.lt_irrefl _ (heq ▸ hxy)
  have hsubset : replay.state.keys ⊆ artifacts.map (·.id) := by
    intro id hid
    obtain ⟨a, ha, rfl⟩ := h.stored id hid
    exact List.mem_map.mpr ⟨a, ha, rfl⟩
  have hsubperm := List.subperm_of_subset replay.state.keys_nodup hsubset
  constructor
  · intro hlength a ha
    have hperm := hsubperm.perm_of_length_le
      (by rw [List.length_map, hlength])
    have hkey : a.id ∈ replay.state.keys :=
      hperm.mem_iff.mpr (List.mem_map.mpr ⟨a, ha, rfl⟩)
    rw [← h.state]
    exact AList.lookup_isSome.mpr hkey
  · intro hall
    have hsubset' : artifacts.map (·.id) ⊆ replay.state.keys := by
      intro id hid
      obtain ⟨a, ha, rfl⟩ := List.mem_map.mp hid
      have hsome := hall a ha
      rw [← h.state] at hsome
      exact AList.lookup_isSome.mp hsome
    have hle := (List.subperm_of_subset hnodup hsubset').length_le
    have hge := hsubperm.length_le
    rw [List.length_map] at hle hge
    omega

/-- **A memory is valid if and only if its artifacts are what its log
makes of them, and no two events share an id.** -/
theorem valid_iff (memory : SafetyMemory) :
    memory.valid P = true
      ↔ Consistent P memory ∧ (memory.events.map (·.id)).Nodup
        ∧ memory.artifacts.length ≤ kMaximumMemoryArtifacts
        ∧ memory.events.length ≤ kMaximumMemoryEvents := by
  have hrun : memory.artifacts.Pairwise (fun a b => a.id < b.id) →
      _ := fun hordered => (replays P hordered).run
        (represents_nil memory.artifacts) memory.events
  unfold SafetyMemory.valid
  constructor
  · intro h
    split at h
    · cases h
    rename_i hlimits
    simp only [not_or, Nat.not_lt, Bool.not_eq_false] at hlimits
    obtain ⟨-, hartifacts, hevents, hloop⟩ := hlimits
    obtain ⟨hchecked, hordered, -⟩ := (artifactsOrdered_iff P _ _).mp hloop
    split at h
    · cases h
    rename_i replay hreplay
    obtain ⟨hadmitted, hrep⟩ := (hrun hordered).1 replay hreplay
    obtain ⟨hjournal, hfresh⟩ := admitted_and_iff.mp hadmitted
    simp only [Bool.and_eq_true, decide_eq_true_eq, List.all_eq_true] at h
    obtain ⟨⟨hsequence, hsize⟩, hfinal⟩ := h
    have hregistered := (hrep.registered hordered).mp hsize
    refine ⟨⟨hchecked, hordered, hjournal, hsequence.trans hrep.sequence,
      fun a ha => ?_, fun a ha => ?_⟩, admitted_fresh_iff.mp hfresh,
      hartifacts, hevents⟩
    · obtain ⟨state, hstate⟩ := Option.isSome_iff_exists.mp (hregistered a ha)
      have hfinal := (hfinal a ha).1
      rw [hrep.state, hstate, Option.getD_some] at hfinal
      rw [hstate, hfinal]
    · obtain ⟨state, hstate⟩ := Option.isSome_iff_exists.mp (hregistered a ha)
      have hfinal := (hfinal a ha).2
      rw [hrep.generation, hstate, Option.map_some, Option.getD_some] at hfinal
      exact hfinal.symm
  · rintro ⟨h, hnodup, hartifacts, hevents⟩
    have hloop : SafetyMemory.artifactsOrdered P [] memory.artifacts = true :=
      (artifactsOrdered_iff P _ _).mpr
        ⟨h.checked, h.ordered, fun hne => absurd rfl hne⟩
    obtain ⟨replay, hreplay⟩ := (hrun h.ordered).2
      (admitted_and_iff.mpr ⟨h.journal, admitted_fresh_iff.mpr hnodup⟩)
    have hrep := ((hrun h.ordered).1 replay hreplay).2
    have hsequence := h.sequence
    rw [if_neg (by
      simp only [not_or, Nat.not_lt, Bool.not_eq_false]
      exact ⟨by omega, hartifacts, hevents, hloop⟩), hreplay]
    simp only [Bool.and_eq_true, decide_eq_true_eq, List.all_eq_true]
    refine ⟨⟨h.sequence.trans hrep.sequence.symm,
      (hrep.registered h.ordered).mpr fun a ha => ?_⟩, fun a ha => ⟨?_, ?_⟩⟩
    · rw [h.state a ha]
      rfl
    · rw [hrep.state, h.state a ha]
      rfl
    · rw [hrep.generation, h.state a ha, h.generation a ha]
      rfl

end

end RbfSafe
