/-
A memory stays what its log makes of it, over every run of calls.

The log is checked against the stored artifacts, of which it uses the
parts no call changes (`SameRecord`); so a log stays admitted when the
artifacts move on, and an effect has to account for its new events only.
Invalidating a scene is the one effect with many events: the log is
followed along the artifacts still to be visited.
-/
import RbfSafe.Core.Proofs.Documents
import RbfSafe.Memory.Proofs.Calls

namespace RbfSafe

open Lib.Journal SafetyMemory

-- === what no call changes

/-- Artifacts of one content, registered by one event. -/
def SameRecord (a b : MemoryArtifact) : Prop :=
  b = { a with state := b.state, generation := b.generation }

theorem SameRecord.refl (a : MemoryArtifact) : SameRecord a a := rfl

theorem SameRecord.symm {a b : MemoryArtifact} (h : SameRecord a b) :
    SameRecord b a := by
  unfold SameRecord at h ⊢
  rw [h]

theorem SameRecord.trans {a b c : MemoryArtifact} (hab : SameRecord a b)
    (hbc : SameRecord b c) : SameRecord a c := by
  unfold SameRecord at hab hbc ⊢
  rw [hbc, hab]

theorem SameRecord.id {a b : MemoryArtifact} (h : SameRecord a b) :
    b.id = a.id := by
  rw [h]

theorem SameRecord.deploymentId {a b : MemoryArtifact} (h : SameRecord a b) :
    b.deploymentId = a.deploymentId := by
  rw [h]

theorem SameRecord.sceneDigest {a b : MemoryArtifact} (h : SameRecord a b) :
    b.sceneDigest = a.sceneDigest := by
  rw [h]

theorem sameRecord_moved (a : MemoryArtifact) (target : MemoryArtifactState) :
    SameRecord a (moved a target) := rfl

theorem eventAdmitted_congr {a b : MemoryArtifact} (h : SameRecord a b)
    {before : Option MemoryArtifactState} {event : MemoryEvent}
    (hevent : EventAdmitted a before event) :
    EventAdmitted b before event := by
  rw [h]
  exact hevent

section
variable (P : Platform)

/-- A log does not depend on the states its artifacts have now. -/
theorem follows_mono {artifacts artifacts' : List MemoryArtifact}
    (h : ∀ a ∈ artifacts, ∃ b ∈ artifacts', SameRecord a b)
    {log : List MemoryEvent}
    (hlog : Admitted (Follows P artifacts) log) :
    Admitted (Follows P artifacts') log := by
  apply hlog.mono
  rintro log event ⟨hvalid, hsequence, stored, hmem, hid, hevent⟩
  obtain ⟨b, hb, hsame⟩ := h stored hmem
  exact ⟨hvalid, hsequence, b, hb, hsame.id.trans hid,
    eventAdmitted_congr hsame hevent⟩

theorem checked_congr {a b : MemoryArtifact} (h : SameRecord a b)
    (hgeneration : b.generation ≠ 0)
    (ha : validateMemoryArtifact P a = .ok ()) :
    validateMemoryArtifact P b = .ok () := by
  rw [validateMemoryArtifact_iff] at ha ⊢
  have hidentity : memoryArtifactIdentity P b = memoryArtifactIdentity P a := by
    rw [h]
    rfl
  constructor
  case identity => rw [hidentity, ha.identity, h.id]
  case generation => exact hgeneration
  all_goals rw [h]
  · exact ha.tags
  · exact ha.id
  · exact ha.deploymentId
  · exact ha.robotDigest
  · exact ha.sceneDigest
  · exact ha.taskId
  · exact ha.contentDigest
  · exact ha.locator
  · exact ha.registeredSequence

-- === one artifact

/-- What stands where `std::lower_bound` points, when the id is there. -/
theorem lookupArtifact_split {artifacts : List MemoryArtifact}
    (hordered : artifacts.Pairwise fun a b => a.id < b.id)
    {a : MemoryArtifact} (hfound : lookupArtifact artifacts a.id = some a)
    (b : MemoryArtifact) :
    ∃ before after, artifacts = before ++ a :: after
      ∧ artifacts.set (findArtifact artifacts a.id) b
        = before ++ b :: after := by
  obtain ⟨before, after, hsplit, hplace, -, -⟩ :=
    findArtifact_split hordered a.id
  have hget := (lookupArtifact_id hfound).2
  rw [hplace, hsplit, List.getElem?_append_right le_rfl, Nat.sub_self] at hget
  cases after with
  | nil => cases hget
  | cons first after =>
      cases hget
      refine ⟨before, after, hsplit, ?_⟩
      rw [hplace, hsplit, List.set_append_right _ _ le_rfl, Nat.sub_self,
        List.set_cons_zero]

/-- What stands there when the id is new. -/
theorem insertArtifact_split {artifacts : List MemoryArtifact}
    (hordered : artifacts.Pairwise fun a b => a.id < b.id)
    {a : MemoryArtifact} (hnew : lookupArtifact artifacts a.id = none) :
    ∃ before after, artifacts = before ++ after
      ∧ artifacts.insertIdx (findArtifact artifacts a.id) a
        = before ++ a :: after
      ∧ (∀ b ∈ before, b.id < a.id) ∧ (∀ b ∈ after, a.id < b.id) := by
  obtain ⟨before, after, hsplit, hplace, hbefore, hafter⟩ :=
    findArtifact_split hordered a.id
  refine ⟨before, after, hsplit, ?_, hbefore, ?_⟩
  · rw [hplace, hsplit]
    clear hsplit hplace hbefore
    induction before with
    | nil => rfl
    | cons b before ih => simp [List.insertIdx_succ_cons, ih]
  · intro b hb
    have hne := (lookupArtifact_eq_none hordered).mp hnew b
      (hsplit ▸ List.mem_append_right _ hb)
    exact Std.lt_of_le_of_ne (Std.not_lt.mp (hafter b hb)) (Ne.symm hne)

-- === one event

/-- A checked event that names a stored artifact. -/
theorem follows_stored {artifacts : List MemoryArtifact}
    {log : List MemoryEvent} (hlog : Admitted (Follows P artifacts) log)
    {event : MemoryEvent} (hevent : event ∈ log) :
    validateMemoryEvent P event = .ok ()
      ∧ ∃ stored ∈ artifacts, stored.id = event.artifactId := by
  obtain ⟨i, hi⟩ := List.mem_iff_getElem?.mp hevent
  obtain ⟨hvalid, -, stored, hmem, hid, -⟩ := admitted_iff.mp hlog i event hi
  exact ⟨hvalid, stored, hmem, hid⟩

theorem stateAfter_fresh {artifacts : List MemoryArtifact}
    {log : List MemoryEvent} (hlog : Admitted (Follows P artifacts) log)
    {id : Bytes} (hnew : ∀ a ∈ artifacts, a.id ≠ id) :
    stateAfter log id = none := by
  rw [stateAfter_eq_none]
  intro event hevent hid
  obtain ⟨-, stored, hmem, hstored⟩ := follows_stored P hlog hevent
  exact hnew stored hmem (hstored.trans hid)

variable {memory : SafetyMemory}

theorem Consistent.checkedArtifact (h : Consistent P memory)
    {a : MemoryArtifact} (ha : a ∈ memory.artifacts) : CheckedArtifact P a :=
  (validateMemoryArtifact_iff P).mp (h.checked a ha)

/-- An artifact in another place of the order has another id. -/
theorem ne_of_split {before after : List MemoryArtifact} {a b : MemoryArtifact}
    (hordered : (before ++ a :: after).Pairwise fun a b => a.id < b.id)
    (hb : b ∈ before ∨ b ∈ after) : a.id ≠ b.id := by
  obtain ⟨-, htail, hcross⟩ := List.pairwise_append.mp hordered
  rcases hb with hb | hb
  · have hlt := hcross b hb a List.mem_cons_self
    exact fun heq => List.lt_irrefl _ (heq ▸ hlt)
  · have hlt := (List.pairwise_cons.mp htail).1 b hb
    exact fun heq => List.lt_irrefl _ (heq ▸ hlt)

/-- One event, and the artifact it is about in its new state. -/
theorem Consistent.snoc (h : Consistent P memory) {next : SafetyMemory}
    {event : MemoryEvent} (hevents : next.events = memory.events ++ [event])
    (hsequence : next.nextSequence = memory.nextSequence + 1)
    (hchecked : ∀ b ∈ next.artifacts, validateMemoryArtifact P b = .ok ())
    (hordered : next.artifacts.Pairwise fun a b => a.id < b.id)
    (hkept : ∀ a ∈ memory.artifacts, ∃ b ∈ next.artifacts, SameRecord a b)
    (hfollows : Follows P next.artifacts memory.events event)
    (hartifacts : ∀ b ∈ next.artifacts,
      (event.artifactId = b.id ∧ event.currentState = b.state
        ∧ b.generation = 1 + changesOf memory.events b.id
          + if event.changesState then 1 else 0)
      ∨ (event.artifactId ≠ b.id ∧ b ∈ memory.artifacts)) :
    Consistent P next where
  checked := hchecked
  ordered := hordered
  journal := by
    rw [hevents]
    exact .snoc (follows_mono P hkept h.journal) hfollows
  sequence := by
    rw [hsequence, hevents, h.sequence, List.length_append,
      List.length_singleton]
  state b hb := by
    rw [hevents, stateAfter_snoc]
    rcases hartifacts b hb with ⟨hid, hstate, -⟩ | ⟨hid, hold⟩
    · rw [if_pos hid, hstate]
    · rw [if_neg hid]
      exact h.state b hold
  generation b hb := by
    rw [hevents, changesOf_snoc]
    rcases hartifacts b hb with ⟨hid, -, hgeneration⟩ | ⟨hid, hold⟩
    · rw [hgeneration, Nat.add_assoc]
      simp only [hid, true_and]
    · rw [if_neg fun hand => hid hand.1]
      exact h.generation b hold

theorem Consistent.registered (h : Consistent P memory) {a : MemoryArtifact}
    (hchecked : validateMemoryArtifact P a = .ok ())
    (hnew : lookupArtifact memory.artifacts a.id = none)
    (hstate : a.state = .active) (hgeneration : a.generation = 1)
    (hsequence : a.registeredSequence = memory.nextSequence) :
    Consistent P (memory.registered P a) := by
  obtain ⟨before, after, hsplit, hinsert, hbefore, hafter⟩ :=
    insertArtifact_split h.ordered hnew
  have hnone : stateAfter memory.events a.id = none :=
    stateAfter_fresh P h.journal ((lookupArtifact_eq_none h.ordered).mp hnew)
  have hmem : ∀ b, b ∈ (memory.registered P a).artifacts
      ↔ b = a ∨ b ∈ memory.artifacts := by
    intro b
    unfold SafetyMemory.registered
    rw [hinsert, hsplit]
    simp only [List.mem_append, List.mem_cons]
    tauto
  have hne : ∀ b ∈ memory.artifacts, a.id ≠ b.id := fun b hb heq =>
    (lookupArtifact_eq_none h.ordered).mp hnew b hb heq.symm
  have hfollows : Follows P (memory.registered P a).artifacts memory.events
      (makeEvent P memory.nextSequence .registered a .active a.taskId
        (ascii "registered")) := by
    have hfacts := (validateMemoryArtifact_iff P).mp hchecked
    have hsequence' := h.sequence
    refine ⟨?_, h.sequence, a, (hmem a).mpr (Or.inl rfl), rfl, hnone, rfl,
      hstate, hsequence, rfl, rfl⟩
    refine validateMemoryEvent_makeEvent P (by omega) hfacts.id hfacts.taskId
      (by decide) ?_
    rw [hstate]
    simp
  refine h.snoc P rfl rfl (fun b hb => ?_) ?_ (fun b hb => ?_) hfollows
    (fun b hb => ?_)
  · rcases (hmem b).mp hb with rfl | hb
    · exact hchecked
    · exact h.checked b hb
  · have hordered := h.ordered
    unfold SafetyMemory.registered
    rw [hinsert]
    rw [hsplit] at hordered
    obtain ⟨hfirst, hsecond, hcross⟩ := List.pairwise_append.mp hordered
    refine List.pairwise_append.mpr
      ⟨hfirst, List.pairwise_cons.mpr ⟨hafter, hsecond⟩, ?_⟩
    intro b hb c hc
    rcases List.mem_cons.mp hc with rfl | hc
    · exact hbefore b hb
    · exact hcross b hb c hc
  · exact ⟨b, (hmem b).mpr (Or.inr hb), .refl b⟩
  · rcases (hmem b).mp hb with rfl | hb
    · refine Or.inl ⟨rfl, rfl, ?_⟩
      rw [changesOf_eq_zero hnone, hgeneration]
      rfl
    · exact Or.inr ⟨hne b hb, hb⟩

theorem ne_of_allowed {source target : MemoryArtifactState}
    (h : transitionAllowed source target = true) : source ≠ target := by
  rintro rfl
  cases source <;> exact absurd h (by decide)

theorem Consistent.transitioned (h : Consistent P memory) {a : MemoryArtifact}
    {target : MemoryArtifactState} {detail : Bytes}
    (hfound : lookupArtifact memory.artifacts a.id = some a)
    (hallowed : transitionAllowed a.state target = true)
    (hdetail : validText detail kMaximumDetailBytes = true) :
    Consistent P (memory.transitioned P a target detail) := by
  obtain ⟨before, after, hsplit, hset⟩ :=
    lookupArtifact_split h.ordered hfound (moved a target)
  have hmemA : a ∈ memory.artifacts :=
    ((lookupArtifact_eq_some h.ordered).mp hfound).1
  have hmem : ∀ b, b ∈ (memory.transitioned P a target detail).artifacts
      ↔ b = moved a target ∨ b ∈ before ∨ b ∈ after := by
    intro b
    unfold SafetyMemory.transitioned
    rw [hset]
    simp only [List.mem_append, List.mem_cons]
    tauto
  have hold : ∀ b, b ∈ before ∨ b ∈ after → b ∈ memory.artifacts := by
    intro b hb
    rw [hsplit, List.mem_append, List.mem_cons]
    tauto
  have hne : ∀ b, b ∈ before ∨ b ∈ after → a.id ≠ b.id := fun b hb =>
    ne_of_split (hsplit ▸ h.ordered) hb
  have hkept : ∀ b ∈ memory.artifacts,
      ∃ c ∈ (memory.transitioned P a target detail).artifacts,
        SameRecord b c := by
    intro b hb
    rw [hsplit, List.mem_append, List.mem_cons] at hb
    rcases hb with hb | rfl | hb
    · exact ⟨b, (hmem b).mpr (Or.inr (Or.inl hb)), .refl b⟩
    · exact ⟨_, (hmem _).mpr (Or.inl rfl), sameRecord_moved b target⟩
    · exact ⟨b, (hmem b).mpr (Or.inr (Or.inr hb)), .refl b⟩
  have hfacts := h.checkedArtifact P hmemA
  have hfollows : Follows P (memory.transitioned P a target detail).artifacts
      memory.events (makeEvent P memory.nextSequence .stateTransition
        (moved a target) a.state a.taskId detail) := by
    have hsequence := h.sequence
    refine ⟨?_, h.sequence, moved a target, (hmem _).mpr (Or.inl rfl), rfl,
      h.state a hmemA, rfl, hallowed⟩
    refine validateMemoryEvent_makeEvent P (by omega) hfacts.id hfacts.taskId
      hdetail ?_
    exact ⟨fun _ => ne_of_allowed hallowed, fun _ => Or.inl rfl⟩
  refine h.snoc P rfl rfl (fun b hb => ?_) ?_ hkept hfollows (fun b hb => ?_)
  · rcases (hmem b).mp hb with rfl | hb
    · exact checked_congr P (sameRecord_moved a target)
        (Nat.succ_ne_zero a.generation) (h.checked a hmemA)
    · exact h.checked b (hold b hb)
  · have hordered := h.ordered
    unfold SafetyMemory.transitioned
    rw [hset]
    rw [hsplit] at hordered
    rw [List.pairwise_append, List.pairwise_cons] at hordered ⊢
    obtain ⟨hfirst, ⟨hhead, hsecond⟩, hcross⟩ := hordered
    refine ⟨hfirst, ⟨hhead, hsecond⟩, fun b hb c hc => ?_⟩
    rcases List.mem_cons.mp hc with rfl | hc
    · exact hcross b hb a List.mem_cons_self
    · exact hcross b hb c (List.mem_cons_of_mem _ hc)
  · rcases (hmem b).mp hb with rfl | hb
    · exact Or.inl ⟨rfl, rfl, congrArg (· + 1) (h.generation a hmemA)⟩
    · exact Or.inr ⟨hne b hb, hold b hb⟩

theorem Consistent.reused (h : Consistent P memory) {a : MemoryArtifact}
    {taskId detail : Bytes}
    (hfound : lookupArtifact memory.artifacts a.id = some a)
    (htask : validIdentifier taskId = true)
    (hdetail : validText detail kMaximumDetailBytes = true) :
    Consistent P (memory.reused P a taskId detail) := by
  have hmemA : a ∈ memory.artifacts :=
    ((lookupArtifact_eq_some h.ordered).mp hfound).1
  have hfollows : Follows P memory.artifacts memory.events
      (makeEvent P memory.nextSequence .reuseRecorded a a.state taskId
        detail) := by
    have hsequence := h.sequence
    refine ⟨?_, h.sequence, a, hmemA, rfl, h.state a hmemA, rfl⟩
    refine validateMemoryEvent_makeEvent P (by omega)
      (h.checkedArtifact P hmemA).id htask hdetail ?_
    simp
  refine h.snoc P rfl rfl h.checked h.ordered (fun b hb => ⟨b, hb, .refl b⟩)
    hfollows (fun b hb => ?_)
  by_cases hid : a.id = b.id
  · have hsame := eq_of_artifact_id h.ordered hmemA hb hid
    subst hsame
    exact Or.inl ⟨rfl, rfl, h.generation a hb⟩
  · exact Or.inr ⟨hid, hb⟩

-- === invalidating a scene

section Scene
variable {deploymentId sceneDigest detail : Bytes}

theorem sceneEvents_cons {a : MemoryArtifact} {rest : List MemoryArtifact}
    {next : Nat} (h : inScene deploymentId sceneDigest a = true) :
    sceneEvents P deploymentId sceneDigest detail (a :: rest) next
      = makeEvent P next .sceneInvalidated (staled a) a.state a.taskId detail
        :: sceneEvents P deploymentId sceneDigest detail rest (next + 1) := by
  rw [sceneEvents, if_pos h]

theorem sceneEvents_skip {a : MemoryArtifact} {rest : List MemoryArtifact}
    {next : Nat} (h : inScene deploymentId sceneDigest a = false) :
    sceneEvents P deploymentId sceneDigest detail (a :: rest) next
      = sceneEvents P deploymentId sceneDigest detail rest next := by
  rw [sceneEvents, if_neg (by simp [h])]

theorem length_sceneEvents (rest : List MemoryArtifact) (next : Nat) :
    (sceneEvents P deploymentId sceneDigest detail rest next).length
      = rest.countP (inScene deploymentId sceneDigest) := by
  induction rest generalizing next with
  | nil => rfl
  | cons a rest ih =>
      cases h : inScene deploymentId sceneDigest a with
      | true => rw [sceneEvents_cons P h, List.length_cons, ih,
          List.countP_cons_of_pos h]
      | false => rw [sceneEvents_skip P h, ih,
          List.countP_cons_of_neg (by simp [h])]

/-- The loop leaves the artifacts it does not select alone. -/
theorem sceneEvents_untouched {id : Bytes} (rest : List MemoryArtifact)
    (next : Nat) (log : List MemoryEvent)
    (h : ∀ a ∈ rest, inScene deploymentId sceneDigest a = true → a.id ≠ id) :
    stateAfter (log ++ sceneEvents P deploymentId sceneDigest detail rest next)
        id = stateAfter log id
      ∧ changesOf (log ++ sceneEvents P deploymentId sceneDigest detail rest
        next) id = changesOf log id := by
  induction rest generalizing next log with
  | nil => simp [sceneEvents]
  | cons a rest ih =>
      have hrest := fun b hb => h b (List.mem_cons_of_mem a hb)
      cases hin : inScene deploymentId sceneDigest a with
      | false =>
          rw [sceneEvents_skip P hin]
          exact ih next log hrest
      | true =>
          have hne : a.id ≠ id := h a List.mem_cons_self hin
          rw [sceneEvents_cons P hin, List.append_cons]
          obtain ⟨hstate, hchanges⟩ := ih (next + 1) (log ++ [_]) hrest
          rw [hstate, hchanges, stateAfter_snoc, changesOf_snoc]
          exact ⟨if_neg hne, by rw [if_neg fun hand => hne hand.1]; rfl⟩

/-- It changes each selected artifact once. -/
theorem sceneEvents_touched {a : MemoryArtifact} (rest : List MemoryArtifact)
    (next : Nat) (log : List MemoryEvent)
    (hordered : rest.Pairwise fun a b => a.id < b.id) (ha : a ∈ rest)
    (hin : inScene deploymentId sceneDigest a = true) :
    stateAfter (log ++ sceneEvents P deploymentId sceneDigest detail rest next)
        a.id = some .stale
      ∧ changesOf (log ++ sceneEvents P deploymentId sceneDigest detail rest
        next) a.id = changesOf log a.id + 1 := by
  induction rest generalizing next log with
  | nil => exact absurd ha List.not_mem_nil
  | cons b rest ih =>
      obtain ⟨hhead, htail⟩ := List.pairwise_cons.mp hordered
      rcases List.mem_cons.mp ha with rfl | ha
      · have hrest : ∀ c ∈ rest, inScene deploymentId sceneDigest c = true →
            c.id ≠ a.id := by
          intro c hc _ heq
          exact List.lt_irrefl _ (heq ▸ hhead c hc)
        rw [sceneEvents_cons P hin, List.append_cons]
        obtain ⟨hstate, hchanges⟩ := sceneEvents_untouched P rest (next + 1)
          (log ++ [_]) hrest
        rw [hstate, hchanges, stateAfter_snoc, changesOf_snoc]
        exact ⟨if_pos rfl, by rw [if_pos ⟨rfl, rfl⟩]⟩
      · have hne : b.id ≠ a.id := fun heq =>
          List.lt_irrefl _ (heq ▸ hhead a ha)
        cases hb : inScene deploymentId sceneDigest b with
        | false =>
            rw [sceneEvents_skip P hb]
            exact ih next log htail ha
        | true =>
            rw [sceneEvents_cons P hb, List.append_cons]
            obtain ⟨hstate, hchanges⟩ := ih (next + 1) (log ++ [_]) htail ha
            rw [hstate, hchanges, changesOf_snoc]
            exact ⟨rfl, by rw [if_neg fun hand => hne hand.1]⟩

theorem inScene_iff {a : MemoryArtifact} :
    inScene deploymentId sceneDigest a = true ↔ a.state = .active
      ∧ a.deploymentId = deploymentId ∧ a.sceneDigest = sceneDigest := by
  unfold inScene
  simp only [Bool.and_eq_true, decide_eq_true_eq, and_assoc]

/-- **The events of the loop follow the log one by one**, along the
artifacts still to be visited. -/
theorem sceneEvents_follow {artifacts : List MemoryArtifact}
    (hdetail : validText detail kMaximumDetailBytes = true)
    (rest : List MemoryArtifact) (log : List MemoryEvent)
    (hlog : Admitted (Follows P artifacts) log)
    (hmem : ∀ a ∈ rest, a ∈ artifacts)
    (hchecked : ∀ a ∈ rest, validateMemoryArtifact P a = .ok ())
    (hordered : rest.Pairwise fun a b => a.id < b.id)
    (hstate : ∀ a ∈ rest, stateAfter log a.id = some a.state) :
    Admitted (Follows P artifacts) (log ++ sceneEvents P deploymentId
      sceneDigest detail rest (log.length + 1)) := by
  induction rest generalizing log with
  | nil =>
      rw [sceneEvents, List.append_nil]
      exact hlog
  | cons a rest ih =>
      obtain ⟨hhead, htail⟩ := List.pairwise_cons.mp hordered
      have hmem' := fun b hb => hmem b (List.mem_cons_of_mem a hb)
      have hchecked' := fun b hb => hchecked b (List.mem_cons_of_mem a hb)
      have hstate' := fun b hb => hstate b (List.mem_cons_of_mem a hb)
      cases hin : inScene deploymentId sceneDigest a with
      | false =>
          rw [sceneEvents_skip P hin]
          exact ih log hlog hmem' hchecked' htail hstate'
      | true =>
          rw [sceneEvents_cons P hin, List.append_cons]
          have hactive := (inScene_iff.mp hin).1
          have hfacts := (validateMemoryArtifact_iff P).mp
            (hchecked a List.mem_cons_self)
          have hfollows : Follows P artifacts log (makeEvent P
              (log.length + 1) .sceneInvalidated (staled a) a.state a.taskId
              detail) := by
            refine ⟨?_, rfl, a, hmem a List.mem_cons_self, rfl,
              hstate a List.mem_cons_self, rfl, ?_⟩
            · refine validateMemoryEvent_makeEvent P (Nat.succ_ne_zero _)
                hfacts.id hfacts.taskId hdetail ?_
              rw [hactive]
              exact ⟨fun _ => ne_of_allowed rfl, fun _ => Or.inr rfl⟩
            · show transitionAllowed a.state .stale = true
              rw [hactive]
              rfl
          have hnext := ih (log ++ [_]) (.snoc hlog hfollows) hmem' hchecked'
            htail (fun b hb => ?_)
          · rwa [List.length_append, List.length_singleton] at hnext
          · rw [stateAfter_snoc]
            refine (if_neg ?_).trans (hstate' b hb)
            intro (heq : a.id = b.id)
            exact List.lt_irrefl _ (heq ▸ hhead b hb)

theorem sameRecord_staled (a : MemoryArtifact) :
    SameRecord a (if inScene deploymentId sceneDigest a then staled a
      else a) := by
  by_cases hin : inScene deploymentId sceneDigest a = true
  · rw [if_pos hin]
    rfl
  · rw [if_neg hin]
    exact .refl a

theorem Consistent.invalidated (h : Consistent P memory)
    (hdetail : validText detail kMaximumDetailBytes = true) :
    Consistent P (memory.invalidated P deploymentId sceneDigest detail) := by
  have hmem : ∀ b, b ∈ (memory.invalidated P deploymentId sceneDigest
        detail).artifacts → ∃ a ∈ memory.artifacts,
      (if inScene deploymentId sceneDigest a then staled a else a) = b :=
    fun b hb => List.mem_map.mp hb
  have hfollow := @sceneEvents_follow P deploymentId sceneDigest detail
    memory.artifacts hdetail memory.artifacts memory.events h.journal
    (fun a ha => ha) h.checked h.ordered h.state
  -- what the loop does to the artifact that stands for `a` afterwards
  have heffect : ∀ a ∈ memory.artifacts,
      stateAfter (memory.invalidated P deploymentId sceneDigest detail).events
          a.id = some (if inScene deploymentId sceneDigest a then staled a
            else a).state
        ∧ (if inScene deploymentId sceneDigest a then staled a
            else a).generation = 1 + changesOf (memory.invalidated P
              deploymentId sceneDigest detail).events a.id := by
    intro a ha
    unfold SafetyMemory.invalidated
    by_cases hin : inScene deploymentId sceneDigest a = true
    · obtain ⟨hstate, hchanges⟩ := @sceneEvents_touched P deploymentId
        sceneDigest detail a memory.artifacts memory.nextSequence
        memory.events h.ordered ha hin
      rw [hstate, hchanges, if_pos hin]
      refine ⟨rfl, ?_⟩
      show a.generation + 1 = _
      rw [h.generation a ha]
      omega
    · obtain ⟨hstate, hchanges⟩ := @sceneEvents_untouched P deploymentId
        sceneDigest detail a.id memory.artifacts memory.nextSequence
        memory.events (fun b hb hb' hid =>
          hin (eq_of_artifact_id h.ordered hb ha hid ▸ hb'))
      rw [hstate, hchanges, if_neg hin]
      exact ⟨h.state a ha, h.generation a ha⟩
  constructor
  case checked =>
    intro b hb
    obtain ⟨a, ha, rfl⟩ := hmem b hb
    refine checked_congr P (sameRecord_staled a) ?_ (h.checked a ha)
    rw [(heffect a ha).2]
    omega
  case ordered =>
    unfold SafetyMemory.invalidated
    rw [List.pairwise_map]
    refine h.ordered.imp ?_
    intro a b hab
    rwa [(sameRecord_staled a).id, (sameRecord_staled b).id]
  case journal =>
    unfold SafetyMemory.invalidated
    rw [h.sequence]
    refine follows_mono P (fun a ha => ?_) hfollow
    exact ⟨_, List.mem_map.mpr ⟨a, ha, rfl⟩, sameRecord_staled a⟩
  case sequence =>
    unfold SafetyMemory.invalidated
    rw [List.length_append, length_sceneEvents, h.sequence]
    exact Nat.add_right_comm _ 1 _
  case state =>
    intro b hb
    obtain ⟨a, ha, rfl⟩ := hmem b hb
    rw [(sameRecord_staled a).id]
    exact (heffect a ha).1
  case generation =>
    intro b hb
    obtain ⟨a, ha, rfl⟩ := hmem b hb
    rw [(sameRecord_staled a).id]
    exact (heffect a ha).2

end Scene

-- === runs

/-- Every effect keeps the artifacts what the log makes of them. -/
theorem Consistent.effect (h : Consistent P memory)
    {maximumArtifacts maximumEvents : Nat} {next : SafetyMemory}
    (heffect : MemoryEffect P maximumArtifacts maximumEvents memory next) :
    Consistent P next := by
  cases heffect with
  | unchanged => exact h
  | registered hchecked hnew hstate hgeneration hsequence hartifacts hevents =>
      exact h.registered P hchecked hnew hstate hgeneration hsequence
  | transitioned hfound hallowed hdetail hevents =>
      exact h.transitioned P hfound hallowed hdetail
  | invalidated hdetail hevents => exact h.invalidated P hdetail
  | reused hfound hactive htask hdetail hevents =>
      exact h.reused P hfound htask hdetail

theorem consistent_empty : Consistent P {} where
  checked _ ha := absurd ha List.not_mem_nil
  ordered := .nil
  journal := .nil
  sequence := rfl
  state _ ha := absurd ha List.not_mem_nil
  generation _ ha := absurd ha List.not_mem_nil

theorem Consistent.run (h : Consistent P memory) (calls : List MemoryCall) :
    Consistent P (memory.run P calls) := by
  induction calls generalizing memory with
  | nil => exact h
  | cons call calls ih => exact ih (h.effect P (call_effect P memory call))

-- === limits

/-- A call within the limits of `SafetyMemory::valid`. -/
def MemoryCall.Limited (call : MemoryCall) : Prop :=
  call.maximumArtifacts ≤ kMaximumMemoryArtifacts
    ∧ call.maximumEvents ≤ kMaximumMemoryEvents

/-- A memory within the limits of `SafetyMemory::valid`. -/
def SafetyMemory.Limited (memory : SafetyMemory) : Prop :=
  memory.artifacts.length ≤ kMaximumMemoryArtifacts
    ∧ memory.events.length ≤ kMaximumMemoryEvents

theorem Limited.effect (h : memory.Limited) {call : MemoryCall}
    (hcall : call.Limited) {next : SafetyMemory}
    (heffect : MemoryEffect P call.maximumArtifacts call.maximumEvents memory
      next) : next.Limited := by
  obtain ⟨hartifacts, hevents⟩ := h
  obtain ⟨hmaxArtifacts, hmaxEvents⟩ := hcall
  unfold SafetyMemory.Limited
  cases heffect with
  | unchanged => exact ⟨hartifacts, hevents⟩
  | registered _ _ _ _ _ hroomArtifacts hroomEvents =>
      unfold SafetyMemory.registered
      refine ⟨?_, ?_⟩
      · refine List.length_insertIdx_le_succ.trans ?_
        omega
      · rw [List.length_append, List.length_singleton]
        omega
  | transitioned _ _ _ hroom =>
      unfold SafetyMemory.transitioned
      rw [List.length_set, List.length_append, List.length_singleton]
      omega
  | invalidated _ hroom =>
      unfold SafetyMemory.invalidated
      rw [List.length_map, List.length_append, length_sceneEvents]
      omega
  | reused _ _ _ _ hroom =>
      unfold SafetyMemory.reused
      rw [List.length_append, List.length_singleton]
      exact ⟨hartifacts, by omega⟩

theorem Limited.run (h : memory.Limited) {calls : List MemoryCall}
    (hcalls : ∀ call ∈ calls, call.Limited) :
    (memory.run P calls).Limited := by
  induction calls generalizing memory with
  | nil => exact h
  | cons call calls ih =>
      have hnext := Limited.effect P h (hcalls call List.mem_cons_self)
        (call_effect P memory call)
      exact ih hnext fun c hc => hcalls c (List.mem_cons_of_mem _ hc)

-- === event ids

/-- The documents whose digests are the ids of events. -/
def eventDocuments (L : Libc) (events : List MemoryEvent) : Set Bytes :=
  {document | ∃ event ∈ events,
    document = (eventIdentityJson event).dump L false 0}

/-- The fields of an event in its document. -/
def eventFields (event : MemoryEvent) : List (String × Json) :=
  [("artifact_id", .string event.artifactId),
    ("current_state", .num event.currentState.toNat),
    ("detail", .string event.detail),
    ("previous_state", .num event.previousState.toNat),
    ("sequence", .uint event.sequence),
    ("task_id", .string event.taskId),
    ("type", .num event.type.toNat)]

theorem fits_eventFields (event : MemoryEvent) :
    ∀ f ∈ eventFields event, Json.Fits 64 f.2 := by
  have hstate : ∀ state : MemoryArtifactState, state.toNat < 2 ^ 53 := by
    intro state
    cases state <;> decide
  have htype : event.type.toNat < 2 ^ 53 := by
    cases event.type <;> decide
  intro f hf
  simp only [eventFields, List.mem_cons, List.not_mem_nil, or_false] at hf
  rcases hf with rfl | rfl | rfl | rfl | rfl | rfl | rfl
  · exact .string _
  · exact Json.fits_num (hstate _)
  · exact .string _
  · exact Json.fits_num (hstate _)
  · exact .string _
  · exact .string _
  · exact Json.fits_num htype

/-- Events with one document have one sequence number. -/
theorem eventSequence_of_dump_eq {L : Libc} {e e' : MemoryEvent}
    (h : (eventIdentityJson e).dump L false 0
      = (eventIdentityJson e').dump L false 0) :
    e.sequence = e'.sequence := by
  have hkeys : ((eventFields e).map fun f => ascii f.1).Nodup := by
    show [ascii "artifact_id", ascii "current_state", ascii "detail",
      ascii "previous_state", ascii "sequence", ascii "task_id",
      ascii "type"].Nodup
    decide
  have hfields : eventFields e = eventFields e' :=
    Json.values_of_dump_eq L rfl hkeys (fits_eventFields e)
      (fits_eventFields e') h
  simp only [eventFields, List.cons.injEq, Prod.mk.injEq, true_and] at hfields
  exact Json.uint_inj hfields.2.2.2.2.1

/-- The sequence numbers of an admitted log count its events. -/
theorem Consistent.numbered (h : Consistent P memory) {i : Nat}
    {event : MemoryEvent} (hi : memory.events[i]? = some event) :
    event.sequence = i + 1 := by
  have hlt := (List.getElem?_eq_some_iff.mp hi).1
  obtain ⟨-, hsequence, -⟩ := admitted_iff.mp h.journal i event hi
  rw [hsequence, List.length_take, Nat.min_eq_left hlt.le]

/-- Event ids are told apart by the sequence numbers, unless they
collide. -/
theorem Consistent.ids_nodup (h : Consistent P memory)
    (hdigest : Set.InjOn P.sha256 (eventDocuments P.toLibc memory.events)) :
    (memory.events.map (·.id)).Nodup := by
  rw [List.nodup_iff_injective_getElem]
  intro ⟨i, hi⟩ ⟨j, hj⟩ hij
  rw [List.length_map] at hi hj
  have hget : ∀ {k : Nat} (hk : k < memory.events.length),
      memoryEventIdentity P memory.events[k] = memory.events[k].id := by
    intro k hk
    have hvalid := (follows_stored P h.journal (List.getElem_mem hk)).1
    exact ((validateMemoryEvent_iff P).mp hvalid).identity
  have hsame : memory.events[i].id = memory.events[j].id := by
    simpa using hij
  rw [← hget hi, ← hget hj] at hsame
  have hdocument := hdigest ⟨_, List.getElem_mem hi, rfl⟩
    ⟨_, List.getElem_mem hj, rfl⟩ hsame
  have hsequence := eventSequence_of_dump_eq hdocument
  rw [h.numbered P (List.getElem?_eq_getElem hi),
    h.numbered P (List.getElem?_eq_getElem hj)] at hsequence
  exact Fin.ext (Nat.succ.inj hsequence)

end

end RbfSafe
