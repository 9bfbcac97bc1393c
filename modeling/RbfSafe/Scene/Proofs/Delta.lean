/-
A delta says exactly what changed, and when it can be read back.

`compare_scenes` records a change for an id exactly if the scenes have
different bounds there (`mem_compareObstacles`); so the changes come in
id order, turn the bounds before into the bounds after, and none of them
is idle. The delta passes its own check. Its document is read back
exactly if the reader takes that many changes and every shape in them is
one its class gives back.

Bounds are compared as the source compares them, by the value of each
coordinate: to `operator==` the two zeros are one.
-/
import RbfSafe.Scene.Proofs.Envelope

namespace RbfSafe

open Json

variable {α : Type} [DecodedScalar α]

-- === bounds of a scene

/-- The bounds of an obstacle, if the scene has it. -/
def SceneSnapshot.boundsOf (scene : SceneSnapshot α) (id : Bytes) :
    Option (WorkspaceEnvelope α) :=
  Lib.OrderedMap.find scene.entries id

/-- No bounds on both sides, or bounds that compare equal. -/
def sameBounds : Option (WorkspaceEnvelope α) →
    Option (WorkspaceEnvelope α) → Bool
  | none, none => true
  | some before, some after => before.eq after
  | _, _ => false

/-- The ids at which two scenes differ, each once. -/
def SceneSnapshot.differing (before after : SceneSnapshot α) : List Bytes :=
  ((before.entries ++ after.entries).map (·.1)).dedup.filter fun id =>
    !sameBounds (before.boundsOf id) (after.boundsOf id)

/-- The changes applied one after the other to a map from ids to bounds:
what is removed has no bounds afterwards. -/
def SceneDelta.apply (changes : List (SceneObstacleChange α))
    (bounds : Bytes → Option (WorkspaceEnvelope α)) :
    Bytes → Option (WorkspaceEnvelope α) :=
  changes.foldl (fun bounds change =>
    Function.update bounds change.obstacleId change.after) bounds

/-- The changes are what turns one scene into the other. -/
structure CompleteDiff (before after : SceneSnapshot α)
    (changes : List (SceneObstacleChange α)) : Prop where
  sorted : changes.Pairwise fun a b => a.obstacleId < b.obstacleId
  recorded : ∀ change ∈ changes,
    change.before = before.boundsOf change.obstacleId ∧
      change.after = after.boundsOf change.obstacleId
  effective : ∀ change ∈ changes,
    sameBounds change.before change.after = false
  applies : ∀ id, sameBounds (SceneDelta.apply changes before.boundsOf id)
    (after.boundsOf id) = true

-- === checks

theorem validateObstacles_iff : ∀ {obstacles : List (SceneObstacle α)}
    {ids : List Bytes},
    SceneSnapshot.validateObstacles ids obstacles = .ok () ↔
      (∀ obstacle ∈ obstacles, obstacle.id ≠ [] ∧ obstacle.id ∉ ids ∧
        obstacle.bounds.valid = true) ∧
      obstacles.Pairwise fun a b => a.id ≠ b.id := by
  intro obstacles
  induction obstacles with
  | nil => intro ids; simp [SceneSnapshot.validateObstacles]
  | cons obstacle obstacles ih =>
      intro ids
      rw [SceneSnapshot.validateObstacles, ite_failure_eq_ok,
        ite_failure_eq_ok, ite_failure_eq_ok, ih, List.pairwise_cons,
        List.forall_mem_cons, Bool.not_eq_false]
      constructor
      · rintro ⟨hne, hnew, hvalid, hrest, hpair⟩
        refine ⟨⟨⟨hne, hnew, hvalid⟩, ?_⟩, ?_, hpair⟩
        · intro other hother
          obtain ⟨hne', hnew', hvalid'⟩ := hrest other hother
          exact ⟨hne', fun hmem => hnew' (List.mem_cons_of_mem _ hmem),
            hvalid'⟩
        · intro other hother heq
          exact (hrest other hother).2.1 (heq ▸ List.mem_cons_self)
      · rintro ⟨⟨⟨hne, hnew, hvalid⟩, hrest⟩, hhead, hpair⟩
        refine ⟨hne, hnew, hvalid, ?_, hpair⟩
        intro other hother
        obtain ⟨hne', hnew', hvalid'⟩ := hrest other hother
        refine ⟨hne', ?_, hvalid'⟩
        rw [List.mem_cons, not_or]
        exact ⟨fun heq => hhead other hother heq.symm, hnew'⟩

/-- What a scene that passes its check has. -/
structure SceneSnapshot.Sound (scene : SceneSnapshot α) : Prop where
  version : scene.version ≠ []
  ids : ∀ entry ∈ scene.entries, entry.1 ≠ []
  valid : ∀ entry ∈ scene.entries, entry.2.valid = true
  created : ∀ entry ∈ scene.entries, entry.2.Created
  distinct : scene.entries.Pairwise fun a b => a.1 ≠ b.1

theorem SceneSnapshot.validate_iff {scene : SceneSnapshot α} :
    scene.validate = .ok () ↔ scene.Sound := by
  unfold SceneSnapshot.validate
  rw [ite_failure_eq_ok, validateObstacles_iff]
  constructor
  · rintro ⟨hversion, hall, hpair⟩
    refine ⟨hversion, ?_, ?_, ?_, List.pairwise_map.mpr hpair⟩
    · intro entry hentry
      obtain ⟨obstacle, hobstacle, rfl⟩ := List.mem_map.mp hentry
      exact (hall obstacle hobstacle).1
    · intro entry hentry
      obtain ⟨obstacle, hobstacle, rfl⟩ := List.mem_map.mp hentry
      exact (hall obstacle hobstacle).2.2
    · intro entry hentry
      obtain ⟨obstacle, hobstacle, rfl⟩ := List.mem_map.mp hentry
      exact obstacle.made (hall obstacle hobstacle).2.2
  · intro h
    have hdistinct := h.distinct
    unfold SceneSnapshot.entries at hdistinct
    rw [List.pairwise_map] at hdistinct
    refine ⟨h.version, ?_, hdistinct⟩
    intro obstacle hobstacle
    have hentry := List.mem_map_of_mem
      (f := fun obstacle : SceneObstacle α => (obstacle.id, obstacle.bounds))
      hobstacle
    exact ⟨h.ids _ hentry, List.not_mem_nil, h.valid _ hentry⟩

theorem validateChanges_iff : ∀ {changes : List (SceneObstacleChange α)}
    {previousId : Bytes},
    SceneDelta.validateChanges previousId changes = .ok () ↔
      (∀ change ∈ changes, change.obstacleId ≠ [] ∧
        SceneDelta.changeValid change = true ∧
        (previousId ≠ [] → previousId < change.obstacleId)) ∧
      changes.Pairwise fun a b => a.obstacleId < b.obstacleId := by
  intro changes
  induction changes with
  | nil => intro previousId; simp [SceneDelta.validateChanges]
  | cons change changes ih =>
      intro previousId
      rw [SceneDelta.validateChanges, ite_failure_eq_ok, ih,
        List.pairwise_cons, List.forall_mem_cons]
      simp only [not_or, Bool.not_eq_false, not_and, not_not]
      constructor
      · rintro ⟨⟨hne, hafter, hvalid⟩, hrest, hpair⟩
        refine ⟨⟨⟨hne, hvalid, hafter⟩, ?_⟩, ?_, hpair⟩
        · intro other hother
          obtain ⟨hne', hvalid', hafter'⟩ := hrest other hother
          exact ⟨hne', hvalid', fun hprevious =>
            List.lt_trans (hafter hprevious) (hafter' hne)⟩
        · intro other hother
          exact (hrest other hother).2.2 hne
      · rintro ⟨⟨⟨hne, hvalid, hafter⟩, hrest⟩, hhead, hpair⟩
        refine ⟨⟨hne, hafter, hvalid⟩, ?_, hpair⟩
        intro other hother
        obtain ⟨hne', hvalid', -⟩ := hrest other hother
        exact ⟨hne', hvalid', fun _ => hhead other hother⟩

-- === bounds compare equal

section Lawful

variable [LawfulScalar α]

theorem WorkspacePoint.eq_refl {point : WorkspacePoint α}
    (h : point.finite = true) : WorkspacePoint.eq point point = true := by
  rw [WorkspacePoint.finite_iff] at h
  unfold WorkspacePoint.eq
  rw [List.all_eq_true]
  intro axis _
  exact LawfulScalar.eq_refl (h axis)

omit [DecodedScalar α] [LawfulScalar α] in
theorem listEq_refl {β : Type} {eq : β → β → Bool} {l : List β}
    (h : ∀ b ∈ l, eq b b = true) :
    WorkspaceEnvelope.listEq eq l l = true := by
  unfold WorkspaceEnvelope.listEq
  rw [Bool.and_eq_true, beq_iff_eq, List.all_eq_true]
  refine ⟨rfl, ?_⟩
  rintro ⟨a, b⟩ hmem
  obtain ⟨i, hi⟩ := List.mem_iff_getElem?.mp hmem
  rw [List.getElem?_zip_eq_some] at hi
  have hsame : a = b := Option.some_inj.mp (hi.1.symm.trans hi.2)
  subst hsame
  exact h a (List.mem_of_getElem? hi.1)

/-- A valid shape compares equal to itself. -/
theorem WorkspaceEnvelope.eq_refl {envelope : WorkspaceEnvelope α}
    (h : envelope.valid = true) : envelope.eq envelope = true := by
  cases envelope with
  | aabb box =>
      obtain ⟨hlower, hupper⟩ := box.finite_of_valid h
      unfold WorkspaceEnvelope.eq
      rw [Bool.and_eq_true]
      exact ⟨WorkspacePoint.eq_refl hlower, WorkspacePoint.eq_refl hupper⟩
  | obb box =>
      obtain ⟨hcenter, hwidths, hbasis⟩ := box.finite_of_valid h
      unfold WorkspaceEnvelope.eq
      simp only [Bool.and_eq_true, List.all_eq_true]
      exact ⟨⟨WorkspacePoint.eq_refl hcenter, fun index _ =>
        LawfulScalar.eq_refl (hbasis index)⟩, WorkspacePoint.eq_refl hwidths⟩
  | kdop slabs =>
      obtain ⟨-, -, -, hdirections, hprojections⟩ := slabs.facts_of_valid h
      have hvertices : ∀ vertex ∈ slabs.vertices,
          WorkspacePoint.finite vertex = true := by
        unfold WorkspaceEnvelope.valid WorkspaceKdop.valid at h
        simp only [Bool.and_eq_true] at h
        exact List.all_eq_true.mp h.2
      unfold WorkspaceEnvelope.eq
      simp only [Bool.and_eq_true]
      refine ⟨⟨listEq_refl ?_, listEq_refl ?_⟩, listEq_refl ?_⟩
      · exact fun d hd => WorkspacePoint.eq_refl (hdirections d hd)
      · intro axis haxis
        have hbounds := hprojections axis haxis
        unfold Interval.valid at hbounds
        unfold Interval.eq
        simp only [Bool.and_eq_true] at hbounds ⊢
        exact ⟨LawfulScalar.eq_refl hbounds.1.1,
          LawfulScalar.eq_refl hbounds.1.2⟩
      · exact fun v hv => WorkspacePoint.eq_refl (hvertices v hv)
  | supportHull hull =>
      obtain ⟨-, -, hradius, hpoints⟩ :=
        WorkspaceSupportHull.facts_of_valid h
      unfold WorkspaceEnvelope.eq
      rw [Bool.and_eq_true]
      exact ⟨listEq_refl fun p hp => WorkspacePoint.eq_refl (hpoints p hp),
        LawfulScalar.eq_refl hradius⟩

theorem sameBounds_refl {bounds : Option (WorkspaceEnvelope α)}
    (h : ∀ envelope ∈ bounds, envelope.valid = true) :
    sameBounds bounds bounds = true := by
  cases bounds with
  | none => rfl
  | some envelope => exact WorkspaceEnvelope.eq_refl (h envelope rfl)

-- === the changes

/-- The change `compare_scenes` records for an id, given the bounds the
two scenes have there. -/
def changeFor (id : Bytes) (before after : Option (WorkspaceEnvelope α)) :
    Option (SceneObstacleChange α) :=
  Lib.OrderedMap.changeAt
    (fun id bounds => ⟨.removed, id, some bounds, none⟩)
    (fun id bounds => ⟨.added, id, none, some bounds⟩)
    (fun id before after =>
      if before.eq after then none
      else some ⟨.modified, id, some before, some after⟩)
    id before after

omit [LawfulScalar α] in
theorem changeFor_eq_some {id : Bytes}
    {before after : Option (WorkspaceEnvelope α)}
    {change : SceneObstacleChange α}
    (h : changeFor id before after = some change) :
    change.obstacleId = id ∧ change.before = before ∧
      change.after = after ∧ sameBounds before after = false := by
  unfold changeFor Lib.OrderedMap.changeAt at h
  cases before with
  | none =>
      cases after with
      | none => cases h
      | some bounds =>
          cases h
          exact ⟨rfl, rfl, rfl, rfl⟩
  | some old =>
      cases after with
      | none =>
          cases h
          exact ⟨rfl, rfl, rfl, rfl⟩
      | some new =>
          by_cases heq : old.eq new = true
          · simp [heq] at h
          · simp only [heq] at h
            cases h
            exact ⟨rfl, rfl, rfl, Bool.eq_false_iff.mpr heq⟩

omit [LawfulScalar α] in
/-- Different bounds call for a change. -/
theorem exists_changeFor (id : Bytes)
    {before after : Option (WorkspaceEnvelope α)}
    (h : sameBounds before after = false) :
    ∃ change, changeFor id before after = some change := by
  unfold changeFor Lib.OrderedMap.changeAt
  cases before with
  | none =>
      cases after with
      | none => cases h
      | some bounds => exact ⟨_, rfl⟩
  | some old =>
      cases after with
      | none => exact ⟨_, rfl⟩
      | some new =>
          have heq : old.eq new = false := h
          simp [heq]

omit [LawfulScalar α] in
/-- A recorded change of valid bounds passes its check. -/
theorem changeValid_of_changeFor {id : Bytes}
    {before after : Option (WorkspaceEnvelope α)}
    {change : SceneObstacleChange α}
    (h : changeFor id before after = some change)
    (hbefore : ∀ bounds ∈ before, bounds.valid = true)
    (hafter : ∀ bounds ∈ after, bounds.valid = true) :
    SceneDelta.changeValid change = true := by
  unfold changeFor Lib.OrderedMap.changeAt at h
  unfold SceneDelta.changeValid
  cases before with
  | none =>
      cases after with
      | none => cases h
      | some bounds =>
          cases h
          simp [hafter]
  | some old =>
      cases after with
      | none =>
          cases h
          simp [hbefore]
      | some new =>
          by_cases heq : old.eq new = true
          · simp [heq] at h
          · simp only [heq] at h
            cases h
            simp [heq, hbefore, hafter]

/-- The changes `compare_scenes` records. -/
def SceneSnapshot.changesTo (before after : SceneSnapshot α) :
    List (SceneObstacleChange α) :=
  compareObstacles (Lib.OrderedMap.fromEntries before.entries)
    (Lib.OrderedMap.fromEntries after.entries)

namespace SceneSnapshot

variable {before after : SceneSnapshot α}

omit [LawfulScalar α] in
/-- A change is recorded exactly where the bounds call for one. -/
theorem mem_changesTo (hbefore : before.Sound) (hafter : after.Sound)
    {change : SceneObstacleChange α} :
    change ∈ before.changesTo after ↔
      ∃ id, changeFor id (before.boundsOf id) (after.boundsOf id)
        = some change := by
  unfold changesTo compareObstacles
  rw [Lib.OrderedMap.mem_diff (Lib.OrderedMap.sorted_fromEntries _)
    (Lib.OrderedMap.sorted_fromEntries _)]
  simp only [Lib.OrderedMap.find_fromEntries hbefore.distinct,
    Lib.OrderedMap.find_fromEntries hafter.distinct]
  rfl

omit [LawfulScalar α] in
theorem recorded_of_mem (hbefore : before.Sound) (hafter : after.Sound)
    {change : SceneObstacleChange α}
    (h : change ∈ before.changesTo after) :
    change.before = before.boundsOf change.obstacleId ∧
      change.after = after.boundsOf change.obstacleId ∧
      sameBounds change.before change.after = false := by
  obtain ⟨id, hchange⟩ := (mem_changesTo hbefore hafter).mp h
  obtain ⟨hid, hold, hnew, hdiffer⟩ := changeFor_eq_some hchange
  rw [hid, hold, hnew]
  exact ⟨rfl, rfl, hdiffer⟩

omit [LawfulScalar α] in
theorem pairwise_changesTo (before after : SceneSnapshot α) :
    (before.changesTo after).Pairwise fun a b =>
      a.obstacleId < b.obstacleId := by
  unfold changesTo compareObstacles
  apply Lib.OrderedMap.pairwise_diff SceneObstacleChange.obstacleId
  · intro key old new change hchange
    exact (changeFor_eq_some hchange).1
  · exact Lib.OrderedMap.sorted_fromEntries _
  · exact Lib.OrderedMap.sorted_fromEntries _

omit [LawfulScalar α] in
theorem Sound.valid_of_bounds (h : before.Sound) {id : Bytes} :
    ∀ bounds ∈ before.boundsOf id, bounds.valid = true := by
  intro bounds hbounds
  exact h.valid _ (Lib.OrderedMap.mem_of_find hbounds)

omit [LawfulScalar α] in
theorem Sound.created_of_bounds (h : before.Sound) {id : Bytes} :
    ∀ bounds ∈ before.boundsOf id, bounds.Created := by
  intro bounds hbounds
  exact h.created _ (Lib.OrderedMap.mem_of_find hbounds)

omit [LawfulScalar α] in
/-- An id without a change has the same bounds in both scenes. -/
theorem sameBounds_of_not_mem (hbefore : before.Sound)
    (hafter : after.Sound) {id : Bytes}
    (h : ∀ change ∈ before.changesTo after, change.obstacleId ≠ id) :
    sameBounds (before.boundsOf id) (after.boundsOf id) = true := by
  by_contra hdiffer
  rw [Bool.not_eq_true] at hdiffer
  obtain ⟨change, hchange⟩ := exists_changeFor id hdiffer
  have hmem := (mem_changesTo hbefore hafter).mpr ⟨id, hchange⟩
  exact h change hmem (changeFor_eq_some hchange).1

/-- The changes are a complete diff. -/
theorem completeDiff (hbefore : before.Sound) (hafter : after.Sound) :
    CompleteDiff before after (before.changesTo after) := by
  have hpair := pairwise_changesTo before after
  refine ⟨hpair, ?_, ?_, ?_⟩
  · intro change hchange
    obtain ⟨hold, hnew, -⟩ := recorded_of_mem hbefore hafter hchange
    exact ⟨hold, hnew⟩
  · intro change hchange
    exact (recorded_of_mem hbefore hafter hchange).2.2
  · intro id
    unfold SceneDelta.apply
    by_cases h : ∃ change ∈ before.changesTo after, change.obstacleId = id
    · obtain ⟨change, hchange, rfl⟩ := h
      have hdistinct : (before.changesTo after).Pairwise fun a b =>
          a.obstacleId ≠ b.obstacleId := by
        apply hpair.imp
        intro a b hlt heq
        rw [heq] at hlt
        exact List.lt_irrefl _ hlt
      rw [Lib.OrderedMap.foldl_update hdistinct hchange,
        (recorded_of_mem hbefore hafter hchange).2.1]
      exact sameBounds_refl hafter.valid_of_bounds
    · have hnone : ∀ change ∈ before.changesTo after,
          change.obstacleId ≠ id := by
        intro change hchange heq
        exact h ⟨change, hchange, heq⟩
      rw [Lib.OrderedMap.foldl_update_other hnone]
      exact sameBounds_of_not_mem hbefore hafter hnone

omit [LawfulScalar α] in
/-- Different bounds are bounds of an id of one of the scenes. -/
theorem mem_ids_of_differ {id : Bytes}
    (h : sameBounds (before.boundsOf id) (after.boundsOf id) = false) :
    id ∈ (before.entries ++ after.entries).map (·.1) := by
  have hmem : ∀ {scene : SceneSnapshot α} {bounds : WorkspaceEnvelope α},
      scene.boundsOf id = some bounds → (id, bounds) ∈ scene.entries :=
    fun hbounds => Lib.OrderedMap.mem_of_find hbounds
  rw [List.map_append, List.mem_append]
  cases hold : before.boundsOf id with
  | some bounds =>
      exact Or.inl (List.mem_map_of_mem (f := Prod.fst) (hmem hold))
  | none =>
      cases hnew : after.boundsOf id with
      | some bounds =>
          exact Or.inr (List.mem_map_of_mem (f := Prod.fst) (hmem hnew))
      | none =>
          rw [hold, hnew] at h
          cases h

omit [LawfulScalar α] in
/-- There is one change for each id at which the scenes differ. -/
theorem perm_differing (hbefore : before.Sound) (hafter : after.Sound) :
    ((before.changesTo after).map (·.obstacleId)).Perm
      (before.differing after) := by
  rw [List.perm_ext_iff_of_nodup]
  · intro id
    unfold differing
    rw [List.mem_filter, List.mem_dedup, List.mem_map, Bool.not_eq_true']
    constructor
    · rintro ⟨change, hchange, rfl⟩
      obtain ⟨hold, hnew, hdiffer⟩ :=
        recorded_of_mem hbefore hafter hchange
      rw [hold, hnew] at hdiffer
      exact ⟨mem_ids_of_differ hdiffer, hdiffer⟩
    · rintro ⟨-, hdiffer⟩
      obtain ⟨change, hchange⟩ := exists_changeFor id hdiffer
      exact ⟨change, (mem_changesTo hbefore hafter).mpr ⟨id, hchange⟩,
        (changeFor_eq_some hchange).1⟩
  · rw [List.nodup_iff_pairwise_ne, List.pairwise_map]
    apply (pairwise_changesTo before after).imp
    intro a b hlt heq
    rw [heq] at hlt
    exact List.lt_irrefl _ hlt
  · exact (List.nodup_dedup _).filter _

omit [LawfulScalar α] in
/-- The changes pass the check of a delta. -/
theorem validate_changesTo (hbefore : before.Sound)
    (hafter : after.Sound) :
    SceneDelta.validateChanges [] (before.changesTo after) = .ok () := by
  rw [validateChanges_iff]
  refine ⟨?_, pairwise_changesTo before after⟩
  intro change hchange
  obtain ⟨id, hfor⟩ := (mem_changesTo hbefore hafter).mp hchange
  obtain ⟨hid, hold, hnew, hdiffer⟩ := changeFor_eq_some hfor
  refine ⟨?_, changeValid_of_changeFor hfor hbefore.valid_of_bounds
    hafter.valid_of_bounds, fun h => absurd rfl h⟩
  rw [hid]
  have hmem := mem_ids_of_differ hdiffer
  rw [List.map_append, List.mem_append, List.mem_map, List.mem_map] at hmem
  rcases hmem with ⟨entry, hentry, rfl⟩ | ⟨entry, hentry, rfl⟩
  · exact hbefore.ids entry hentry
  · exact hafter.ids entry hentry

end SceneSnapshot

end Lawful

-- === the document

namespace SceneDelta

theorem stringField_eq {document : Json} (key : String) (value : Bytes)
    (h : find (ascii key) document = some (.string value)) :
    stringField document key = .ok value := by
  unfold stringField
  rw [h]

theorem decodeKind_name (kind : SceneChangeKind) :
    decodeKind kind.name = .ok kind := by
  cases kind <;> rfl

variable {delta : SceneDelta α}

/-- A delta without typed envelopes has boxes only. -/
theorem isAabb_of_untyped (h : delta.usesTypedEnvelopes = false)
    {change : SceneObstacleChange α} (hchange : change ∈ delta.changes) :
    (∀ bounds ∈ change.before, bounds.isAabb = true) ∧
      ∀ bounds ∈ change.after, bounds.isAabb = true := by
  unfold usesTypedEnvelopes at h
  rw [List.any_eq_false] at h
  have hboth := h change hchange
  rw [Bool.not_eq_true, Bool.or_eq_false_iff] at hboth
  constructor
  · intro bounds hbounds
    have hold := hboth.1
    rw [Option.mem_def.mp hbounds] at hold
    simpa using hold
  · intro bounds hbounds
    have hnew := hboth.2
    rw [Option.mem_def.mp hbounds] at hnew
    simpa using hnew

variable [LawfulScalar α] [LawfulDecoded α]

/-- Bounds are read back exactly if their class gives them back. -/
theorem optionalBox_json {typed : Bool}
    {bounds : Option (WorkspaceEnvelope α)}
    (hvalid : ∀ envelope ∈ bounds, envelope.valid = true)
    (hcreated : ∀ envelope ∈ bounds, envelope.Created)
    (htyped : typed = false → ∀ envelope ∈ bounds,
      envelope.isAabb = true) :
    optionalBox typed (optionalBoxJson typed bounds) = .ok bounds ↔
      ∀ envelope ∈ bounds, envelope.Rebuilt := by
  cases bounds with
  | none =>
      constructor
      · intro _ envelope henvelope
        cases henvelope
      · intro _
        rfl
  | some envelope =>
      have hself : envelope ∈ some envelope := rfl
      have hread := decodeWorkspaceEnvelope_json (hvalid envelope hself)
        (hcreated envelope hself) fun h => htyped h envelope hself
      have hbox : (optionalBox typed (optionalBoxJson typed (some envelope)) :
            Result (Option (WorkspaceEnvelope α)))
          = (decodeWorkspaceEnvelope (envelope.json typed) typed >>=
              fun envelope => .ok (some envelope)) := by
        unfold optionalBoxJson WorkspaceEnvelope.json
        cases envelope <;> rfl
      rw [hbox, bind_eq_ok]
      constructor
      · rintro ⟨found, hfound, heq⟩ other hother
        cases heq
        cases hother
        exact hread.mp hfound
      · intro h
        exact ⟨envelope, hread.mpr (h envelope hself), rfl⟩

/-- What a change needs of its bounds to be written. -/
structure Writable (typed : Bool) (change : SceneObstacleChange α) :
    Prop where
  valid : (∀ bounds ∈ change.before, bounds.valid = true) ∧
    ∀ bounds ∈ change.after, bounds.valid = true
  created : (∀ bounds ∈ change.before, bounds.Created) ∧
    ∀ bounds ∈ change.after, bounds.Created
  boxes : typed = false →
    (∀ bounds ∈ change.before, bounds.isAabb = true) ∧
      ∀ bounds ∈ change.after, bounds.isAabb = true

/-- The classes give both bounds of a change back. -/
def RebuiltChange (change : SceneObstacleChange α) : Prop :=
  (∀ bounds ∈ change.before, bounds.Rebuilt) ∧
    ∀ bounds ∈ change.after, bounds.Rebuilt

theorem decodeChange_json {typed : Bool}
    {change : SceneObstacleChange α} (h : Writable typed change) :
    decodeChange typed (changeJson typed change) = .ok change ↔
      RebuiltChange change := by
  have hbefore := optionalBox_json h.valid.1 h.created.1
    fun ht => (h.boxes ht).1
  have hafter := optionalBox_json h.valid.2 h.created.2
    fun ht => (h.boxes ht).2
  unfold changeJson decodeChange RebuiltChange
  dsimp only
  rw [stringField_eq "kind" change.kind.name
      (by rw [find_field]; rfl),
    stringField_eq "obstacle_id" change.obstacleId
      (by rw [find_field]; rfl), ok_bind, ok_bind, find_field, find_field]
  show (optionalBox typed (optionalBoxJson typed change.before) >>= fun _ =>
    optionalBox typed (optionalBoxJson typed change.after) >>= fun _ =>
      _ >>= fun _ => _) = _ ↔ _
  rw [bind_eq_ok, ← hbefore, ← hafter]
  constructor
  · rintro ⟨old, hold, hrest⟩
    obtain ⟨new, hnew, hrest⟩ := bind_eq_ok.mp hrest
    rw [decodeKind_name, ok_bind] at hrest
    have heq := Except.ok.inj hrest
    have hbefore' : old = change.before :=
      congrArg SceneObstacleChange.before heq
    have hafter' : new = change.after :=
      congrArg SceneObstacleChange.after heq
    rw [hbefore'] at hold
    rw [hafter'] at hnew
    exact ⟨hold, hnew⟩
  · rintro ⟨hold, hnew⟩
    refine ⟨change.before, hold, ?_⟩
    rw [bind_eq_ok]
    refine ⟨change.after, hnew, ?_⟩
    rw [decodeKind_name, ok_bind]

theorem decodeSchema_eq {document : Json} (typed : Bool)
    (h : find (ascii "schema") document
      = some (num (if typed then 2 else 1))) :
    decodeSchema document = some typed := by
  unfold decodeSchema
  rw [h]
  cases typed <;> decide

/-- The document of a delta, with its digest. -/
def documentFields (delta : SceneDelta α) : List (String × Json) :=
  delta.payloadFields ++ [("digest", .string delta.digest)]

omit [LawfulScalar α] [LawfulDecoded α] in
theorem encode_eq (delta : SceneDelta α) :
    delta.encode = .object (obj delta.documentFields) := by
  unfold encode documentFields
  rw [emplace_obj]

/-- A delta that passes its check is read back exactly if the reader
takes that many changes and the classes give every shape back. -/
theorem decode_encode {P : Platform} (hvalid : delta.validate P = .ok ())
    (hwritable : ∀ change ∈ delta.changes,
      Writable delta.usesTypedEnvelopes change) :
    decode P delta.encode = .ok delta ↔
      delta.changes.length ≤ kMaximumSceneChanges ∧
        ∀ change ∈ delta.changes, RebuiltChange change := by
  have hfind : ∀ key : String,
      find (ascii key) (.object (obj delta.documentFields))
        = delta.documentFields.lookup key :=
    find_field delta.documentFields
  rw [encode_eq]
  unfold decode
  dsimp only
  rw [stringField_eq "format" (ascii "rbfsafe-scene-delta")
      (by rw [hfind]; rfl), ok_bind,
    decodeSchema_eq delta.usesTypedEnvelopes
      (by rw [hfind]; rfl)]
  dsimp only
  rw [if_neg (by simp),
    stringField_eq "from_version" delta.fromVersion
      (by rw [hfind]; rfl), ok_bind,
    stringField_eq "to_version" delta.toVersion
      (by rw [hfind]; rfl), ok_bind,
    stringField_eq "from_digest" delta.fromDigest
      (by rw [hfind]; rfl), ok_bind,
    stringField_eq "to_digest" delta.toDigest
      (by rw [hfind]; rfl), ok_bind,
    stringField_eq "digest" delta.digest
      (by rw [hfind]; rfl), ok_bind, hfind]
  have hchanges : delta.documentFields.lookup "changes"
      = some (.array (delta.changes.map
          (changeJson delta.usesTypedEnvelopes))) := rfl
  rw [hchanges]
  dsimp only
  rw [ite_failure_eq_ok, Nat.not_lt, List.length_map, and_congr_right_iff]
  intro _
  have hturn : (delta.changes.map (changeJson delta.usesTypedEnvelopes)).mapM
        (decodeChange delta.usesTypedEnvelopes) = .ok delta.changes ↔
      ∀ change ∈ delta.changes, RebuiltChange change := by
    rw [mapM_eq_ok, List.forall₂_map_left_iff, List.forall₂_same]
    exact forall₂_congr fun change hchange =>
      decodeChange_json (hwritable change hchange)
  rw [← hturn, bind_eq_ok]
  constructor
  · rintro ⟨changes, hmap, hrest⟩
    obtain ⟨_, _, hrest⟩ := bind_eq_ok.mp hrest
    have heq : changes = delta.changes :=
      congrArg SceneDelta.changes (Except.ok.inj hrest)
    rwa [heq] at hmap
  · intro hmap
    refine ⟨delta.changes, hmap, ?_⟩
    rw [hvalid, ok_bind]

end SceneDelta

-- === the whole compare

/-- The delta of two scenes. -/
def SceneSnapshot.deltaTo (P : Platform) (before after : SceneSnapshot α) :
    SceneDelta α :=
  let delta : SceneDelta α :=
    { fromVersion := before.version
      toVersion := after.version
      fromDigest := before.digest P
      toDigest := after.digest P
      changes := before.changesTo after }
  { delta with digest := delta.identity P }

theorem compareScenes_eq {P : Platform} {before after : SceneSnapshot α}
    (hbefore : before.validate = .ok ()) (hafter : after.validate = .ok ()) :
    compareScenes P before after = .ok (before.deltaTo P after) := by
  unfold compareScenes
  rw [hbefore, ok_bind, hafter, ok_bind]
  rfl

theorem SceneSnapshot.validate_deltaTo {P : Platform}
    {before after : SceneSnapshot α} (hbefore : before.Sound)
    (hafter : after.Sound) (hdigest : before.digest P ≠ after.digest P) :
    (before.deltaTo P after).validate P = .ok () := by
  have hsha : ∀ content : Bytes, validSha256 (P.sha256 content) ≠ false := by
    intro content h
    rw [P.validSha256_sha256] at h
    cases h
  have hchanges : SceneDelta.validateChanges []
      (before.deltaTo P after).changes = .ok () :=
    validate_changesTo hbefore hafter
  have hidentity : (before.deltaTo P after).identity P
      = (before.deltaTo P after).digest := rfl
  unfold SceneDelta.validate
  rw [if_neg, hchanges, ok_bind, if_neg (not_not.mpr hidentity)]
  rintro (h | h | h | h | h | h)
  · exact hbefore.version h
  · exact hafter.version h
  · exact hsha _ h
  · exact hsha _ h
  · exact hdigest h
  · exact hsha _ h

/-- What is in a valid scene may be written. -/
theorem SceneSnapshot.writable_deltaTo {P : Platform}
    {before after : SceneSnapshot α} (hbefore : before.Sound)
    (hafter : after.Sound) :
    ∀ change ∈ (before.deltaTo P after).changes,
      SceneDelta.Writable (before.deltaTo P after).usesTypedEnvelopes
        change := by
  intro change hchange
  obtain ⟨hold, hnew, -⟩ := recorded_of_mem hbefore hafter hchange
  refine ⟨?_, ?_, fun htyped => SceneDelta.isAabb_of_untyped htyped hchange⟩
  · rw [hold, hnew]
    exact ⟨hbefore.valid_of_bounds, hafter.valid_of_bounds⟩
  · rw [hold, hnew]
    exact ⟨hbefore.created_of_bounds, hafter.created_of_bounds⟩

/-- At every id where the scenes differ, the classes give the bounds of
both back. -/
def SceneSnapshot.RebuiltTo (before after : SceneSnapshot α) : Prop :=
  ∀ id ∈ before.differing after,
    (∀ bounds ∈ before.boundsOf id, bounds.Rebuilt) ∧
      ∀ bounds ∈ after.boundsOf id, bounds.Rebuilt

theorem SceneSnapshot.rebuiltTo_iff {before after : SceneSnapshot α}
    (hbefore : before.Sound) (hafter : after.Sound) :
    before.RebuiltTo after ↔
      ∀ change ∈ before.changesTo after,
        SceneDelta.RebuiltChange change := by
  have hmem := fun id => (perm_differing hbefore hafter).mem_iff (a := id)
  constructor
  · intro h change hchange
    obtain ⟨hold, hnew, -⟩ := recorded_of_mem hbefore hafter hchange
    have hid := (hmem _).mp
      (List.mem_map_of_mem (f := SceneObstacleChange.obstacleId) hchange)
    unfold SceneDelta.RebuiltChange
    rw [hold, hnew]
    exact h _ hid
  · intro h id hid
    obtain ⟨change, hchange, rfl⟩ := List.mem_map.mp ((hmem id).mpr hid)
    obtain ⟨hold, hnew, -⟩ := recorded_of_mem hbefore hafter hchange
    rw [← hold, ← hnew]
    exact h change hchange

section Lawful

variable [LawfulScalar α] [LawfulDecoded α]

/-- The delta of two scenes is the complete diff and passes its check. It
is read back exactly if at most 10,000,000 ids differ and the classes
give the bounds there back. -/
theorem compareScenes_complete {P : Platform}
    {before after : SceneSnapshot α} (hbefore : before.validate = .ok ())
    (hafter : after.validate = .ok ())
    (hdigest : before.digest P ≠ after.digest P) :
    ∃ delta, compareScenes P before after = .ok delta ∧
      CompleteDiff before after delta.changes ∧
      delta.validate P = .ok () ∧
      (SceneDelta.decode P delta.encode = .ok delta ↔
        (before.differing after).length ≤ SceneDelta.kMaximumSceneChanges ∧
          before.RebuiltTo after) := by
  have hold := SceneSnapshot.validate_iff.mp hbefore
  have hnew := SceneSnapshot.validate_iff.mp hafter
  have hvalid := SceneSnapshot.validate_deltaTo hold hnew hdigest
  have hcount := (SceneSnapshot.perm_differing hold hnew).length_eq
  rw [List.length_map] at hcount
  refine ⟨before.deltaTo P after, compareScenes_eq hbefore hafter,
    SceneSnapshot.completeDiff hold hnew, hvalid, ?_⟩
  rw [SceneDelta.decode_encode hvalid
    (SceneSnapshot.writable_deltaTo hold hnew),
    SceneSnapshot.rebuiltTo_iff hold hnew, ← hcount]
  rfl

end Lawful

-- === scenes of unit boxes

/-- An obstacle that is the unit box, with its number as id. -/
def boxAt (i : Nat) : SceneObstacle Float where
  id := stdToString i
  bounds := .aabb { lower := fun _ => 0, upper := fun _ => 1 }
  made := fun _ => trivial

/-- A scene with a number of unit boxes. -/
def boxScene (n : Nat) (version : Bytes) : SceneSnapshot Float :=
  { obstacles := (List.range n).map boxAt, version }

theorem boxAt_valid (i : Nat) : (boxAt i).bounds.valid = true := by
  show (boxAt 0).bounds.valid = true
  decide

theorem boxAt_id_inj {i j : Nat} (h : (boxAt i).id = (boxAt j).id) :
    i = j :=
  stdToString_inj h

theorem boxScene_sound (n : Nat) {version : Bytes} (h : version ≠ []) :
    (boxScene n version).Sound := by
  have hentry : ∀ entry ∈ (boxScene n version).entries,
      ∃ i, entry = ((boxAt i).id, (boxAt i).bounds) := by
    intro entry hmem
    unfold SceneSnapshot.entries boxScene at hmem
    simp only [List.map_map, List.mem_map] at hmem
    obtain ⟨i, -, rfl⟩ := hmem
    exact ⟨i, rfl⟩
  refine ⟨h, ?_, ?_, ?_, ?_⟩
  · intro entry hmem
    obtain ⟨i, rfl⟩ := hentry entry hmem
    exact stdToString_ne_nil i
  · intro entry hmem
    obtain ⟨i, rfl⟩ := hentry entry hmem
    exact boxAt_valid i
  · intro entry hmem
    obtain ⟨i, rfl⟩ := hentry entry hmem
    trivial
  · unfold SceneSnapshot.entries boxScene
    rw [List.pairwise_map, List.pairwise_map]
    apply List.nodup_range.imp
    intro i j hne heq
    exact hne (boxAt_id_inj heq)

theorem boxScene_validate (n : Nat) {version : Bytes} (h : version ≠ []) :
    (boxScene n version).validate = .ok () :=
  SceneSnapshot.validate_iff.mpr (boxScene_sound n h)

/-- Every box is new to the empty scene. -/
theorem length_differing_boxScene (n : Nat) {old new : Bytes}
    (h : new ≠ []) :
    ((boxScene 0 old).differing (boxScene n new)).length = n := by
  have hempty : (boxScene 0 old).entries = [] := rfl
  have hdistinct := (boxScene_sound n h).distinct
  unfold SceneSnapshot.differing
  rw [hempty, List.nil_append, List.Nodup.dedup, List.filter_eq_self.mpr,
    List.length_map]
  · unfold SceneSnapshot.entries boxScene
    simp
  · intro id hid
    obtain ⟨entry, hentry, rfl⟩ := List.mem_map.mp hid
    have hnone : (boxScene 0 old).boundsOf entry.1 = none := rfl
    have hsome : (boxScene n new).boundsOf entry.1 = some entry.2 :=
      Lib.OrderedMap.find_of_mem hdistinct hentry
    rw [hnone, hsome]
    rfl
  · rw [List.nodup_iff_pairwise_ne, List.pairwise_map]
    exact hdistinct

theorem compareScenes_complete_boxScene :
    ∃ delta, compareScenes (host fun _ _ _ => true)
        (boxScene 0 (ascii "a")) (boxScene 1 (ascii "b")) = .ok delta ∧
      CompleteDiff (boxScene 0 (ascii "a")) (boxScene 1 (ascii "b"))
        delta.changes ∧
      delta.validate (host fun _ _ _ => true) = .ok () ∧
      (SceneDelta.decode (host fun _ _ _ => true) delta.encode = .ok delta ↔
        ((boxScene 0 (ascii "a")).differing
            (boxScene 1 (ascii "b"))).length
            ≤ SceneDelta.kMaximumSceneChanges ∧
          (boxScene 0 (ascii "a")).RebuiltTo (boxScene 1 (ascii "b"))) :=
  compareScenes_complete (boxScene_validate 0 (by decide))
    (boxScene_validate 1 (by decide)) (by decide +kernel)

/-- The empty scene and the one with a box more than the reader takes:
one of the versions has another digest. -/
theorem compareScenes_unread : ∃ old ∈ [ascii "a", ascii "b"],
    (boxScene 0 old).validate = .ok () ∧
      (boxScene 10000001 (ascii "c")).validate = .ok () ∧
      (boxScene 0 old).digest (host fun _ _ _ => true)
        ≠ (boxScene 10000001 (ascii "c")).digest
          (host fun _ _ _ => true) ∧
      ∃ delta, compareScenes (host fun _ _ _ => true) (boxScene 0 old)
          (boxScene 10000001 (ascii "c")) = .ok delta ∧
        SceneDelta.decode (host fun _ _ _ => true) delta.encode
          ≠ .ok delta := by
  have hold : ∃ old ∈ [ascii "a", ascii "b"],
      (boxScene 0 old).digest (host fun _ _ _ => true)
        ≠ (boxScene 10000001 (ascii "c")).digest
          (host fun _ _ _ => true) := by
    by_contra hall
    simp only [not_exists, not_and, not_not] at hall
    have hsame := (hall (ascii "a") (by simp)).trans
      (hall (ascii "b") (by simp)).symm
    revert hsame
    decide +kernel
  obtain ⟨old, hmem, hdigest⟩ := hold
  have hne : old ≠ [] := by
    rintro rfl
    revert hmem
    decide
  have hnew : ascii "c" ≠ [] := by decide
  have hfirst := boxScene_sound 0 hne
  have hsecond := boxScene_sound 10000001 hnew
  refine ⟨old, hmem, boxScene_validate 0 hne,
    boxScene_validate 10000001 hnew, hdigest, _,
    compareScenes_eq (boxScene_validate 0 hne)
      (boxScene_validate 10000001 hnew), ?_⟩
  intro hread
  have hvalid := SceneSnapshot.validate_deltaTo hfirst hsecond hdigest
  have hcount := ((SceneDelta.decode_encode hvalid
    (SceneSnapshot.writable_deltaTo hfirst hsecond)).mp hread).1
  have hlength := (SceneSnapshot.perm_differing hfirst hsecond).length_eq
  rw [List.length_map, length_differing_boxScene _ hnew] at hlength
  have hmost : ((boxScene 0 old).changesTo
      (boxScene 10000001 (ascii "c"))).length ≤ 10000000 := hcount
  omega

end RbfSafe
