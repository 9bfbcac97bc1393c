/-
A shape is read back from its document.

The coordinates of a valid shape are finite, so each is read as it was
written; the `create` of its class then makes the shape again. That of
an oriented box changes nothing; that of a hull sorts what is sorted
already; that of a k-DOP gives the k-DOP back where it has nothing left
to normalise.
-/
import RbfSafe.Core.Proofs.Decoded
import RbfSafe.Scene.Types

namespace RbfSafe

open Json

-- === lists

/-- A loop over a list returns what its turns return. -/
theorem mapM_eq_ok {β γ : Type} {f : β → Result γ} :
    ∀ {l : List β} {results : List γ},
      l.mapM f = .ok results ↔
        List.Forall₂ (fun b c => f b = .ok c) l results := by
  intro l
  induction l with
  | nil =>
      intro results
      rw [List.mapM_nil]
      constructor
      · intro h
        cases h
        exact .nil
      · intro h
        cases h
        rfl
  | cons b l ih =>
      intro results
      rw [List.mapM_cons, bind_eq_ok]
      constructor
      · rintro ⟨c, hc, h⟩
        rw [bind_eq_ok] at h
        obtain ⟨rest, hrest, h⟩ := h
        cases h
        exact .cons hc (ih.mp hrest)
      · intro h
        cases h with
        | @cons _ c _ rest hc hrest =>
            refine ⟨c, hc, ?_⟩
            rw [bind_eq_ok]
            exact ⟨rest, ih.mpr hrest, rfl⟩

/-- A loop that undoes a map gives the list back. -/
theorem mapM_map_ok {β γ : Type} {f : β → Result γ} {g : γ → β}
    {l : List γ} (h : ∀ c ∈ l, f (g c) = .ok c) :
    (l.map g).mapM f = .ok l := by
  rw [mapM_eq_ok, List.forall₂_map_left_iff, List.forall₂_same]
  exact h

variable {α : Type} [DecodedScalar α]

-- === points

theorem WorkspacePoint.finite_iff {point : WorkspacePoint α} :
    point.finite = true ↔ ∀ axis, Scalar.isFinite (point axis) = true := by
  unfold WorkspacePoint.finite
  simp

section Decoded

variable [LawfulDecoded α]

theorem decodeCoordinate_json (context : Bytes) {x : α}
    (h : Scalar.isFinite x = true) :
    decodeCoordinate context (MetricScalar.json x) = .ok x := by
  unfold decodeCoordinate
  rw [LawfulDecoded.number_json h]
  simp only [h, Bool.true_eq_false, if_false]

theorem decodePoint_json (context : Bytes) {point : WorkspacePoint α}
    (h : point.finite = true) : decodePoint context point.json = .ok point := by
  rw [WorkspacePoint.finite_iff] at h
  show decodePoint context (.array [MetricScalar.json (point 0),
    MetricScalar.json (point 1), MetricScalar.json (point 2)]) = .ok point
  unfold decodePoint
  dsimp only
  rw [decodeCoordinate_json context (h 0), ok_bind,
    decodeCoordinate_json context (h 1), ok_bind,
    decodeCoordinate_json context (h 2), ok_bind]
  congr 1
  funext axis
  fin_cases axis <;> rfl

theorem decodePoints_json {maximum : Nat} (context : Bytes)
    {points : List (WorkspacePoint α)} (hne : points ≠ [])
    (hmaximum : points.length ≤ maximum)
    (h : ∀ point ∈ points, WorkspacePoint.finite point = true) :
    decodePoints maximum context
      (some (.array (points.map WorkspacePoint.json))) = .ok points := by
  unfold decodePoints
  have hsize : ¬(points.map WorkspacePoint.json = []
      ∨ (points.map WorkspacePoint.json).length > maximum) := by
    rw [List.map_eq_nil_iff, List.length_map]
    exact not_or.mpr ⟨hne, by omega⟩
  dsimp only
  rw [if_neg hsize]
  exact mapM_map_ok fun point hpoint =>
    decodePoint_json context (h point hpoint)

/-- The fields of a document are found. -/
theorem find_field (fields : List (String × Json)) (key : String) :
    find (ascii key) (.object (obj fields)) = fields.lookup key :=
  find_obj_lookup key fields

-- === boxes

omit [LawfulDecoded α] in
theorem WorkspaceAabb.finite_of_valid {box : WorkspaceAabb α}
    (h : box.valid = true) : WorkspacePoint.finite box.lower = true
      ∧ WorkspacePoint.finite box.upper = true := by
  unfold WorkspaceAabb.valid at h
  rw [WorkspacePoint.finite_iff, WorkspacePoint.finite_iff]
  simp only [List.all_eq_true, List.mem_finRange, forall_const,
    Bool.and_eq_true] at h
  exact ⟨fun axis => (h axis).1.1, fun axis => (h axis).1.2⟩

theorem decodeAabb_fields {box : WorkspaceAabb α} (h : box.valid = true)
    {value : Json}
    (hlower : find (ascii "lower") value = some (WorkspacePoint.json box.lower))
    (hupper : find (ascii "upper") value = some (WorkspacePoint.json box.upper)) :
    decodeAabb value = .ok (.aabb box) := by
  obtain ⟨hflower, hfupper⟩ := box.finite_of_valid h
  have hvalid : (⟨box.lower, box.upper⟩ : WorkspaceAabb α).valid = true := h
  unfold decodeAabb
  rw [hlower, hupper]
  dsimp only
  rw [decodePoint_json _ hflower, ok_bind, decodePoint_json _ hfupper,
    ok_bind, hvalid]
  rfl

omit [LawfulDecoded α] in
theorem WorkspaceObb.finite_of_valid {box : WorkspaceObb α}
    (h : box.valid = true) : WorkspacePoint.finite box.center = true
      ∧ WorkspacePoint.finite box.halfWidths = true
      ∧ ∀ index, Scalar.isFinite (box.basis index) = true := by
  unfold WorkspaceObb.valid at h
  simp only [Bool.and_eq_true] at h
  obtain ⟨⟨⟨⟨⟨hcenter, hwidths⟩, -⟩, hbasis⟩, -⟩, -⟩ := h
  refine ⟨hcenter, hwidths, fun index => ?_⟩
  rw [List.all_eq_true] at hbasis
  exact hbasis index (List.mem_finRange index)

theorem decodeObb_fields {box : WorkspaceObb α} (h : box.valid = true)
    {value : Json}
    (hcenter : find (ascii "center") value
      = some (WorkspacePoint.json box.center))
    (hwidths : find (ascii "half_widths") value
      = some (WorkspacePoint.json box.halfWidths))
    (hbasis : find (ascii "basis") value
      = some (.array ((List.finRange 9).map fun index =>
        MetricScalar.json (box.basis index)))) :
    decodeObb value = .ok (.obb box) := by
  obtain ⟨hfcenter, hfwidths, hfbasis⟩ := box.finite_of_valid h
  have hentries : ((List.finRange 9).map fun index =>
      MetricScalar.json (box.basis index)).mapM decodeBasisEntry
        = .ok ((List.finRange 9).map box.basis) := by
    rw [mapM_eq_ok, List.forall₂_map_left_iff, List.forall₂_map_right_iff,
      List.forall₂_same]
    intro index _
    unfold decodeBasisEntry
    rw [LawfulDecoded.number_json (hfbasis index)]
    simp only [hfbasis index, Bool.true_eq_false, if_false]
  have hback : (fun index : Fin 9 =>
      ((List.finRange 9).map box.basis).getD index Scalar.zero)
        = box.basis := by
    funext index
    fin_cases index <;> rfl
  have hcreate : WorkspaceObb.create box.center box.basis box.halfWidths
      = .ok box := by
    unfold WorkspaceObb.create
    dsimp only
    rw [if_neg (by rw [h]; decide)]
  unfold decodeObb
  rw [hcenter, hwidths, hbasis]
  dsimp only
  rw [if_neg (by simp), decodePoint_json _ hfcenter, ok_bind,
    decodePoint_json _ hfwidths, ok_bind, hentries, ok_bind, hback, hcreate]
  rfl

-- === k-DOPs

/-- `create` has nothing left to normalise. -/
def WorkspaceKdop.Rebuilt (slabs : WorkspaceKdop α) : Prop :=
  WorkspaceKdop.create slabs.directions slabs.projections = .ok slabs

omit [LawfulDecoded α] in
theorem corrupt_eq_ok {β : Type} {result : Result β} {value : β} :
    corrupt result = .ok value ↔ result = .ok value := by
  unfold corrupt
  cases result with
  | ok b => rfl
  | error e =>
      constructor
      · intro h
        exact absurd h (failure_ne_ok _ _ _ _)
      · intro h
        cases h

omit [LawfulDecoded α] in
theorem WorkspaceKdop.facts_of_valid {slabs : WorkspaceKdop α}
    (h : slabs.valid = true) :
    3 ≤ slabs.directions.length ∧ slabs.directions.length ≤ 64 ∧
      slabs.projections.length = slabs.directions.length ∧
      (∀ direction ∈ slabs.directions,
        WorkspacePoint.finite direction = true) ∧
      ∀ projection ∈ slabs.projections, projection.valid = true := by
  unfold WorkspaceKdop.valid kMaximumKdopDirections at h
  simp only [Bool.and_eq_true, decide_eq_true_eq, beq_iff_eq,
    List.all_eq_true] at h
  obtain ⟨⟨⟨⟨⟨⟨hleast, hmost⟩, hcount⟩, -⟩, hdirections⟩, hprojections⟩, -⟩ := h
  exact ⟨hleast, hmost, hcount, fun d hd => (hdirections d hd).1, hprojections⟩

/-- A k-DOP is read back exactly where `create` gives it back. -/
theorem decodeKdop_fields {slabs : WorkspaceKdop α}
    (h : slabs.valid = true) {value : Json}
    (hdirections : find (ascii "directions") value
      = some (.array (slabs.directions.map WorkspacePoint.json)))
    (hprojections : find (ascii "projections") value
      = some (.array (slabs.projections.map fun projection =>
        .array [MetricScalar.json projection.lower,
          MetricScalar.json projection.upper]))) :
    decodeKdop value = .ok (.kdop slabs) ↔ slabs.Rebuilt := by
  obtain ⟨hleast, hmost, hcount, hfinite, hvalid⟩ := slabs.facts_of_valid h
  have hne : slabs.directions ≠ [] := by
    rw [← List.length_pos_iff]
    omega
  have hitems : (slabs.projections.map fun projection =>
      Json.array [MetricScalar.json projection.lower,
        MetricScalar.json projection.upper]).mapM decodeProjection
        = .ok slabs.projections := by
    apply mapM_map_ok
    intro projection hprojection
    have hbounds := hvalid projection hprojection
    unfold Interval.valid at hbounds
    simp only [Bool.and_eq_true] at hbounds
    unfold decodeProjection
    dsimp only
    rw [LawfulDecoded.number_json hbounds.1.1,
      LawfulDecoded.number_json hbounds.1.2]
  unfold decodeKdop
  rw [hdirections, hprojections,
    decodePoints_json _ hne hmost hfinite, ok_bind]
  dsimp only
  rw [if_neg (by simp [hcount]), hitems, ok_bind, bind_eq_ok]
  constructor
  · rintro ⟨other, hother, heq⟩
    rw [corrupt_eq_ok] at hother
    cases heq
    exact hother
  · intro hrebuilt
    exact ⟨slabs, corrupt_eq_ok.mpr hrebuilt, rfl⟩

end Decoded

-- === support hulls

section Lawful

variable [LawfulScalar α]

omit [DecodedScalar α] [LawfulScalar α] in
/-- One place of a lexicographic order, the later places in `p` and `q`. -/
theorem lex_trans [Scalar α] [LawfulScalar α] {x y z : α} {p q r : Prop}
    (hrest : p → q → r)
    (hxy : Scalar.le x y = true ∧ (Scalar.le y x = false ∨ p))
    (hyz : Scalar.le y z = true ∧ (Scalar.le z y = false ∨ q)) :
    Scalar.le x z = true ∧ (Scalar.le z x = false ∨ r) := by
  refine ⟨LawfulScalar.le_trans hxy.1 hyz.1, ?_⟩
  by_cases hzx : Scalar.le z x = true
  · have hyx := LawfulScalar.le_trans hyz.1 hzx
    have hzy := LawfulScalar.le_trans hzx hxy.1
    rw [hyx] at hxy
    rw [hzy] at hyz
    right
    apply hrest
    · simpa using hxy.2
    · simpa using hyz.2
  · left
    simpa using hzx

omit [DecodedScalar α] [LawfulScalar α] in
theorem lex_total [Scalar α] [LawfulScalar α] {x y : α} {p q : Prop}
    (hx : Scalar.isFinite x = true) (hy : Scalar.isFinite y = true)
    (hrest : p ∨ q) :
    (Scalar.le x y = true ∧ (Scalar.le y x = false ∨ p)) ∨
      (Scalar.le y x = true ∧ (Scalar.le x y = false ∨ q)) := by
  by_cases hxy : Scalar.le x y = true
  · by_cases hyx : Scalar.le y x = true
    · rcases hrest with hp | hq
      · exact Or.inl ⟨hxy, Or.inr hp⟩
      · exact Or.inr ⟨hyx, Or.inr hq⟩
    · exact Or.inl ⟨hxy, Or.inl (by simpa using hyx)⟩
  · rcases LawfulScalar.le_total hx hy with h | hyx
    · exact absurd h hxy
    · exact Or.inr ⟨hyx, Or.inl (by simpa using hxy)⟩

/-- A finite point is not after another: place by place. -/
theorem not_lt_iff {a b : WorkspacePoint α} (ha : a.finite = true)
    (hb : b.finite = true) :
    (!WorkspacePoint.lt b a) = true ↔
      Scalar.le (a 0) (b 0) = true ∧ (Scalar.le (b 0) (a 0) = false ∨
        (Scalar.le (a 1) (b 1) = true ∧ (Scalar.le (b 1) (a 1) = false ∨
          Scalar.le (a 2) (b 2) = true))) := by
  rw [WorkspacePoint.finite_iff] at ha hb
  have hlt : ∀ {x y : α}, Scalar.isFinite x = true →
      Scalar.isFinite y = true → Scalar.lt x y = !Scalar.le y x := by
    intro x y hx hy
    have h := LawfulScalar.lt_iff hx hy
    cases hle : Scalar.le y x
    · rw [hle] at h
      rw [h.mpr rfl]
      rfl
    · rw [hle] at h
      cases hcmp : Scalar.lt x y
      · rfl
      · cases h.mp hcmp
  unfold WorkspacePoint.lt
  rw [hlt (hb 0) (ha 0), hlt (ha 0) (hb 0), hlt (hb 1) (ha 1),
    hlt (ha 1) (hb 1), hlt (hb 2) (ha 2)]
  simp

theorem pairwise_sorted {points : List (WorkspacePoint α)}
    (h : ∀ point ∈ points, WorkspacePoint.finite point = true) :
    (points.mergeSort fun a b => !WorkspacePoint.lt b a).Pairwise
      fun a b => (!WorkspacePoint.lt b a) = true := by
  apply Lib.Sorting.pairwise_mergeSort_of h
  · intro a b c ha hb hc hab hbc
    rw [not_lt_iff ha hb] at hab
    rw [not_lt_iff hb hc] at hbc
    rw [not_lt_iff ha hc]
    exact lex_trans (lex_trans LawfulScalar.le_trans) hab hbc
  · intro a b ha hb
    rw [not_lt_iff ha hb, not_lt_iff hb ha]
    rw [WorkspacePoint.finite_iff] at ha hb
    exact lex_total (ha 0) (hb 0) (lex_total (ha 1) (hb 1)
      (LawfulScalar.le_total (ha 2) (hb 2)))

/-- Sorting again changes nothing. -/
theorem sortPoints_idem {points : List (WorkspacePoint α)}
    (h : ∀ point ∈ points, WorkspacePoint.finite point = true) :
    WorkspaceSupportHull.sortPoints (WorkspaceSupportHull.sortPoints points)
      = WorkspaceSupportHull.sortPoints points := by
  unfold WorkspaceSupportHull.sortPoints
  have hsorted := (pairwise_sorted h).sublist (List.destutter_sublist
    (fun a b => WorkspacePoint.eq a b = false) _)
  rw [List.mergeSort_of_pairwise hsorted]
  exact List.destutter_of_isChain _ _ (List.isChain_destutter _ _)

theorem WorkspaceSupportHull.facts_of_valid {hull : WorkspaceSupportHull α}
    (h : hull.valid = true) :
    hull.points ≠ [] ∧ hull.points.length ≤ 100000 ∧
      Scalar.isFinite hull.radius = true ∧
      ∀ point ∈ hull.points, WorkspacePoint.finite point = true := by
  unfold WorkspaceSupportHull.valid kMaximumSupportPoints at h
  simp only [Bool.and_eq_true, decide_eq_true_eq, List.all_eq_true,
    Bool.not_eq_true', List.isEmpty_eq_false_iff] at h
  obtain ⟨⟨⟨⟨hne, hmost⟩, hradius⟩, -⟩, hpoints⟩ := h
  exact ⟨hne, hmost, hradius, hpoints⟩

/-- A hull that was created is created again from its points. -/
theorem WorkspaceSupportHull.created_again {hull : WorkspaceSupportHull α}
    (h : hull.valid = true) {points : List (WorkspacePoint α)} {radius : α}
    (hcreate : WorkspaceSupportHull.create points radius = .ok hull) :
    WorkspaceSupportHull.create hull.points hull.radius = .ok hull := by
  unfold WorkspaceSupportHull.create at hcreate ⊢
  dsimp only at hcreate ⊢
  rw [ite_failure_eq_ok, Except.ok.injEq] at hcreate
  obtain ⟨hvalid, rfl⟩ := hcreate
  rw [Bool.not_eq_false] at hvalid
  obtain ⟨-, -, -, hfinite⟩ := WorkspaceSupportHull.facts_of_valid hvalid
  rw [if_neg (by simpa using h), sortPoints_idem hfinite]

variable [LawfulDecoded α]

theorem decodeSupportHull_fields {hull : WorkspaceSupportHull α}
    (h : hull.valid = true)
    (hcreated : (WorkspaceEnvelope.supportHull hull).Created) {value : Json}
    (hpoints : find (ascii "points") value
      = some (.array (hull.points.map WorkspacePoint.json)))
    (hradius : find (ascii "radius") value
      = some (MetricScalar.json hull.radius)) :
    decodeSupportHull value = .ok (.supportHull hull) := by
  obtain ⟨hne, hmost, hfradius, hfinite⟩ :=
    WorkspaceSupportHull.facts_of_valid h
  obtain ⟨points, radius, hcreate⟩ := hcreated
  have hagain := WorkspaceSupportHull.created_again h hcreate
  unfold decodeSupportHull
  rw [hpoints, hradius, decodePoints_json _ hne hmost hfinite, ok_bind,
    Option.bind_some, LawfulDecoded.number_json hfradius]
  dsimp only
  rw [hfradius, if_neg (by decide), hagain]
  rfl

-- === envelopes

/-- What `create` leaves as it is: every shape but a k-DOP with something
to normalise. -/
def WorkspaceEnvelope.Rebuilt : WorkspaceEnvelope α → Prop
  | kdop slabs => slabs.Rebuilt
  | _ => True

/-- A shape is read back from its document exactly where its class gives
it back. -/
theorem decodeWorkspaceEnvelope_json {envelope : WorkspaceEnvelope α}
    (h : envelope.valid = true) (hcreated : envelope.Created) {typed : Bool}
    (htyped : typed = false → envelope.isAabb = true) :
    decodeWorkspaceEnvelope (envelope.json typed) typed = .ok envelope ↔
      envelope.Rebuilt := by
  cases typed with
  | false =>
      have haabb := htyped rfl
      cases envelope with
      | aabb box =>
          constructor
          · intro _
            trivial
          · intro _
            unfold WorkspaceEnvelope.json decodeWorkspaceEnvelope
            dsimp only
            rw [if_pos rfl]
            apply decodeAabb_fields h
            · rw [find_field]
              rfl
            · rw [find_field]
              rfl
      | obb box => cases haabb
      | kdop slabs => cases haabb
      | supportHull hull => cases haabb
  | true =>
      have htype : find (ascii "type") (envelope.json true)
          = some (.string envelope.typeName) := by
        unfold WorkspaceEnvelope.json
        rw [find_field]
        rfl
      unfold decodeWorkspaceEnvelope
      cases envelope with
      | aabb box =>
          constructor
          · intro _
            trivial
          · intro _
            unfold WorkspaceEnvelope.json at htype ⊢
            dsimp only
            rw [if_neg (by decide), htype]
            dsimp only [WorkspaceEnvelope.typeName]
            rw [if_pos rfl]
            apply decodeAabb_fields h
            · rw [find_field]
              rfl
            · rw [find_field]
              rfl
      | obb box =>
          constructor
          · intro _
            trivial
          · intro _
            unfold WorkspaceEnvelope.json at htype ⊢
            dsimp only
            rw [if_neg (by decide), htype]
            dsimp only [WorkspaceEnvelope.typeName]
            rw [if_neg (by decide), if_pos rfl]
            apply decodeObb_fields h
            · rw [find_field]
              rfl
            · rw [find_field]
              rfl
            · rw [find_field]
              rfl
      | kdop slabs =>
          unfold WorkspaceEnvelope.json at htype ⊢
          dsimp only
          rw [if_neg (by decide), htype]
          dsimp only [WorkspaceEnvelope.typeName]
          rw [if_neg (by decide), if_neg (by decide), if_pos rfl]
          apply decodeKdop_fields h
          · rw [find_field]
            rfl
          · rw [find_field]
            rfl
      | supportHull hull =>
          constructor
          · intro _
            trivial
          · intro _
            unfold WorkspaceEnvelope.json at htype ⊢
            dsimp only
            rw [if_neg (by decide), htype]
            dsimp only [WorkspaceEnvelope.typeName]
            rw [if_neg (by decide), if_neg (by decide), if_neg (by decide),
              if_pos rfl]
            apply decodeSupportHull_fields h hcreated
            · rw [find_field]
              rfl
            · rw [find_field]
              rfl

end Lawful

end RbfSafe
