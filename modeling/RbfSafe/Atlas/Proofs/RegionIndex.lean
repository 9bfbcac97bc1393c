/-
The query index and the scan agree.

`build_node` leaves a permutation of its range, and its tree is one whose
boxes enclose the regions below them (`buildNode_bounded`); so the
library of search trees applies. A point within the tolerance of a region
is within the tolerance of every box around it, and no region is nearer
than a box around it: over exact arithmetic nothing is left out.
-/
import RbfSafe.Atlas.Query
import RbfSafe.Core.Exact
import RbfSafe.Lib.SearchTree

namespace RbfSafe.Atlas

open Lib Lib.SearchTree RegionQueryIndex

variable {K : Type} [Field K] [LinearOrder K] [IsStrictOrderedRing K]
  [Scalar K] [ExactScalar K]

-- === boxes around

/-- A box that encloses another, axis by axis. -/
def Encloses (outer inner : CspaceAabb K) : Prop :=
  List.Forall₂ (fun a b => a.lower ≤ b.lower ∧ b.upper ≤ a.upper)
    outer.axes inner.axes

omit [IsStrictOrderedRing K] in
/-- An axis of an enclosing box is around every axis it is made of. -/
theorem enclosingAxis_bounds {axes : List (Interval K)}
    {axis : Interval K} (h : axis ∈ axes) :
    (enclosingAxis axes).lower ≤ axis.lower ∧
      axis.upper ≤ (enclosingAxis axes).upper := by
  cases axes with
  | nil => cases h
  | cons first rest =>
      unfold enclosingAxis
      suffices hall : ∀ (rest : List (Interval K)) (start : Interval K),
          ∀ axis ∈ start :: rest,
            (rest.foldl (fun enclosing axis : Interval K =>
              { lower := Scalar.min enclosing.lower axis.lower
                upper := Scalar.max enclosing.upper axis.upper })
              start).lower ≤ axis.lower ∧
            axis.upper ≤ (rest.foldl (fun enclosing axis : Interval K =>
              { lower := Scalar.min enclosing.lower axis.lower
                upper := Scalar.max enclosing.upper axis.upper })
              start).upper from hall rest first axis h
      intro rest
      induction rest with
      | nil =>
          intro start axis haxis
          rw [List.mem_singleton.mp haxis]
          exact ⟨le_rfl, le_rfl⟩
      | cons next rest ih =>
          intro start axis haxis
          rw [List.foldl_cons]
          have hjoined := ih
            { lower := Scalar.min start.lower next.lower
              upper := Scalar.max start.upper next.upper } _
            List.mem_cons_self
          simp only [ExactScalar.min_eq, ExactScalar.max_eq] at hjoined ih ⊢
          rcases List.mem_cons.mp haxis with rfl | haxis
          · exact ⟨hjoined.1.trans (min_le_left _ _),
              (le_max_left _ _).trans hjoined.2⟩
          · rcases List.mem_cons.mp haxis with rfl | haxis
            · exact ⟨hjoined.1.trans (min_le_right _ _),
                (le_max_right _ _).trans hjoined.2⟩
            · exact ih _ axis (List.mem_cons_of_mem _ haxis)

omit [IsStrictOrderedRing K] in
/-- The enclosing box of a range encloses the regions of the range. -/
theorem encloses_enclosingBox {regions : List (SafeRegion K)}
    {dimension : Nat} {range : List Nat} {index : Nat}
    (hdimension : (boundsAt regions index).dimension = dimension)
    (h : index ∈ range) :
    Encloses (enclosingBox regions range dimension)
      (boundsAt regions index) := by
  unfold Encloses enclosingBox
  unfold CspaceAabb.dimension at hdimension
  rw [List.forall₂_map_left_iff, List.forall₂_iff_get]
  refine ⟨by rw [List.length_range, hdimension], ?_⟩
  intro axis haxis haxis'
  have hget : (List.range dimension).get ⟨axis, haxis⟩ = axis := by
    rw [List.get_eq_getElem, List.getElem_range]
  rw [hget]
  apply enclosingAxis_bounds
  unfold axesOf
  rw [List.mem_filterMap]
  exact ⟨index, h, List.getElem?_eq_getElem haxis'⟩

/-- A point within the tolerance of a box is within the tolerance of a
box around it. -/
theorem contains_of_encloses {outer inner : CspaceAabb K}
    (h : Encloses outer inner) {point : List K} {tolerance : K}
    (hcontains : inner.contains point tolerance = true) :
    outer.contains point tolerance = true := by
  unfold CspaceAabb.contains at hcontains ⊢
  rw [Bool.and_eq_true, beq_iff_eq] at hcontains ⊢
  have hlength := h.length_eq
  refine ⟨hcontains.1.trans hlength.symm, ?_⟩
  have hall := hcontains.2
  clear hcontains hlength
  unfold Encloses at h
  generalize outer.axes = outers at h ⊢
  generalize inner.axes = inners at h hall
  induction h generalizing point with
  | nil => rfl
  | @cons a b outers inners hab hrest ih =>
      cases point with
      | nil => rfl
      | cons x point =>
          rw [List.zip_cons_cons, List.all_cons, Bool.and_eq_true] at hall ⊢
          refine ⟨?_, ih hall.2⟩
          have hhere := hall.1
          unfold Interval.contains at hhere ⊢
          simp only [Bool.and_eq_true, ExactScalar.le_iff,
            ExactScalar.sub_eq, ExactScalar.add_eq] at hhere ⊢
          constructor <;> linarith [hhere.1, hhere.2, hab.1, hab.2]

/-- The part of the distance that lies along an axis. -/
def axisGap (axis : Interval K) (x : K) : K :=
  if Scalar.lt x axis.lower then Scalar.sub axis.lower x
  else if Scalar.lt axis.upper x then Scalar.sub x axis.upper
  else Scalar.zero

theorem axisGap_eq {axis : Interval K} {x : K}
    (h : axis.lower ≤ axis.upper) :
    axisGap axis x = max 0 (max (axis.lower - x) (x - axis.upper)) := by
  unfold axisGap
  rw [ExactScalar.sub_eq, ExactScalar.sub_eq, ExactScalar.zero_eq]
  simp only [ExactScalar.lt_iff]
  by_cases hbelow : x < axis.lower
  · rw [if_pos hbelow, max_eq_left (a := axis.lower - x) (by linarith),
      max_eq_right (by linarith)]
  · rw [if_neg hbelow]
    by_cases habove : axis.upper < x
    · rw [if_pos habove, max_eq_right (a := axis.lower - x) (by linarith),
        max_eq_right (by linarith)]
    · rw [if_neg habove, max_eq_left]
      exact max_le (by linarith) (by linarith)

/-- A box around another is not farther away. -/
theorem distance_of_encloses {outer inner : CspaceAabb K}
    (h : Encloses outer inner)
    (hinner : ∀ axis ∈ inner.axes, axis.lower ≤ axis.upper)
    (point : List K) :
    pointBoxDistanceSquared point outer
      ≤ pointBoxDistanceSquared point inner := by
  unfold pointBoxDistanceSquared
  unfold Encloses at h
  generalize outer.axes = outers at h ⊢
  generalize inner.axes = inners at h hinner ⊢
  suffices hall : ∀ (squared squared' : K), squared ≤ squared' →
      (outers.zip point).foldl (fun squared p => Scalar.add squared
        (Scalar.mul (axisGap p.1 p.2) (axisGap p.1 p.2))) squared
      ≤ (inners.zip point).foldl (fun squared p => Scalar.add squared
        (Scalar.mul (axisGap p.1 p.2) (axisGap p.1 p.2))) squared'
    from hall _ _ le_rfl
  induction h generalizing point with
  | nil => exact fun _ _ hle => hle
  | @cons a b outers inners hab hrest ih =>
      intro squared squared' hle
      cases point with
      | nil => exact hle
      | cons x point =>
          rw [List.zip_cons_cons, List.zip_cons_cons, List.foldl_cons,
            List.foldl_cons]
          apply ih point fun axis haxis =>
            hinner axis (List.mem_cons_of_mem _ haxis)
          have hb := hinner b List.mem_cons_self
          have hgap : axisGap a x ≤ axisGap b x := by
            rw [axisGap_eq hb, axisGap_eq (hab.1.trans (hb.trans hab.2))]
            apply max_le_max le_rfl
            exact max_le_max (by linarith [hab.1]) (by linarith [hab.2])
          have hpos : 0 ≤ axisGap a x := by
            rw [axisGap_eq (hab.1.trans (hb.trans hab.2))]
            exact le_max_left _ _
          simp only [ExactScalar.add_eq, ExactScalar.mul_eq]
          exact add_le_add hle (mul_self_le_mul_self hpos hgap)

-- === the tree

namespace RegionQueryIndex

/-- A node as a search tree, given `indices_`. -/
def Node.toTree {α : Type} (indices : List Nat) :
    Node α → Tree (CspaceAabb α) Nat
  | leaf bounds first last => .leaf bounds (slice indices first last)
  | branch bounds left right =>
      .branch bounds (left.toTree indices) (right.toTree indices)

@[simp] theorem Node.bounds_toTree {α : Type} (indices : List Nat)
    (node : Node α) : (node.toTree indices).bounds = node.bounds := by
  cases node <;> rfl

theorem slice_middle {before range after : List Nat} {first : Nat}
    (h : before.length = first) :
    slice (before ++ range ++ after) first (first + range.length)
      = range := by
  unfold slice
  rw [List.append_assoc, ← h, List.drop_left, Nat.add_sub_cancel_left,
    List.take_left]

variable {regions : List (SafeRegion K)} {dimension : Nat}
  {rootWidths : List K}

omit [LinearOrder K] [IsStrictOrderedRing K] [ExactScalar K] [Field K] in
theorem sortRange_perm (range : List Nat) :
    (sortRange regions rootWidths range).Perm range :=
  List.mergeSort_perm _ _

omit [LinearOrder K] [IsStrictOrderedRing K] [ExactScalar K] [Field K] in
/-- A call permutes its range. -/
theorem buildNode_perm (first : Nat) (range : List Nat) :
    (buildNode regions dimension rootWidths first range).2.Perm range := by
  fun_induction buildNode regions dimension rootWidths first range with
  | case1 first range bounds hleaf => exact List.Perm.refl _
  | case2 first range bounds hleaf sorted middle left right ihl ihr =>
      have hsorted : sorted.Perm range := sortRange_perm range
      have hhalves := ihl.append ihr
      rw [List.take_append_drop] at hhalves
      exact hhalves.trans hsorted

omit [IsStrictOrderedRing K] in
/-- The tree of a call has the range at its leaves, and boxes that
enclose what is below them. -/
theorem buildNode_bounded (rootWidths : List K) (first : Nat)
    (range : List Nat) (hdimension : ∀ index ∈ range,
      (boundsAt regions index).dimension = dimension)
    (before after : List Nat) (hbefore : before.length = first) :
    let built := buildNode regions dimension rootWidths first range
    let tree := built.1.toTree (before ++ built.2 ++ after)
    tree.items = built.2 ∧ tree.Bounded fun bounds index =>
      Encloses bounds (boundsAt regions index) := by
  have hroot : ∀ {range : List Nat}, (∀ index ∈ range,
      (boundsAt regions index).dimension = dimension) →
      ∀ index ∈ range, Encloses (enclosingBox regions range dimension)
        (boundsAt regions index) := fun h index hindex =>
    encloses_enclosingBox (h index hindex) hindex
  fun_induction buildNode regions dimension rootWidths first range
    generalizing before after with
  | case1 first range bounds hleaf =>
      dsimp only [Node.toTree, Tree.items, Tree.Bounded]
      rw [slice_middle hbefore]
      exact ⟨rfl, hroot hdimension⟩
  | case2 first range bounds hleaf sorted middle left right =>
      rename_i ihl ihr
      have hsorted : sorted.Perm range := sortRange_perm range
      have hleft : left.2.Perm (sorted.take middle) :=
        buildNode_perm first (sorted.take middle)
      have hright : right.2.Perm (sorted.drop middle) :=
        buildNode_perm (first + middle) (sorted.drop middle)
      have hmem : ∀ index ∈ left.2 ++ right.2, index ∈ range := by
        intro index hindex
        rw [← hsorted.mem_iff, ← List.take_append_drop middle sorted]
        exact ((hleft.append hright).mem_iff).mp hindex
      have hcount : left.2.length = middle := by
        rw [hleft.length_eq, List.length_take, hsorted.length_eq]
        exact min_eq_left (Nat.div_le_self _ _)
      obtain ⟨hitems, hbounded⟩ := ihl (fun index hindex =>
        hdimension index (hsorted.mem_iff.mp
          (List.mem_of_mem_take hindex))) before (right.2 ++ after) hbefore
      obtain ⟨hitems', hbounded'⟩ := ihr (fun index hindex =>
        hdimension index (hsorted.mem_iff.mp
          (List.mem_of_mem_drop hindex))) (before ++ left.2) after
        (by rw [List.length_append, hbefore, hcount])
      have hleftIndices : before ++ left.2 ++ (right.2 ++ after)
          = before ++ (left.2 ++ right.2) ++ after := by
        simp only [List.append_assoc]
      have hrightIndices : before ++ left.2 ++ right.2 ++ after
          = before ++ (left.2 ++ right.2) ++ after := by
        simp only [List.append_assoc]
      rw [hleftIndices] at hitems hbounded
      rw [hrightIndices] at hitems' hbounded'
      dsimp only [Node.toTree, Tree.items, Tree.Bounded]
      rw [hitems, hitems']
      refine ⟨rfl, ?_, hbounded, hbounded'⟩
      intro index hindex
      exact hroot hdimension index (hmem index hindex)

omit [IsStrictOrderedRing K] [LinearOrder K] [ExactScalar K] [Field K] in
/-- The recursion of the source collects from the tree. -/
theorem collect_toTree (indices : List Nat) (configuration : List K)
    (node : Node K) :
    collect regions indices configuration node
      = (node.toTree indices).collect
        (fun bounds => bounds.contains configuration Scalar.tolerance)
        (fun index => (boundsAt regions index).contains configuration
          Scalar.tolerance) := by
  induction node with
  | leaf bounds first last => rfl
  | branch bounds left right ihl ihr =>
      rw [collect, Node.toTree, Tree.collect, ihl, ihr]

omit [IsStrictOrderedRing K] in
/-- The comparison of the source picks the better candidate. -/
theorem improve_eq (configuration : List K) (best : Nat × K)
    (candidate : Nat) :
    improve regions configuration best candidate
      = better (fun index => pointBoxDistanceSquared configuration
          (boundsAt regions index))
        (fun index => (idAt regions index).toNat) best candidate := by
  unfold improve better
  simp only [Bool.or_eq_true, Bool.and_eq_true, ExactScalar.lt_iff,
    ExactScalar.eq_iff, decide_eq_true_eq, UInt64.lt_iff_toNat_lt]

omit [IsStrictOrderedRing K] in
/-- The recursion of the source searches the tree. -/
theorem searchNearest_toTree (indices : List Nat)
    (configuration : List K) (node : Node K) (best : Nat × K) :
    searchNearest regions indices configuration node best
      = (node.toTree indices).search
        (pointBoxDistanceSquared configuration)
        (fun index => pointBoxDistanceSquared configuration
          (boundsAt regions index))
        (fun index => (idAt regions index).toNat) best := by
  have himprove : improve regions configuration
      = better (fun index => pointBoxDistanceSquared configuration
          (boundsAt regions index))
        (fun index => (idAt regions index).toNat) := by
    funext best candidate
    exact improve_eq configuration best candidate
  induction node generalizing best with
  | leaf bounds first last =>
      rw [searchNearest, Node.toTree, Tree.search, himprove]
      simp only [ExactScalar.lt_iff]
  | branch bounds left right ihl ihr =>
      rw [searchNearest, Node.toTree, Tree.search, ihl, ihr, ihl, ihr]
      simp only [ExactScalar.lt_iff, ExactScalar.le_iff,
        Node.bounds_toTree]

/-- The regions of a list: boxes of one dimension, told apart by ids. -/
structure Indexed (regions : List (SafeRegion K)) (dimension : Nat) :
    Prop where
  boxes : ∀ region ∈ regions, region.bounds.valid = true ∧
    region.bounds.dimension = dimension
  ids : (regions.map (·.id)).Nodup

omit [IsStrictOrderedRing K] [LinearOrder K] [ExactScalar K] [Field K]
  [Scalar K] in
theorem boundsAt_eq {index : Nat} (h : index < regions.length) :
    boundsAt regions index = regions[index].bounds := by
  unfold boundsAt
  rw [List.getElem?_eq_getElem h]
  rfl

omit [IsStrictOrderedRing K] [LinearOrder K] [ExactScalar K] [Field K] in
theorem Indexed.boundsAt (h : Indexed regions dimension) {index : Nat}
    (hindex : index ∈ List.range regions.length) :
    (boundsAt regions index).valid = true ∧
      (boundsAt regions index).dimension = dimension := by
  rw [List.mem_range] at hindex
  rw [boundsAt_eq hindex]
  exact h.boxes _ (List.getElem_mem hindex)

omit [IsStrictOrderedRing K] [LinearOrder K] [ExactScalar K] [Field K] in
theorem Indexed.injOn (h : Indexed regions dimension) :
    Set.InjOn (fun index => (idAt regions index).toNat)
      {index | index ∈ List.range regions.length} := by
  intro i hi j hj heq
  rw [Set.mem_ofPred_eq, List.mem_range] at hi hj
  have hids : regions[i].id = regions[j].id := by
    apply UInt64.toNat_inj.mp
    unfold idAt at heq
    simpa [List.getElem?_eq_getElem hi, List.getElem?_eq_getElem hj]
      using heq
  have hi' : i < (regions.map (·.id)).length := by simpa using hi
  have hj' : j < (regions.map (·.id)).length := by simpa using hj
  have hequal : (regions.map (·.id))[i] = (regions.map (·.id))[j] := by
    simpa using hids
  exact (List.Nodup.getElem_inj_iff h.ids).mp hequal

omit [IsStrictOrderedRing K] [ExactScalar K] [Field K] [LinearOrder K] in
theorem Indexed.dimension_ne_zero (h : Indexed regions dimension)
    (hregions : regions ≠ []) : dimension ≠ 0 := by
  obtain ⟨region, hregion⟩ := List.exists_mem_of_ne_nil _ hregions
  obtain ⟨hvalid, hdimension⟩ := h.boxes region hregion
  have hne := (CspaceAabb.valid_iff.mp hvalid).1
  rw [← hdimension]
  exact Nat.pos_iff_ne_zero.mp (List.length_pos_iff.mpr hne)

omit [IsStrictOrderedRing K] in
/-- What `build` makes of some regions. -/
theorem Indexed.build (h : Indexed regions dimension)
    (hregions : regions ≠ []) :
    ∃ root, (build regions dimension).root = some root ∧
      (build regions dimension).indices.Perm
        (List.range regions.length) ∧
      (root.toTree (build regions dimension).indices).items
        = (build regions dimension).indices ∧
      (root.toTree (build regions dimension).indices).Bounded
        fun bounds index => Encloses bounds (RegionQueryIndex.boundsAt
          regions index) := by
  have hbuild : ¬ (regions.isEmpty = true ∨ dimension = 0) := by
    rw [List.isEmpty_iff]
    rintro (hnil | hzero)
    · exact hregions hnil
    · exact h.dimension_ne_zero hregions hzero
  unfold RegionQueryIndex.build
  rw [if_neg hbuild]
  have hbounded := buildNode_bounded
    ((enclosingBox regions (List.range regions.length)
      dimension).axes.map Interval.width) 0 (List.range regions.length)
    (fun index hindex => (h.boundsAt hindex).2) [] [] rfl
  dsimp only at hbounded
  rw [List.nil_append, List.append_nil] at hbounded
  exact ⟨_, rfl, buildNode_perm 0 _, hbounded⟩

omit [IsStrictOrderedRing K] [ExactScalar K] [Field K] [LinearOrder K] in
theorem build_nil (dimension : Nat) :
    build ([] : List (SafeRegion K)) dimension
      = { dimension, indices := [] } := by
  unfold RegionQueryIndex.build
  simp

omit [IsStrictOrderedRing K] in
/-- `indices_` stays a permutation. -/
theorem Indexed.perm (h : Indexed regions dimension) :
    (RegionQueryIndex.build regions dimension).indices.Perm
      (List.range regions.length) := by
  by_cases hregions : regions = []
  · rw [hregions, build_nil]
    exact List.Perm.refl _
  · obtain ⟨-, -, hperm, -⟩ := h.build hregions
    exact hperm

/-- The regions the index finds are those that contain the point. -/
theorem Indexed.containing (h : Indexed regions dimension)
    (configuration : List K) :
    (RegionQueryIndex.build regions dimension).containing configuration
        regions
      = (List.range regions.length).filter fun index =>
        (RegionQueryIndex.boundsAt regions index).contains configuration
          Scalar.tolerance := by
  by_cases hregions : regions = []
  · rw [hregions, build_nil]
    exact Sorting.sort_eq_self _ List.Pairwise.nil
  · obtain ⟨root, hroot, hperm, hitems, hbounded⟩ := h.build hregions
    unfold RegionQueryIndex.containing
    rw [hroot, Option.elim_some, collect_toTree, Tree.collect_eq, hitems]
    · have hfilter := hperm.filter fun index =>
        (RegionQueryIndex.boundsAt regions index).contains configuration
          Scalar.tolerance
      rw [Sorting.sort_congr (fun found : Nat => found) hfilter
        (Set.injOn_id _)]
      apply Sorting.sort_eq_self
      apply List.Pairwise.filter
      exact List.pairwise_le_range
    · apply hbounded.mono
      intro bounds index _ hencloses hcontains
      exact contains_of_encloses hencloses hcontains

/-- The distance of a region. -/
abbrev distanceOf (regions : List (SafeRegion K))
    (configuration : List K) (index : Nat) : K :=
  pointBoxDistanceSquared configuration
    (RegionQueryIndex.boundsAt regions index)

omit [IsStrictOrderedRing K] in
/-- The scan selects the nearest region. -/
theorem scanNearest_nearest (hregions : regions ≠ [])
    (configuration : List K) :
    Nearest (distanceOf regions configuration)
      (fun index => (idAt regions index).toNat)
      {index | index ∈ List.range regions.length}
      (SafeAtlas.scanNearest regions configuration) := by
  have hpos : 0 < regions.length := List.length_pos_iff.mpr hregions
  have himprove : improve regions configuration
      = better (distanceOf regions configuration)
        (fun index => (idAt regions index).toNat) := by
    funext best candidate
    exact improve_eq configuration best candidate
  have hfound := (Found.start (distanceOf regions configuration)
    (fun index => (idAt regions index).toNat) 0).foldl
    (List.range' 1 (regions.length - 1))
  have hset : ({0} : Set Nat)
        ∪ {index | index ∈ List.range' 1 (regions.length - 1)}
      = {index | index ∈ List.range regions.length} := by
    ext index
    simp only [Set.mem_union, Set.mem_singleton_iff, Set.mem_ofPred_eq,
      List.mem_range'_1, List.mem_range]
    omega
  rw [hset] at hfound
  unfold SafeAtlas.scanNearest
  rw [himprove]
  exact hfound.nearest

/-- The index selects the nearest region. -/
theorem Indexed.nearest (h : Indexed regions dimension)
    (hregions : regions ≠ []) (configuration : List K) :
    ∃ selected,
      (RegionQueryIndex.build regions dimension).nearest configuration
        regions = some selected ∧
      Nearest (distanceOf regions configuration)
        (fun index => (idAt regions index).toNat)
        {index | index ∈ List.range regions.length} selected := by
  obtain ⟨root, hroot, hperm, hitems, hbounded⟩ := h.build hregions
  unfold RegionQueryIndex.nearest
  rw [hroot]
  cases hindices : (RegionQueryIndex.build regions dimension).indices with
  | nil =>
      rw [hindices, List.nil_perm, List.range_eq_nil] at hperm
      exact absurd (List.length_eq_zero_iff.mp hperm) hregions
  | cons front rest =>
      rw [hindices] at hperm hitems hbounded
      refine ⟨_, rfl, ?_⟩
      rw [searchNearest_toTree]
      have hfound : Found (distanceOf regions configuration)
          (fun index => (idAt regions index).toNat)
          ({front} ∪ {index | index ∈ (root.toTree (front :: rest)).items})
          ((root.toTree (front :: rest)).search
            (pointBoxDistanceSquared configuration)
            (distanceOf regions configuration)
            (fun index => (idAt regions index).toNat)
            (front, distanceOf regions configuration front)) :=
        Tree.search_nearest (hbounded.mono fun bounds index hindex hencloses => by
          rw [hitems, hperm.mem_iff] at hindex
          apply distance_of_encloses hencloses
          intro axis haxis
          have hvalid := (CspaceAabb.valid_iff.mp
            (h.boundsAt hindex).1).2 axis haxis
          exact (ExactScalar.le_iff _ _).mp hvalid.2.2)
        (Found.start _ _ front)
      have hset : ({front} : Set Nat)
            ∪ {index | index ∈ (root.toTree (front :: rest)).items}
          = {index | index ∈ List.range regions.length} := by
        ext index
        rw [hitems]
        simp only [Set.mem_union, Set.mem_singleton_iff,
          Set.mem_ofPred_eq]
        rw [← hperm.mem_iff, List.mem_cons]
        tauto
      rw [hset] at hfound
      exact hfound.nearest

end RegionQueryIndex

-- === index and scan

omit [Field K] [LinearOrder K] [IsStrictOrderedRing K] [Scalar K]
  [ExactScalar K] in
/-- The entries of a list whose subscripts pass. -/
theorem filterMap_filter_range {β : Type} (p : β → Bool) (l : List β) :
    ((List.range l.length).filter fun index =>
        (l[index]?).any p).filterMap (fun index => l[index]?)
      = l.filter p := by
  induction l with
  | nil => rfl
  | cons b l ih =>
      rw [List.length_cons, List.range_succ_eq_map, List.filter_cons,
        List.filter_map]
      have hrest : (((List.range l.length).filter
            ((fun index => ((b :: l)[index]?).any p) ∘ Nat.succ)).map
              Nat.succ).filterMap (fun index => (b :: l)[index]?)
          = l.filter p := by
        rw [List.filterMap_map]
        exact ih
      cases hb : p b with
      | true =>
          rw [if_pos (by simpa using hb), List.filterMap_cons,
            List.getElem?_cons_zero, hrest, List.filter_cons_of_pos hb]
      | false =>
          rw [if_neg (by simpa using hb), hrest,
            List.filter_cons_of_neg (by simp [hb])]

/-- Over exact arithmetic the query index of some regions agrees with the
scan of them. -/
theorem regionIndex_agrees {regions : List (SafeRegion K)}
    {dimension : Nat} (h : Indexed regions dimension)
    (configuration : List K) :
    (RegionQueryIndex.build regions dimension).indices.Perm
      (List.range regions.length) ∧
    (RegionQueryIndex.build regions dimension).containing configuration
        regions
      = ((List.range regions.length).filter fun index =>
        (boundsAt regions index).contains configuration
          Scalar.tolerance) ∧
    (regions = [] →
      (RegionQueryIndex.build regions dimension).nearest configuration
        regions = none) ∧
    (regions ≠ [] →
      (RegionQueryIndex.build regions dimension).nearest configuration
          regions
        = some (SafeAtlas.scanNearest regions configuration) ∧
      Nearest (distanceOf regions configuration)
        (fun index => (idAt regions index).toNat)
        {index | index < regions.length}
        (SafeAtlas.scanNearest regions configuration)) ∧
    ∀ atlas : SafeAtlas K, atlas.regions = regions →
      atlas.dimension = dimension →
      atlas.regionsAt (some atlas.queryIndex) configuration
        = atlas.regionsAt none configuration ∧
      atlas.nearestRegion (some atlas.queryIndex) configuration
        = atlas.nearestRegion none configuration := by
  have hnearest : regions ≠ [] →
      (RegionQueryIndex.build regions dimension).nearest configuration
          regions
        = some (SafeAtlas.scanNearest regions configuration) := by
    intro hregions
    obtain ⟨selected, hselected, hleast⟩ :=
      h.nearest hregions configuration
    rw [hselected, hleast.unique
      (scanNearest_nearest hregions configuration) h.injOn]
  refine ⟨h.perm, h.containing configuration, ?_, ?_, ?_⟩
  · rintro rfl
    rw [build_nil]
    rfl
  · intro hregions
    refine ⟨hnearest hregions, ?_⟩
    have hscan := scanNearest_nearest hregions configuration
    simpa only [List.mem_range] using hscan
  · rintro atlas rfl rfl
    constructor
    · unfold SafeAtlas.regionsAt SafeAtlas.queryIndex
      dsimp only
      rw [h.containing configuration]
      have hany : ∀ index ∈ List.range atlas.regions.length,
          (boundsAt atlas.regions index).contains configuration
              Scalar.tolerance
            = (atlas.regions[index]?).any fun region =>
              region.bounds.contains configuration Scalar.tolerance := by
        intro index hindex
        rw [List.mem_range] at hindex
        rw [boundsAt_eq hindex, List.getElem?_eq_getElem hindex]
        rfl
      rw [List.filter_congr hany, filterMap_filter_range]
    · unfold SafeAtlas.nearestRegion SafeAtlas.queryIndex
      by_cases hregions : atlas.regions = []
      · simp [hregions]
      · dsimp only
        rw [hnearest hregions]
        rfl

/-- Two intervals that touch. -/
def touchingRegions : List (SafeRegion ℚ) :=
  [{ id := 2, bounds := ⟨[⟨0, 1⟩]⟩, certificateIndex := 0, component := 1
     sourceNode := .root },
    { id := 1, bounds := ⟨[⟨1, 2⟩]⟩, certificateIndex := 1, component := 1
      sourceNode := .root }]

theorem touchingRegions_indexed : Indexed touchingRegions 1 := by
  constructor
  · unfold touchingRegions
    simp only [List.forall_mem_cons, CspaceAabb.valid_iff,
      ExactScalar.isFinite_eq, ExactScalar.le_iff, CspaceAabb.dimension]
    norm_num
  · decide

theorem regionIndex_agrees_touching :
    (RegionQueryIndex.build touchingRegions 1).indices.Perm (List.range 2) ∧
    (RegionQueryIndex.build touchingRegions 1).containing [1] touchingRegions
      = ((List.range 2).filter fun index =>
        (boundsAt touchingRegions index).contains [1] Scalar.tolerance) ∧
    (touchingRegions = [] →
      (RegionQueryIndex.build touchingRegions 1).nearest [1] touchingRegions
        = none) ∧
    (touchingRegions ≠ [] →
      (RegionQueryIndex.build touchingRegions 1).nearest [1] touchingRegions
        = some (SafeAtlas.scanNearest touchingRegions [1]) ∧
      Nearest (distanceOf touchingRegions [1])
        (fun index => (idAt touchingRegions index).toNat)
        {index | index < 2} (SafeAtlas.scanNearest touchingRegions [1])) ∧
    ∀ atlas : SafeAtlas ℚ, atlas.regions = touchingRegions →
      atlas.dimension = 1 →
      atlas.regionsAt (some atlas.queryIndex) [1]
        = atlas.regionsAt none [1] ∧
      atlas.nearestRegion (some atlas.queryIndex) [1]
        = atlas.nearestRegion none [1] :=
  regionIndex_agrees touchingRegions_indexed [1]

end RbfSafe.Atlas
