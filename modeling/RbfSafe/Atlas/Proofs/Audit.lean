/-
The audit of a trajectory is exact.

# Clipping

Over an ordered field, what `intersect_segment` returns for a box is the
set of fractions in [0, 1] at which the segment is in the box
(`mem_intersectSegment`): an axis along which the segment does not move
decides by itself, any other axis cuts out an interval, whose ends are
swapped where the segment moves backwards.

# Merging

Sorted by their start, the intervals are merged into separated ones with
the same points (`Lib.Spans`), and what the cursor leaves between them
is what they do not cover (`mem_uncoveredFrom`). The flags of the ends
say that a covered interval is closed.
-/
import RbfSafe.Atlas.Audit
import RbfSafe.Core.Exact
import RbfSafe.Lib.Spans

namespace RbfSafe.Atlas

open Lib

-- === clipping

section Clipping

variable {K : Type} [Field K] [LinearOrder K] [IsStrictOrderedRing K]
  [Scalar K] [ExactScalar K]

/-- The configuration at a fraction of a segment. -/
def interpolate (first second : List K) (t : K) : List K :=
  List.zipWith (fun a b => a + t * (b - a)) first second

/-- On an axis, the segment is in the slab at a fraction. -/
def InSlab (t : K) (p : Interval K × K × K) : Prop :=
  p.1.lower ≤ p.2.1 + t * (p.2.2 - p.2.1) ∧
    p.2.1 + t * (p.2.2 - p.2.1) ≤ p.1.upper

/-- The fractions an answer of the clipping stands for. -/
def clipped : Option (K × K) → Set K
  | none => ∅
  | some ends => Set.Icc ends.1 ends.2

omit [Scalar K] [ExactScalar K] in
/-- An axis along which the segment moves cuts out an interval. -/
theorem inSlab_iff {slab : Interval K} {first second t : K}
    (hslab : slab.lower ≤ slab.upper) (hdelta : second - first ≠ 0) :
    InSlab t (slab, first, second) ↔
      min ((slab.lower - first) / (second - first))
          ((slab.upper - first) / (second - first)) ≤ t ∧
        t ≤ max ((slab.lower - first) / (second - first))
          ((slab.upper - first) / (second - first)) := by
  unfold InSlab
  dsimp only
  have hends : slab.lower - first ≤ slab.upper - first :=
    sub_le_sub_right hslab first
  rcases lt_or_gt_of_ne hdelta with hneg | hpos
  · rw [min_eq_right (div_le_div_of_nonpos_of_le hneg.le hends),
      max_eq_left (div_le_div_of_nonpos_of_le hneg.le hends),
      div_le_iff_of_neg hneg, le_div_iff_of_neg hneg]
    constructor
    · rintro ⟨hlower, hupper⟩
      constructor <;> linarith
    · rintro ⟨hupper, hlower⟩
      constructor <;> linarith
  · rw [min_eq_left ((div_le_div_iff_of_pos_right hpos).mpr hends),
      max_eq_right ((div_le_div_iff_of_pos_right hpos).mpr hends),
      div_le_iff₀ hpos, le_div_iff₀ hpos]
    constructor
    · rintro ⟨hlower, hupper⟩
      constructor <;> linarith
    · rintro ⟨hlower, hupper⟩
      constructor <;> linarith

omit [IsStrictOrderedRing K] in
/-- An axis along which the segment does not move decides by itself. -/
theorem inSlab_still (slab : Interval K) {first second : K}
    (hdelta : second - first = 0) (t : K) :
    InSlab t (slab, first, second) ↔
      slab.contains first Scalar.zero = true := by
  unfold InSlab Interval.contains
  dsimp only
  rw [hdelta, mul_zero, add_zero, Bool.and_eq_true, ExactScalar.le_iff,
    ExactScalar.le_iff, ExactScalar.sub_eq, ExactScalar.add_eq,
    ExactScalar.zero_eq, sub_zero, add_zero]

/-- The clipping keeps the fractions that are in every slab. -/
theorem clipped_intersectAxes : ∀ {slabs : List (Interval K × K × K)}
    (entry exit : K), (∀ p ∈ slabs, p.1.lower ≤ p.1.upper) →
    clipped (intersectAxes slabs entry exit)
      = {t | (entry ≤ t ∧ t ≤ exit) ∧ ∀ p ∈ slabs, InSlab t p} := by
  intro slabs
  induction slabs with
  | nil =>
      intro entry exit _
      ext t
      simp [intersectAxes, clipped]
  | cons p rest ih =>
      intro entry exit hslabs
      obtain ⟨slab, first, second⟩ := p
      have hslab := hslabs _ List.mem_cons_self
      have hrest : ∀ p ∈ rest, p.1.lower ≤ p.1.upper := fun p hp =>
        hslabs p (List.mem_cons_of_mem _ hp)
      rw [intersectAxes]
      simp only [ExactScalar.sub_eq, ExactScalar.div_eq,
        ExactScalar.zero_eq, ExactScalar.eq_iff]
      by_cases hdelta : second - first = 0
      · rw [if_pos hdelta]
        by_cases hcontains : slab.contains first (0 : K) = true
        · rw [if_pos hcontains, ih _ _ hrest]
          ext t
          have hhere := (inSlab_still slab hdelta t).mpr
            (by rw [ExactScalar.zero_eq]; exact hcontains)
          simp [hhere]
        · rw [if_neg hcontains]
          ext t
          have hhere : ¬ InSlab t (slab, first, second) := by
            rw [inSlab_still _ hdelta, ExactScalar.zero_eq]
            exact hcontains
          simp [clipped, hhere]
      · rw [if_neg hdelta]
        generalize hl : (slab.lower - first) / (second - first) = lower
        generalize hu : (slab.upper - first) / (second - first) = upper
        have hcut : ∀ t, InSlab t (slab, first, second) ↔
            min lower upper ≤ t ∧ t ≤ max lower upper := by
          intro t
          rw [inSlab_iff hslab hdelta, hl, hu]
        have hbounds : (if Scalar.lt upper lower = true
            then (upper, lower) else (lower, upper))
            = (min lower upper, max lower upper) := by
          by_cases hlt : upper < lower
          · rw [if_pos ((ExactScalar.lt_iff _ _).mpr hlt),
              min_eq_right hlt.le, max_eq_left hlt.le]
          · rw [if_neg (mt (ExactScalar.lt_iff _ _).mp hlt),
              min_eq_left (not_lt.mp hlt), max_eq_right (not_lt.mp hlt)]
        rw [hbounds]
        simp only [ExactScalar.max_eq, ExactScalar.min_eq,
          ExactScalar.lt_iff]
        by_cases hempty : min exit (max lower upper)
            < max entry (min lower upper)
        · rw [if_pos hempty]
          ext t
          simp only [clipped, Set.mem_empty_iff_false, Set.mem_ofPred_eq,
            List.forall_mem_cons, hcut, false_iff]
          rintro ⟨⟨hentry, hexit⟩, ⟨hlower, hupper⟩, -⟩
          have hbelow := le_min hexit hupper
          have habove := max_le hentry hlower
          exact absurd (habove.trans hbelow) (not_le.mpr hempty)
        · rw [if_neg hempty, ih _ _ hrest]
          ext t
          simp only [Set.mem_ofPred_eq, List.forall_mem_cons, hcut,
            max_le_iff, le_min_iff]
          tauto

omit [IsStrictOrderedRing K] in
/-- What the clipping returns is not empty, and within its bounds. -/
theorem intersectAxes_bounds : ∀ {slabs : List (Interval K × K × K)}
    {entry exit : K} {ends : K × K},
    intersectAxes slabs entry exit = some ends → entry ≤ exit →
    entry ≤ ends.1 ∧ ends.1 ≤ ends.2 ∧ ends.2 ≤ exit := by
  intro slabs
  induction slabs with
  | nil =>
      intro entry exit ends h hle
      cases h
      exact ⟨le_rfl, hle, le_rfl⟩
  | cons p rest ih =>
      intro entry exit ends h hle
      obtain ⟨slab, first, second⟩ := p
      rw [intersectAxes] at h
      dsimp only at h
      by_cases hdelta : Scalar.eq (Scalar.sub second first) Scalar.zero = true
      · rw [if_pos hdelta] at h
        by_cases hcontains : slab.contains first Scalar.zero = true
        · rw [if_pos hcontains] at h
          exact ih h hle
        · rw [if_neg hcontains] at h
          cases h
      · rw [if_neg hdelta] at h
        generalize Scalar.div (Scalar.sub slab.lower first)
          (Scalar.sub second first) = lower at h
        generalize Scalar.div (Scalar.sub slab.upper first)
          (Scalar.sub second first) = upper at h
        generalize (if Scalar.lt upper lower = true then (upper, lower)
          else (lower, upper)) = bounds at h
        rw [ExactScalar.max_eq, ExactScalar.min_eq] at h
        by_cases hempty : Scalar.lt (min exit bounds.2)
            (max entry bounds.1) = true
        · rw [if_pos hempty] at h
          cases h
        · rw [if_neg hempty] at h
          rw [ExactScalar.lt_iff, not_lt] at hempty
          obtain ⟨hentry, hordered, hexit⟩ := ih h hempty
          exact ⟨(le_max_left _ _).trans hentry, hordered,
            hexit.trans (min_le_left _ _)⟩

omit [IsStrictOrderedRing K] in
theorem clamp_of_mem {value lower upper : K} (hlower : lower ≤ value)
    (hupper : value ≤ upper) : Scalar.clamp value lower upper = value := by
  unfold Scalar.clamp
  rw [if_neg (mt (ExactScalar.lt_iff _ _).mp (not_lt.mpr hlower)),
    if_neg (mt (ExactScalar.lt_iff _ _).mp (not_lt.mpr hupper))]

omit [IsStrictOrderedRing K] in
/-- A box of the dimension of the segment has a configuration of it
exactly if every axis has. -/
theorem holds_interpolate {box : CspaceAabb K} {first second : List K}
    (hfirst : first.length = box.dimension)
    (hsecond : second.length = box.dimension) {t : K} :
    box.Holds (interpolate first second t) ↔
      ∀ p ∈ box.axes.zip (first.zip second), InSlab t p := by
  unfold CspaceAabb.Holds InSlab interpolate
  unfold CspaceAabb.dimension at hfirst hsecond
  have hlength : (List.zipWith (fun a b => a + t * (b - a)) first
      second).length = box.axes.length := by
    rw [List.length_zipWith, hfirst, hsecond, min_self]
  constructor
  · rintro ⟨-, hall⟩ ⟨slab, a, b⟩ hp
    obtain ⟨i, hi⟩ := List.mem_iff_getElem?.mp hp
    rw [List.getElem?_zip_eq_some, List.getElem?_zip_eq_some] at hi
    obtain ⟨hslab, ha, hb⟩ := hi
    have hvalue : (List.zipWith (fun a b => a + t * (b - a)) first
        second)[i]? = some (a + t * (b - a)) := by
      rw [List.getElem?_zipWith, ha, hb]
    have hin := hall i slab _ hslab hvalue
    rwa [ExactScalar.le_iff, ExactScalar.le_iff] at hin
  · intro hall
    refine ⟨hlength, ?_⟩
    intro i slab value hslab hvalue
    rw [List.getElem?_zipWith] at hvalue
    cases ha : first[i]? with
    | none =>
        rw [ha] at hvalue
        cases hvalue
    | some a =>
        cases hb : second[i]? with
        | none =>
            rw [ha, hb] at hvalue
            cases hvalue
        | some b =>
            rw [ha, hb] at hvalue
            cases hvalue
            have hmem : (slab, a, b) ∈ box.axes.zip (first.zip second) := by
              apply List.mem_iff_getElem?.mpr
              refine ⟨i, ?_⟩
              rw [List.getElem?_zip_eq_some, List.getElem?_zip_eq_some]
              exact ⟨hslab, ha, hb⟩
            rw [ExactScalar.le_iff, ExactScalar.le_iff]
            exact hall _ hmem

/-- What a segment has in a box is a closed interval in [0, 1], or
nothing. -/
theorem intersectSegment_cases {box : CspaceAabb K}
    {first second : List K} (hvalid : box.valid = true)
    (hfirst : first.length = box.dimension)
    (hsecond : second.length = box.dimension) :
    (intersectSegment first second box = none ∧
      ∀ t, 0 ≤ t → t ≤ 1 → ¬ box.Holds (interpolate first second t)) ∨
    ∃ overlap : CoveredInterval K,
      intersectSegment first second box = some overlap ∧
        0 ≤ overlap.start ∧ overlap.start ≤ overlap.finish ∧
        overlap.finish ≤ 1 ∧ ∀ t, (0 ≤ t ∧ t ≤ 1) ∧
            box.Holds (interpolate first second t) ↔
          overlap.start ≤ t ∧ t ≤ overlap.finish := by
  have hslabs : ∀ p ∈ box.axes.zip (first.zip second),
      p.1.lower ≤ p.1.upper := by
    intro p hp
    have haxis := (CspaceAabb.valid_iff.mp hvalid).2 p.1
      (List.of_mem_zip (show (p.1, p.2) ∈ _ from hp)).1
    exact (ExactScalar.le_iff _ _).mp haxis.2.2
  have hclipped := clipped_intersectAxes (0 : K) 1 hslabs
  have hmem : ∀ t, t ∈ clipped (intersectAxes
      (box.axes.zip (first.zip second)) (0 : K) 1) ↔
        (0 ≤ t ∧ t ≤ 1) ∧ box.Holds (interpolate first second t) := by
    intro t
    rw [hclipped, holds_interpolate hfirst hsecond]
    rfl
  unfold intersectSegment
  rw [ExactScalar.zero_eq, ExactScalar.one_eq]
  cases haxes : intersectAxes (box.axes.zip (first.zip second)) (0 : K) 1 with
  | none =>
      refine Or.inl ⟨rfl, ?_⟩
      intro t hlower hupper hholds
      have hnone := (hmem t).mpr ⟨⟨hlower, hupper⟩, hholds⟩
      rw [haxes] at hnone
      exact hnone
  | some ends =>
      obtain ⟨entry, exit⟩ := ends
      obtain ⟨hentry, hordered, hexit⟩ :=
        intersectAxes_bounds haxes zero_le_one
      refine Or.inr ⟨{ start := entry, finish := exit }, ?_, hentry,
        hordered, hexit, ?_⟩
      · dsimp only
        rw [if_neg, clamp_of_mem hentry (hordered.trans hexit),
          clamp_of_mem (hentry.trans hordered) hexit]
        rw [Bool.or_eq_true, ExactScalar.lt_iff, ExactScalar.lt_iff,
          not_or, not_lt, not_lt]
        exact ⟨hentry.trans hordered, hordered.trans hexit⟩
      · intro t
        rw [← hmem t, haxes]
        rfl

end Clipping

-- === merging

section Merging

variable {K : Type} [Field K] [LinearOrder K] [Scalar K] [ExactScalar K]

/-- The interval of a region, without the region. -/
def RegionInterval.span (interval : RegionInterval K) : K × K :=
  (interval.start, interval.finish)

/-- The ends of a covered interval. -/
def CoveredInterval.span (interval : CoveredInterval K) : K × K :=
  (interval.start, interval.finish)

/-- What the comparator compares. -/
def RegionInterval.key (interval : RegionInterval K) :
    Sorting.Tie K (Sorting.Tie Kᵒᵈ Nat) :=
  ⟨interval.start,
    ⟨OrderDual.toDual interval.finish, interval.regionId.toNat⟩⟩

theorem RegionInterval.lt_eq (left right : RegionInterval K) :
    left.lt right = decide (left.key < right.key) := by
  rw [Bool.eq_iff_iff, decide_eq_true_eq]
  unfold RegionInterval.lt RegionInterval.key
  rw [Sorting.Tie.lt_iff, Sorting.Tie.lt_iff]
  dsimp only
  by_cases hstart : left.start = right.start
  · by_cases hfinish : left.finish = right.finish
    · simp [hstart, hfinish, ExactScalar.eq_eq, UInt64.lt_iff_toNat_lt]
    · simp [hstart, hfinish, ExactScalar.eq_eq]
  · simp [hstart, ExactScalar.eq_eq]

theorem sortIntersections_eq (intersections : List (RegionInterval K)) :
    sortIntersections intersections
      = Sorting.sort RegionInterval.key intersections := by
  unfold sortIntersections Sorting.sort
  congr 1
  funext left right
  rw [RegionInterval.lt_eq]

/-- The sorted intervals come by their start. -/
theorem pairwise_sortIntersections
    (intersections : List (RegionInterval K)) :
    (sortIntersections intersections).Pairwise fun a b =>
      a.start ≤ b.start := by
  rw [sortIntersections_eq]
  apply (Sorting.pairwise_sort RegionInterval.key intersections).imp
  intro a b hle
  rcases hle with hlt | ⟨heq, -⟩
  · exact le_of_lt hlt
  · exact le_of_eq heq

theorem mem_sortIntersections {intersections : List (RegionInterval K)}
    {interval : RegionInterval K} :
    interval ∈ sortIntersections intersections ↔
      interval ∈ intersections := by
  rw [sortIntersections_eq, Sorting.mem_sort]

/-- `merge_coverage` merges. -/
theorem map_span_mergeFrom (last : CoveredInterval K)
    (intersections : List (RegionInterval K)) :
    (mergeFrom last intersections).map CoveredInterval.span
      = Spans.merge last.span
        (intersections.map RegionInterval.span) := by
  induction intersections generalizing last with
  | nil => rfl
  | cons first rest ih =>
      rw [mergeFrom, List.map_cons, Spans.merge]
      by_cases hgap : last.finish < first.start
      · rw [if_pos ((ExactScalar.lt_iff _ _).mpr hgap),
          if_pos (show last.span.2 < first.span.1 from hgap),
          List.map_cons, ih]
        rfl
      · rw [if_neg (mt (ExactScalar.lt_iff _ _).mp hgap),
          if_neg (show ¬ last.span.2 < first.span.1 from hgap), ih,
          ExactScalar.max_eq]
        rfl

/-- The merged intervals of a segment. -/
structure Merged (intersections : List (RegionInterval K))
    (covered : List (CoveredInterval K)) : Prop where
  separated : Spans.Separated (covered.map CoveredInterval.span)
  points : Spans.points (covered.map CoveredInterval.span)
    = Spans.points (intersections.map RegionInterval.span)

theorem merged_mergeCoverage {intersections : List (RegionInterval K)}
    (hordered : ∀ interval ∈ intersections,
      interval.start ≤ interval.finish)
    (hsorted : intersections.Pairwise fun a b => a.start ≤ b.start) :
    Merged intersections (mergeCoverage intersections) := by
  cases intersections with
  | nil => exact ⟨Spans.Separated.nil, rfl⟩
  | cons first rest =>
      obtain ⟨hhead, htail⟩ := List.pairwise_cons.mp hsorted
      have hspans : (rest.map RegionInterval.span).Pairwise fun a b =>
          a.1 ≤ b.1 := List.pairwise_map.mpr htail
      unfold mergeCoverage
      constructor
      · rw [map_span_mergeFrom]
        apply Spans.separated_merge
        · exact hordered first List.mem_cons_self
        · intro span hspan
          obtain ⟨interval, hinterval, rfl⟩ := List.mem_map.mp hspan
          exact hordered interval (List.mem_cons_of_mem _ hinterval)
        · exact hspans
      · rw [map_span_mergeFrom]
        apply Spans.points_merge
        · intro span hspan
          obtain ⟨interval, hinterval, rfl⟩ := List.mem_map.mp hspan
          exact hhead interval hinterval
        · exact hspans

-- === the cursor

/-- The fractions an interval of the report stands for. -/
def TrajectoryInterval.fractions (interval : TrajectoryInterval K) : Set K :=
  {t | (interval.startFraction < t ∨
      (interval.startIncluded = true ∧ t = interval.startFraction)) ∧
    (t < interval.endFraction ∨
      (interval.endIncluded = true ∧ t = interval.endFraction))}

/-- A fraction at or after the cursor, and not covered by what is before
it. -/
def Ahead (cursor : K) (cursorIsCovered : Bool) (t : K) : Prop :=
  cursor < t ∨ (cursorIsCovered = false ∧ t = cursor)

omit [Field K] [Scalar K] [ExactScalar K] in
theorem Ahead.le {cursor t : K} {cursorIsCovered : Bool}
    (h : Ahead cursor cursorIsCovered t) : cursor ≤ t := by
  rcases h with hlt | ⟨-, heq⟩
  · exact hlt.le
  · exact heq.ge

omit [Field K] [Scalar K] [ExactScalar K] in
/-- The interval that is reported up to a point. -/
theorem mem_gap {segment : Nat} {cursor finish t : K}
    {cursorIsCovered : Bool} :
    t ∈ TrajectoryInterval.fractions
        { segmentIndex := segment, startFraction := cursor
          endFraction := finish, startIncluded := !cursorIsCovered
          endIncluded := false } ↔
      Ahead cursor cursorIsCovered t ∧ t < finish := by
  simp [TrajectoryInterval.fractions, Ahead]

omit [Field K] [Scalar K] [ExactScalar K] in
/-- The interval that is reported up to the end of the segment. -/
theorem mem_last_gap {segment : Nat} {cursor finish t : K}
    {cursorIsCovered : Bool} :
    t ∈ TrajectoryInterval.fractions
        { segmentIndex := segment, startFraction := cursor
          endFraction := finish, startIncluded := !cursorIsCovered
          endIncluded := true } ↔
      Ahead cursor cursorIsCovered t ∧ t ≤ finish := by
  simp [TrajectoryInterval.fractions, Ahead, le_iff_lt_or_eq]

/-- The reported intervals are what the covered ones leave. -/
theorem mem_uncoveredFrom {segment : Nat} : ∀ (cursor : K)
    (cursorIsCovered : Bool) {covered : List (CoveredInterval K)},
    (cursorIsCovered = false → cursor < 1) →
    Spans.Separated (covered.map CoveredInterval.span) →
    (∀ interval ∈ covered, cursor ≤ interval.start ∧
      interval.finish ≤ 1) → ∀ t,
    (∃ interval ∈ uncoveredFrom segment cursor cursorIsCovered covered,
      t ∈ interval.fractions) ↔
      (Ahead cursor cursorIsCovered t ∧ t ≤ 1) ∧
        t ∉ Spans.points (covered.map CoveredInterval.span) := by
  intro cursor cursorIsCovered covered
  induction covered generalizing cursor cursorIsCovered with
  | nil =>
      intro hstart _ _ t
      rw [uncoveredFrom, List.map_nil, Spans.points_nil, ExactScalar.one_eq]
      by_cases hend : cursor < 1
      · rw [if_pos ((ExactScalar.lt_iff _ _).mpr hend)]
        simp only [List.mem_singleton, exists_eq_left, mem_last_gap,
          Set.mem_empty_iff_false, not_false_eq_true, and_true]
      · rw [if_neg (mt (ExactScalar.lt_iff _ _).mp hend)]
        simp only [List.not_mem_nil, false_and, exists_false,
          Set.mem_empty_iff_false, not_false_eq_true, and_true, false_iff]
        rintro ⟨hlt | ⟨hopen, -⟩, hle⟩
        · exact hend (hlt.trans_le hle)
        · exact hend (hstart hopen)
  | cons interval rest ih =>
      intro _ hseparated hbounds t
      obtain ⟨hcursor, hfinish⟩ := hbounds interval List.mem_cons_self
      rw [List.map_cons] at hseparated
      have hordered : interval.start ≤ interval.finish :=
        hseparated.ordered interval.span List.mem_cons_self
      have hlater : ∀ other ∈ rest, interval.finish < other.start :=
        fun other hother => (List.pairwise_cons.mp hseparated.apart).1
          other.span (List.mem_map_of_mem (f := CoveredInterval.span) hother)
      have hnext : Scalar.max cursor interval.finish = interval.finish := by
        rw [ExactScalar.max_eq, max_eq_right (hcursor.trans hordered)]
      have htail := ih interval.finish true
        (fun h => by cases h) hseparated.tail
        (fun other hother => ⟨(hlater other hother).le,
          (hbounds other (List.mem_cons_of_mem _ hother)).2⟩) t
      have hahead : Ahead interval.finish true t ↔ interval.finish < t := by
        simp [Ahead]
      rw [uncoveredFrom, hnext, List.map_cons, Spans.mem_points_cons, not_or]
      simp only [List.mem_append, or_and_right, exists_or]
      rw [htail, hahead]
      have hgap : (∃ gap ∈ (if Scalar.lt cursor interval.start = true then
          [({ segmentIndex := segment, startFraction := cursor
              endFraction := interval.start
              startIncluded := !cursorIsCovered
              endIncluded := false } : TrajectoryInterval K)] else []),
            t ∈ gap.fractions) ↔
          Ahead cursor cursorIsCovered t ∧ t < interval.start := by
        by_cases hlt : cursor < interval.start
        · rw [if_pos ((ExactScalar.lt_iff _ _).mpr hlt)]
          simp only [List.mem_singleton, exists_eq_left, mem_gap]
        · rw [if_neg (mt (ExactScalar.lt_iff _ _).mp hlt)]
          simp only [List.not_mem_nil, false_and, exists_false, false_iff]
          rintro ⟨h, ht⟩
          exact hlt (h.le.trans_lt ht)
      rw [hgap]
      constructor
      · rintro (⟨h, ht⟩ | ⟨⟨ht, hone⟩, hrest⟩)
        · refine ⟨⟨h, ht.le.trans (hordered.trans hfinish)⟩, ?_, ?_⟩
          · exact fun hin => absurd ht (not_lt.mpr hin.1)
          · intro hin
            have hafter := hseparated.lt_of_mem_points hin
            exact absurd (ht.trans_le hordered) (not_lt.mpr hafter.le)
        · refine ⟨⟨Or.inl ?_, hone⟩, ?_, hrest⟩
          · exact (hcursor.trans hordered).trans_lt ht
          · exact fun hin => absurd ht (not_lt.mpr hin.2)
      · rintro ⟨⟨h, hone⟩, hout, hrest⟩
        rcases lt_or_ge t interval.start with ht | ht
        · exact Or.inl ⟨h, ht⟩
        · refine Or.inr ⟨⟨?_, hone⟩, hrest⟩
          exact not_le.mp fun hle => hout ⟨ht, hle⟩

end Merging

-- === segments

section Segments

variable {K : Type} [Field K] [LinearOrder K] [IsStrictOrderedRing K]
  [Scalar K] [ExactScalar K]

/-- What a region contributes to the intervals of a segment. -/
def regionInterval (first second : List K) (region : SafeRegion K) :
    Option (RegionInterval K) :=
  (intersectSegment first second region.bounds).map fun overlap =>
    { start := overlap.start, finish := overlap.finish
      regionId := region.id }

/-- The sorted intervals of a segment. -/
def segmentIntervals (regions : List (SafeRegion K))
    (segment : List K × List K) : List (RegionInterval K) :=
  sortIntersections
    (regions.filterMap (regionInterval segment.1 segment.2))

/-- The merged intervals of a segment. -/
def segmentCover (regions : List (SafeRegion K))
    (segment : List K × List K) : List (CoveredInterval K) :=
  mergeCoverage (segmentIntervals regions segment)

/-- The boxes of the regions, and the ends of a segment, have one
dimension. -/
structure Matches (dimension : Nat) (regions : List (SafeRegion K))
    (segment : List K × List K) : Prop where
  boxes : ∀ region ∈ regions, region.bounds.valid = true ∧
    region.bounds.dimension = dimension
  first : segment.1.length = dimension
  second : segment.2.length = dimension

/-- The fractions of a segment at which a region has the
configuration. -/
def coveredFractions (regions : List (SafeRegion K))
    (segment : List K × List K) : Set K :=
  {t | (0 ≤ t ∧ t ≤ 1) ∧ ∃ region ∈ regions,
    region.bounds.Holds (interpolate segment.1 segment.2 t)}

variable {dimension : Nat} {regions : List (SafeRegion K)}
  {segment : List K × List K}

/-- The interval of a region is what the region has of the segment. -/
theorem regionInterval_cases (h : Matches dimension regions segment)
    {region : SafeRegion K} (hregion : region ∈ regions) :
    (regionInterval segment.1 segment.2 region = none ∧
      ∀ t, 0 ≤ t → t ≤ 1 →
        ¬ region.bounds.Holds (interpolate segment.1 segment.2 t)) ∨
    ∃ interval, regionInterval segment.1 segment.2 region = some interval ∧
      0 ≤ interval.start ∧ interval.start ≤ interval.finish ∧
      interval.finish ≤ 1 ∧ ∀ t, (0 ≤ t ∧ t ≤ 1) ∧
          region.bounds.Holds (interpolate segment.1 segment.2 t) ↔
        interval.start ≤ t ∧ t ≤ interval.finish := by
  obtain ⟨hvalid, hbox⟩ := h.boxes region hregion
  have hcases := intersectSegment_cases hvalid
    (h.first.trans hbox.symm) (h.second.trans hbox.symm)
  unfold regionInterval
  rcases hcases with ⟨hnone, hout⟩ | ⟨overlap, hsome, hfacts⟩
  · rw [hnone]
    exact Or.inl ⟨rfl, hout⟩
  · rw [hsome]
    exact Or.inr ⟨_, rfl, hfacts⟩

theorem segmentIntervals_bounds (h : Matches dimension regions segment) :
    ∀ interval ∈ segmentIntervals regions segment,
      0 ≤ interval.start ∧ interval.start ≤ interval.finish ∧
        interval.finish ≤ 1 := by
  intro interval hinterval
  unfold segmentIntervals at hinterval
  rw [mem_sortIntersections, List.mem_filterMap] at hinterval
  obtain ⟨region, hregion, hinterval⟩ := hinterval
  rcases regionInterval_cases h hregion with
    ⟨hnone, -⟩ | ⟨other, hother, hlower, hordered, hupper, -⟩
  · rw [hnone] at hinterval
    cases hinterval
  · rw [hother, Option.some_inj] at hinterval
    rw [← hinterval]
    exact ⟨hlower, hordered, hupper⟩

/-- Together the intervals are what the regions have of the segment. -/
theorem points_segmentIntervals (h : Matches dimension regions segment) :
    Spans.points ((segmentIntervals regions segment).map
      RegionInterval.span) = coveredFractions regions segment := by
  ext t
  constructor
  · rintro ⟨span, hspan, ht⟩
    obtain ⟨interval, hinterval, rfl⟩ := List.mem_map.mp hspan
    unfold segmentIntervals at hinterval
    rw [mem_sortIntersections, List.mem_filterMap] at hinterval
    obtain ⟨region, hregion, hinterval⟩ := hinterval
    rcases regionInterval_cases h hregion with
      ⟨hnone, -⟩ | ⟨other, hother, -, -, -, hiff⟩
    · rw [hnone] at hinterval
      cases hinterval
    · rw [hother, Option.some_inj] at hinterval
      subst hinterval
      obtain ⟨hrange, hholds⟩ := (hiff t).mpr ht
      exact ⟨hrange, region, hregion, hholds⟩
  · rintro ⟨hrange, region, hregion, hholds⟩
    rcases regionInterval_cases h hregion with
      ⟨-, hout⟩ | ⟨interval, hinterval, -, -, -, hiff⟩
    · exact absurd hholds (hout t hrange.1 hrange.2)
    · refine ⟨interval.span, ?_, (hiff t).mp ⟨hrange, hholds⟩⟩
      apply List.mem_map_of_mem (f := RegionInterval.span)
      unfold segmentIntervals
      rw [mem_sortIntersections, List.mem_filterMap]
      exact ⟨region, hregion, hinterval⟩

theorem merged_segmentCover (h : Matches dimension regions segment) :
    Merged (segmentIntervals regions segment)
      (segmentCover regions segment) :=
  merged_mergeCoverage
    (fun interval hinterval =>
      (segmentIntervals_bounds h interval hinterval).2.1)
    (pairwise_sortIntersections _)

/-- The merged intervals of a segment lie in [0, 1]. -/
theorem segmentCover_bounds (h : Matches dimension regions segment) :
    ∀ interval ∈ segmentCover regions segment,
      0 ≤ interval.start ∧ interval.finish ≤ 1 := by
  intro interval hinterval
  have hmerged := merged_segmentCover h
  have hspan := List.mem_map_of_mem (f := CoveredInterval.span) hinterval
  have hordered := hmerged.separated.ordered _ hspan
  have hends : ∀ t, interval.start ≤ t ∧ t ≤ interval.finish →
      0 ≤ t ∧ t ≤ 1 := by
    intro t ht
    have hpoint : t ∈ Spans.points
        ((segmentCover regions segment).map CoveredInterval.span) :=
      ⟨interval.span, hspan, ht⟩
    rw [hmerged.points, points_segmentIntervals h] at hpoint
    exact hpoint.1
  exact ⟨(hends _ ⟨le_rfl, hordered⟩).1, (hends _ ⟨hordered, le_rfl⟩).2⟩

/-- What a segment reports is what no region covers. -/
theorem mem_segment_uncovered (h : Matches dimension regions segment)
    (index : Nat) (t : K) :
    (∃ interval ∈ uncoveredFrom index 0 false
        (segmentCover regions segment), t ∈ interval.fractions) ↔
      (0 ≤ t ∧ t ≤ 1) ∧ ∀ region ∈ regions,
        ¬ region.bounds.Holds (interpolate segment.1 segment.2 t) := by
  have hmerged := merged_segmentCover h
  rw [mem_uncoveredFrom _ _ (fun _ => zero_lt_one) hmerged.separated
    (segmentCover_bounds h), hmerged.points, points_segmentIntervals h]
  have hahead : Ahead (0 : K) false t ↔ 0 ≤ t := by
    unfold Ahead
    rw [le_iff_lt_or_eq, eq_comm (a := t)]
    simp
  rw [hahead]
  apply and_congr_right
  intro hrange
  unfold coveredFractions
  simp only [Set.mem_ofPred_eq, not_and, not_exists]
  constructor
  · intro hout region hregion
    exact hout hrange region hregion
  · intro hout _ region hregion
    exact hout region hregion

omit [Field K] [LinearOrder K] [IsStrictOrderedRing K] [ExactScalar K] in
/-- The intervals of a segment carry its index. -/
theorem segmentIndex_of_mem {index : Nat} : ∀ {cursor : K}
    {cursorIsCovered : Bool} {covered : List (CoveredInterval K)},
    ∀ interval ∈ uncoveredFrom index cursor cursorIsCovered covered,
      interval.segmentIndex = index := by
  intro cursor cursorIsCovered covered
  induction covered generalizing cursor cursorIsCovered with
  | nil =>
      intro interval hinterval
      rw [uncoveredFrom] at hinterval
      split at hinterval
      · rw [List.mem_singleton] at hinterval
        rw [hinterval]
      · cases hinterval
  | cons first rest ih =>
      intro interval hinterval
      rw [uncoveredFrom, List.mem_append] at hinterval
      rcases hinterval with hinterval | hinterval
      · split at hinterval
        · rw [List.mem_singleton] at hinterval
          rw [hinterval]
        · cases hinterval
      · exact ih interval hinterval

/-- A reported interval has a fraction. -/
theorem fractions_nonempty {index : Nat} : ∀ {cursor : K}
    {cursorIsCovered : Bool} {covered : List (CoveredInterval K)},
    ∀ interval ∈ uncoveredFrom index cursor cursorIsCovered covered,
      interval.fractions.Nonempty := by
  have hbetween : ∀ {cursor finish : K} {startIncluded endIncluded : Bool},
      Scalar.lt cursor finish = true → (TrajectoryInterval.fractions
        { segmentIndex := index, startFraction := cursor
          endFraction := finish, startIncluded, endIncluded }).Nonempty := by
    intro cursor finish startIncluded endIncluded h
    rw [ExactScalar.lt_iff] at h
    obtain ⟨t, hlower, hupper⟩ := exists_between h
    exact ⟨t, Or.inl hlower, Or.inl hupper⟩
  intro cursor cursorIsCovered covered
  induction covered generalizing cursor cursorIsCovered with
  | nil =>
      intro interval hinterval
      rw [uncoveredFrom] at hinterval
      split at hinterval
      · rename_i hlt
        rw [List.mem_singleton] at hinterval
        rw [hinterval]
        exact hbetween hlt
      · cases hinterval
  | cons first rest ih =>
      intro interval hinterval
      rw [uncoveredFrom, List.mem_append] at hinterval
      rcases hinterval with hinterval | hinterval
      · split at hinterval
        · rename_i hlt
          rw [List.mem_singleton] at hinterval
          rw [hinterval]
          exact hbetween hlt
        · cases hinterval
      · exact ih interval hinterval

/-- A segment has an interval exactly if a region touches it. -/
theorem segmentIntervals_ne_nil (h : Matches dimension regions segment) :
    segmentIntervals regions segment ≠ [] ↔
      (coveredFractions regions segment).Nonempty := by
  rw [← points_segmentIntervals h]
  constructor
  · intro hne
    obtain ⟨interval, hinterval⟩ := List.exists_mem_of_ne_nil _ hne
    have hordered := (segmentIntervals_bounds h interval hinterval).2.1
    exact ⟨interval.start, interval.span,
      List.mem_map_of_mem (f := RegionInterval.span) hinterval,
      le_rfl, hordered⟩
  · rintro ⟨t, span, hspan, -⟩ hnil
    rw [hnil] at hspan
    cases hspan

/-- The measure adds up the lengths. -/
theorem coveredMeasure_eq {covered : List (CoveredInterval K)}
    (h : ∀ interval ∈ covered, interval.start ≤ interval.finish)
    (measure : K) :
    coveredMeasure measure covered = measure
      + (covered.map fun interval =>
          interval.finish - interval.start).sum := by
  unfold coveredMeasure
  induction covered generalizing measure with
  | nil => simp
  | cons interval rest ih =>
      have hpos : 0 ≤ interval.finish - interval.start :=
        sub_nonneg.mpr (h interval List.mem_cons_self)
      rw [List.foldl_cons, ih fun other hother =>
        h other (List.mem_cons_of_mem _ hother), ExactScalar.add_eq,
        ExactScalar.max_eq, ExactScalar.zero_eq, ExactScalar.sub_eq,
        max_eq_right hpos, List.map_cons, List.sum_cons, add_assoc]

-- === the run

/-- The lengths of the merged intervals of a segment. -/
def segmentMeasure (regions : List (SafeRegion K))
    (segment : List K × List K) : K :=
  ((segmentCover regions segment).map fun interval =>
    interval.finish - interval.start).sum

namespace TrajectoryAuditor

variable {options : TrajectoryAuditOptions}

omit [Field K] [LinearOrder K] [IsStrictOrderedRing K] [ExactScalar K] in
theorem testRegions_eq (hcancelled : ∀ segment tests,
      options.cancelled segment tests = false) {index : Nat}
    {first second : List K} : ∀ {regions : List (SafeRegion K)}
    {tests : Nat}, tests + regions.length ≤ options.maximumRegionTests →
      testRegions options index first second regions tests
        = .ok (regions.filterMap (regionInterval first second),
            tests + regions.length) := by
  intro regions
  induction regions with
  | nil => intro tests _; rfl
  | cons region rest ih =>
      intro tests hbudget
      rw [List.length_cons] at hbudget
      rw [testRegions, if_neg (by omega), if_neg (by simp [hcancelled]),
        ih (by omega), ok_bind, List.filterMap_cons, List.length_cons,
        Nat.add_right_comm, ← Nat.add_assoc]
      unfold regionInterval
      cases intersectSegment first second region.bounds <;> rfl

/-- The state after a segment. -/
theorem auditSegment_eq (hcancelled : ∀ segment tests,
      options.cancelled segment tests = false)
    (h : Matches dimension regions segment) (state : AuditState K)
    (hbudget : state.regionTests + regions.length
      ≤ options.maximumRegionTests) (index : Nat) :
    auditSegment options regions index segment.1 segment.2 state = .ok
      { coveredMeasure :=
          state.coveredMeasure + segmentMeasure regions segment
        hasAnyCoverage := state.hasAnyCoverage
          || !(segmentIntervals regions segment).isEmpty
        regionTests := state.regionTests + regions.length
        regionSequence := appendRegionSequence
          (segmentIntervals regions segment) state.regionSequence
        uncoveredIntervals := state.uncoveredIntervals
          ++ uncoveredFrom index 0 false
            (segmentCover regions segment) } := by
  have hordered : ∀ interval ∈ segmentCover regions segment,
      interval.start ≤ interval.finish := fun interval hinterval =>
    (merged_segmentCover h).separated.ordered interval.span
      (List.mem_map_of_mem (f := CoveredInterval.span) hinterval)
  unfold auditSegment
  rw [if_neg (by simp [hcancelled]), testRegions_eq hcancelled hbudget,
    ok_bind]
  dsimp only
  rw [ExactScalar.zero_eq]
  have hmeasure := coveredMeasure_eq hordered state.coveredMeasure
  unfold segmentCover segmentIntervals at hmeasure
  rw [hmeasure]
  rfl

/-- The state after all segments. -/
theorem auditSegments_eq (hcancelled : ∀ segment tests,
      options.cancelled segment tests = false) :
    ∀ {segments : List (List K × List K)} (index : Nat)
      (state : AuditState K),
      (∀ segment ∈ segments, Matches dimension regions segment) →
      state.regionTests + regions.length * segments.length
        ≤ options.maximumRegionTests →
      ∃ final, auditSegments options regions index segments state
          = .ok final ∧
        final.coveredMeasure = state.coveredMeasure
          + (segments.map (segmentMeasure regions)).sum ∧
        final.hasAnyCoverage = (state.hasAnyCoverage
          || segments.any fun segment =>
              !(segmentIntervals regions segment).isEmpty) ∧
        final.uncoveredIntervals = state.uncoveredIntervals
          ++ (segments.zipIdx index).flatMap fun entry =>
            uncoveredFrom entry.2 0 false
              (segmentCover regions entry.1) := by
  intro segments
  induction segments with
  | nil =>
      intro index state _ _
      exact ⟨state, rfl, by simp, by simp, by simp⟩
  | cons segment rest ih =>
      intro index state hmatches hbudget
      rw [List.length_cons, Nat.mul_add, Nat.mul_one] at hbudget
      have hhere := hmatches segment List.mem_cons_self
      have hstep := auditSegment_eq hcancelled hhere state (by omega)
        index
      obtain ⟨final, hfinal, hmeasure, hany, huncovered⟩ :=
        ih (index + 1)
          { coveredMeasure := _, hasAnyCoverage := _
            regionTests := state.regionTests + regions.length
            regionSequence := _, uncoveredIntervals := _ }
          (fun other hother => hmatches other
            (List.mem_cons_of_mem _ hother))
          (by
            show state.regionTests + regions.length
              + regions.length * rest.length ≤ _
            omega)
      refine ⟨final, ?_, ?_, ?_, ?_⟩
      · unfold auditSegments
        rw [hstep, ok_bind]
        exact hfinal
      · rw [hmeasure, List.map_cons, List.sum_cons, add_assoc]
      · rw [hany, List.any_cons, Bool.or_assoc]
      · rw [huncovered, List.zipIdx_cons, List.flatMap_cons,
          List.append_assoc]

omit [IsStrictOrderedRing K] in
theorem checkWaypoints_eq : ∀ {trajectory : List (List K)} {index : Nat},
    (∀ waypoint ∈ trajectory, waypoint.length = dimension) →
    checkWaypoints dimension index trajectory = .ok () := by
  intro trajectory
  induction trajectory with
  | nil => intro index _; rfl
  | cons waypoint rest ih =>
      intro index h
      have hfinite : waypoint.all Scalar.isFinite = true :=
        List.all_eq_true.mpr fun x _ => ExactScalar.isFinite_eq x
      have hhere : validateConfiguration waypoint dimension
          (ascii "trajectory waypoint " ++ stdToString index) = .ok () := by
        unfold validateConfiguration
        rw [if_neg (not_not.mpr (h waypoint List.mem_cons_self)), hfinite,
          if_neg (by decide)]
      rw [checkWaypoints, hhere, ok_bind]
      exact ih fun other hother => h other (List.mem_cons_of_mem _ hother)

omit [IsStrictOrderedRing K] in
theorem checkDeltas_eq : ∀ (segments : List (List K × List K))
    (index : Nat), checkDeltas index segments = .ok () := by
  intro segments
  induction segments with
  | nil => intro index; rfl
  | cons segment rest ih =>
      intro index
      rw [checkDeltas, if_neg (by simp [ExactScalar.isFinite_eq])]
      exact ih (index + 1)

end TrajectoryAuditor

end Segments

-- === atlases

/-- What an audit asks of an atlas: boxes of one dimension, and
certificates of the robot and the scene. -/
structure SafeAtlas.Admitted {α : Type} [Scalar α] (atlas : SafeAtlas α) :
    Prop where
  boxes : ∀ region ∈ atlas.regions, region.bounds.valid = true ∧
    region.bounds.dimension = atlas.dimension
  certified : ∀ region ∈ atlas.regions, ∃ certificate,
    atlas.certificates[region.certificateIndex]? = some certificate ∧
      certificate.level = .certifiedRegion ∧
      certificate.robotDigest = atlas.robotDigest ∧
      certificate.sceneDigest = atlas.sceneDigest

theorem checkCertificates_eq {α : Type} [Scalar α] {atlas : SafeAtlas α}
    {regions : List (SafeRegion α)}
    (h : ∀ region ∈ regions, ∃ certificate,
      atlas.certificates[region.certificateIndex]? = some certificate ∧
        certificate.level = .certifiedRegion ∧
        certificate.robotDigest = atlas.robotDigest ∧
        certificate.sceneDigest = atlas.sceneDigest) :
    TrajectoryAuditor.checkCertificates atlas regions = .ok () := by
  induction regions with
  | nil => rfl
  | cons region rest ih =>
      obtain ⟨certificate, hfound, hlevel, hrobot, hscene⟩ :=
        h region List.mem_cons_self
      unfold TrajectoryAuditor.checkCertificates
      rw [hfound]
      dsimp only
      rw [if_neg (by simp [hlevel, hrobot, hscene])]
      exact ih fun other hother => h other (List.mem_cons_of_mem _ hother)

/-- Two waypoints that follow each other have the dimension of the
atlas, and so have the boxes. -/
theorem SafeAtlas.Admitted.matches {K : Type} [Field K] [LinearOrder K]
    [Scalar K] {atlas : SafeAtlas K} (h : atlas.Admitted)
    {trajectory : List (List K)}
    (hdimension : ∀ waypoint ∈ trajectory,
      waypoint.length = atlas.dimension) :
    ∀ segment ∈ TrajectoryAuditor.segments trajectory,
      Matches atlas.dimension atlas.regions segment := by
  intro segment hsegment
  have hmem := List.of_mem_zip
    (show (segment.1, segment.2) ∈ trajectory.zip trajectory.tail
      from hsegment)
  exact ⟨h.boxes, hdimension _ hmem.1,
    hdimension _ (List.mem_of_mem_tail hmem.2)⟩

-- === the report

open MeasureTheory TrajectoryAuditor

/-- The fractions of a segment at which no region has the
configuration. -/
def SafeAtlas.uncoveredFractions (atlas : SafeAtlas ℝ)
    (segment : List ℝ × List ℝ) : Set ℝ :=
  {t | (0 ≤ t ∧ t ≤ 1) ∧ ∀ region ∈ atlas.regions,
    ¬ region.bounds.Holds (interpolate segment.1 segment.2 t)}

/-- The report says what the regions have of the polyline. -/
structure TrajectoryAuditReport.Exact (atlas : SafeAtlas ℝ)
    (trajectory : List (List ℝ)) (report : TrajectoryAuditReport ℝ) :
    Prop where
  uncovered : ∀ index segment,
    (segments trajectory)[index]? = some segment →
    {t | ∃ interval ∈ report.uncoveredIntervals,
        interval.segmentIndex = index ∧ t ∈ interval.fractions}
      = atlas.uncoveredFractions segment
  placed : ∀ interval ∈ report.uncoveredIntervals,
    interval.segmentIndex < (segments trajectory).length
  certified : report.status = .certified ↔
    ∀ segment ∈ segments trajectory, atlas.uncoveredFractions segment = ∅
  invalid : report.status = .invalid ↔
    ∀ segment ∈ segments trajectory,
      coveredFractions atlas.regions segment = ∅
  ratio : report.coverageRatio
    = ((segments trajectory).map fun segment =>
        (volume (coveredFractions atlas.regions segment)).toReal).sum
      / (segments trajectory).length

/-- The measure of a segment is the length of what is covered of it. -/
theorem segmentMeasure_eq {dimension : Nat}
    {regions : List (SafeRegion ℝ)} {segment : List ℝ × List ℝ}
    (h : Matches dimension regions segment) :
    segmentMeasure regions segment
      = (volume (coveredFractions regions segment)).toReal := by
  have hmerged := merged_segmentCover h
  rw [← points_segmentIntervals h, ← hmerged.points,
    Spans.volume_points hmerged.separated, List.map_map,
    ENNReal.toReal_ofReal]
  · rfl
  · apply List.sum_nonneg
    intro length hlength
    obtain ⟨interval, hinterval, rfl⟩ := List.mem_map.mp hlength
    exact sub_nonneg.mpr (hmerged.separated.ordered interval.span
      (List.mem_map_of_mem (f := CoveredInterval.span) hinterval))

/-- At most the whole segment is covered. -/
theorem volume_coveredFractions_le (regions : List (SafeRegion ℝ))
    (segment : List ℝ × List ℝ) :
    (volume (coveredFractions regions segment)).toReal ≤ 1 := by
  have hsub : coveredFractions regions segment ⊆ Set.Icc 0 1 :=
    fun t ht => ht.1
  have hle := measure_mono (μ := volume) hsub
  rw [Real.volume_Icc, sub_zero, ENNReal.ofReal_one] at hle
  exact ENNReal.toReal_le_of_le_ofReal zero_le_one
    (by rwa [ENNReal.ofReal_one])

/-- The audit of a trajectory within its budget is exact. -/
theorem audit_exact {atlas : SafeAtlas ℝ} (hatlas : atlas.Admitted)
    {trajectory : List (List ℝ)} (hlength : 2 ≤ trajectory.length)
    (hdimension : ∀ waypoint ∈ trajectory,
      waypoint.length = atlas.dimension)
    {options : TrajectoryAuditOptions}
    (hpositive : 0 < options.maximumRegionTests)
    (hbudget : atlas.regions.length * (segments trajectory).length
      ≤ options.maximumRegionTests)
    (hcancelled : ∀ segment tests,
      options.cancelled segment tests = false) :
    ∃ report, audit atlas trajectory options = .ok report ∧
      report.Exact atlas trajectory := by
  have hmatches := hatlas.matches hdimension
  obtain ⟨state, hstate, hmeasure, hany, huncovered⟩ :=
    auditSegments_eq hcancelled 0
      ({ coveredMeasure := Scalar.zero } : AuditState ℝ) hmatches
      (by simpa using hbudget)
  have hcount : (segments trajectory).length = trajectory.length - 1 := by
    unfold segments
    rw [List.length_zip, List.length_tail]
    omega
  have hpos : 0 < (segments trajectory).length := by omega
  rw [ExactScalar.zero_eq, zero_add] at hmeasure
  rw [Bool.false_or] at hany
  rw [List.nil_append] at huncovered
  -- an interval of the report belongs to the segment of its index
  have hmem : ∀ {interval : TrajectoryInterval ℝ},
      interval ∈ state.uncoveredIntervals ↔
        ∃ index segment, (segments trajectory)[index]? = some segment ∧
          interval ∈ uncoveredFrom index 0 false
            (segmentCover atlas.regions segment) := by
    intro interval
    rw [huncovered, List.mem_flatMap]
    constructor
    · rintro ⟨⟨segment, index⟩, hentry, hinterval⟩
      rw [List.mem_zipIdx_iff_getElem?] at hentry
      exact ⟨index, segment, hentry, hinterval⟩
    · rintro ⟨index, segment, hsegment, hinterval⟩
      exact ⟨(segment, index),
        List.mem_zipIdx_iff_getElem?.mpr hsegment, hinterval⟩
  have hset : ∀ index segment,
      (segments trajectory)[index]? = some segment →
      {t | ∃ interval ∈ state.uncoveredIntervals,
          interval.segmentIndex = index ∧ t ∈ interval.fractions}
        = atlas.uncoveredFractions segment := by
    intro index segment hsegment
    have hhere := hmatches segment (List.mem_of_getElem? hsegment)
    ext t
    rw [SafeAtlas.uncoveredFractions, Set.mem_ofPred_eq,
      Set.mem_ofPred_eq, ← mem_segment_uncovered hhere index t]
    constructor
    · rintro ⟨interval, hinterval, hindex, ht⟩
      obtain ⟨i, other, hother, hinterval⟩ := hmem.mp hinterval
      have hi := segmentIndex_of_mem interval hinterval
      rw [hindex] at hi
      subst hi
      rw [hsegment, Option.some_inj] at hother
      subst hother
      exact ⟨interval, hinterval, ht⟩
    · rintro ⟨interval, hinterval, ht⟩
      exact ⟨interval, hmem.mpr ⟨index, segment, hsegment, hinterval⟩,
        segmentIndex_of_mem interval hinterval, ht⟩
  have hempty : state.uncoveredIntervals = [] ↔
      ∀ segment ∈ segments trajectory,
        atlas.uncoveredFractions segment = ∅ := by
    constructor
    · intro hnil segment hsegment
      obtain ⟨index, hindex⟩ := List.mem_iff_getElem?.mp hsegment
      rw [← hset index segment hindex, hnil]
      simp
    · intro hall
      rw [List.eq_nil_iff_forall_not_mem]
      intro interval hinterval
      obtain ⟨index, segment, hsegment, hhere⟩ := hmem.mp hinterval
      obtain ⟨t, ht⟩ := fractions_nonempty interval hhere
      have hnone := hall segment (List.mem_of_getElem? hsegment)
      rw [← hset index segment hsegment] at hnone
      have hin : t ∈ {t | ∃ interval ∈ state.uncoveredIntervals,
          interval.segmentIndex = index ∧ t ∈ interval.fractions} :=
        ⟨interval, hinterval, segmentIndex_of_mem interval hhere, ht⟩
      rw [hnone] at hin
      exact hin
  have htouched : state.hasAnyCoverage = false ↔
      ∀ segment ∈ segments trajectory,
        coveredFractions atlas.regions segment = ∅ := by
    rw [hany, List.any_eq_false]
    apply forall₂_congr
    intro segment hsegment
    have hiff := segmentIntervals_ne_nil (hmatches segment hsegment)
    rw [Bool.not_eq_true, Bool.not_eq_false', List.isEmpty_iff,
      ← Set.not_nonempty_iff_eq_empty, ← hiff, not_not]
  have hratio : state.coveredMeasure / (segments trajectory).length
      = ((segments trajectory).map fun segment =>
          (volume (coveredFractions atlas.regions segment)).toReal).sum
        / (segments trajectory).length := by
    rw [hmeasure, List.map_congr_left fun segment hsegment =>
      segmentMeasure_eq (hmatches segment hsegment)]
  have hrange : 0 ≤ state.coveredMeasure / (segments trajectory).length ∧
      state.coveredMeasure / (segments trajectory).length ≤ 1 := by
    have hcast : (0 : ℝ) < (segments trajectory).length := by
      exact_mod_cast hpos
    rw [hratio]
    constructor
    · apply div_nonneg _ hcast.le
      apply List.sum_nonneg
      intro length hmember
      obtain ⟨segment, -, rfl⟩ := List.mem_map.mp hmember
      exact ENNReal.toReal_nonneg
    · rw [div_le_one hcast]
      have hsum := List.sum_le_card_nsmul
        ((segments trajectory).map fun segment =>
          (volume (coveredFractions atlas.regions segment)).toReal) 1 (by
            intro length hmember
            obtain ⟨segment, -, rfl⟩ := List.mem_map.mp hmember
            exact volume_coveredFractions_le atlas.regions segment)
      rwa [List.length_map, nsmul_one] at hsum
  refine ⟨state.report trajectory.length, ?_, ?_⟩
  · unfold audit
    rw [if_neg (by omega), if_neg (by omega),
      checkCertificates_eq hatlas.certified, ok_bind,
      checkWaypoints_eq hdimension, ok_bind, checkDeltas_eq, ok_bind,
      hstate, ok_bind]
  · refine ⟨hset, ?_, ?_, ?_, ?_⟩
    · intro interval hinterval
      obtain ⟨index, segment, hsegment, hhere⟩ := hmem.mp hinterval
      rw [segmentIndex_of_mem interval hhere]
      exact (List.getElem?_eq_some_iff.mp hsegment).1
    · rw [← hempty]
      unfold AuditState.report
      dsimp only
      by_cases hnil : state.uncoveredIntervals = []
      · simp [hnil]
      · cases hcoverage : state.hasAnyCoverage <;> simp [hnil]
    · rw [← htouched]
      unfold AuditState.report
      dsimp only
      -- where nothing is covered something is left uncovered
      have hleft : state.hasAnyCoverage = false →
          state.uncoveredIntervals ≠ [] := by
        intro hnone hnil
        have hfirst : (segments trajectory)[0] ∈ segments trajectory :=
          List.getElem_mem hpos
        have hcovered := htouched.mp hnone _ hfirst
        have huncov := hempty.mp hnil _ hfirst
        have hzero : (0 : ℝ) ∈ atlas.uncoveredFractions
            (segments trajectory)[0] := by
          refine ⟨⟨le_rfl, zero_le_one⟩, ?_⟩
          intro region hregion hholds
          have hin : (0 : ℝ) ∈ coveredFractions atlas.regions
              (segments trajectory)[0] :=
            ⟨⟨le_rfl, zero_le_one⟩, region, hregion, hholds⟩
          rw [hcovered] at hin
          exact hin
        rw [huncov] at hzero
        exact hzero
      cases hcoverage : state.hasAnyCoverage with
      | false => simp [hleft hcoverage]
      | true =>
          by_cases hnil : state.uncoveredIntervals = [] <;> simp [hnil]
    · have hdecimal : (Scalar.decimal (trajectory.length - 1) 0 : ℝ)
          = (segments trajectory).length := by
        rw [hcount, ExactScalar.decimal_eq, pow_zero, div_one]
      unfold AuditState.report
      dsimp only
      rw [hdecimal, ExactScalar.div_eq, ExactScalar.zero_eq,
        ExactScalar.one_eq, clamp_of_mem hrange.1 hrange.2, hratio]

/-- An atlas with one region, the unit interval. -/
def unitAtlas : SafeAtlas ℝ where
  dimension := 1
  regions := [{ id := 1, bounds := ⟨[⟨0, 1⟩]⟩, certificateIndex := 0
                component := 1, sourceNode := .root }]
  certificates := [{ level := .certifiedRegion, robotDigest := []
                     sceneDigest := []
                     policy := { algorithm := ascii "a"
                                 algorithmVersion := ascii "1"
                                 obstaclePadding := 0 }
                     clearanceLowerBound := 0 }]

theorem unitAtlas_admitted : unitAtlas.Admitted := by
  constructor
  · intro region hregion
    rw [List.mem_singleton.mp hregion]
    refine ⟨?_, rfl⟩
    rw [CspaceAabb.valid_iff]
    simp [ExactScalar.isFinite_eq]
  · intro region hregion
    rw [List.mem_singleton.mp hregion]
    exact ⟨_, rfl, rfl, rfl, rfl⟩

/-- Half of the segment from 0 to 2 is covered. -/
theorem audit_exact_unit : ∃ report, audit unitAtlas [[0], [2]] {}
      = .ok report ∧ report.Exact unitAtlas [[0], [2]] :=
  audit_exact unitAtlas_admitted le_rfl (by simp [unitAtlas])
    (by decide) (by decide) (fun _ _ => rfl)

end RbfSafe.Atlas
