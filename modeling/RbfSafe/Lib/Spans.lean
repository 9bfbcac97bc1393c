/-
Closed intervals on a line: merging them, and their length.

`merge` goes through intervals that are sorted by their start and joins
those that touch. What it leaves is separated: there is room between any
two (`separated_merge`), and no point is won or lost (`points_merge`).
Separated intervals of reals do not overlap, so that the length of their
union is the sum of their lengths (`volume_points`).
-/
import Mathlib.MeasureTheory.Measure.Lebesgue.Basic
import Mathlib.Tactic

namespace RbfSafe.Lib.Spans

section Order

variable {K : Type} [LinearOrder K]

/-- The points of some closed intervals. -/
def points (spans : List (K × K)) : Set K :=
  {t | ∃ span ∈ spans, span.1 ≤ t ∧ t ≤ span.2}

/-- Intervals with a point, in order, with room between any two. -/
structure Separated (spans : List (K × K)) : Prop where
  ordered : ∀ span ∈ spans, span.1 ≤ span.2
  apart : spans.Pairwise fun a b => a.2 < b.1

/-- Intervals joined as they come, `last` being the one to join with. -/
def merge (last : K × K) : List (K × K) → List (K × K)
  | [] => [last]
  | span :: rest =>
      if last.2 < span.1 then last :: merge span rest
      else merge (last.1, max last.2 span.2) rest

@[simp] theorem points_nil : points ([] : List (K × K)) = ∅ := by
  ext t
  simp [points]

theorem mem_points_cons {span : K × K} {spans : List (K × K)} {t : K} :
    t ∈ points (span :: spans) ↔
      (span.1 ≤ t ∧ t ≤ span.2) ∨ t ∈ points spans := by
  unfold points
  simp only [Set.mem_ofPred_eq, List.mem_cons]
  constructor
  · rintro ⟨other, rfl | hmem, ht⟩
    · exact Or.inl ht
    · exact Or.inr ⟨other, hmem, ht⟩
  · rintro (ht | ⟨other, hmem, ht⟩)
    · exact ⟨span, Or.inl rfl, ht⟩
    · exact ⟨other, Or.inr hmem, ht⟩

theorem Separated.nil : Separated ([] : List (K × K)) :=
  ⟨by simp, List.Pairwise.nil⟩

theorem Separated.tail {span : K × K} {spans : List (K × K)}
    (h : Separated (span :: spans)) : Separated spans :=
  ⟨fun other hother => h.ordered other (List.mem_cons_of_mem _ hother),
    (List.pairwise_cons.mp h.apart).2⟩

/-- The points of the later intervals come after the first. -/
theorem Separated.lt_of_mem_points {span : K × K} {spans : List (K × K)}
    (h : Separated (span :: spans)) {t : K} (ht : t ∈ points spans) :
    span.2 < t := by
  obtain ⟨other, hother, hlower, -⟩ := ht
  exact lt_of_lt_of_le ((List.pairwise_cons.mp h.apart).1 other hother)
    hlower

/-- Every interval of a merge starts where one of the merged does. -/
theorem start_mem_merge {last span : K × K} {spans : List (K × K)}
    (h : span ∈ merge last spans) :
    span.1 = last.1 ∨ ∃ other ∈ spans, span.1 = other.1 := by
  induction spans generalizing last with
  | nil =>
      rw [merge, List.mem_singleton] at h
      exact Or.inl (congrArg Prod.fst h)
  | cons first rest ih =>
      rw [merge] at h
      by_cases hgap : last.2 < first.1
      · rw [if_pos hgap, List.mem_cons] at h
        rcases h with rfl | h
        · exact Or.inl rfl
        · rcases ih h with heq | ⟨other, hother, heq⟩
          · exact Or.inr ⟨first, List.mem_cons_self, heq⟩
          · exact Or.inr ⟨other, List.mem_cons_of_mem _ hother, heq⟩
      · rw [if_neg hgap] at h
        rcases ih h with heq | ⟨other, hother, heq⟩
        · exact Or.inl heq
        · exact Or.inr ⟨other, List.mem_cons_of_mem _ hother, heq⟩

/-- Merging sorted intervals leaves room between them. -/
theorem separated_merge {last : K × K} {spans : List (K × K)}
    (hlast : last.1 ≤ last.2) (hordered : ∀ span ∈ spans, span.1 ≤ span.2)
    (hsorted : spans.Pairwise fun a b => a.1 ≤ b.1) :
    Separated (merge last spans) := by
  induction spans generalizing last with
  | nil =>
      refine ⟨?_, List.pairwise_singleton _ _⟩
      intro span hspan
      rw [merge, List.mem_singleton] at hspan
      rw [hspan]
      exact hlast
  | cons first rest ih =>
      obtain ⟨hhead, htail⟩ := List.pairwise_cons.mp hsorted
      have hfirst := hordered first List.mem_cons_self
      have hrest : ∀ span ∈ rest, span.1 ≤ span.2 := fun span hspan =>
        hordered span (List.mem_cons_of_mem _ hspan)
      rw [merge]
      by_cases hgap : last.2 < first.1
      · rw [if_pos hgap]
        have hmerged := ih hfirst hrest htail
        refine ⟨?_, List.pairwise_cons.mpr ⟨?_, hmerged.apart⟩⟩
        · intro span hspan
          rcases List.mem_cons.mp hspan with rfl | hspan
          · exact hlast
          · exact hmerged.ordered span hspan
        · intro span hspan
          rcases start_mem_merge hspan with heq | ⟨other, hother, heq⟩
          · rw [heq]
            exact hgap
          · rw [heq]
            exact lt_of_lt_of_le hgap (hhead other hother)
      · rw [if_neg hgap]
        exact ih (hlast.trans (le_max_left _ _)) hrest htail

/-- Merging sorted intervals keeps their points. -/
theorem points_merge {last : K × K} {spans : List (K × K)}
    (hlast : ∀ span ∈ spans, last.1 ≤ span.1)
    (hsorted : spans.Pairwise fun a b => a.1 ≤ b.1) :
    points (merge last spans) = points (last :: spans) := by
  induction spans generalizing last with
  | nil => rfl
  | cons first rest ih =>
      obtain ⟨hhead, htail⟩ := List.pairwise_cons.mp hsorted
      have hbelow := hlast first List.mem_cons_self
      rw [merge]
      by_cases hgap : last.2 < first.1
      · rw [if_pos hgap]
        ext t
        rw [mem_points_cons, ih hhead htail, ← mem_points_cons]
      · rw [if_neg hgap]
        have hjoined : points (merge (last.1, max last.2 first.2) rest)
            = points ((last.1, max last.2 first.2) :: rest) :=
          ih (fun span hspan => hbelow.trans (hhead span hspan)) htail
        rw [hjoined]
        ext t
        rw [mem_points_cons, mem_points_cons, mem_points_cons, ← or_assoc]
        -- the two intervals touch: together they are one
        have htouch : last.1 ≤ t ∧ t ≤ max last.2 first.2 ↔
            (last.1 ≤ t ∧ t ≤ last.2) ∨ (first.1 ≤ t ∧ t ≤ first.2) := by
          rw [le_max_iff]
          constructor
          · rintro ⟨hlower, hupper | hupper⟩
            · exact Or.inl ⟨hlower, hupper⟩
            · rcases le_total t last.2 with ht | ht
              · exact Or.inl ⟨hlower, ht⟩
              · exact Or.inr ⟨(not_lt.mp hgap).trans ht, hupper⟩
          · rintro (⟨hlower, hupper⟩ | ⟨hlower, hupper⟩)
            · exact ⟨hlower, Or.inl hupper⟩
            · exact ⟨hbelow.trans hlower, Or.inr hupper⟩
        show (last.1 ≤ t ∧ t ≤ max last.2 first.2) ∨ _ ↔ _
        rw [htouch]

end Order

-- === length

open MeasureTheory

theorem points_cons (span : ℝ × ℝ) (spans : List (ℝ × ℝ)) :
    points (span :: spans) = Set.Icc span.1 span.2 ∪ points spans := by
  ext t
  rw [mem_points_cons]
  rfl

theorem measurableSet_points (spans : List (ℝ × ℝ)) :
    MeasurableSet (points spans) := by
  induction spans with
  | nil =>
      rw [points_nil]
      exact MeasurableSet.empty
  | cons span spans ih =>
      rw [points_cons]
      exact measurableSet_Icc.union ih

/-- The length of separated intervals is the sum of their lengths. -/
theorem volume_points {spans : List (ℝ × ℝ)} (h : Separated spans) :
    volume (points spans)
      = ENNReal.ofReal (spans.map fun span => span.2 - span.1).sum := by
  induction spans with
  | nil => simp
  | cons span spans ih =>
      have hapart : Disjoint (Set.Icc span.1 span.2) (points spans) := by
        rw [Set.disjoint_left]
        intro t ht ht'
        exact absurd (h.lt_of_mem_points ht') (not_lt.mpr ht.2)
      have hpos : 0 ≤ span.2 - span.1 :=
        sub_nonneg.mpr (h.ordered span List.mem_cons_self)
      have hsum : 0 ≤ (spans.map fun span => span.2 - span.1).sum := by
        apply List.sum_nonneg
        intro x hx
        obtain ⟨other, hother, rfl⟩ := List.mem_map.mp hx
        exact sub_nonneg.mpr (h.tail.ordered other hother)
      rw [points_cons, measure_union hapart (measurableSet_points spans),
        Real.volume_Icc, ih h.tail, List.map_cons, List.sum_cons,
        ENNReal.ofReal_add hpos hsum]

end RbfSafe.Lib.Spans
