/-
`types.h`: intervals, boxes of the configuration space and the check of
a configuration.

Two readings stand side by side. `contains` is the comparison of the
source, with its tolerance; `Holds` and `Inside` are what a box denotes,
closed and open, and are what a partition of boxes is about.
-/
import RbfSafe.Core.Scalar

namespace RbfSafe

variable {α : Type} [Scalar α]

/-- `Interval`. -/
structure Interval (α : Type) where
  lower : α
  upper : α
deriving DecidableEq

/-- `Interval::valid`. -/
def Interval.valid (axis : Interval α) : Bool :=
  Scalar.isFinite axis.lower && Scalar.isFinite axis.upper
    && Scalar.le axis.lower axis.upper

/-- `Interval::width`. -/
def Interval.width (axis : Interval α) : α := Scalar.sub axis.upper axis.lower

/-- `Interval::center`. -/
def Interval.center (axis : Interval α) : α :=
  Scalar.mul Scalar.half (Scalar.add axis.lower axis.upper)

/-- `Interval::contains`. -/
def Interval.contains (axis : Interval α) (value tolerance : α) : Bool :=
  Scalar.le (Scalar.sub axis.lower tolerance) value
    && Scalar.le value (Scalar.add axis.upper tolerance)

/-- `operator==` of intervals. -/
def Interval.eq (axis other : Interval α) : Bool :=
  Scalar.eq axis.lower other.lower && Scalar.eq axis.upper other.upper

/-- `CspaceAabb`. -/
structure CspaceAabb (α : Type) where
  axes : List (Interval α)
deriving DecidableEq

/-- `CspaceAabb::dimension`. -/
def CspaceAabb.dimension (box : CspaceAabb α) : Nat := box.axes.length

/-- `CspaceAabb::valid`. -/
def CspaceAabb.valid (box : CspaceAabb α) : Bool :=
  !box.axes.isEmpty && box.axes.all Interval.valid

/-- `CspaceAabb::contains`. -/
def CspaceAabb.contains (box : CspaceAabb α) (configuration : List α)
    (tolerance : α) : Bool :=
  configuration.length == box.axes.length
    && (box.axes.zip configuration).all fun p => p.1.contains p.2 tolerance

/-- `operator==` of two vectors of intervals. -/
def axesEq (axes others : List (Interval α)) : Bool :=
  axes.length == others.length && (axes.zip others).all fun p => p.1.eq p.2

/-- `validate_configuration`. -/
def validateConfiguration (configuration : List α) (expectedDimension : Nat)
    (context : Bytes) : Result Unit :=
  if configuration.length ≠ expectedDimension then
    failure .dimensionMismatch "configuration dimension does not match robot"
      context
  else if configuration.all Scalar.isFinite = false then
    failure .invalidArgument "configuration contains a non-finite value"
      context
  else .ok ()

-- === what a box denotes

/-- A configuration of the closed box. -/
def CspaceAabb.Holds (box : CspaceAabb α) (configuration : List α) : Prop :=
  configuration.length = box.axes.length ∧
    ∀ (i : Nat) (axis : Interval α) (value : α), box.axes[i]? = some axis →
      configuration[i]? = some value →
      Scalar.le axis.lower value = true ∧ Scalar.le value axis.upper = true

/-- A configuration of the interior of the box. -/
def CspaceAabb.Inside (box : CspaceAabb α) (configuration : List α) : Prop :=
  configuration.length = box.axes.length ∧
    ∀ (i : Nat) (axis : Interval α) (value : α), box.axes[i]? = some axis →
      configuration[i]? = some value →
      Scalar.lt axis.lower value = true ∧ Scalar.lt value axis.upper = true

/-- The part of the box below the center of an axis. -/
def CspaceAabb.lowerHalf (box : CspaceAabb α) (dimension : Nat) :
    CspaceAabb α :=
  ⟨box.axes.modify dimension fun axis => { axis with upper := axis.center }⟩

/-- The part of the box above the center of an axis. -/
def CspaceAabb.upperHalf (box : CspaceAabb α) (dimension : Nat) :
    CspaceAabb α :=
  ⟨box.axes.modify dimension fun axis => { axis with lower := axis.center }⟩

theorem CspaceAabb.valid_iff {box : CspaceAabb α} :
    box.valid = true ↔ box.axes ≠ [] ∧ ∀ axis ∈ box.axes,
      Scalar.isFinite axis.lower = true ∧ Scalar.isFinite axis.upper = true
        ∧ Scalar.le axis.lower axis.upper = true := by
  unfold CspaceAabb.valid Interval.valid
  simp only [Bool.and_eq_true, Bool.not_eq_true', List.isEmpty_eq_false_iff,
    List.all_eq_true, and_assoc]

/-- An axis of a valid box. -/
theorem CspaceAabb.valid_axis {box : CspaceAabb α} (h : box.valid = true)
    {i : Nat} {axis : Interval α} (haxis : box.axes[i]? = some axis) :
    Scalar.isFinite axis.lower = true ∧ Scalar.isFinite axis.upper = true
      ∧ Scalar.le axis.lower axis.upper = true :=
  (valid_iff.mp h).2 axis (List.mem_of_getElem? haxis)

@[simp] theorem CspaceAabb.dimension_lowerHalf (box : CspaceAabb α)
    (d : Nat) : (box.lowerHalf d).dimension = box.dimension := by
  simp [lowerHalf, dimension]

@[simp] theorem CspaceAabb.dimension_upperHalf (box : CspaceAabb α)
    (d : Nat) : (box.upperHalf d).dimension = box.dimension := by
  simp [upperHalf, dimension]

theorem CspaceAabb.axis_lowerHalf (box : CspaceAabb α) (d i : Nat) :
    (box.lowerHalf d).axes[i]? = box.axes[i]?.map fun axis =>
      if d = i then { axis with upper := axis.center } else axis := by
  rw [lowerHalf, List.getElem?_modify]
  cases box.axes[i]? <;> by_cases hd : d = i <;> simp [hd]

theorem CspaceAabb.axis_upperHalf (box : CspaceAabb α) (d i : Nat) :
    (box.upperHalf d).axes[i]? = box.axes[i]?.map fun axis =>
      if d = i then { axis with lower := axis.center } else axis := by
  rw [upperHalf, List.getElem?_modify]
  cases box.axes[i]? <;> by_cases hd : d = i <;> simp [hd]

-- === halving and denoting

/-- A coordinate at most the center puts the configuration in the lower
half. -/
theorem CspaceAabb.Holds.mem_lowerHalf {box : CspaceAabb α} {q : List α}
    {d : Nat} {axis : Interval α} {value : α}
    (h : box.Holds q) (haxis : box.axes[d]? = some axis)
    (hvalue : q[d]? = some value)
    (hle : Scalar.le value axis.center = true) :
    (box.lowerHalf d).Holds q := by
  refine ⟨by simpa [CspaceAabb.lowerHalf] using h.1, ?_⟩
  intro i axis' value' haxis' hvalue'
  rw [axis_lowerHalf] at haxis'
  obtain ⟨axis₀, haxis₀, rfl⟩ := Option.map_eq_some_iff.mp haxis'
  have hold := h.2 i axis₀ value' haxis₀ hvalue'
  by_cases hd : d = i
  · subst hd
    rw [haxis, Option.some_inj] at haxis₀
    rw [hvalue, Option.some_inj] at hvalue'
    subst haxis₀ hvalue'
    rw [if_pos rfl]
    exact ⟨hold.1, hle⟩
  · rw [if_neg hd]
    exact hold

section Lawful

variable [LawfulScalar α] {box : CspaceAabb α} {q : List α}

/-- A coordinate between finite bounds is finite. -/
theorem CspaceAabb.Holds.finite (h : box.Holds q) (hvalid : box.valid = true)
    {i : Nat} {value : α} (hvalue : q[i]? = some value) :
    Scalar.isFinite value = true := by
  have hi : i < box.axes.length := by
    rw [← h.1]
    exact (List.getElem?_eq_some_iff.mp hvalue).1
  have haxis : box.axes[i]? = some box.axes[i] := List.getElem?_eq_getElem hi
  obtain ⟨hlower, hupper⟩ := h.2 i _ value haxis hvalue
  obtain ⟨hflower, hfupper, -⟩ := CspaceAabb.valid_axis hvalid haxis
  exact LawfulScalar.finite_between hflower hfupper hlower hupper

/-- The interior lies in the box. -/
theorem CspaceAabb.Inside.holds (h : box.Inside q) : box.Holds q := by
  refine ⟨h.1, ?_⟩
  intro i axis value haxis hvalue
  obtain ⟨hlower, hupper⟩ := h.2 i axis value haxis hvalue
  exact ⟨LawfulScalar.le_of_lt hlower, LawfulScalar.le_of_lt hupper⟩

/-- A half lies in the box, the center being below the upper bound where
the other half is valid. -/
theorem CspaceAabb.Holds.of_lowerHalf {d : Nat}
    (hupper : (box.upperHalf d).valid = true)
    (h : (box.lowerHalf d).Holds q) : box.Holds q := by
  refine ⟨by simpa [lowerHalf] using h.1, ?_⟩
  intro i axis value haxis hvalue
  have hlow := axis_lowerHalf box d i
  have hhigh := axis_upperHalf box d i
  rw [haxis, Option.map_some] at hlow hhigh
  obtain ⟨hl, hu⟩ := h.2 i _ value hlow hvalue
  by_cases hd : d = i
  · rw [if_pos hd] at hl hu hhigh
    have hcenter := (valid_axis hupper hhigh).2.2
    exact ⟨hl, LawfulScalar.le_trans hu hcenter⟩
  · rw [if_neg hd] at hl hu
    exact ⟨hl, hu⟩

theorem CspaceAabb.Holds.of_upperHalf {d : Nat}
    (hlower : (box.lowerHalf d).valid = true)
    (h : (box.upperHalf d).Holds q) : box.Holds q := by
  refine ⟨by simpa [upperHalf] using h.1, ?_⟩
  intro i axis value haxis hvalue
  have hlow := axis_lowerHalf box d i
  have hhigh := axis_upperHalf box d i
  rw [haxis, Option.map_some] at hlow hhigh
  obtain ⟨hl, hu⟩ := h.2 i _ value hhigh hvalue
  by_cases hd : d = i
  · rw [if_pos hd] at hl hu hlow
    have hcenter := (valid_axis hlower hlow).2.2
    exact ⟨LawfulScalar.le_trans hcenter hl, hu⟩
  · rw [if_neg hd] at hl hu
    exact ⟨hl, hu⟩

theorem CspaceAabb.Inside.of_lowerHalf {d : Nat}
    (hvalid : box.valid = true) (hlower : (box.lowerHalf d).valid = true)
    (hupper : (box.upperHalf d).valid = true)
    (h : (box.lowerHalf d).Inside q) : box.Inside q := by
  have hholds := h.holds
  refine ⟨by simpa [lowerHalf] using h.1, ?_⟩
  intro i axis value haxis hvalue
  have hlow := axis_lowerHalf box d i
  have hhigh := axis_upperHalf box d i
  rw [haxis, Option.map_some] at hlow hhigh
  obtain ⟨hl, hu⟩ := h.2 i _ value hlow hvalue
  by_cases hd : d = i
  · have hfinite := hholds.finite hlower hvalue
    rw [if_pos hd] at hl hu hhigh hlow
    have hcenter := valid_axis hupper hhigh
    exact ⟨hl, LawfulScalar.lt_of_lt_of_le hfinite hcenter.1
      (valid_axis hvalid haxis).2.1 hu hcenter.2.2⟩
  · rw [if_neg hd] at hl hu
    exact ⟨hl, hu⟩

theorem CspaceAabb.Inside.of_upperHalf {d : Nat}
    (hvalid : box.valid = true) (hlower : (box.lowerHalf d).valid = true)
    (hupper : (box.upperHalf d).valid = true)
    (h : (box.upperHalf d).Inside q) : box.Inside q := by
  have hholds := h.holds
  refine ⟨by simpa [upperHalf] using h.1, ?_⟩
  intro i axis value haxis hvalue
  have hlow := axis_lowerHalf box d i
  have hhigh := axis_upperHalf box d i
  rw [haxis, Option.map_some] at hlow hhigh
  obtain ⟨hl, hu⟩ := h.2 i _ value hhigh hvalue
  by_cases hd : d = i
  · have hfinite := hholds.finite hupper hvalue
    rw [if_pos hd] at hl hu hhigh hlow
    have hcenter := valid_axis hlower hlow
    exact ⟨LawfulScalar.lt_of_le_of_lt (valid_axis hvalid haxis).1
      hcenter.2.1 hfinite hcenter.2.2 hl, hu⟩
  · rw [if_neg hd] at hl hu
    exact ⟨hl, hu⟩

/-- The halves share no interior point. -/
theorem CspaceAabb.halves_disjoint {d : Nat}
    (hlower : (box.lowerHalf d).valid = true) (hd : d < box.dimension)
    (h : (box.lowerHalf d).Inside q) (h' : (box.upperHalf d).Inside q) :
    False := by
  have haxis : box.axes[d]? = some box.axes[d] := List.getElem?_eq_getElem hd
  have hq : d < q.length := by
    rw [h.1]
    simpa [lowerHalf, dimension] using hd
  have hvalue : q[d]? = some q[d] := List.getElem?_eq_getElem hq
  have hlow := axis_lowerHalf box d d
  have hhigh := axis_upperHalf box d d
  rw [haxis, Option.map_some, if_pos rfl] at hlow hhigh
  have hbelow := (h.2 d _ _ hlow hvalue).2
  have habove := (h'.2 d _ _ hhigh hvalue).1
  have hfinite := h.holds.finite hlower hvalue
  have hcenter := (valid_axis hlower hlow).2.1
  rw [LawfulScalar.lt_asymm hfinite hcenter hbelow] at habove
  cases habove

/-- Any other coordinate puts it in the upper half. -/
theorem CspaceAabb.Holds.mem_upperHalf {d : Nat} {axis : Interval α} {value : α}
    (h : box.Holds q) (hvalid : box.valid = true)
    (hupper : (box.upperHalf d).valid = true)
    (haxis : box.axes[d]? = some axis) (hvalue : q[d]? = some value)
    (hle : Scalar.le value axis.center = false) :
    (box.upperHalf d).Holds q := by
  refine ⟨by simpa [CspaceAabb.upperHalf] using h.1, ?_⟩
  intro i axis' value' haxis' hvalue'
  rw [axis_upperHalf] at haxis'
  obtain ⟨axis₀, haxis₀, rfl⟩ := Option.map_eq_some_iff.mp haxis'
  have hold := h.2 i axis₀ value' haxis₀ hvalue'
  by_cases hd : d = i
  · subst hd
    rw [haxis, Option.some_inj] at haxis₀
    rw [hvalue, Option.some_inj] at hvalue'
    subst haxis₀ hvalue'
    have hhigh := axis_upperHalf box d d
    rw [haxis, Option.map_some, if_pos rfl] at hhigh
    have hcenter := (valid_axis hupper hhigh).1
    have hfinite := h.finite hvalid hvalue
    rw [if_pos rfl]
    rcases LawfulScalar.le_total hfinite hcenter with hle' | hge
    · rw [hle] at hle'
      cases hle'
    · exact ⟨hge, hold.2⟩
  · rw [if_neg hd]
    exact hold

/-- Boxes that compare equal denote the same set. -/
theorem CspaceAabb.Holds.of_axesEq {other : CspaceAabb α}
    (hbox : box.valid = true) (hother : other.valid = true)
    (heq : axesEq box.axes other.axes = true) (h : other.Holds q) :
    box.Holds q := by
  unfold axesEq at heq
  rw [Bool.and_eq_true, beq_iff_eq, List.all_eq_true] at heq
  obtain ⟨hlen, hall⟩ := heq
  refine ⟨h.1.trans hlen.symm, ?_⟩
  intro i axis value haxis hvalue
  have hi : i < other.axes.length := by
    rw [← hlen]
    exact (List.getElem?_eq_some_iff.mp haxis).1
  have haxis' : other.axes[i]? = some other.axes[i] :=
    List.getElem?_eq_getElem hi
  have hpair : (axis, other.axes[i]) ∈ box.axes.zip other.axes := by
    refine List.mem_iff_getElem?.mpr ⟨i, ?_⟩
    rw [List.getElem?_zip_eq_some]
    exact ⟨haxis, haxis'⟩
  have hpairEq := hall _ hpair
  unfold Interval.eq at hpairEq
  rw [Bool.and_eq_true] at hpairEq
  obtain ⟨hfl, hfu, -⟩ := valid_axis hbox haxis
  obtain ⟨hfl', hfu', -⟩ := valid_axis hother haxis'
  have hlower := (LawfulScalar.eq_iff hfl hfl').mp hpairEq.1
  have hupper := (LawfulScalar.eq_iff hfu hfu').mp hpairEq.2
  obtain ⟨hl, hu⟩ := h.2 i _ value haxis' hvalue
  exact ⟨LawfulScalar.le_trans hlower.1 hl, LawfulScalar.le_trans hu hupper.2⟩

theorem axesEq_symm {axes others : List (Interval α)}
    (haxes : ∀ axis ∈ axes, axis.valid = true)
    (hothers : ∀ axis ∈ others, axis.valid = true)
    (heq : axesEq axes others = true) : axesEq others axes = true := by
  unfold axesEq at heq ⊢
  rw [Bool.and_eq_true, beq_iff_eq, List.all_eq_true] at heq ⊢
  refine ⟨heq.1.symm, ?_⟩
  rintro ⟨axis, other⟩ hmem
  have hswap : (other, axis) ∈ axes.zip others := by
    obtain ⟨i, hi⟩ := List.mem_iff_getElem?.mp hmem
    rw [List.getElem?_zip_eq_some] at hi
    refine List.mem_iff_getElem?.mpr ⟨i, ?_⟩
    rw [List.getElem?_zip_eq_some]
    exact hi.symm
  have h := heq.2 _ hswap
  have hother := haxes _ (List.of_mem_zip hswap).1
  have haxis := hothers _ (List.of_mem_zip hswap).2
  unfold Interval.eq at h ⊢
  unfold Interval.valid at haxis hother
  simp only [Bool.and_eq_true] at h haxis hother ⊢
  rw [LawfulScalar.eq_iff haxis.1.1 hother.1.1,
    LawfulScalar.eq_iff haxis.1.2 hother.1.2]
  rw [LawfulScalar.eq_iff hother.1.1 haxis.1.1,
    LawfulScalar.eq_iff hother.1.2 haxis.1.2] at h
  exact ⟨h.1.symm, h.2.symm⟩

theorem axesEq_refl {axes : List (Interval α)}
    (h : ∀ axis ∈ axes, axis.valid = true) : axesEq axes axes = true := by
  unfold axesEq
  rw [Bool.and_eq_true, beq_iff_eq, List.all_eq_true]
  refine ⟨rfl, ?_⟩
  intro p hp
  obtain ⟨i, hi⟩ := List.mem_iff_getElem?.mp hp
  rw [List.getElem?_zip_eq_some] at hi
  have hsame : p.1 = p.2 := Option.some_inj.mp (hi.1.symm.trans hi.2)
  have hvalid := h _ (List.mem_of_getElem? hi.1)
  unfold Interval.valid at hvalid
  simp only [Bool.and_eq_true] at hvalid
  unfold Interval.eq
  rw [← hsame, Bool.and_eq_true]
  exact ⟨LawfulScalar.eq_refl hvalid.1.1, LawfulScalar.eq_refl hvalid.1.2⟩

end Lawful

end RbfSafe
