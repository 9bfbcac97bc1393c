/-
Membership of a zonotope never accepts a point that is outside.

Over exact numbers the variables of the search belong together after every
turn (`Consistent`): what the search keeps as the residual is what the
coefficients leave of the query, and the coefficients stay between `-1` and
`1`. Clamping a coefficient stops between its old value and the optimum of
its generator, so that no turn makes the residual longer.

An answer `true` is given in four places, and each has coefficients to show:
those of the search where the residual is small enough, the same ones where
the residual is computed once more, and zeros where there is no generator,
or none that is not zero.

A Taylor region is searched as a zonotope with one generator more for every
joint whose remainder is not zero; the coefficients of these are read back
as the remainder.
-/
import RbfSafe.Core.Exact
import RbfSafe.HigherOrder.Zonotope
import RbfSafe.Lib.BoxDescent
import Mathlib.Data.List.Fold

namespace RbfSafe.HigherOrder

open Lib

variable {K : Type} [Field K]

-- === the points

/-- A coordinate of the point that coefficients denote. -/
def CspaceZonotope.point (zonotope : CspaceZonotope K) (coefficients : List K)
    (axis : Nat) : K :=
  zonotope.center.getD axis 0
    + ∑ generator ∈ Finset.range zonotope.generatorCount,
      coefficients.getD generator 0
        * zonotope.generators.getD (generator * zonotope.dimension + axis) 0

/-- The squared Euclidean norm of the residual. -/
def Descent.squaredNorm (descent : Descent K) : K :=
  (descent.residual.map fun value => value * value).sum

section
variable [LinearOrder K]

/-- A coefficient for every generator, between `-1` and `1`. -/
structure CspaceZonotope.Admits (zonotope : CspaceZonotope K)
    (coefficients : List K) : Prop where
  length : coefficients.length = zonotope.generatorCount
  bounds : ∀ coefficient ∈ coefficients, -1 ≤ coefficient ∧ coefficient ≤ 1

/-- The variables of a search belong together. -/
structure Consistent (zonotope : CspaceZonotope K) (configuration : List K)
    (descent : Descent K) : Prop where
  admits : zonotope.Admits descent.coefficients
  residual_length : descent.residual.length = zonotope.dimension
  residual_eq : ∀ axis < zonotope.dimension, descent.residual.getD axis 0
    = configuration.getD axis 0 - zonotope.point descent.coefficients axis

/-- A point within a distance of a query, in every coordinate. -/
def CspaceZonotope.Near (zonotope : CspaceZonotope K) (configuration : List K)
    (distance : K) : Prop :=
  ∃ coefficients, zonotope.Admits coefficients
    ∧ ∀ axis < zonotope.dimension,
      |configuration.getD axis 0 - zonotope.point coefficients axis| ≤ distance

end

-- === lists

theorem sum_map_eq_range (f : K → K) (values : List K) :
    (values.map f).sum = ∑ i ∈ Finset.range values.length, f (values.getD i 0) := by
  induction values with
  | nil => rfl
  | cons value rest ih =>
      rw [List.map_cons, List.sum_cons, ih, List.length_cons,
        Finset.sum_range_succ', add_comm]
      rfl

theorem getD_map_range (f : Nat → K) {n i : Nat} (h : i < n) :
    ((List.range n).map f).getD i 0 = f i := by
  rw [List.getD_eq_getElem?_getD, List.getElem?_map, List.getElem?_range h]
  rfl

omit [Field K] in
theorem getD_mem {values : List K} [Zero K] {k : Nat} (h : k < values.length) :
    values.getD k 0 ∈ values := by
  rw [List.getD_eq_getElem?_getD, List.getElem?_eq_getElem h]
  exact List.getElem_mem h

theorem foldl_sub_range (f : Nat → K) (start : K) (n : Nat) :
    (List.range n).foldl (fun rest i => rest - f i) start
      = start - ∑ i ∈ Finset.range n, f i := by
  simp only [sub_eq_add_neg]
  rw [ExactScalar.foldl_add_range (fun i => -f i), Finset.sum_neg_distrib]

/-- Setting an entry of a list changes it as a function. -/
theorem getD_set {values : List K} {k : Nat} (hk : k < values.length) (value : K) :
    (fun i => (values.set k value).getD i 0)
      = Function.update (fun i => values.getD i 0) k value := by
  funext i
  by_cases hik : i = k
  · subst hik
    rw [Function.update_self, List.getD_eq_getElem?_getD,
      List.getElem?_set_self hk]
    rfl
  · rw [Function.update_of_ne hik, List.getD_eq_getElem?_getD,
      List.getElem?_set_ne (Ne.symm hik), ← List.getD_eq_getElem?_getD]

variable [LinearOrder K]

omit [Field K] in
theorem foldl_max_le {f : K → K} {start bound : K} {values : List K} :
    values.foldl (fun maximum value => max maximum (f value)) start ≤ bound
      ↔ start ≤ bound ∧ ∀ value ∈ values, f value ≤ bound := by
  induction values generalizing start with
  | nil => simp
  | cons value rest ih =>
      rw [List.foldl_cons, ih, max_le_iff, List.forall_mem_cons, and_assoc]

/-- What follows a chain from its last element lengthens it. -/
theorem isChain_cons_append {β : Type} {R : β → β → Prop} {first : β}
    {turns later : List β} (h : (first :: turns).IsChain R)
    (hlater : (turns.getLastD first :: later).IsChain R) :
    (first :: (turns ++ later)).IsChain R := by
  induction turns generalizing first with
  | nil => exact hlater
  | cons turn rest ih =>
      obtain ⟨hfirst, hrest⟩ := List.isChain_cons_cons.mp h
      rw [List.getLastD_cons] at hlater
      exact List.isChain_cons_cons.mpr ⟨hfirst, ih hrest hlater⟩

theorem getLastD_mem_cons {β : Type} (first : β) (turns : List β) :
    turns.getLastD first ∈ first :: turns := by
  induction turns generalizing first with
  | nil => exact List.mem_cons_self
  | cons turn rest ih =>
      rw [List.getLastD_cons]
      exact List.mem_cons_of_mem _ (ih turn)

-- === one turn

variable [IsStrictOrderedRing K] [TubeScalar K] [ExactScalar K]
  {zonotope : CspaceZonotope K} {configuration : List K}

/-- `-1` and `1` bound the coefficients. -/
theorem clamp_unit (value : K) :
    Scalar.clamp value (Scalar.neg Scalar.one) Scalar.one
      = max (-1) (min 1 value) := by
  unfold Scalar.clamp
  rw [ExactScalar.neg_eq, ExactScalar.one_eq]
  by_cases hlower : value < -1
  · rw [if_pos ((ExactScalar.lt_iff _ _).mpr hlower), max_eq_left]
    exact (min_le_right _ _).trans hlower.le
  · rw [if_neg (mt (ExactScalar.lt_iff _ _).mp hlower)]
    by_cases hupper : 1 < value
    · rw [if_pos ((ExactScalar.lt_iff _ _).mpr hupper), min_eq_left hupper.le,
        max_eq_right (by linarith)]
    · rw [if_neg (mt (ExactScalar.lt_iff _ _).mp hupper),
        min_eq_right (not_lt.mp hupper), max_eq_right (not_lt.mp hlower)]

omit [IsStrictOrderedRing K] in
theorem entry_eq (generator axis : Nat) : zonotope.entry generator axis
    = zonotope.generators.getD (generator * zonotope.dimension + axis) 0 := by
  unfold CspaceZonotope.entry
  rw [ExactScalar.zero_eq]

omit [IsStrictOrderedRing K] in
theorem generatorNorm_eq (generator : Nat) : generatorNorm zonotope generator
    = BoxDescent.squaredLength (Finset.range zonotope.dimension)
      (zonotope.entry generator) := by
  unfold generatorNorm BoxDescent.squaredLength
  simp only [ExactScalar.add_eq, ExactScalar.mul_eq, ExactScalar.zero_eq]
  rw [ExactScalar.foldl_add_range fun axis => zonotope.entry generator axis
    * zonotope.entry generator axis, zero_add]

/-- The coefficient that a turn gives to a generator that is not zero. -/
def nextCoefficient (zonotope : CspaceZonotope K) (descent : Descent K)
    (generator : Nat) : K :=
  BoxDescent.clampedStep (Finset.range zonotope.dimension) (-1) 1
    (fun axis => descent.residual.getD axis 0) (zonotope.entry generator)
    (descent.coefficients.getD generator 0)

/-- The residual after a turn. -/
def nextResidual (zonotope : CspaceZonotope K) (descent : Descent K)
    (generator : Nat) : List K :=
  (List.range zonotope.dimension).map fun axis =>
    descent.residual.getD axis 0 - zonotope.entry generator axis
      * (nextCoefficient zonotope descent generator
        - descent.coefficients.getD generator 0)

/-- What a turn does with a generator that is not zero. -/
theorem coordinateStep_pos {descent : Descent K} {generator : Nat}
    (h : 0 < generatorNorm zonotope generator) :
    ∃ maximumChange, coordinateStep zonotope descent generator
      = { coefficients := descent.coefficients.set generator
            (nextCoefficient zonotope descent generator)
          residual := nextResidual zonotope descent generator
          maximumChange := maximumChange } := by
  have hpos : ¬Scalar.lt Scalar.zero (generatorNorm zonotope generator) = false := by
    rw [ExactScalar.zero_eq, Bool.not_eq_false, ExactScalar.lt_iff]
    exact h
  have hnext : Scalar.clamp
      (descent.coefficients.getD generator 0
        + (List.range zonotope.dimension).foldl (fun correction axis => correction
          + zonotope.entry generator axis * descent.residual.getD axis 0) 0
          / generatorNorm zonotope generator)
      (Scalar.neg Scalar.one) Scalar.one
      = nextCoefficient zonotope descent generator := by
    rw [clamp_unit, ExactScalar.foldl_add_range fun axis =>
      zonotope.entry generator axis * descent.residual.getD axis 0, zero_add,
      generatorNorm_eq]
    rfl
  refine ⟨Scalar.max descent.maximumChange (Scalar.abs
    (nextCoefficient zonotope descent generator
      - descent.coefficients.getD generator 0)), ?_⟩
  unfold coordinateStep
  rw [if_neg hpos]
  simp only [ExactScalar.zero_eq, ExactScalar.add_eq, ExactScalar.mul_eq,
    ExactScalar.div_eq, ExactScalar.sub_eq, hnext]
  rfl

omit [IsStrictOrderedRing K] in
/-- The residual, as what the coefficients leave of the query. -/
theorem remainder_eq (coefficients : List K) (axis : Nat) :
    BoxDescent.remainder
        (fun axis => configuration.getD axis 0 - zonotope.center.getD axis 0)
        zonotope.entry (Finset.range zonotope.generatorCount)
        (fun generator => coefficients.getD generator 0) axis
      = configuration.getD axis 0 - zonotope.point coefficients axis := by
  unfold BoxDescent.remainder CspaceZonotope.point
  simp only [entry_eq]
  ring

omit [LinearOrder K] [IsStrictOrderedRing K] [TubeScalar K] [ExactScalar K] in
theorem squaredNorm_eq {descent : Descent K}
    (h : descent.residual.length = zonotope.dimension) :
    descent.squaredNorm = BoxDescent.squaredLength
      (Finset.range zonotope.dimension) fun axis => descent.residual.getD axis 0 := by
  unfold Descent.squaredNorm BoxDescent.squaredLength
  rw [sum_map_eq_range, h]

/-- **One turn**: what belongs together stays so, and the residual does not
become longer. -/
theorem Consistent.step {descent : Descent K}
    (h : Consistent zonotope configuration descent) {generator : Nat}
    (hgenerator : generator < zonotope.generatorCount) :
    Consistent zonotope configuration (coordinateStep zonotope descent generator)
      ∧ (coordinateStep zonotope descent generator).squaredNorm
        ≤ descent.squaredNorm := by
  by_cases hpos : 0 < generatorNorm zonotope generator
  · obtain ⟨maximumChange, hstep⟩ := @coordinateStep_pos K _ _ _ _ _ zonotope
      descent generator hpos
    have hlength : generator < descent.coefficients.length := by
      rw [h.admits.length]
      exact hgenerator
    have hold := h.admits.bounds _ (getD_mem hlength)
    have hresidual : (nextResidual zonotope descent generator).length
        = zonotope.dimension := by
      unfold nextResidual
      rw [List.length_map, List.length_range]
    have hentry : ∀ axis < zonotope.dimension,
        (nextResidual zonotope descent generator).getD axis 0
          = descent.residual.getD axis 0 - zonotope.entry generator axis
            * (nextCoefficient zonotope descent generator
              - descent.coefficients.getD generator 0) :=
      fun axis haxis => getD_map_range _ haxis
    rw [hstep]
    refine ⟨⟨⟨?_, ?_⟩, hresidual, ?_⟩, ?_⟩
    · rw [List.length_set]
      exact h.admits.length
    · intro coefficient hmem
      rcases List.mem_or_eq_of_mem_set hmem with hmem | rfl
      · exact h.admits.bounds coefficient hmem
      · exact BoxDescent.clampedStep_bounds (by linarith) _ _ _
    · intro axis haxis
      rw [hentry axis haxis, h.residual_eq axis haxis, ← remainder_eq,
        ← remainder_eq, getD_set hlength, BoxDescent.remainder_update
          (Finset.mem_range.mpr hgenerator)]
    · rw [squaredNorm_eq hresidual, squaredNorm_eq h.residual_length,
        BoxDescent.squaredLength_congr fun axis haxis =>
          hentry axis (Finset.mem_range.mp haxis)]
      rw [generatorNorm_eq] at hpos
      exact BoxDescent.squaredLength_clampedStep_le hpos hold.1 hold.2
  · have hskip : coordinateStep zonotope descent generator = descent := by
      unfold coordinateStep
      rw [if_pos]
      rw [ExactScalar.zero_eq, ← Bool.not_eq_true, ExactScalar.lt_iff]
      exact hpos
    rw [hskip]
    exact ⟨h, le_refl _⟩

-- === the runs

/-- No turn of a run makes the residual longer. -/
def Shortens (run : List (Descent K)) : Prop :=
  run.IsChain fun before after => after.squaredNorm ≤ before.squaredNorm

omit [IsStrictOrderedRing K] [TubeScalar K] [ExactScalar K] in
/-- Only the residual of the first variables counts. -/
theorem Shortens.of_residual {first other : Descent K} {run : List (Descent K)}
    (h : Shortens (first :: run)) (heq : first.residual = other.residual) :
    Shortens (other :: run) := by
  have hnorm : first.squaredNorm = other.squaredNorm := by
    unfold Descent.squaredNorm
    rw [heq]
  cases run with
  | nil => exact List.isChain_singleton _
  | cons turn rest =>
      obtain ⟨hle, hrest⟩ := List.isChain_cons_cons.mp h
      exact List.isChain_cons_cons.mpr ⟨hle.trans_eq hnorm, hrest⟩

theorem Consistent.along_sweep {generators : List Nat}
    (hgenerators : ∀ generator ∈ generators, generator < zonotope.generatorCount) :
    ∀ {descent : Descent K}, Consistent zonotope configuration descent →
      (∀ turn ∈ sweep zonotope generators descent,
        Consistent zonotope configuration turn)
      ∧ Shortens (descent :: sweep zonotope generators descent) := by
  induction generators with
  | nil =>
      intro descent _
      exact ⟨fun turn hturn => (by cases hturn), List.isChain_singleton _⟩
  | cons generator rest ih =>
      intro descent h
      obtain ⟨hnext, hle⟩ := h.step (hgenerators generator List.mem_cons_self)
      obtain ⟨hturns, hchain⟩ :=
        ih (fun k hk => hgenerators k (List.mem_cons_of_mem _ hk)) hnext
      exact ⟨List.forall_mem_cons.mpr ⟨hnext, hturns⟩,
        List.isChain_cons_cons.mpr ⟨hle, hchain⟩⟩

/-- **A whole search**: every turn, and the answer `true`. -/
theorem Consistent.along_descend (limit : K) (iterations : Nat) :
    ∀ {descent : Descent K}, Consistent zonotope configuration descent →
      (∀ turn ∈ (descend zonotope limit iterations descent).1,
        Consistent zonotope configuration turn)
      ∧ Shortens (descent :: (descend zonotope limit iterations descent).1)
      ∧ ((descend zonotope limit iterations descent).2 = true →
        ∃ last, Consistent zonotope configuration last
          ∧ maximumResidual last.residual ≤ limit) := by
  induction iterations with
  | zero =>
      intro descent _
      refine ⟨fun turn hturn => (by cases hturn), List.isChain_singleton _, ?_⟩
      intro haccepted
      cases haccepted
  | succ iterations ih =>
      intro descent h
      unfold descend
      by_cases hnear : Scalar.le (maximumResidual descent.residual) limit = true
      · rw [if_pos hnear]
        refine ⟨fun turn hturn => (by cases hturn), List.isChain_singleton _, ?_⟩
        intro _
        exact ⟨descent, h, (ExactScalar.le_iff _ _).mp hnear⟩
      · rw [if_neg hnear]
        have hstart : Consistent zonotope configuration
            { descent with maximumChange := Scalar.zero } :=
          ⟨h.admits, h.residual_length, h.residual_eq⟩
        have hall : ∀ generator ∈ List.range zonotope.generatorCount,
            generator < zonotope.generatorCount :=
          fun generator hmem => List.mem_range.mp hmem
        obtain ⟨hturns, hchain⟩ := hstart.along_sweep hall
        replace hchain : Shortens (descent :: sweep zonotope
            (List.range zonotope.generatorCount)
            { descent with maximumChange := Scalar.zero }) := hchain.of_residual rfl
        have hlast := List.forall_mem_cons.mpr ⟨h, hturns⟩ _
          (getLastD_mem_cons descent (sweep zonotope
            (List.range zonotope.generatorCount)
            { descent with maximumChange := Scalar.zero }))
        dsimp only
        by_cases hsmall : Scalar.le ((sweep zonotope
            (List.range zonotope.generatorCount)
            { descent with maximumChange := Scalar.zero }).getLastD
              descent).maximumChange TubeScalar.epsilon = true
        · rw [if_pos hsmall]
          refine ⟨hturns, hchain, fun haccepted => ?_⟩
          cases haccepted
        · rw [if_neg hsmall]
          obtain ⟨hlater, hrest, haccepts⟩ := ih hlast
          refine ⟨?_, isChain_cons_append hchain hrest, haccepts⟩
          intro turn hturn
          rcases List.mem_append.mp hturn with hturn | hturn
          · exact hturns turn hturn
          · exact hlater turn hturn

-- === the query

omit [IsStrictOrderedRing K] in
theorem delta_getD {axis : Nat} (haxis : axis < zonotope.dimension) :
    (delta zonotope configuration).getD axis 0
      = configuration.getD axis 0 - zonotope.center.getD axis 0 := by
  unfold delta
  rw [getD_map_range _ haxis, ExactScalar.sub_eq, ExactScalar.zero_eq]

omit [Field K] [LinearOrder K] [IsStrictOrderedRing K] [ExactScalar K] in
theorem delta_length : (delta zonotope configuration).length
    = zonotope.dimension := by
  unfold delta
  rw [List.length_map, List.length_range]

omit [TubeScalar K] [ExactScalar K] in
/-- Before the search all coefficients are zero. -/
theorem admits_zero : zonotope.Admits
    (List.replicate zonotope.generatorCount (0 : K)) where
  length := List.length_replicate
  bounds coefficient hmem := by
    rw [List.eq_of_mem_replicate hmem]
    constructor <;> linarith

omit [LinearOrder K] [IsStrictOrderedRing K] [TubeScalar K] [ExactScalar K] in
theorem point_zero (axis : Nat) :
    zonotope.point (List.replicate zonotope.generatorCount (0 : K)) axis
      = zonotope.center.getD axis 0 := by
  have hzero : ∀ generator,
      (List.replicate zonotope.generatorCount (0 : K)).getD generator 0 = 0 := by
    intro generator
    rw [List.getD_eq_getElem?_getD, List.getElem?_replicate]
    split <;> rfl
  unfold CspaceZonotope.point
  simp only [hzero, zero_mul, Finset.sum_const_zero, add_zero]

theorem consistent_initial :
    Consistent zonotope configuration (initialDescent zonotope configuration) := by
  unfold initialDescent
  rw [ExactScalar.zero_eq]
  refine ⟨admits_zero, delta_length, fun axis haxis => ?_⟩
  rw [delta_getD haxis, point_zero]

omit [IsStrictOrderedRing K] in
theorem finalResidual_getD (coefficients : List K) {axis : Nat}
    (haxis : axis < zonotope.dimension) :
    (finalResidual zonotope configuration coefficients).getD axis 0
      = configuration.getD axis 0 - zonotope.point coefficients axis := by
  unfold finalResidual
  rw [getD_map_range _ haxis]
  simp only [ExactScalar.sub_eq, ExactScalar.mul_eq, ExactScalar.zero_eq]
  rw [foldl_sub_range (fun generator => zonotope.entry generator axis
    * coefficients.getD generator 0), delta_getD haxis, ← remainder_eq]
  unfold BoxDescent.remainder
  simp only [mul_comm]

/-- The scale of a query is the largest of `1` and its absolute values. -/
theorem queryScale_eq : queryScale configuration
    = (configuration.map abs).foldr max 1 := by
  unfold queryScale
  simp only [ExactScalar.max_eq, ExactScalar.abs_eq, ExactScalar.one_eq]
  rw [← List.foldl_eq_foldr, List.foldl_map]

-- === answers

omit [IsStrictOrderedRing K] [TubeScalar K] [ExactScalar K] in
/-- Values within the limit, coordinate by coordinate. -/
theorem near_of_withinLimit {limit : K} {coefficients values : List K}
    (hadmits : zonotope.Admits coefficients)
    (hlength : values.length = zonotope.dimension)
    (hvalues : ∀ axis < zonotope.dimension, values.getD axis 0
      = configuration.getD axis 0 - zonotope.point coefficients axis)
    (hwithin : ∀ value ∈ values, |value| ≤ limit) :
    zonotope.Near configuration limit := by
  refine ⟨coefficients, hadmits, fun axis haxis => ?_⟩
  rw [← hvalues axis haxis]
  exact hwithin _ (getD_mem (hlength ▸ haxis))

theorem withinLimit_iff {limit : K} {values : List K} :
    withinLimit limit values = true ↔ ∀ value ∈ values, |value| ≤ limit := by
  unfold withinLimit
  simp only [List.all_eq_true, ExactScalar.le_iff, ExactScalar.abs_eq]

theorem maximumResidual_le_iff {limit : K} {values : List K} :
    maximumResidual values ≤ limit
      ↔ 0 ≤ limit ∧ ∀ value ∈ values, |value| ≤ limit := by
  unfold maximumResidual
  simp only [ExactScalar.max_eq, ExactScalar.abs_eq, ExactScalar.zero_eq]
  exact foldl_max_le

/-- An answer `true` has coefficients to show. -/
theorem near_of_contains {tolerance : K} {maximumIterations : Nat}
    (h : zonotopeContains zonotope configuration tolerance maximumIterations
      = .ok true) :
    zonotope.Near configuration
      (Scalar.mul tolerance (queryScale configuration)) := by
  have hinitial : Consistent zonotope configuration
    (initialDescent zonotope configuration) := consistent_initial
  obtain ⟨hturns, -, haccepts⟩ := hinitial.along_descend
    (Scalar.mul tolerance (queryScale configuration)) maximumIterations
  unfold zonotopeContains at h
  obtain ⟨_, -, h⟩ := bind_eq_ok.mp h
  by_cases hoptions : Scalar.isFinite tolerance = false
      ∨ Scalar.lt tolerance Scalar.zero = true ∨ maximumIterations = 0
      ∨ kMaximumMembershipIterations < maximumIterations
  · rw [if_pos hoptions] at h
    cases h
  rw [if_neg hoptions] at h
  obtain ⟨total, htotal⟩ : ∃ total, total
      = (List.range zonotope.generatorCount).foldl (fun total generator =>
        Scalar.add total (generatorNorm zonotope generator)) Scalar.zero :=
    ⟨_, rfl⟩
  dsimp only at h
  rw [← htotal] at h
  by_cases hshort : zonotope.generatorCount = 0
      ∨ Scalar.lt Scalar.zero total = false
  · -- without a generator that is not zero, zeros are the coefficients
    rw [if_pos hshort] at h
    refine near_of_withinLimit admits_zero (@delta_length _ _ zonotope configuration)
      ?_ (withinLimit_iff.mp (Except.ok.inj h))
    intro axis haxis
    rw [delta_getD haxis, point_zero]
  rw [if_neg hshort] at h
  by_cases haccepted :
      (search zonotope configuration tolerance maximumIterations).2 = true
  · -- the residual of the search itself is small
    obtain ⟨last, hlast, hsmall⟩ := haccepts haccepted
    exact near_of_withinLimit hlast.admits hlast.residual_length hlast.residual_eq
      (maximumResidual_le_iff.mp hsmall).2
  · -- the residual is computed once more, of the last coefficients
    rw [if_neg haccepted] at h
    have hlast := List.forall_mem_cons.mpr ⟨hinitial, hturns⟩ _
      (getLastD_mem_cons (initialDescent zonotope configuration)
        (search zonotope configuration tolerance maximumIterations).1)
    refine near_of_withinLimit hlast.admits ?_
      (fun axis haxis => finalResidual_getD _ haxis)
      (withinLimit_iff.mp (Except.ok.inj h))
    unfold finalResidual
    rw [List.length_map, List.length_range]

/-- **Membership never accepts an outside point.** -/
theorem zonotopeContains_sound (zonotope : CspaceZonotope K)
    (configuration : List K) (tolerance : K) (maximumIterations : Nat)
    {answer : Bool}
    (h : zonotopeContains zonotope configuration tolerance maximumIterations
      = .ok answer) :
    let run := initialDescent zonotope configuration
      :: (search zonotope configuration tolerance maximumIterations).1
    (∀ descent ∈ run, Consistent zonotope configuration descent)
    ∧ run.IsChain (fun before after => after.squaredNorm ≤ before.squaredNorm)
    ∧ (answer = true → ∃ coefficients, zonotope.Admits coefficients
      ∧ ∀ axis < zonotope.dimension,
        |configuration.getD axis 0 - zonotope.point coefficients axis|
          ≤ tolerance * (configuration.map abs).foldr max 1) := by
  have hinitial : Consistent zonotope configuration
    (initialDescent zonotope configuration) := consistent_initial
  obtain ⟨hturns, hchain, -⟩ := hinitial.along_descend
    (Scalar.mul tolerance (queryScale configuration)) maximumIterations
  refine ⟨List.forall_mem_cons.mpr ⟨hinitial, hturns⟩, hchain, ?_⟩
  intro htrue
  subst htrue
  have hnear := near_of_contains h
  rw [ExactScalar.mul_eq, queryScale_eq] at hnear
  exact hnear

/-- Exact arithmetic of fractions. -/
@[reducible] def fractionTubes : TubeScalar ℚ :=
  { exactScalar ℚ with
    sqrt := fun x => mkRat x.num.toNat.sqrt x.den.sqrt
    json := fun _ => .null
    nextBelow := id
    nextAbove := id
    epsilon := 1 / 2 ^ 52 }

omit [Field K] [LinearOrder K] [IsStrictOrderedRing K] [TubeScalar K]
  [ExactScalar K] in
/-- The middle of half a segment. -/
theorem zonotopeContains_sound_segment :
    ∃ coefficients, CspaceZonotope.Admits ⟨[(0 : ℚ)], 1, [2]⟩ coefficients
      ∧ ∀ axis < 1, |([1] : List ℚ).getD axis 0
        - CspaceZonotope.point ⟨[0], 1, [2]⟩ coefficients axis| ≤ 0 := by
  let := fractionTubes
  have := exactScalar_exact ℚ
  have hcontains : zonotopeContains ⟨[0], 1, [2]⟩ [(1 : ℚ)] 0 2 = .ok true := by
    decide +kernel
  obtain ⟨-, -, hnear⟩ := @zonotopeContains_sound ℚ _ _ _ fractionTubes
    (exactScalar_exact ℚ) ⟨[0], 1, [2]⟩ [1] 0 2 true hcontains
  obtain ⟨coefficients, hadmits, hwithin⟩ := hnear rfl
  refine ⟨coefficients, hadmits, fun axis haxis => ?_⟩
  have hle := hwithin axis haxis
  rwa [zero_mul] at hle

-- === regions

section
omit [LinearOrder K] [IsStrictOrderedRing K] [TubeScalar K] [ExactScalar K]

theorem getD_append {values others : List K} (k : Nat) :
    (values ++ others).getD k 0 = if k < values.length then values.getD k 0
      else others.getD (k - values.length) 0 := by
  simp only [List.getD_eq_getElem?_getD, List.getElem?_append]
  split <;> rfl

/-- One generator more adds its multiple to the point. -/
theorem point_append {row : List K} (hsize : zonotope.generators.length
      = zonotope.generatorCount * zonotope.dimension)
    (coefficients : List K) {axis : Nat} (haxis : axis < zonotope.dimension) :
    CspaceZonotope.point { zonotope with
        generatorCount := zonotope.generatorCount + 1
        generators := zonotope.generators ++ row } coefficients axis
      = zonotope.point coefficients axis
        + coefficients.getD zonotope.generatorCount 0 * row.getD axis 0 := by
  have hentry : ∀ k < zonotope.generatorCount,
      (zonotope.generators ++ row).getD (k * zonotope.dimension + axis) 0
        = zonotope.generators.getD (k * zonotope.dimension + axis) 0 := by
    intro k hk
    have hrow : k * zonotope.dimension + axis < zonotope.generators.length := by
      have hmul := Nat.mul_le_mul_right zonotope.dimension (Nat.succ_le_of_lt hk)
      rw [Nat.succ_mul] at hmul
      omega
    rw [getD_append, if_pos hrow]
  have hlast : (zonotope.generators ++ row).getD
      (zonotope.generatorCount * zonotope.dimension + axis) 0 = row.getD axis 0 := by
    rw [getD_append, if_neg (by omega), hsize, Nat.add_sub_cancel_left]
  show zonotope.center.getD axis 0 + ∑ k ∈ Finset.range (zonotope.generatorCount + 1),
    coefficients.getD k 0 * (zonotope.generators ++ row).getD
      (k * zonotope.dimension + axis) 0 = _
  rw [Finset.sum_range_succ, hlast, ← add_assoc]
  unfold CspaceZonotope.point
  rw [Finset.sum_congr rfl fun k hk => by rw [hentry k (Finset.mem_range.mp hk)]]

end

namespace CspaceTaylorRegion

variable {region : CspaceTaylorRegion K}

/-- A coordinate of the point that coefficients and a remainder denote. -/
def point (region : CspaceTaylorRegion K) (coefficients : List K)
    (remainder : Nat → K) (axis : Nat) : K :=
  CspaceZonotope.point ⟨region.center, region.variableCount, region.linear⟩
    coefficients axis + remainder axis

/-- A zonotope whose points are those of a region, of which only the first
remainders count. -/
structure Unfolds (region : CspaceTaylorRegion K) (joints : Nat)
    (zonotope : CspaceZonotope K) : Prop where
  center : zonotope.center = region.center
  size : zonotope.generators.length = zonotope.generatorCount * zonotope.dimension
  least : region.variableCount ≤ zonotope.generatorCount
  points : ∀ coefficients, (∀ c ∈ coefficients, -1 ≤ c ∧ c ≤ 1) →
    ∃ remainder : Nat → K,
      (∀ joint, |remainder joint| ≤ |region.remainderRadii.getD joint 0|)
      ∧ (∀ joint, joints ≤ joint → remainder joint = 0)
      ∧ ∀ axis < region.dimension, zonotope.point coefficients axis
        = region.point coefficients remainder axis

theorem Unfolds.append {joint : Nat} (h : region.Unfolds joint zonotope)
    (hjoint : joint < region.dimension) :
    region.Unfolds (joint + 1) (region.appendRemainder zonotope joint) := by
  have hdimension : zonotope.dimension = region.dimension := by
    unfold CspaceZonotope.dimension dimension
    rw [h.center]
  unfold appendRemainder
  by_cases hzero : region.remainderRadii.getD joint Scalar.zero = 0
  · rw [if_pos (by rw [ExactScalar.eq_iff, ExactScalar.zero_eq] at *; exact hzero)]
    refine ⟨h.center, h.size, h.least, fun coefficients hbounds => ?_⟩
    obtain ⟨remainder, hsmall, hrest, hpoint⟩ := h.points coefficients hbounds
    exact ⟨remainder, hsmall, fun k hk => hrest k (Nat.le_of_succ_le hk), hpoint⟩
  · rw [if_neg (by rw [ExactScalar.eq_iff, ExactScalar.zero_eq] at *; exact hzero)]
    rw [ExactScalar.zero_eq]
    refine ⟨h.center, ?_, h.least.trans (Nat.le_succ _), fun coefficients hbounds => ?_⟩
    · show (zonotope.generators ++ _).length
        = (zonotope.generatorCount + 1) * zonotope.dimension
      rw [List.length_append, h.size, List.length_map, List.length_range,
        Nat.succ_mul, hdimension]
    · obtain ⟨remainder, hsmall, hrest, hpoint⟩ := h.points coefficients hbounds
      have hcoefficient : |coefficients.getD zonotope.generatorCount 0| ≤ 1 := by
        by_cases hlength : zonotope.generatorCount < coefficients.length
        · exact abs_le.mpr (hbounds _ (getD_mem hlength))
        · rw [List.getD_eq_getElem?_getD, List.getElem?_eq_none (not_lt.mp hlength)]
          simp
      refine ⟨Function.update remainder joint
        (coefficients.getD zonotope.generatorCount 0
          * region.remainderRadii.getD joint 0), ?_, ?_, ?_⟩
      · intro k
        by_cases hk : k = joint
        · subst hk
          rw [Function.update_self, abs_mul]
          exact mul_le_of_le_one_left (abs_nonneg _) hcoefficient
        · rw [Function.update_of_ne hk]
          exact hsmall k
      · intro k hk
        rw [Function.update_of_ne (by omega)]
        exact hrest k (by omega)
      · intro axis haxis
        rw [point_append h.size coefficients (hdimension ▸ haxis),
          hpoint axis haxis, getD_map_range _ haxis]
        unfold point
        by_cases hk : axis = joint
        · subst hk
          rw [if_pos rfl, Function.update_self, hrest axis (le_refl axis), add_zero]
        · rw [if_neg hk, Function.update_of_ne hk, mul_zero, add_zero]

theorem unfolds_asZonotope
    (hsize : region.linear.length = region.variableCount * region.dimension) :
    ∀ joints ≤ region.dimension, region.Unfolds joints
      ((List.range joints).foldl (appendRemainder region)
        ⟨region.center, region.variableCount, region.linear⟩) := by
  intro joints
  induction joints with
  | zero =>
      intro _
      refine ⟨rfl, hsize, le_refl _, fun coefficients _ => ⟨fun _ => 0, ?_, ?_, ?_⟩⟩
      · intro joint
        rw [abs_zero]
        exact abs_nonneg _
      · exact fun _ _ => rfl
      · exact fun axis _ => (add_zero _).symm
  | succ joints ih =>
      intro hle
      rw [List.range_succ, List.foldl_append]
      exact (ih (Nat.le_of_succ_le hle)).append hle

/-- **A Taylor region never accepts an outside point**: what it accepts is
within the tolerance of a point of its linear part and a remainder that its
radii bound. -/
theorem taylorContains_sound {tolerance : K} {maximumIterations : Nat}
    (h : region.contains configuration tolerance maximumIterations = .ok true) :
    ∃ (coefficients : List K) (remainder : Nat → K),
      (∀ c ∈ coefficients, -1 ≤ c ∧ c ≤ 1)
      ∧ region.variableCount ≤ coefficients.length
      ∧ (∀ joint, |remainder joint| ≤ |region.remainderRadii.getD joint 0|)
      ∧ ∀ axis < region.dimension,
        |configuration.getD axis 0 - region.point coefficients remainder axis|
          ≤ tolerance * (configuration.map abs).foldr max 1 := by
  unfold contains at h
  by_cases hvalid : region.valid = false
  · rw [if_pos hvalid] at h
    cases h
  rw [if_neg hvalid] at h
  obtain ⟨_, -, h⟩ := bind_eq_ok.mp h
  by_cases hbox : region.enclosingAabb.contains configuration tolerance = false
  · rw [if_pos hbox] at h
    cases h
  rw [if_neg hbox] at h
  have hsize : region.linear.length = region.variableCount * region.dimension := by
    unfold valid at hvalid
    simp only [Bool.not_eq_false, Bool.and_eq_true, decide_eq_true_eq] at hvalid
    exact hvalid.1.1.1.2
  have hunfolds := unfolds_asZonotope hsize region.dimension (le_refl _)
  obtain ⟨coefficients, hadmits, hnear⟩ := HigherOrder.near_of_contains h
  obtain ⟨remainder, hsmall, -, hpoint⟩ :=
    hunfolds.points coefficients hadmits.bounds
  have hdimension : region.asZonotope.dimension = region.dimension := by
    unfold CspaceZonotope.dimension dimension
    exact congrArg List.length hunfolds.center
  refine ⟨coefficients, remainder, hadmits.bounds, ?_, hsmall, fun axis haxis => ?_⟩
  · rw [hadmits.length]
    exact hunfolds.least
  · have hle := hnear axis (hdimension ▸ haxis)
    rw [ExactScalar.mul_eq, queryScale_eq] at hle
    rw [← hpoint axis haxis]
    exact hle

omit [Field K] [LinearOrder K] [IsStrictOrderedRing K] [TubeScalar K]
  [ExactScalar K] in
/-- A segment with a remainder, and a point that only the remainder reaches. -/
theorem taylorContains_sound_remainder :
    ∃ (coefficients : List ℚ) (remainder : Nat → ℚ),
      (∀ c ∈ coefficients, -1 ≤ c ∧ c ≤ 1)
      ∧ (∀ joint, |remainder joint| ≤ |([1] : List ℚ).getD joint 0|)
      ∧ ∀ axis < 1, |([3] : List ℚ).getD axis 0
        - CspaceTaylorRegion.point ⟨[0], 1, [2], [1]⟩ coefficients remainder axis|
          ≤ 0 := by
  let := fractionTubes
  have := exactScalar_exact ℚ
  have hcontains : CspaceTaylorRegion.contains ⟨[0], 1, [2], [1]⟩ [(3 : ℚ)] 0 8
      = .ok true := by
    decide +kernel
  obtain ⟨coefficients, remainder, hbounds, -, hsmall, hnear⟩ :=
    @CspaceTaylorRegion.taylorContains_sound ℚ _ _ _ fractionTubes (exactScalar_exact ℚ)
      [3] ⟨[0], 1, [2], [1]⟩ 0 8 hcontains
  refine ⟨coefficients, remainder, hbounds, hsmall, fun axis haxis => ?_⟩
  have hle := hnear axis haxis
  rwa [zero_mul] at hle

end CspaceTaylorRegion

end RbfSafe.HigherOrder
