/-
A tube covers its segment.

Over the reals the completion of the code is that of the library, vector
by vector (`map_completeAxis`), so that it always ends with a full frame.
The rest is geometry: the coordinates of a configuration along the axes
of the frame (`coordinate_eq`) decide whether the box contains it, and a
configuration is the sum of its coordinates, which bounds each of its
entries by the radius of the enclosing box.
-/
import RbfSafe.Corridor.Obb
import RbfSafe.Core.Exact
import RbfSafe.Lib.GramSchmidt
import Mathlib.LinearAlgebra.Matrix.DotProduct

namespace RbfSafe.Corridor

open Lib Matrix

/-- Exact arithmetic with the real root, the `epsilon` of a double, and
neighbours on either side. -/
class ExactTubes [TubeScalar ℝ] : Prop extends ExactScalar ℝ where
  sqrt_eq : ∀ x : ℝ, MetricScalar.sqrt x = √x
  epsilon_eq : (TubeScalar.epsilon : ℝ) = 1 / 2 ^ 52
  nextBelow_le : ∀ x : ℝ, TubeScalar.nextBelow x ≤ x
  le_nextAbove : ∀ x : ℝ, x ≤ TubeScalar.nextAbove x

/-- The real numbers. -/
@[reducible] noncomputable def realTubes : TubeScalar ℝ :=
  { exactScalar ℝ with
    sqrt := Real.sqrt
    json := fun _ => .null
    nextBelow := id
    nextAbove := id
    epsilon := 1 / ((2 ^ 52 : Nat) : ℝ) }

theorem exact_realTubes : @ExactTubes realTubes := by
  have hepsilon : realTubes.epsilon = 1 / 2 ^ 52 := by
    show (1 : ℝ) / ((2 ^ 52 : Nat) : ℝ) = 1 / 2 ^ 52
    norm_num
  exact @ExactTubes.mk realTubes (exactScalar_exact ℝ) (fun _ => rfl) hepsilon
    (fun _ => le_refl _) fun _ => le_refl _

-- === vectors

/-- The entries of a list. -/
def vec (n : Nat) (values : List ℝ) : GramSchmidt.Vec n :=
  fun i => values.getD i 0

theorem foldl_range (f : Nat → ℝ) (n : Nat) :
    (List.range n).foldl (fun sum i => sum + f i) 0 = ∑ i : Fin n, f i := by
  rw [ExactScalar.foldl_add_range, zero_add, Finset.sum_range]

theorem foldl_zip {n : Nat} : ∀ {first second : List ℝ} (start : ℝ),
    first.length = n → second.length = n →
      (first.zip second).foldl (fun sum p => sum + p.1 * p.2) start
        = start + vec n first ⬝ᵥ vec n second := by
  induction n with
  | zero =>
      intro first second start hfirst hsecond
      rw [List.length_eq_zero_iff.mp hfirst]
      show start = start + ∑ i : Fin 0, _
      rw [Finset.univ_eq_empty, Finset.sum_empty, add_zero]
  | succ n ih =>
      intro first second start hfirst hsecond
      obtain ⟨x, first, rfl⟩ := List.exists_cons_of_length_eq_add_one hfirst
      obtain ⟨y, second, rfl⟩ := List.exists_cons_of_length_eq_add_one hsecond
      have hrest := ih (start + x * y) (Nat.succ.inj hfirst) (Nat.succ.inj hsecond)
      rw [List.zip_cons_cons, List.foldl_cons, hrest, add_assoc]
      congr 1
      exact (Fin.sum_univ_succ fun i =>
        vec (n + 1) (x :: first) i * vec (n + 1) (y :: second) i).symm

/-- Two lists of one length, entry by entry. -/
theorem vec_zip_map {n : Nat} {first second : List ℝ}
    (hfirst : first.length = n) (hsecond : second.length = n) (f : ℝ × ℝ → ℝ)
    (i : Fin n) :
    vec n ((first.zip second).map f) i = f (vec n first i, vec n second i) := by
  have h₁ : i.val < first.length := by omega
  have h₂ : i.val < second.length := by omega
  have hzip : (first.zip second)[i.val]? = some (first[i.val], second[i.val]) := by
    rw [List.getElem?_zip_eq_some]
    exact ⟨List.getElem?_eq_getElem h₁, List.getElem?_eq_getElem h₂⟩
  unfold vec
  simp only [List.getD_eq_getElem?_getD, List.getElem?_map,
    List.getElem?_eq_getElem h₁, List.getElem?_eq_getElem h₂, hzip,
    Option.map_some, Option.getD_some]

/-- A list is the list of its entries. -/
theorem eq_map_getD {values : List ℝ} {n : Nat} (h : values.length = n) :
    values = (List.range n).map fun i => values.getD i 0 := by
  apply List.ext_getElem?
  intro i
  rw [List.getElem?_map]
  by_cases hi : i < n
  · rw [List.getElem?_range hi, List.getElem?_eq_getElem (h ▸ hi)]
    show _ = some (values.getD i 0)
    rw [List.getD_eq_getElem?_getD, List.getElem?_eq_getElem (h ▸ hi)]
    rfl
  · rw [List.getElem?_eq_none (by omega),
      List.getElem?_eq_none (by rw [List.length_range]; omega)]
    rfl

/-- The entries of rows of one length. -/
theorem getD_flatten {n : Nat} {rows : List (List ℝ)}
    (hrows : ∀ row ∈ rows, row.length = n) {column : Nat} (hcolumn : column < n) :
    ∀ {index : Nat}, rows.flatten.getD (index * n + column) 0
      = (rows.getD index []).getD column 0 := by
  induction rows with
  | nil =>
      intro index
      rfl
  | cons row rows ih =>
      intro index
      have hrow := hrows row List.mem_cons_self
      have hrest := fun index =>
        @ih (fun r hr => hrows r (List.mem_cons_of_mem _ hr)) index
      rw [List.flatten_cons, List.getD_eq_getElem?_getD]
      cases index with
      | zero =>
          rw [Nat.zero_mul, Nat.zero_add, List.getElem?_append_left (by omega),
            List.getD_cons_zero, List.getD_eq_getElem?_getD]
      | succ index =>
          have hsub : (index + 1) * n + column - row.length = index * n + column := by
            rw [Nat.succ_mul, hrow]
            omega
          rw [List.getElem?_append_right (by rw [hrow, Nat.succ_mul]; omega),
            hsub, List.getD_cons_succ, ← hrest, List.getD_eq_getElem?_getD]

variable [TubeScalar ℝ] [ExactTubes]

theorem projection_eq {n : Nat} {candidate existing : List ℝ}
    (hcandidate : candidate.length = n) (hexisting : existing.length = n) :
    projection candidate existing = vec n candidate ⬝ᵥ vec n existing := by
  unfold projection
  simp only [ExactScalar.zero_eq, ExactScalar.add_eq, ExactScalar.mul_eq]
  rw [foldl_zip 0 hcandidate hexisting, zero_add]

theorem normSquared_eq {n : Nat} {vector : List ℝ} (h : vector.length = n) :
    normSquared vector = vec n vector ⬝ᵥ vec n vector := by
  have hzip : normSquared vector = projection vector vector := by
    unfold normSquared projection
    generalize (Scalar.zero : ℝ) = start
    clear h
    induction vector generalizing start with
    | nil => rfl
    | cons x vector ih => exact ih _
  rw [hzip, projection_eq h h]

-- === completing

/-- The projections of the code are those of the library. -/
theorem vec_orthogonalized {n : Nat} : ∀ {vectors : List (List ℝ)}
    {candidate : List ℝ}, (∀ v ∈ vectors, v.length = n) → candidate.length = n →
      (orthogonalized vectors candidate).length = n
        ∧ vec n (orthogonalized vectors candidate)
          = GramSchmidt.residual (vectors.map (vec n)) (vec n candidate) := by
  intro vectors
  induction vectors with
  | nil => exact fun _ hcandidate => ⟨hcandidate, rfl⟩
  | cons existing vectors ih =>
      intro candidate hvectors hcandidate
      have hexisting := hvectors existing List.mem_cons_self
      have hlength : ((candidate.zip existing).map fun p =>
          Scalar.sub p.1 (Scalar.mul (projection candidate existing) p.2)).length
            = n := by
        rw [List.length_map, List.length_zip, hcandidate, hexisting, Nat.min_self]
      have hvec : vec n ((candidate.zip existing).map fun p =>
          Scalar.sub p.1 (Scalar.mul (projection candidate existing) p.2))
            = vec n candidate
              - (vec n candidate ⬝ᵥ vec n existing) • vec n existing := by
        funext i
        rw [vec_zip_map hcandidate hexisting, ExactScalar.sub_eq,
          ExactScalar.mul_eq, projection_eq hcandidate hexisting]
        rfl
      obtain ⟨hrest, hresidual⟩ :=
        ih (fun v hv => hvectors v (List.mem_cons_of_mem _ hv)) hlength
      rw [hvec] at hresidual
      exact ⟨hrest, hresidual⟩

/-- The threshold of the completion. -/
noncomputable def threshold : ℝ := 256 * TubeScalar.epsilon

omit [TubeScalar ℝ] [ExactTubes] in
theorem length_mem_append {n : Nat} {vectors : List (List ℝ)} {v : List ℝ}
    (hvectors : ∀ v ∈ vectors, v.length = n) (hv : v.length = n) :
    ∀ w ∈ vectors ++ [v], w.length = n := by
  intro w hw
  rcases List.mem_append.mp hw with hw | hw
  · exact hvectors w hw
  · rw [List.mem_singleton.mp hw, hv]

/-- One axis of the code is one axis of the library. -/
theorem map_completeAxis {n : Nat} {vectors : List (List ℝ)}
    (hvectors : ∀ v ∈ vectors, v.length = n) (i : Fin n) :
    (∀ v ∈ completeAxis n vectors i, v.length = n)
      ∧ (completeAxis n vectors i).map (vec n)
        = GramSchmidt.extend threshold (vectors.map (vec n)) i := by
  have haxis : vec n ((List.replicate n Scalar.zero).set i Scalar.one)
      = GramSchmidt.axis i := by
    funext j
    unfold vec GramSchmidt.axis
    rw [List.getD_eq_getElem?_getD, List.getElem?_set, List.getElem?_replicate,
      List.length_replicate, ExactScalar.one_eq, ExactScalar.zero_eq,
      Pi.single_apply]
    by_cases hij : i = j
    · rw [if_pos (congrArg Fin.val hij), if_pos i.isLt, if_pos hij.symm]
      rfl
    · rw [if_neg fun h => hij (Fin.ext h), if_pos j.isLt,
        if_neg fun h => hij h.symm]
      rfl
  obtain ⟨hlength, hresidual⟩ := vec_orthogonalized hvectors
    (show ((List.replicate n Scalar.zero).set i Scalar.one).length = n by
      rw [List.length_set, List.length_replicate])
  rw [haxis] at hresidual
  unfold completeAxis GramSchmidt.extend
  rw [List.length_map]
  by_cases hfull : vectors.length < n
  · rw [if_pos hfull, if_pos hfull]
    dsimp only
    rw [← hresidual, ← normSquared_eq hlength]
    have hthreshold : (Scalar.mul (Scalar.decimal 256 0) TubeScalar.epsilon : ℝ)
        = threshold := by
      rw [ExactScalar.mul_eq, ExactScalar.decimal_eq]
      unfold threshold
      norm_num
    rw [hthreshold]
    by_cases hskip : normSquared (orthogonalized vectors
        ((List.replicate n Scalar.zero).set i Scalar.one)) ≤ threshold
    · rw [if_pos ((ExactScalar.le_iff _ _).mpr hskip), if_pos hskip]
      exact ⟨hvectors, rfl⟩
    · rw [if_neg (mt (ExactScalar.le_iff _ _).mp hskip), if_neg hskip]
      refine ⟨length_mem_append hvectors (by rw [List.length_map, hlength]), ?_⟩
      rw [List.map_append, List.map_singleton]
      congr 2
      funext j
      have hj : j.val < (orthogonalized vectors
          ((List.replicate n Scalar.zero).set i Scalar.one)).length := by omega
      unfold vec
      rw [List.getD_eq_getElem?_getD, List.getElem?_map,
        List.getD_eq_getElem?_getD, List.getElem?_eq_getElem hj,
        ExactTubes.sqrt_eq]
      exact ExactScalar.div_eq _ _
  · rw [if_neg hfull, if_neg hfull]
    exact ⟨hvectors, rfl⟩

/-- The completion of the code is that of the library. -/
theorem map_completed {n : Nat} {vectors : List (List ℝ)}
    (hvectors : ∀ v ∈ vectors, v.length = n) :
    (∀ v ∈ (List.range n).foldl (completeAxis n) vectors, v.length = n)
      ∧ ((List.range n).foldl (completeAxis n) vectors).map (vec n)
        = (List.finRange n).foldl (GramSchmidt.extend threshold)
          (vectors.map (vec n)) := by
  rw [← List.map_coe_finRange_eq_range, List.foldl_map]
  generalize List.finRange n = axes
  induction axes generalizing vectors with
  | nil => exact ⟨hvectors, rfl⟩
  | cons i axes ih =>
      obtain ⟨hlengths, hmap⟩ := map_completeAxis hvectors i
      obtain ⟨hrest, hrun⟩ := ih hlengths
      rw [hmap] at hrun
      exact ⟨hrest, hrun⟩

-- === the box read

/-- An oriented box whose axes are a full frame. -/
structure Framed (n : Nat) (vs : List (GramSchmidt.Vec n)) (obb : CspaceObb ℝ) :
    Prop where
  frame : GramSchmidt.Frame vs
  full : vs.length = n
  nonempty : 0 < n
  dimension : obb.center.length = n
  halves : obb.halfWidths.length = n
  square : obb.basis.length = n * n
  entry : ∀ a c : Fin n, obb.entry a c = GramSchmidt.row vs a c
  nonneg : ∀ half ∈ obb.halfWidths, 0 ≤ half

variable {n : Nat} {vs : List (GramSchmidt.Vec n)} {obb : CspaceObb ℝ}

omit [ExactTubes] in
/-- The sum over the entries of two axes. -/
theorem Framed.dot_axes (h : Framed n vs obb) (a b : Fin n) :
    ∑ c : Fin n, obb.entry a c * obb.entry b c = if a = b then 1 else 0 := by
  rw [← h.frame.row_dotProduct h.full a b]
  exact Finset.sum_congr rfl fun c _ => by rw [h.entry, h.entry]

theorem Framed.valid (h : Framed n vs obb) : obb.valid = true := by
  have hdimension : obb.dimension = n := h.dimension
  have hshape : ¬(n = 0 ∨ obb.halfWidths.length ≠ n ∨ obb.basis.length ≠ n * n) := by
    rintro (hzero | hhalves | hsquare)
    · exact h.nonempty.ne' hzero
    · exact hhalves h.halves
    · exact hsquare h.square
  have hfinite : (obb.center.all Scalar.isFinite
      && obb.halfWidths.all (fun value =>
        Scalar.isFinite value && Scalar.le Scalar.zero value)
      && obb.basis.all Scalar.isFinite) = true := by
    simp only [Bool.and_eq_true, List.all_eq_true]
    refine ⟨⟨fun x _ => ExactScalar.isFinite_eq x, fun x hx => ?_⟩,
      fun x _ => ExactScalar.isFinite_eq x⟩
    rw [ExactScalar.le_iff, ExactScalar.zero_eq]
    exact ⟨ExactScalar.isFinite_eq x, h.nonneg x hx⟩
  unfold CspaceObb.valid
  dsimp only
  rw [hdimension, if_neg hshape, hfinite]
  show List.all _ _ = true
  simp only [List.all_eq_true, List.mem_range, List.mem_range'_1,
    Bool.not_eq_true']
  intro left hleft right hright
  have hdot := h.dot_axes ⟨left, hleft⟩ ⟨right, by omega⟩
  simp only [ExactScalar.zero_eq, ExactScalar.add_eq, ExactScalar.mul_eq,
    ExactScalar.one_eq, ExactScalar.sub_eq]
  rw [foldl_range fun c => obb.entry left c * obb.entry right c, hdot]
  simp only [Fin.mk.injEq, sub_self, ExactScalar.abs_eq, abs_zero]
  rw [ExactScalar.lt_eq, decide_eq_false_iff_not, not_lt, ExactScalar.decimal_eq]
  unfold orthonormalTolerance
  rw [ExactScalar.decimal_eq]
  positivity

/-- A coordinate along an axis is a product with it. -/
theorem Framed.coordinate_eq (h : Framed n vs obb) (x : List ℝ) (a : Fin n) :
    obb.coordinate x a
      = GramSchmidt.row vs a ⬝ᵥ (vec n x - vec n obb.center) := by
  have hdimension : obb.dimension = n := h.dimension
  unfold CspaceObb.coordinate
  simp only [ExactScalar.zero_eq, ExactScalar.add_eq, ExactScalar.mul_eq,
    ExactScalar.sub_eq]
  rw [hdimension, foldl_range fun i =>
    obb.entry a i * (x.getD i 0 - obb.center.getD i 0)]
  exact Finset.sum_congr rfl fun c _ => by rw [h.entry]; rfl

/-- A box contains a configuration if each coordinate is within its half
width. -/
theorem Framed.contains_iff (h : Framed n vs obb) (x : List ℝ) :
    obb.contains x Scalar.zero = true
      ↔ x.length = n ∧ ∀ a : Fin n,
        |obb.coordinate x a| ≤ obb.halfWidths.getD a 0 := by
  have hdimension : obb.dimension = n := h.dimension
  have hfinite : x.all Scalar.isFinite = true :=
    List.all_eq_true.mpr fun y _ => ExactScalar.isFinite_eq y
  have hzero : (Scalar.lt (Scalar.zero : ℝ) Scalar.zero) = false := by
    rw [ExactScalar.lt_eq, decide_eq_false_iff_not]
    exact lt_irrefl _
  unfold CspaceObb.contains
  rw [h.valid, hdimension, hfinite, ExactScalar.isFinite_eq, hzero]
  by_cases hlength : x.length = n
  · simp only [hlength, ne_eq, not_true_eq_false, decide_false, Bool.not_true,
      Bool.or_self, Bool.false_eq_true, if_false, true_and, List.all_eq_true,
      List.mem_range, Bool.not_eq_true', ExactScalar.add_eq, ExactScalar.zero_eq,
      add_zero, ExactScalar.abs_eq]
    constructor
    · intro hall a
      have ha := hall a a.isLt
      rw [ExactScalar.lt_eq, decide_eq_false_iff_not, not_lt] at ha
      exact ha
    · intro hall a ha
      rw [ExactScalar.lt_eq, decide_eq_false_iff_not, not_lt]
      exact hall ⟨a, ha⟩
  · simp only [hlength, ne_eq, not_false_eq_true, decide_true, Bool.not_true,
      Bool.false_or, Bool.true_or, if_true, Bool.false_eq_true, false_and]

/-- The radius of the enclosing box along an axis of the space. -/
def radius (n : Nat) (obb : CspaceObb ℝ) (c : Nat) : ℝ :=
  ∑ a : Fin n, |obb.entry a c| * obb.halfWidths.getD a 0

/-- What a box contains lies within the radius of its center. -/
theorem Framed.near_center (h : Framed n vs obb) {x : List ℝ}
    (hx : obb.contains x Scalar.zero = true) (c : Fin n) :
    |x.getD c 0 - obb.center.getD c 0| ≤ radius n obb c := by
  obtain ⟨-, hcoordinates⟩ := (h.contains_iff x).mp hx
  have hexpand := h.frame.expand h.full (vec n x - vec n obb.center) c
  have hentry : x.getD c 0 - obb.center.getD c 0
      = ∑ a : Fin n, obb.coordinate x a * obb.entry a c := by
    refine hexpand.trans (Finset.sum_congr rfl fun a _ => ?_)
    rw [h.coordinate_eq, h.entry]
  rw [hentry]
  refine (Finset.abs_sum_le_sum_abs _ _).trans (Finset.sum_le_sum fun a _ => ?_)
  rw [abs_mul, mul_comm]
  exact mul_le_mul_of_nonneg_left (hcoordinates a) (abs_nonneg _)

/-- The enclosing box contains the box. -/
theorem Framed.enclosed (h : Framed n vs obb) {x : List ℝ}
    (hx : obb.contains x Scalar.zero = true) :
    obb.enclosingAabb.contains x Scalar.zero = true := by
  have hdimension : obb.dimension = n := h.dimension
  obtain ⟨hlength, -⟩ := (h.contains_iff x).mp hx
  have haxes : obb.enclosingAabb = ⟨(List.range n).map fun c =>
      { lower := TubeScalar.nextBelow (obb.center.getD c 0 - radius n obb c)
        upper := TubeScalar.nextAbove (obb.center.getD c 0 + radius n obb c) }⟩ := by
    unfold CspaceObb.enclosingAabb
    rw [h.valid, hdimension]
    simp only [Bool.not_true, Bool.false_eq_true, if_false, ExactScalar.zero_eq,
      ExactScalar.add_eq, ExactScalar.sub_eq, ExactScalar.mul_eq, ExactScalar.abs_eq]
    simp only [foldl_range fun a => |obb.entry a _| * obb.halfWidths.getD a 0]
    rfl
  unfold CspaceAabb.contains
  rw [haxes, List.length_map, List.length_range, hlength, beq_self_eq_true,
    Bool.true_and]
  conv_lhs => rw [eq_map_getD hlength]
  rw [List.zip_map', List.all_map, List.all_eq_true]
  intro c hc
  have hnear := abs_le.mp (h.near_center hx ⟨c, List.mem_range.mp hc⟩)
  have hbelow := ExactTubes.nextBelow_le
    (obb.center.getD c 0 - radius n obb c)
  have habove := ExactTubes.le_nextAbove
    (obb.center.getD c 0 + radius n obb c)
  show Interval.contains _ _ _ = true
  unfold Interval.contains
  rw [Bool.and_eq_true, ExactScalar.le_iff, ExactScalar.le_iff,
    ExactScalar.sub_eq, ExactScalar.add_eq, ExactScalar.zero_eq, sub_zero,
    add_zero]
  constructor
  · linarith [hnear.1]
  · linarith [hnear.2]

-- === the tube

/-- From the first endpoint of a segment to the second. -/
def direction (n : Nat) (first second : List ℝ) : GramSchmidt.Vec n :=
  vec n second - vec n first

/-- The length of a segment. -/
noncomputable def segmentLength (first second : List ℝ) : ℝ :=
  √(direction first.length first second ⬝ᵥ direction first.length first second)

/-- What the code makes of a segment. -/
structure Tube (first second : List ℝ) (lateral margin : ℝ)
    (vs : List (GramSchmidt.Vec first.length)) (obb : CspaceObb ℝ) : Prop
    extends Framed first.length vs obb where
  center : ∀ c : Fin first.length,
    obb.center.getD c 0 = (first.getD c 0 + second.getD c 0) / 2
  halfWidths : obb.halfWidths = (List.replicate first.length lateral).set 0
    (if 0 < segmentLength first second then
      segmentLength first second / 2 + margin
    else lateral + margin)
  first_row : 0 < segmentLength first second → vs.head?
    = some fun c => direction first.length first second c
      / segmentLength first second

section
omit [TubeScalar ℝ] [ExactTubes]

/-- A direction of length one is a frame. -/
theorem frame_direction {D : GramSchmidt.Vec n} (h : 0 < √(D ⬝ᵥ D)) :
    GramSchmidt.Frame [fun c => D c / √(D ⬝ᵥ D)] := by
  have hpos : 0 < D ⬝ᵥ D := Real.sqrt_pos.mp h
  have hroot : √(D ⬝ᵥ D) * √(D ⬝ᵥ D) = D ⬝ᵥ D := Real.mul_self_sqrt hpos.le
  have hscale : (fun c => D c / √(D ⬝ᵥ D)) = (√(D ⬝ᵥ D))⁻¹ • D := by
    funext c
    exact div_eq_inv_mul _ _
  apply GramSchmidt.frame_singleton
  rw [hscale, smul_dotProduct, dotProduct_smul, smul_eq_mul, smul_eq_mul,
    ← mul_assoc, ← mul_inv, hroot]
  exact inv_mul_cancel₀ hpos.ne'

theorem direction_eq {first second : List ℝ} (h : first.length = second.length) :
    vec first.length ((first.zip second).map fun p => p.2 - p.1)
      = direction first.length first second := by
  funext c
  exact vec_zip_map rfl h.symm _ c

end

/-- The vectors the completion starts from. -/
theorem start_frame {first second line : List ℝ}
    (hline : line.length = first.length)
    (hvec : vec first.length line = direction first.length first second) :
    let start := if Scalar.lt Scalar.zero (segmentLength first second) then
        [line.map fun value => Scalar.div value (segmentLength first second)]
      else []
    (∀ v ∈ start, v.length = first.length)
      ∧ GramSchmidt.Frame (start.map (vec first.length))
      ∧ (0 < segmentLength first second → (start.map (vec first.length)).head?
        = some fun c => direction first.length first second c
          / segmentLength first second) := by
  intro start
  by_cases hpos : 0 < segmentLength first second
  · have hstart : start = [line.map fun value =>
        Scalar.div value (segmentLength first second)] :=
      if_pos ((ExactScalar.lt_iff _ _).mpr (by rwa [ExactScalar.zero_eq]))
    have hrow : vec first.length (line.map fun value =>
        Scalar.div value (segmentLength first second))
          = fun c => direction first.length first second c
            / segmentLength first second := by
      funext c
      have hc : c.val < line.length := by omega
      have hvalue := congrFun hvec c
      unfold vec at hvalue ⊢
      rw [List.getD_eq_getElem?_getD, List.getElem?_eq_getElem hc] at hvalue
      rw [List.getD_eq_getElem?_getD, List.getElem?_map,
        List.getElem?_eq_getElem hc, ← hvalue]
      exact ExactScalar.div_eq _ _
    rw [hstart, List.map_singleton, hrow]
    refine ⟨fun v hv => ?_, frame_direction hpos, fun _ => rfl⟩
    rw [List.mem_singleton.mp hv, List.length_map, hline]
  · have hstart : start = [] :=
      if_neg (by rw [ExactScalar.lt_iff, ExactScalar.zero_eq]; exact hpos)
    rw [hstart]
    exact ⟨fun v hv => absurd hv List.not_mem_nil, GramSchmidt.frame_nil,
      fun h => absurd h hpos⟩

/-- The half widths of the tube of a segment. -/
theorem halfWidths_eq (first second : List ℝ) (lateral margin : ℝ) :
    (List.replicate first.length lateral).set 0
        (if Scalar.lt Scalar.zero (segmentLength first second) then
          Scalar.add (Scalar.mul Scalar.half (segmentLength first second)) margin
        else Scalar.add lateral margin)
      = (List.replicate first.length lateral).set 0
        (if 0 < segmentLength first second then
          segmentLength first second / 2 + margin
        else lateral + margin) := by
  have hhalf : (Scalar.mul Scalar.half (segmentLength first second) : ℝ)
      = segmentLength first second / 2 := by
    rw [ExactScalar.mul_eq, ExactScalar.half_eq]
    ring
  simp only [ExactScalar.lt_iff, ExactScalar.zero_eq, ExactScalar.add_eq, hhalf]

/-- A box over a full frame of rows. -/
theorem tube_of_rows {first second : List ℝ} {lateral margin : ℝ}
    (hn : 0 < first.length) (hlength : first.length = second.length)
    (hlateral : 0 ≤ lateral) (hmargin : 0 ≤ margin) {rows : List (List ℝ)}
    (hrows : ∀ v ∈ rows, v.length = first.length)
    (hframe : GramSchmidt.Frame (rows.map (vec first.length)))
    (hfull : rows.length = first.length)
    (hhead : 0 < segmentLength first second →
      (rows.map (vec first.length)).head?
        = some fun c => direction first.length first second c
          / segmentLength first second) :
    Tube first second lateral margin (rows.map (vec first.length))
      ⟨(first.zip second).map fun p => Scalar.mul Scalar.half (Scalar.add p.1 p.2),
        rows.flatten, (List.replicate first.length lateral).set 0
        (if 0 < segmentLength first second then
          segmentLength first second / 2 + margin
        else lateral + margin)⟩ := by
  have hcenters : ((first.zip second).map fun p =>
      Scalar.mul Scalar.half (Scalar.add p.1 p.2)).length = first.length := by
    rw [List.length_map, List.length_zip, ← hlength, Nat.min_self]
  refine { frame := hframe, full := by rw [List.length_map, hfull]
           nonempty := hn, dimension := hcenters, halves := ?_, square := ?_
           entry := ?_, nonneg := ?_, center := ?_, halfWidths := rfl
           first_row := hhead }
  · rw [List.length_set, List.length_replicate]
  · rw [List.length_flatten, List.map_congr_left hrows, List.map_const',
      List.sum_replicate, hfull, smul_eq_mul]
  · intro a c
    have ha : a.val < rows.length := by omega
    show rows.flatten.getD (a * ((first.zip second).map fun p =>
      Scalar.mul Scalar.half (Scalar.add p.1 p.2)).length + c) Scalar.zero = _
    unfold GramSchmidt.row
    rw [hcenters, ExactScalar.zero_eq, getD_flatten hrows c.isLt,
      List.getD_eq_getElem?_getD, List.getD_eq_getElem?_getD,
      List.getD_eq_getElem?_getD, List.getElem?_map,
      List.getElem?_eq_getElem ha]
    show _ = vec first.length rows[a.val] c
    unfold vec
    rw [List.getD_eq_getElem?_getD]
    rfl
  · intro half hhalf
    rcases List.mem_or_eq_of_mem_set hhalf with hhalf | hhalf
    · rw [List.eq_of_mem_replicate hhalf]
      exact hlateral
    · rw [hhalf]
      by_cases hpos : 0 < segmentLength first second
      · rw [if_pos hpos]
        positivity
      · rw [if_neg hpos]
        positivity
  · intro c
    have hvalue := vec_zip_map rfl hlength.symm
      (fun p => Scalar.mul Scalar.half (Scalar.add p.1 p.2)) c
    refine hvalue.trans ?_
    rw [ExactScalar.mul_eq, ExactScalar.add_eq, ExactScalar.half_eq]
    show (5 / 10 : ℝ) * (first.getD c 0 + second.getD c 0) = _
    ring

/-- Every segment has a tube. -/
theorem segmentTube_ok {first second : List ℝ} {lateral margin : ℝ}
    (hfirst : first ≠ []) (hlength : first.length = second.length)
    (hlateral : 0 ≤ lateral) (hmargin : 0 ≤ margin)
    (hsmall : 256 * TubeScalar.epsilon * (first.length : ℝ) < 1) :
    ∃ vs obb, segmentTube first second lateral margin = .ok obb
      ∧ Tube first second lateral margin vs obb := by
  have hn : 0 < first.length := List.length_pos_iff.mpr hfirst
  have hshape : ¬(first = [] ∨ first.length ≠ second.length) := by
    rintro (hempty | hdifferent)
    · exact hfirst hempty
    · exact hdifferent hlength
  have hnonneg : ∀ x : ℝ, 0 ≤ x → Scalar.lt x Scalar.zero = false := by
    intro x hx
    rw [ExactScalar.lt_eq, decide_eq_false_iff_not, ExactScalar.zero_eq]
    exact not_lt.mpr hx
  have hwidths : (!Scalar.isFinite lateral || Scalar.lt lateral Scalar.zero
      || !Scalar.isFinite margin || Scalar.lt margin Scalar.zero) = false := by
    rw [ExactScalar.isFinite_eq, ExactScalar.isFinite_eq, hnonneg _ hlateral,
      hnonneg _ hmargin]
    rfl
  have hfinite : ((first.zip second).all fun p =>
      Scalar.isFinite p.1 && Scalar.isFinite p.2) = true :=
    List.all_eq_true.mpr fun p _ => by
      rw [ExactScalar.isFinite_eq, ExactScalar.isFinite_eq]
      rfl
  have hsub : ((first.zip second).map fun p => Scalar.sub p.2 p.1)
      = (first.zip second).map fun p => p.2 - p.1 := by
    simp only [ExactScalar.sub_eq]
  have hline : ((first.zip second).map fun p => p.2 - p.1).length
      = first.length := by
    rw [List.length_map, List.length_zip, ← hlength, Nat.min_self]
  have hsize : MetricScalar.sqrt (normSquared
      ((first.zip second).map fun p => p.2 - p.1))
        = segmentLength first second := by
    rw [ExactTubes.sqrt_eq, normSquared_eq hline, direction_eq hlength]
    rfl
  obtain ⟨hlengths, hframe, hhead⟩ :=
    start_frame hline (direction_eq hlength)
  generalize hstart : (if Scalar.lt Scalar.zero (segmentLength first second) then
      [((first.zip second).map fun p => p.2 - p.1).map fun value =>
        Scalar.div value (segmentLength first second)]
    else []) = start at hlengths hframe hhead
  have hthreshold : (0 : ℝ) ≤ threshold := by
    unfold threshold
    rw [ExactTubes.epsilon_eq]
    positivity
  obtain ⟨hrows, hmap⟩ := map_completed hlengths
  obtain ⟨hall, hfull, hprefix⟩ :=
    GramSchmidt.completes hthreshold hsmall hframe
  rw [← hmap] at hall hfull hprefix
  rw [List.length_map] at hfull
  generalize hvectors : (List.range first.length).foldl
    (completeAxis first.length) start = vectors at hrows hall hfull hprefix
  have htube := tube_of_rows hn hlength hlateral hmargin hrows hall hfull
    fun hpos => by
      obtain ⟨rest, hrest⟩ := hprefix
      rw [← hrest, List.head?_append, hhead hpos]
      rfl
  refine ⟨_, _, ?_, htube⟩
  unfold segmentTube
  rw [if_neg hshape, hwidths, hfinite]
  dsimp only
  rw [hsub, hsize, hstart, hvectors, if_neg (not_not.mpr hfull), halfWidths_eq]
  show CspaceObb.create _ _ _ = _
  unfold CspaceObb.create
  dsimp only
  rw [htube.valid]
  rfl

-- === coverage

section
omit [TubeScalar ℝ] [ExactTubes]

theorem segmentLength_pos {first second : List ℝ}
    (hlength : first.length = second.length) (h : first ≠ second) :
    0 < segmentLength first second := by
  unfold segmentLength
  rw [Real.sqrt_pos]
  have hnonneg : 0 ≤ direction first.length first second
      ⬝ᵥ direction first.length first second :=
    Finset.sum_nonneg fun c _ => mul_self_nonneg _
  refine lt_of_le_of_ne hnonneg fun hzero => h ?_
  have hvec := dotProduct_self_eq_zero.mp hzero.symm
  rw [eq_map_getD (rfl : first.length = _), eq_map_getD hlength.symm]
  apply List.map_congr_left
  intro c hc
  have hentry := congrFun hvec ⟨c, List.mem_range.mp hc⟩
  show first.getD c 0 = second.getD c 0
  exact (sub_eq_zero.mp hentry).symm

theorem segmentLength_self (first : List ℝ) : segmentLength first first = 0 := by
  unfold segmentLength direction
  rw [sub_self, dotProduct_zero, Real.sqrt_zero]

end

omit [ExactTubes] in
/-- The first axis is the direction of the segment. -/
theorem Tube.row_zero {first second : List ℝ} {lateral margin : ℝ}
    {vs : List (GramSchmidt.Vec first.length)} {tube : CspaceObb ℝ}
    (h : Tube first second lateral margin vs tube)
    (hpos : 0 < segmentLength first second) :
    GramSchmidt.row vs ⟨0, h.nonempty⟩
      = fun c => direction first.length first second c
        / segmentLength first second := by
  have hhead := h.first_row hpos
  unfold GramSchmidt.row
  rw [List.getD_eq_getElem?_getD, ← List.head?_eq_getElem?, hhead]
  rfl

omit [ExactTubes] in
/-- The direction of a segment is its length along the first axis of its
tube, and nothing along the others. -/
theorem Tube.row_direction {first second : List ℝ} {lateral margin : ℝ}
    {vs : List (GramSchmidt.Vec first.length)} {tube : CspaceObb ℝ}
    (h : Tube first second lateral margin vs tube)
    (hlength : first.length = second.length) (b : Fin first.length) :
    GramSchmidt.row vs b ⬝ᵥ direction first.length first second
      = if b.val = 0 then segmentLength first second else 0 := by
  have hline : direction first.length first second
      = segmentLength first second • GramSchmidt.row vs ⟨0, h.nonempty⟩ := by
    by_cases hsame : first = second
    · subst hsame
      rw [segmentLength_self, zero_smul]
      exact sub_self _
    · have hpos := segmentLength_pos hlength hsame
      rw [h.row_zero hpos]
      funext c
      exact (mul_div_cancel₀ _ hpos.ne').symm
  rw [hline, dotProduct_smul, h.frame.row_dotProduct h.full, smul_eq_mul]
  by_cases hb : b.val = 0
  · rw [if_pos hb, if_pos (Fin.ext hb), mul_one]
  · rw [if_neg hb, if_neg fun heq => hb (congrArg Fin.val heq), mul_zero]

omit [ExactTubes] in
/-- The half width along the first axis, and along the others. -/
theorem Tube.getD_halfWidths {first second : List ℝ} {lateral margin : ℝ}
    {vs : List (GramSchmidt.Vec first.length)} {tube : CspaceObb ℝ}
    (h : Tube first second lateral margin vs tube)
    (hlength : first.length = second.length) (a : Fin first.length) :
    tube.halfWidths.getD a 0 = if a.val = 0 then
        if first = second then lateral + margin
        else segmentLength first second / 2 + margin
      else lateral := by
  rw [h.halfWidths, List.getD_eq_getElem?_getD, List.getElem?_set,
    List.length_replicate, List.getElem?_replicate, if_pos a.isLt,
    if_pos h.nonempty]
  by_cases ha : a.val = 0
  · rw [if_pos ha.symm, if_pos ha]
    by_cases hsame : first = second
    · subst hsame
      rw [segmentLength_self, if_neg (lt_irrefl _), if_pos rfl]
      rfl
    · rw [if_pos (segmentLength_pos hlength hsame), if_neg hsame]
      rfl
  · rw [if_neg fun heq => ha heq.symm, if_neg ha]
    rfl

/-- The point of a segment at a fraction, moved along the axes of a box
other than the first. -/
def besideSegment (obb : CspaceObb ℝ) (first second : List ℝ) (fraction : ℝ)
    (offset : Nat → ℝ) : List ℝ :=
  (List.range first.length).map fun c =>
    first.getD c 0 + fraction * (second.getD c 0 - first.getD c 0)
      + ∑ a ∈ Finset.Ico 1 first.length, offset a * obb.entry a c

/-- The coordinates of such a point. -/
theorem Tube.coordinate_beside {first second : List ℝ} {lateral margin : ℝ}
    {vs : List (GramSchmidt.Vec first.length)} {tube : CspaceObb ℝ}
    (h : Tube first second lateral margin vs tube)
    (hlength : first.length = second.length) (fraction : ℝ) (offset : Nat → ℝ)
    (b : Fin first.length) :
    tube.coordinate (besideSegment tube first second fraction offset) b
      = if b.val = 0 then (fraction - 1 / 2) * segmentLength first second
        else offset b := by
  have hpoint : vec first.length (besideSegment tube first second fraction offset)
      - vec first.length tube.center
        = (fraction - 1 / 2) • direction first.length first second
          + fun c : Fin first.length =>
            ∑ a ∈ Finset.Ico 1 first.length, offset a * tube.entry a c := by
    funext c
    show (besideSegment tube first second fraction offset).getD c 0
      - tube.center.getD c 0 = (fraction - 1 / 2)
        * (second.getD c 0 - first.getD c 0)
        + ∑ a ∈ Finset.Ico 1 first.length, offset a * tube.entry a c
    unfold besideSegment
    rw [List.getD_eq_getElem?_getD, List.getElem?_map, List.getElem?_range c.isLt,
      h.center]
    show _ + _ - _ = _
    ring
  have haxes : GramSchmidt.row vs b ⬝ᵥ (fun c : Fin first.length =>
      ∑ a ∈ Finset.Ico 1 first.length, offset a * tube.entry a c)
        = if b.val = 0 then 0 else offset b := by
    have hswap : GramSchmidt.row vs b ⬝ᵥ (fun c : Fin first.length =>
        ∑ a ∈ Finset.Ico 1 first.length, offset a * tube.entry a c)
          = ∑ a ∈ Finset.Ico 1 first.length, if a = b.val then offset a else 0 := by
      show ∑ c, GramSchmidt.row vs b c
        * ∑ a ∈ Finset.Ico 1 first.length, offset a * tube.entry a c = _
      simp only [Finset.mul_sum]
      rw [Finset.sum_comm]
      refine Finset.sum_congr rfl fun a ha => ?_
      have hdot := h.dot_axes b ⟨a, (Finset.mem_Ico.mp ha).2⟩
      have hscaled : ∑ c, GramSchmidt.row vs b c * (offset a * tube.entry a c)
          = offset a * ∑ c : Fin first.length, tube.entry b c * tube.entry a c := by
        rw [Finset.mul_sum]
        refine Finset.sum_congr rfl fun c _ => ?_
        rw [h.entry b c]
        ring
      rw [hscaled, hdot]
      by_cases hab : a = b.val
      · rw [if_pos (Fin.ext hab.symm), if_pos hab, mul_one]
      · rw [if_neg fun heq => hab (congrArg Fin.val heq).symm, if_neg hab, mul_zero]
    rw [hswap, Finset.sum_ite_eq']
    by_cases hb : b.val = 0
    · rw [if_pos hb, if_neg]
      rw [Finset.mem_Ico]
      omega
    · rw [if_neg hb, if_pos]
      rw [Finset.mem_Ico]
      omega
  rw [h.coordinate_eq, hpoint, dotProduct_add, dotProduct_smul,
    h.row_direction hlength, haxes, smul_eq_mul]
  by_cases hb : b.val = 0
  · rw [if_pos hb, if_pos hb, if_pos hb, add_zero]
  · rw [if_neg hb, if_neg hb, if_neg hb, mul_zero, zero_add]

/-- A segment tube exists, its axes are an orthonormal basis with the
direction of the segment in front, it contains the segment and what is
beside it, and the enclosing box contains it. -/
theorem segmentTube_covers {first second : List ℝ} {lateral margin : ℝ}
    (hfirst : first ≠ []) (hlength : first.length = second.length)
    (hlateral : 0 ≤ lateral) (hmargin : 0 ≤ margin)
    (hsmall : 256 * TubeScalar.epsilon * (first.length : ℝ) < 1) :
    ∃ tube, segmentTube first second lateral margin = .ok tube
      ∧ (∀ a b : Fin first.length, ∑ c : Fin first.length,
          tube.entry a c * tube.entry b c = if a = b then 1 else 0)
      ∧ (first ≠ second → 0 < segmentLength first second
        ∧ ∀ c : Fin first.length, tube.entry 0 c
          = (second.getD c 0 - first.getD c 0) / segmentLength first second)
      ∧ (∀ x, tube.contains x Scalar.zero = true
        ↔ x.length = first.length
          ∧ |tube.coordinate x 0| ≤ (if first = second then lateral + margin
            else segmentLength first second / 2 + margin)
          ∧ ∀ a, 0 < a → a < first.length → |tube.coordinate x a| ≤ lateral)
      ∧ (∀ fraction offset, 0 ≤ fraction → fraction ≤ 1 →
        (∀ a, 0 < a → a < first.length → |offset a| ≤ lateral) →
        tube.contains (besideSegment tube first second fraction offset)
          Scalar.zero = true)
      ∧ ∀ x, tube.contains x Scalar.zero = true →
        tube.enclosingAabb.contains x Scalar.zero = true := by
  obtain ⟨vs, tube, hok, htube⟩ :=
    segmentTube_ok hfirst hlength hlateral hmargin hsmall
  refine ⟨tube, hok, htube.dot_axes, fun hdifferent => ?_, fun x => ?_, ?_,
    fun x hx => htube.enclosed hx⟩
  · have hpos := segmentLength_pos hlength hdifferent
    refine ⟨hpos, fun c => ?_⟩
    have hentry := htube.entry ⟨0, htube.nonempty⟩ c
    rw [htube.row_zero hpos] at hentry
    exact hentry
  · rw [htube.contains_iff]
    refine and_congr_right fun _ => ?_
    constructor
    · intro hall
      have hzero := hall ⟨0, htube.nonempty⟩
      rw [htube.getD_halfWidths hlength, if_pos rfl] at hzero
      refine ⟨hzero, fun a hpos ha => ?_⟩
      have hcoordinate := hall ⟨a, ha⟩
      rw [htube.getD_halfWidths hlength, if_neg hpos.ne'] at hcoordinate
      exact hcoordinate
    · intro hall a
      obtain ⟨hzero, hothers⟩ := hall
      rw [htube.getD_halfWidths hlength]
      by_cases ha : a.val = 0
      · rw [if_pos ha, ha]
        exact hzero
      · rw [if_neg ha]
        exact hothers a (Nat.pos_of_ne_zero ha) a.isLt
  · intro fraction offset hstart hend hoffset
    rw [htube.contains_iff]
    refine ⟨by unfold besideSegment; rw [List.length_map, List.length_range],
      fun a => ?_⟩
    rw [htube.coordinate_beside hlength, htube.getD_halfWidths hlength]
    by_cases ha : a.val = 0
    · rw [if_pos ha, if_pos ha]
      by_cases hsame : first = second
      · subst hsame
        rw [if_pos rfl, segmentLength_self, mul_zero, abs_zero]
        positivity
      · have hpos := segmentLength_pos hlength hsame
        rw [if_neg hsame, abs_mul, abs_of_pos hpos]
        have hhalf : |fraction - 1 / 2| ≤ 1 / 2 := by
          rw [abs_le]
          constructor <;> linarith
        calc |fraction - 1 / 2| * segmentLength first second
            ≤ 1 / 2 * segmentLength first second :=
              mul_le_mul_of_nonneg_right hhalf hpos.le
          _ ≤ segmentLength first second / 2 + margin := by linarith
    · rw [if_neg ha, if_neg ha]
      exact hoffset a (Nat.pos_of_ne_zero ha) a.isLt

omit [TubeScalar ℝ] [ExactTubes] in
/-- The tube of a diagonal. -/
theorem segmentTube_covers_diagonal :
    letI := realTubes
    ∃ tube, segmentTube [0, 0] [3, 4] (1 : ℝ) 0 = .ok tube
      ∧ tube.contains (besideSegment tube [0, 0] [3, 4] 1 fun _ => 1)
        Scalar.zero = true := by
  let := realTubes
  have := exact_realTubes
  have hsmall : 256 * TubeScalar.epsilon * (([0, 0] : List ℝ).length : ℝ) < 1 := by
    rw [ExactTubes.epsilon_eq]
    norm_num
  obtain ⟨tube, hok, -, -, -, hbeside, -⟩ :=
    @segmentTube_covers _ _ [0, 0] [3, 4] 1 0 (List.cons_ne_nil 0 [0]) rfl
      zero_le_one (le_refl 0) hsmall
  refine ⟨tube, hok, hbeside 1 (fun _ => 1) zero_le_one (le_refl 1) ?_⟩
  intro a _ _
  exact abs_one.le

end RbfSafe.Corridor
