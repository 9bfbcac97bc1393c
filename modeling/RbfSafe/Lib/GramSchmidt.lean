/-
Completing a frame by Gram-Schmidt over the canonical axes.

A frame is a list of unit vectors, each orthogonal to the others. An axis
is added less its projections on the frame, unless what is left is
shorter than a threshold; an axis that has been left out is not tried
again. That this still fills the space is not obvious, and is
`completes`: the squares of the entries of a frame in the direction of an
axis sum up to its weight, what an axis leaves is one minus its weight,
and the weights of all axes sum up to the number of vectors
(`Frame.sum_weight`). The weight of an axis only grows, so if vectors
were missing at the end every axis would have left little, and all of
them together less than one vector.
-/
import Mathlib.Analysis.SpecialFunctions.Sqrt
import Mathlib.LinearAlgebra.Matrix.NonsingularInverse
import Mathlib.Tactic

namespace RbfSafe.Lib.GramSchmidt

open Matrix

variable {n : Nat}

/-- Vectors of the space. -/
abbrev Vec (n : Nat) := Fin n → ℝ

/-- Unit vectors, each orthogonal to the others. -/
structure Frame (vs : List (Vec n)) : Prop where
  unit : ∀ v ∈ vs, v ⬝ᵥ v = 1
  orthogonal : vs.Pairwise fun u v => u ⬝ᵥ v = 0

theorem Frame.tail {v : Vec n} {vs : List (Vec n)} (h : Frame (v :: vs)) :
    Frame vs where
  unit u hu := h.unit u (List.mem_cons_of_mem v hu)
  orthogonal := (List.pairwise_cons.mp h.orthogonal).2

theorem Frame.head {v : Vec n} {vs : List (Vec n)} (h : Frame (v :: vs)) :
    v ⬝ᵥ v = 1 ∧ ∀ u ∈ vs, v ⬝ᵥ u = 0 :=
  ⟨h.unit v List.mem_cons_self, (List.pairwise_cons.mp h.orthogonal).1⟩

theorem frame_nil : Frame ([] : List (Vec n)) :=
  ⟨fun _ hv => absurd hv List.not_mem_nil, List.Pairwise.nil⟩

theorem frame_singleton {v : Vec n} (h : v ⬝ᵥ v = 1) : Frame [v] where
  unit u hu := by rw [List.mem_singleton.mp hu, h]
  orthogonal := List.pairwise_singleton _ _

-- === residuals

/-- What is left of a vector after its projections on each vector of a
list, one after the other. -/
def residual (vs : List (Vec n)) (x : Vec n) : Vec n :=
  vs.foldl (fun c v => c - (c ⬝ᵥ v) • v) x

/-- Projections on what is orthogonal to a vector do not change its
product. -/
theorem dotProduct_residual {vs : List (Vec n)} {w : Vec n}
    (h : ∀ v ∈ vs, w ⬝ᵥ v = 0) (x : Vec n) :
    w ⬝ᵥ residual vs x = w ⬝ᵥ x := by
  induction vs generalizing x with
  | nil => rfl
  | cons v vs ih =>
      have hv := h v List.mem_cons_self
      show w ⬝ᵥ residual vs (x - (x ⬝ᵥ v) • v) = _
      rw [ih fun u hu => h u (List.mem_cons_of_mem v hu), dotProduct_sub,
        dotProduct_smul, hv, smul_zero, sub_zero]

/-- What is left is orthogonal to the frame. -/
theorem Frame.residual_orthogonal {vs : List (Vec n)} (h : Frame vs)
    (x : Vec n) : ∀ v ∈ vs, v ⬝ᵥ residual vs x = 0 := by
  induction vs generalizing x with
  | nil => exact fun v hv => absurd hv List.not_mem_nil
  | cons v vs ih =>
      intro u hu
      rcases List.mem_cons.mp hu with hu | hu
      · subst hu
        show u ⬝ᵥ residual vs (x - (x ⬝ᵥ u) • u) = 0
        rw [dotProduct_residual h.head.2, dotProduct_sub, dotProduct_smul,
          h.head.1, smul_eq_mul, mul_one, dotProduct_comm u x, sub_self]
      · exact ih h.tail _ u hu

/-- The first projection. -/
theorem Frame.sub_projection {v : Vec n} {vs : List (Vec n)}
    (h : Frame (v :: vs)) (x : Vec n) :
    (x - (x ⬝ᵥ v) • v) ⬝ᵥ (x - (x ⬝ᵥ v) • v) = x ⬝ᵥ x - (x ⬝ᵥ v) ^ 2
      ∧ ∀ u ∈ vs, (x - (x ⬝ᵥ v) • v) ⬝ᵥ u = x ⬝ᵥ u := by
  constructor
  · simp only [sub_dotProduct, dotProduct_sub, smul_dotProduct, dotProduct_smul,
      smul_eq_mul, h.head.1, dotProduct_comm v x]
    ring
  · intro u hu
    rw [sub_dotProduct, smul_dotProduct, h.head.2 u hu, smul_zero, sub_zero]

/-- The square of what is left. -/
theorem Frame.residual_self {vs : List (Vec n)} (h : Frame vs) (x : Vec n) :
    residual vs x ⬝ᵥ residual vs x
      = x ⬝ᵥ x - (vs.map fun v => (x ⬝ᵥ v) ^ 2).sum := by
  induction vs generalizing x with
  | nil => simp [residual]
  | cons v vs ih =>
      obtain ⟨hself, hothers⟩ := h.sub_projection x
      have hsum : (vs.map fun u => ((x - (x ⬝ᵥ v) • v) ⬝ᵥ u) ^ 2)
          = vs.map fun u => (x ⬝ᵥ u) ^ 2 :=
        List.map_congr_left fun u hu => by rw [hothers u hu]
      show residual vs (x - (x ⬝ᵥ v) • v) ⬝ᵥ residual vs (x - (x ⬝ᵥ v) • v) = _
      rw [ih h.tail, hself, hsum, List.map_cons, List.sum_cons]
      ring

/-- What is left of a vector, in its own direction. -/
theorem Frame.dotProduct_residual_self {vs : List (Vec n)} (h : Frame vs)
    (x : Vec n) : x ⬝ᵥ residual vs x = residual vs x ⬝ᵥ residual vs x := by
  induction vs generalizing x with
  | nil => rfl
  | cons v vs ih =>
      have hv := h.residual_orthogonal x v List.mem_cons_self
      have hrest := ih h.tail (x - (x ⬝ᵥ v) • v)
      rw [sub_dotProduct, smul_dotProduct] at hrest
      have hall : residual (v :: vs) x = residual vs (x - (x ⬝ᵥ v) • v) := rfl
      rw [hall] at hv ⊢
      rw [← hrest, hv, smul_zero, sub_zero]

-- === weights

/-- A canonical axis. -/
def axis (i : Fin n) : Vec n := Pi.single i 1

@[simp] theorem axis_dotProduct (i : Fin n) (x : Vec n) : axis i ⬝ᵥ x = x i :=
  single_one_dotProduct i x

/-- The squares of the entries in the direction of an axis. -/
def weight (vs : List (Vec n)) (i : Fin n) : ℝ := (vs.map fun v => v i ^ 2).sum

/-- What is left of an axis. -/
theorem Frame.residual_axis {vs : List (Vec n)} (h : Frame vs) (i : Fin n) :
    residual vs (axis i) ⬝ᵥ residual vs (axis i) = 1 - weight vs i
      ∧ residual vs (axis i) i = 1 - weight vs i := by
  have hself : residual vs (axis i) ⬝ᵥ residual vs (axis i) = 1 - weight vs i := by
    have hone : axis i ⬝ᵥ axis i = 1 := by
      rw [axis_dotProduct, axis, Pi.single_eq_same]
    rw [h.residual_self, hone]
    simp only [weight, axis_dotProduct]
  refine ⟨hself, ?_⟩
  rw [← hself, ← h.dotProduct_residual_self, axis_dotProduct]

theorem Frame.weight_le {vs : List (Vec n)} (h : Frame vs) (i : Fin n) :
    weight vs i ≤ 1 := by
  have hself := (h.residual_axis i).1
  have hnonneg : 0 ≤ residual vs (axis i) ⬝ᵥ residual vs (axis i) :=
    Finset.sum_nonneg fun j _ => mul_self_nonneg _
  linarith

/-- The weights of all axes are as many as the vectors. -/
theorem Frame.sum_weight {vs : List (Vec n)} (h : Frame vs) :
    ∑ i, weight vs i = vs.length := by
  induction vs with
  | nil => simp [weight]
  | cons v vs ih =>
      have hv : ∑ i, v i ^ 2 = 1 := by
        rw [← h.head.1]
        exact Finset.sum_congr rfl fun i _ => sq (v i)
      have hsplit : ∀ i, weight (v :: vs) i = v i ^ 2 + weight vs i :=
        fun i => rfl
      simp only [hsplit]
      rw [Finset.sum_add_distrib, hv, ih h.tail, List.length_cons]
      push_cast
      ring

/-- A frame has no more vectors than there are axes. -/
theorem Frame.length_le {vs : List (Vec n)} (h : Frame vs) : vs.length ≤ n := by
  have hsum : (vs.length : ℝ) ≤ ∑ _i : Fin n, (1 : ℝ) := by
    rw [← h.sum_weight]
    exact Finset.sum_le_sum fun i _ => h.weight_le i
  rw [Finset.sum_const, Finset.card_univ, Fintype.card_fin, nsmul_eq_mul,
    mul_one] at hsum
  exact_mod_cast hsum

-- === completing

/-- Add what is left of an axis, of length one, unless the frame is full
or the axis leaves no more than the threshold. -/
noncomputable def extend (threshold : ℝ) (vs : List (Vec n)) (i : Fin n) :
    List (Vec n) :=
  if vs.length < n then
    let r := residual vs (axis i)
    if r ⬝ᵥ r ≤ threshold then vs
    else vs ++ [fun j => r j / √(r ⬝ᵥ r)]
  else vs

/-- The axes that have been tried leave little. -/
structure Completing (threshold : ℝ) (vs : List (Vec n))
    (tried : List (Fin n)) : Prop where
  frame : Frame vs
  covered : ∀ i ∈ tried, vs.length = n ∨ 1 - threshold ≤ weight vs i

theorem weight_append (vs us : List (Vec n)) (i : Fin n) :
    weight (vs ++ us) i = weight vs i + weight us i := by
  unfold weight
  rw [List.map_append, List.sum_append]

/-- What is left of an axis, of length one, extends the frame and makes
the weight of the axis one. -/
theorem Frame.push {vs : List (Vec n)} (h : Frame vs) {i : Fin n}
    (hpos : 0 < residual vs (axis i) ⬝ᵥ residual vs (axis i)) :
    let r := residual vs (axis i)
    let u : Vec n := fun j => r j / √(r ⬝ᵥ r)
    Frame (vs ++ [u]) ∧ weight (vs ++ [u]) i = 1 := by
  intro r u
  have hroot : √(r ⬝ᵥ r) * √(r ⬝ᵥ r) = r ⬝ᵥ r := Real.mul_self_sqrt hpos.le
  have hu : u = (√(r ⬝ᵥ r))⁻¹ • r := by
    funext j
    exact div_eq_inv_mul _ _
  have hunit : u ⬝ᵥ u = 1 := by
    rw [hu, smul_dotProduct, dotProduct_smul, smul_eq_mul, smul_eq_mul,
      ← mul_assoc, ← mul_inv, hroot]
    exact inv_mul_cancel₀ hpos.ne'
  refine ⟨⟨?_, ?_⟩, ?_⟩
  · intro v hv
    rcases List.mem_append.mp hv with hv | hv
    · exact h.unit v hv
    · rw [List.mem_singleton.mp hv, hunit]
  · refine List.pairwise_append.mpr ⟨h.orthogonal, List.pairwise_singleton _ _, ?_⟩
    intro v hv w hw
    rw [List.mem_singleton.mp hw, hu, dotProduct_smul,
      h.residual_orthogonal (axis i) v hv, smul_zero]
  · obtain ⟨hself, hentry⟩ := h.residual_axis i
    have hlast : weight [u] i = r ⬝ᵥ r := by
      have hsquare : √(r ⬝ᵥ r) ^ 2 = r ⬝ᵥ r := by rw [sq, hroot]
      have hi : r i = r ⬝ᵥ r := hentry.trans hself.symm
      show (r i / √(r ⬝ᵥ r)) ^ 2 + 0 = _
      rw [add_zero, div_pow, hsquare, hi, sq, mul_div_assoc, div_self hpos.ne',
        mul_one]
    rw [weight_append, hlast]
    show _ + residual vs (axis i) ⬝ᵥ residual vs (axis i) = 1
    rw [hself]
    ring

/-- One axis. -/
theorem Completing.extend {threshold : ℝ} (hnonneg : 0 ≤ threshold)
    {vs : List (Vec n)} {tried : List (Fin n)}
    (h : Completing threshold vs tried) (i : Fin n) :
    Completing threshold (extend threshold vs i) (tried ++ [i]) := by
  unfold GramSchmidt.extend
  by_cases hfull : vs.length < n
  · rw [if_pos hfull]
    dsimp only
    obtain ⟨hself, -⟩ := h.frame.residual_axis i
    by_cases hskip : residual vs (axis i) ⬝ᵥ residual vs (axis i) ≤ threshold
    · rw [if_pos hskip]
      refine ⟨h.frame, fun j hj => ?_⟩
      rcases List.mem_append.mp hj with hj | hj
      · exact h.covered j hj
      · rw [List.mem_singleton.mp hj]
        right
        linarith
    · rw [if_neg hskip]
      obtain ⟨hframe, hweight⟩ :=
        h.frame.push (lt_of_le_of_lt hnonneg (not_le.mp hskip))
      refine ⟨hframe, fun j hj => Or.inr ?_⟩
      rcases List.mem_append.mp hj with hj | hj
      · have hbefore := (h.covered j hj).resolve_left hfull.ne
        rw [weight_append]
        refine hbefore.trans (le_add_of_nonneg_right ?_)
        show (0 : ℝ) ≤ _ ^ 2 + 0
        positivity
      · rw [List.mem_singleton.mp hj, hweight]
        linarith
  · rw [if_neg hfull]
    have hlength := Nat.le_antisymm h.frame.length_le (Nat.not_lt.mp hfull)
    exact ⟨h.frame, fun _ _ => Or.inl hlength⟩

/-- All axes of a list, one after the other. -/
theorem Completing.run {threshold : ℝ} (hnonneg : 0 ≤ threshold)
    (axes : List (Fin n)) : ∀ {vs : List (Vec n)} {tried : List (Fin n)},
      Completing threshold vs tried →
      Completing threshold (axes.foldl (GramSchmidt.extend threshold) vs)
        (tried ++ axes) := by
  induction axes with
  | nil =>
      intro vs tried h
      rw [List.append_nil]
      exact h
  | cons i axes ih =>
      intro vs tried h
      have hrest := ih (h.extend hnonneg i)
      rw [List.append_assoc, List.singleton_append] at hrest
      exact hrest

/-- The vectors of the start stay in front. -/
theorem prefix_foldl_extend (threshold : ℝ) (axes : List (Fin n)) :
    ∀ vs : List (Vec n), vs <+: axes.foldl (extend threshold) vs := by
  induction axes with
  | nil => exact fun vs => List.prefix_refl vs
  | cons i axes ih =>
      intro vs
      refine List.IsPrefix.trans ?_ (ih _)
      unfold extend
      by_cases hfull : vs.length < n
      · rw [if_pos hfull]
        dsimp only
        by_cases hskip : residual vs (axis i) ⬝ᵥ residual vs (axis i) ≤ threshold
        · rw [if_pos hskip]
        · rw [if_neg hskip]
          exact List.prefix_append _ _
      · rw [if_neg hfull]

/-- The canonical axes complete every frame, whatever is left out. -/
theorem completes {threshold : ℝ} (hnonneg : 0 ≤ threshold)
    (hsmall : threshold * n < 1) {vs : List (Vec n)} (h : Frame vs) :
    let all := (List.finRange n).foldl (extend threshold) vs
    Frame all ∧ all.length = n ∧ vs <+: all := by
  intro all
  have hstart : Completing threshold vs [] :=
    ⟨h, fun i hi => absurd hi List.not_mem_nil⟩
  have hall := hstart.run hnonneg (List.finRange n)
  refine ⟨hall.frame, ?_, prefix_foldl_extend _ _ _⟩
  by_contra hlength
  have hcovered : ∀ i, 1 - threshold ≤ weight all i := fun i =>
    (hall.covered i (List.mem_append_right _ (List.mem_finRange i))).resolve_left
      hlength
  have hsum : ∑ _i : Fin n, (1 - threshold) ≤ ∑ i, weight all i :=
    Finset.sum_le_sum fun i _ => hcovered i
  have hfew : (all.length : ℝ) + 1 ≤ n := by
    have := Nat.lt_of_le_of_ne hall.frame.length_le hlength
    exact_mod_cast this
  rw [hall.frame.sum_weight, Finset.sum_const, Finset.card_univ,
    Fintype.card_fin, nsmul_eq_mul] at hsum
  linarith [hsum, hfew, hsmall]

-- === full frames

/-- A row of a frame. -/
def row (vs : List (Vec n)) (i : Fin n) : Vec n := vs.getD i 0

theorem Frame.row_dotProduct {vs : List (Vec n)} (h : Frame vs)
    (hfull : vs.length = n) (i j : Fin n) :
    row vs i ⬝ᵥ row vs j = if i = j then 1 else 0 := by
  have hrow : ∀ k : Fin n, row vs k = vs.get (k.cast hfull.symm) := by
    intro k
    unfold row
    rw [List.getD_eq_getElem?_getD,
      List.getElem?_eq_getElem (show k.val < vs.length by omega)]
    rfl
  have hpairs := List.pairwise_iff_get.mp h.orthogonal
  by_cases hij : i = j
  · rw [if_pos hij, hij, hrow]
    exact h.unit _ (List.get_mem _ _)
  · rw [if_neg hij, hrow, hrow]
    rcases lt_or_gt_of_ne hij with hlt | hlt
    · exact hpairs _ _ hlt
    · rw [dotProduct_comm]
      exact hpairs _ _ hlt

/-- A vector is the sum of its projections on a full frame. -/
theorem Frame.expand {vs : List (Vec n)} (h : Frame vs)
    (hfull : vs.length = n) (x : Vec n) (c : Fin n) :
    x c = ∑ i, (row vs i ⬝ᵥ x) * row vs i c := by
  have hleft : (Matrix.of (row vs)) * (Matrix.of (row vs))ᵀ = 1 := by
    ext i j
    rw [Matrix.mul_apply', Matrix.one_apply]
    exact h.row_dotProduct hfull i j
  have hright : (Matrix.of (row vs))ᵀ * Matrix.of (row vs) = 1 :=
    mul_eq_one_comm.mp hleft
  have hx : ((Matrix.of (row vs))ᵀ * Matrix.of (row vs)) *ᵥ x = x := by
    rw [hright, Matrix.one_mulVec]
  rw [← Matrix.mulVec_mulVec] at hx
  conv_lhs => rw [← hx]
  show ∑ i, row vs i c * (row vs i ⬝ᵥ x) = _
  exact Finset.sum_congr rfl fun i _ => mul_comm (row vs i c) _

end RbfSafe.Lib.GramSchmidt
