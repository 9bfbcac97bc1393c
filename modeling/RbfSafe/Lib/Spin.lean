/-
Unit quaternions of rotations.

A quaternion has a rotation matrix (`rotationOf`), quadratic in its
entries. Going back, a rotation matrix determines all products of two
entries of its quaternion (`spin`, four times the product), each linear
in the matrix, and one row of the products determines the quaternion up to
its sign (`spin_mul`): divided by twice the root of its entry on the
diagonal the row is a unit quaternion of the matrix (`unitNorm_row`,
`rotationOf_row`). The products have eighteen relations, of which six are
proved of a matrix (`relations_zero`) and the others by renaming its axes
(`shift`). A sign is chosen by the first entry that is not zero
(`Canonical`), which leaves one quaternion of a matrix
(`eq_of_rotationOf_eq`).
-/
import RbfSafe.Lib.Numerals
import Mathlib.LinearAlgebra.UnitaryGroup
import Mathlib.LinearAlgebra.Matrix.Adjugate
import Mathlib.Analysis.SpecialFunctions.Sqrt
import Mathlib.Tactic

namespace RbfSafe.Lib.Spin

open Matrix

/-- A quaternion; its entries are those of `x`, `y`, `z` and `w`. -/
abbrev Quaternion := Fin 4 → ℝ

/-- The sum of the squares is one. -/
def UnitNorm (q : Quaternion) : Prop :=
  q 0 * q 0 + q 1 * q 1 + q 2 * q 2 + q 3 * q 3 = 1

/-- The matrix of a unit quaternion. -/
def rotationOf (q : Quaternion) : Matrix (Fin 3) (Fin 3) ℝ :=
  !![1 - 2 * (q 1 * q 1 + q 2 * q 2), 2 * (q 0 * q 1 - q 2 * q 3),
      2 * (q 0 * q 2 + q 1 * q 3);
    2 * (q 0 * q 1 + q 2 * q 3), 1 - 2 * (q 0 * q 0 + q 2 * q 2),
      2 * (q 1 * q 2 - q 0 * q 3);
    2 * (q 0 * q 2 - q 1 * q 3), 2 * (q 1 * q 2 + q 0 * q 3),
      1 - 2 * (q 0 * q 0 + q 1 * q 1)]

/-- The first entry that is not zero, of `w`, `x`, `y` and `z`, is
positive. -/
def Canonical (q : Quaternion) : Prop :=
  0 < q 3 ∨ q 3 = 0 ∧ (0 < q 0 ∨ q 0 = 0 ∧ (0 < q 1 ∨ q 1 = 0 ∧ 0 < q 2))

-- === the products

section
variable (m : Matrix (Fin 3) (Fin 3) ℝ)

/-- Four times the square of `w`. -/
def spinTrace : ℝ := 1 + m 0 0 + m 1 1 + m 2 2

/-- Four times the square of an imaginary entry. -/
def spinDiagonal (i : Fin 3) : ℝ :=
  1 + m i i - m (i + 1) (i + 1) - m (i + 2) (i + 2)

/-- Four times the product of `w` and an imaginary entry. -/
def spinSkew (i : Fin 3) : ℝ := m (i + 2) (i + 1) - m (i + 1) (i + 2)

/-- Four times the product of the other two imaginary entries. -/
def spinSymmetric (i : Fin 3) : ℝ := m (i + 1) (i + 2) + m (i + 2) (i + 1)

/-- Four times the products of the entries. -/
def spin : Matrix (Fin 4) (Fin 4) ℝ :=
  !![spinDiagonal m 0, spinSymmetric m 2, spinSymmetric m 1, spinSkew m 0;
    spinSymmetric m 2, spinDiagonal m 1, spinSymmetric m 0, spinSkew m 1;
    spinSymmetric m 1, spinSymmetric m 0, spinDiagonal m 2, spinSkew m 2;
    spinSkew m 0, spinSkew m 1, spinSkew m 2, spinTrace m]

/-- The axes renamed in a cycle. -/
def shift : Matrix (Fin 3) (Fin 3) ℝ :=
  m.submatrix (Equiv.addRight 1) (Equiv.addRight 1)

/-- The relations of the products at an axis. -/
structure Relations (i : Fin 3) : Prop where
  skew_sq : spinSkew m i * spinSkew m i = spinTrace m * spinDiagonal m i
  symmetric_sq : spinSymmetric m i * spinSymmetric m i
    = spinDiagonal m (i + 1) * spinDiagonal m (i + 2)
  skew_mul : spinSkew m i * spinSkew m (i + 1)
    = spinTrace m * spinSymmetric m (i + 2)
  skew_symmetric : spinSkew m i * spinSymmetric m (i + 2)
    = spinDiagonal m i * spinSkew m (i + 1)
  skew_symmetric' : spinSkew m i * spinSymmetric m (i + 1)
    = spinDiagonal m i * spinSkew m (i + 2)
  symmetric_mul : spinSymmetric m (i + 2) * spinSymmetric m (i + 1)
    = spinDiagonal m i * spinSymmetric m i

end

variable {m : Matrix (Fin 3) (Fin 3) ℝ}

theorem shift_mem (h : m ∈ specialOrthogonalGroup (Fin 3) ℝ) :
    shift m ∈ specialOrthogonalGroup (Fin 3) ℝ := by
  obtain ⟨horthogonal, hdet⟩ := mem_specialOrthogonalGroup_iff.mp h
  rw [mem_orthogonalGroup_iff] at horthogonal
  refine mem_specialOrthogonalGroup_iff.mpr ⟨?_, ?_⟩
  · rw [mem_orthogonalGroup_iff]
    unfold shift
    rw [transpose_submatrix, submatrix_mul_equiv, horthogonal,
      submatrix_one_equiv]
  · unfold shift
    rw [det_submatrix_equiv_self, hdet]

/-- The relations at the first axis follow from the products of rows and
columns and from the matrix being its own cofactors. -/
theorem relations_zero (h : m ∈ specialOrthogonalGroup (Fin 3) ℝ) :
    Relations m 0 := by
  obtain ⟨horthogonal, hdet⟩ := mem_specialOrthogonalGroup_iff.mp h
  have hrows : m * mᵀ = 1 := (mem_orthogonalGroup_iff (Fin 3) ℝ).mp horthogonal
  have hcolumns : mᵀ * m = 1 :=
    (mem_orthogonalGroup_iff' (Fin 3) ℝ).mp horthogonal
  have hcofactors : adjugate m = mᵀ := by
    calc adjugate m = mᵀ * m * adjugate m := by rw [hcolumns, Matrix.one_mul]
      _ = mᵀ := by rw [Matrix.mul_assoc, mul_adjugate, hdet, one_smul,
        Matrix.mul_one]
  rw [adjugate_fin_three] at hcofactors
  have row : ∀ i j, m i 0 * m j 0 + m i 1 * m j 1 + m i 2 * m j 2
      = (1 : Matrix (Fin 3) (Fin 3) ℝ) i j := by
    intro i j
    rw [← hrows, Matrix.mul_apply, Fin.sum_univ_three]
    rfl
  have column : ∀ i j, m 0 i * m 0 j + m 1 i * m 1 j + m 2 i * m 2 j
      = (1 : Matrix (Fin 3) (Fin 3) ℝ) i j := by
    intro i j
    rw [← hcolumns, Matrix.mul_apply, Fin.sum_univ_three]
    rfl
  have row11 : _ = (1 : ℝ) := row 1 1
  have row22 : _ = (1 : ℝ) := row 2 2
  have column00 : _ = (1 : ℝ) := column 0 0
  have row01 : _ = (0 : ℝ) := row 0 1
  have row02 : _ = (0 : ℝ) := row 0 2
  have row12 : _ = (0 : ℝ) := row 1 2
  have column01 : _ = (0 : ℝ) := column 0 1
  have column02 : _ = (0 : ℝ) := column 0 2
  have column12 : _ = (0 : ℝ) := column 1 2
  have cofactor00 : m 1 1 * m 2 2 - m 1 2 * m 2 1 = m 0 0 :=
    congrFun (congrFun hcofactors 0) 0
  have cofactor01 : -(m 0 1 * m 2 2) + m 0 2 * m 2 1 = m 1 0 :=
    congrFun (congrFun hcofactors 0) 1
  have cofactor10 : -(m 1 0 * m 2 2) + m 1 2 * m 2 0 = m 0 1 :=
    congrFun (congrFun hcofactors 1) 0
  have cofactor02 : m 0 1 * m 1 2 - m 0 2 * m 1 1 = m 2 0 :=
    congrFun (congrFun hcofactors 0) 2
  have cofactor20 : m 1 0 * m 2 1 - m 1 1 * m 2 0 = m 0 2 :=
    congrFun (congrFun hcofactors 2) 0
  have cofactor12 : -(m 0 0 * m 1 2) + m 0 2 * m 1 0 = m 2 1 :=
    congrFun (congrFun hcofactors 1) 2
  have cofactor21 : -(m 0 0 * m 2 1) + m 0 1 * m 2 0 = m 1 2 :=
    congrFun (congrFun hcofactors 2) 1
  constructor
  · show (m 2 1 - m 1 2) * (m 2 1 - m 1 2)
      = (1 + m 0 0 + m 1 1 + m 2 2) * (1 + m 0 0 - m 1 1 - m 2 2)
    linear_combination row11 + row22 - column00 + 2 * cofactor00
  · show (m 1 2 + m 2 1) * (m 1 2 + m 2 1)
      = (1 + m 1 1 - m 2 2 - m 0 0) * (1 + m 2 2 - m 0 0 - m 1 1)
    linear_combination row11 + row22 - column00 - 2 * cofactor00
  · show (m 2 1 - m 1 2) * (m 0 2 - m 2 0)
      = (1 + m 0 0 + m 1 1 + m 2 2) * (m 0 1 + m 1 0)
    linear_combination cofactor01 + cofactor10 - column01 - row01
  · show (m 2 1 - m 1 2) * (m 0 1 + m 1 0)
      = (1 + m 0 0 - m 1 1 - m 2 2) * (m 0 2 - m 2 0)
    linear_combination row02 + cofactor20 - cofactor02 - column02
  · show (m 2 1 - m 1 2) * (m 2 0 + m 0 2)
      = (1 + m 0 0 - m 1 1 - m 2 2) * (m 1 0 - m 0 1)
    linear_combination cofactor01 + column01 - row01 - cofactor10
  · show (m 0 1 + m 1 0) * (m 2 0 + m 0 2)
      = (1 + m 0 0 - m 1 1 - m 2 2) * (m 1 2 + m 2 1)
    linear_combination column12 + cofactor12 + cofactor21 + row12

section
variable (m)

theorem spinTrace_shift : spinTrace (shift m) = spinTrace m := by
  show 1 + m 1 1 + m 2 2 + m 0 0 = 1 + m 0 0 + m 1 1 + m 2 2
  ring

theorem spinDiagonal_shift (i : Fin 3) :
    spinDiagonal (shift m) i = spinDiagonal m (i + 1) := by
  fin_cases i <;> rfl

theorem spinSkew_shift (i : Fin 3) :
    spinSkew (shift m) i = spinSkew m (i + 1) := by
  fin_cases i <;> rfl

theorem spinSymmetric_shift (i : Fin 3) :
    spinSymmetric (shift m) i = spinSymmetric m (i + 1) := by
  fin_cases i <;> rfl

end

/-- The relations at an axis of the renamed matrix. -/
theorem relations_shift {i : Fin 3} (h : Relations (shift m) i) :
    Relations m (i + 1) := by
  obtain ⟨h1, h2, h3, h4, h5, h6⟩ := h
  simp only [spinTrace_shift, spinDiagonal_shift, spinSkew_shift,
    spinSymmetric_shift, add_right_comm i _ (1 : Fin 3)] at h1 h2 h3 h4 h5 h6
  exact ⟨h1, h2, h3, h4, h5, h6⟩

/-- The relations of a rotation. -/
theorem relations (h : m ∈ specialOrthogonalGroup (Fin 3) ℝ) (i : Fin 3) :
    Relations m i := by
  fin_cases i
  · exact relations_zero h
  · exact relations_shift (relations_zero (shift_mem h))
  · exact relations_shift (relations_shift
      (relations_zero (shift_mem (shift_mem h))))

/-- The products have rank one: a row times an entry of another. -/
theorem spin_mul (h : m ∈ specialOrthogonalGroup (Fin 3) ℝ)
    (pivot i j : Fin 4) :
    spin m pivot i * spin m pivot j = spin m pivot pivot * spin m i j := by
  obtain ⟨x1, x2, x3, x4, x5, x6⟩ := relations h 0
  obtain ⟨y1, y2, y3, y4, y5, y6⟩ := relations h 1
  obtain ⟨z1, z2, z3, z4, z5, z6⟩ := relations h 2
  simp only [zero_add, Fin.reduceAdd] at *
  fin_cases pivot <;> fin_cases i <;> fin_cases j <;>
    simp only [spin, of_apply, cons_val', cons_val, Fin.zero_eta, Fin.mk_one,
      Fin.reduceFinMk] <;>
    linarith

-- === the quaternions

/-- A row of the products, divided by twice the root of its pivot. -/
noncomputable def row (m : Matrix (Fin 3) (Fin 3) ℝ) (pivot : Fin 4) :
    Quaternion :=
  fun i => spin m pivot i / (2 * √(spin m pivot pivot))

section
variable {pivot : Fin 4} (h : m ∈ specialOrthogonalGroup (Fin 3) ℝ)
  (hpivot : 0 < spin m pivot pivot)
include h hpivot

theorem row_mul (i j : Fin 4) :
    row m pivot i * row m pivot j = spin m i j / 4 := by
  have hroot : √(spin m pivot pivot) * √(spin m pivot pivot)
      = spin m pivot pivot := Real.mul_self_sqrt hpivot.le
  have hpos : 0 < √(spin m pivot pivot) := Real.sqrt_pos.mpr hpivot
  unfold row
  rw [div_mul_div_comm, spin_mul h, div_eq_div_iff (by positivity) (by norm_num)]
  linear_combination (-4 * spin m i j) * hroot

theorem unitNorm_row : UnitNorm (row m pivot) := by
  unfold UnitNorm
  simp only [row_mul h hpivot]
  simp only [spin, spinDiagonal, spinTrace, of_apply, cons_val', cons_val,
    zero_add, Fin.reduceAdd]
  ring

/-- A row of the products of a rotation is a quaternion of it. -/
theorem rotationOf_row : rotationOf (row m pivot) = m := by
  unfold rotationOf
  simp only [row_mul h hpivot]
  ext i j
  fin_cases i <;> fin_cases j <;>
    simp only [spin, spinDiagonal, spinSkew, spinSymmetric, of_apply, cons_val',
      cons_val, zero_add, Fin.reduceAdd, Fin.zero_eta, Fin.mk_one,
      Fin.reduceFinMk, spinTrace] <;>
    ring

end

-- === the sign

/-- The products of a unit quaternion are those of its matrix. -/
theorem spin_rotationOf {q : Quaternion} (h : UnitNorm q) (i j : Fin 4) :
    spin (rotationOf q) i j / 4 = q i * q j := by
  unfold UnitNorm at h
  fin_cases i <;> fin_cases j <;>
    simp only [spin, spinDiagonal, spinSkew, spinSymmetric, spinTrace,
      rotationOf, of_apply, cons_val', cons_val, zero_add, Fin.reduceAdd,
      Fin.zero_eta, Fin.mk_one, Fin.reduceFinMk] <;>
    linarith

theorem eq_of_pos {p q : Quaternion} (h : ∀ i j, p i * p j = q i * q j)
    {k : Fin 4} (hp : 0 < p k) (hq : 0 < q k) : p = q := by
  have hk : p k = q k := by
    have := h k k
    nlinarith
  funext i
  have hi := h i k
  rw [hk] at hi
  exact mul_right_cancel₀ hq.ne' hi

/-- A matrix has one quaternion of the chosen sign. -/
theorem eq_of_rotationOf_eq {p q : Quaternion} (hp : UnitNorm p) (hq : UnitNorm q)
    (hpsign : Canonical p) (hqsign : Canonical q)
    (h : rotationOf p = rotationOf q) : p = q := by
  have hmul : ∀ i j, p i * p j = q i * q j := by
    intro i j
    rw [← spin_rotationOf hp, ← spin_rotationOf hq, h]
  have hzero : ∀ i, p i = 0 ↔ q i = 0 := by
    intro i
    rw [← mul_self_eq_zero, hmul i i, mul_self_eq_zero]
  have hnot : ∀ i, p i = 0 → ¬0 < q i := by
    intro i hi hpos
    exact hpos.ne' ((hzero i).mp hi)
  unfold Canonical at hpsign hqsign
  rw [← hzero 3, ← hzero 0, ← hzero 1] at hqsign
  cases hpsign with
  | inl hp3 =>
      exact eq_of_pos hmul hp3 (hqsign.resolve_right fun hq3 => hp3.ne' hq3.1)
  | inr hpsign =>
      obtain ⟨hp3, hpsign⟩ := hpsign
      obtain ⟨-, hqsign⟩ := hqsign.resolve_left (hnot 3 hp3)
      cases hpsign with
      | inl hp0 =>
          exact eq_of_pos hmul hp0 (hqsign.resolve_right fun hq0 => hp0.ne' hq0.1)
      | inr hpsign =>
          obtain ⟨hp0, hpsign⟩ := hpsign
          obtain ⟨-, hqsign⟩ := hqsign.resolve_left (hnot 0 hp0)
          cases hpsign with
          | inl hp1 =>
              exact eq_of_pos hmul hp1 (hqsign.resolve_right fun hq1 => hp1.ne' hq1.1)
          | inr hpsign =>
              exact eq_of_pos hmul hpsign.2
                (hqsign.resolve_left (hnot 1 hpsign.1)).2

theorem rotationOf_neg (q : Quaternion) : rotationOf (-q) = rotationOf q := by
  unfold rotationOf
  simp only [Pi.neg_apply, neg_mul_neg]

theorem unitNorm_neg {q : Quaternion} (h : UnitNorm q) : UnitNorm (-q) := by
  unfold UnitNorm at h ⊢
  simp only [Pi.neg_apply, neg_mul_neg]
  exact h

/-- The first entry that is not zero is negative. -/
def Negative (q : Quaternion) : Prop :=
  q 3 < 0 ∨ q 3 = 0 ∧ (q 0 < 0 ∨ q 0 = 0 ∧ (q 1 < 0 ∨ q 1 = 0 ∧ q 2 < 0))

theorem canonical_neg {q : Quaternion} (h : Negative q) : Canonical (-q) := by
  unfold Canonical
  simp only [Pi.neg_apply, neg_eq_zero, neg_pos]
  exact h

theorem canonical_of_not_negative {q : Quaternion} (h : UnitNorm q)
    (hq : ¬Negative q) : Canonical q := by
  unfold Negative at hq
  unfold UnitNorm at h
  simp only [not_or, not_and, not_lt] at hq
  obtain ⟨h3, hq⟩ := hq
  cases h3.lt_or_eq with
  | inl h3 => exact Or.inl h3
  | inr h3 =>
      obtain ⟨h0, hq⟩ := hq h3.symm
      cases h0.lt_or_eq with
      | inl h0 => exact Or.inr ⟨h3.symm, Or.inl h0⟩
      | inr h0 =>
          obtain ⟨h1, hq⟩ := hq h0.symm
          cases h1.lt_or_eq with
          | inl h1 => exact Or.inr ⟨h3.symm, Or.inr ⟨h0.symm, Or.inl h1⟩⟩
          | inr h1 =>
              have h2 : q 2 ≠ 0 := by
                intro h2
                rw [← h3, ← h0, ← h1, h2] at h
                norm_num at h
              exact Or.inr ⟨h3.symm, Or.inr ⟨h0.symm, Or.inr ⟨h1.symm,
                lt_of_le_of_ne (hq h1.symm) h2.symm⟩⟩⟩

end RbfSafe.Lib.Spin
