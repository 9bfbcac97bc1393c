/-
The orientation of the end effector.

`pose_from_matrix` divides a row of the products of the quaternion by
twice the root of its pivot, and the branches choose a pivot of at least
one, since the four of them have the sum four (`quaternionFromMatrix_row`).
No division is by zero, the norm is one, and the sign is that of the first
entry that is not zero, so that equal rotations have equal quaternions
(`endEffectorPose_orientation`).
-/
import RbfSafe.Core.Proofs.Jacobian
import RbfSafe.Lib.Spin

namespace RbfSafe

open Lib.Rigid Lib.Spin Matrix

/-- The entries of a quaternion in their order. -/
def toQuaternion (q : ℝ × ℝ × ℝ × ℝ) : Quaternion :=
  ![q.1, q.2.1, q.2.2.1, q.2.2.2]

section
variable [KinematicScalar ℝ] [ExactKinematics]

-- === the branches

theorem quaternionScale_eq {square : ℝ} (h : 0 ≤ square) :
    quaternionScale square = 2 * √square := by
  unfold quaternionScale
  rw [ExactScalar.mul_eq, ExactScalar.decimal_eq, ExactScalar.max_eq,
    ExactScalar.zero_eq, ExactKinematics.sqrt_eq, max_eq_right h]
  norm_num

theorem quarter_scale {square : ℝ} (h : 0 < square) :
    Scalar.mul (Scalar.decimal 25 2) (2 * √square)
      = square / (2 * √square) := by
  have hpos : 0 < √square := Real.sqrt_pos.mpr h
  rw [ExactScalar.mul_eq, ExactScalar.decimal_eq, eq_div_iff (by positivity)]
  have hroot := Real.mul_self_sqrt h.le
  push_cast
  linear_combination hroot

/-- The branch that is taken divides the row of a pivot of at least one. -/
theorem quaternionFromMatrix_row (matrix : Matrix4 ℝ) :
    ∃ pivot, 1 ≤ spin matrix.motion.rotation pivot pivot
      ∧ toQuaternion (quaternionFromMatrix matrix)
        = row matrix.motion.rotation pivot := by
  generalize hr : matrix.motion.rotation = r
  have m0 : matrix.get 0 = r 0 0 := by rw [← hr]; rfl
  have m1 : matrix.get 1 = r 0 1 := by rw [← hr]; rfl
  have m2 : matrix.get 2 = r 0 2 := by rw [← hr]; rfl
  have m4 : matrix.get 4 = r 1 0 := by rw [← hr]; rfl
  have m5 : matrix.get 5 = r 1 1 := by rw [← hr]; rfl
  have m6 : matrix.get 6 = r 1 2 := by rw [← hr]; rfl
  have m8 : matrix.get 8 = r 2 0 := by rw [← hr]; rfl
  have m9 : matrix.get 9 = r 2 1 := by rw [← hr]; rfl
  have m10 : matrix.get 10 = r 2 2 := by rw [← hr]; rfl
  have htrace : r 0 0 + r 1 1 + r 2 2 + 1 = spin r 3 3 := by
    show _ = 1 + r 0 0 + r 1 1 + r 2 2
    ring
  have h0 : 1 + r 0 0 - r 1 1 - r 2 2 = spin r 0 0 := rfl
  have h1 : 1 + r 1 1 - r 0 0 - r 2 2 = spin r 1 1 := by
    show _ = 1 + r 1 1 - r 2 2 - r 0 0
    ring
  have h2 : 1 + r 2 2 - r 0 0 - r 1 1 = spin r 2 2 := rfl
  unfold quaternionFromMatrix
  simp only [m0, m1, m2, m4, m5, m6, m8, m9, m10, ExactScalar.zero_eq,
    ExactScalar.one_eq, ExactScalar.add_eq, ExactScalar.sub_eq,
    ExactScalar.div_eq, ExactScalar.lt_iff, htrace, h0, h1, h2]
  by_cases hpositive : 0 < r 0 0 + r 1 1 + r 2 2
  · have hpivot : 1 ≤ spin r 3 3 := by linarith
    have hpos : 0 < spin r 3 3 := by linarith
    refine ⟨3, hpivot, ?_⟩
    rw [if_pos hpositive, quaternionScale_eq hpos.le, quarter_scale hpos]
    funext i
    fin_cases i <;> rfl
  · rw [if_neg hpositive]
    by_cases hfirst : r 1 1 < r 0 0 ∧ r 2 2 < r 0 0
    · have hpivot : 1 ≤ spin r 0 0 := by linarith
      have hpos : 0 < spin r 0 0 := by linarith
      refine ⟨0, hpivot, ?_⟩
      rw [if_pos hfirst, quaternionScale_eq hpos.le, quarter_scale hpos]
      funext i
      fin_cases i
      · rfl
      · rfl
      · exact congrArg (· / _) (add_comm _ _)
      · rfl
    · rw [if_neg hfirst]
      rw [not_and_or, not_lt, not_lt] at hfirst
      by_cases hsecond : r 2 2 < r 1 1
      · have hle : r 0 0 ≤ r 1 1 := by
          cases hfirst with
          | inl h => exact h
          | inr h => exact h.trans hsecond.le
        have hpivot : 1 ≤ spin r 1 1 := by linarith
        have hpos : 0 < spin r 1 1 := by linarith
        refine ⟨1, hpivot, ?_⟩
        rw [if_pos hsecond, quaternionScale_eq hpos.le, quarter_scale hpos]
        funext i
        fin_cases i <;> rfl
      · have hle : r 0 0 ≤ r 2 2 := by
          cases hfirst with
          | inl h => exact h.trans (not_lt.mp hsecond)
          | inr h => exact h
        have hpivot : 1 ≤ spin r 2 2 := by linarith
        have hpos : 0 < spin r 2 2 := by linarith
        refine ⟨2, hpivot, ?_⟩
        rw [if_neg hsecond, quaternionScale_eq hpos.le, quarter_scale hpos]
        funext i
        fin_cases i
        · exact congrArg (· / _) (add_comm _ _)
        · rfl
        · rfl
        · rfl

/-- The roots that the branches divide by are positive where they are
taken. -/
structure ScalesPositive (m : Matrix (Fin 3) (Fin 3) ℝ) : Prop where
  trace : 0 < m 0 0 + m 1 1 + m 2 2 →
    0 < quaternionScale (m 0 0 + m 1 1 + m 2 2 + 1)
  first : ¬0 < m 0 0 + m 1 1 + m 2 2 → m 1 1 < m 0 0 ∧ m 2 2 < m 0 0 →
    0 < quaternionScale (1 + m 0 0 - m 1 1 - m 2 2)
  second : ¬0 < m 0 0 + m 1 1 + m 2 2 →
    ¬(m 1 1 < m 0 0 ∧ m 2 2 < m 0 0) → m 2 2 < m 1 1 →
    0 < quaternionScale (1 + m 1 1 - m 0 0 - m 2 2)
  third : ¬0 < m 0 0 + m 1 1 + m 2 2 →
    ¬(m 1 1 < m 0 0 ∧ m 2 2 < m 0 0) → ¬m 2 2 < m 1 1 →
    0 < quaternionScale (1 + m 2 2 - m 0 0 - m 1 1)

theorem scalesPositive (m : Matrix (Fin 3) (Fin 3) ℝ) : ScalesPositive m := by
  have hscale : ∀ {square : ℝ}, 0 < square → 0 < quaternionScale square := by
    intro square h
    rw [quaternionScale_eq h.le]
    exact mul_pos two_pos (Real.sqrt_pos.mpr h)
  constructor
  · intro h
    exact hscale (by linarith)
  · intro htrace h
    exact hscale (by linarith)
  · intro htrace hfirst hsecond
    rw [not_and_or, not_lt, not_lt] at hfirst
    apply hscale
    cases hfirst with
    | inl h => linarith
    | inr h => linarith
  · intro htrace hfirst hsecond
    rw [not_and_or, not_lt, not_lt] at hfirst
    apply hscale
    cases hfirst with
    | inl h => linarith
    | inr h => linarith

-- === the poses

theorem quaternionNegative_iff (q : ℝ × ℝ × ℝ × ℝ) :
    quaternionNegative q = true ↔ Negative (toQuaternion q) := by
  unfold quaternionNegative Negative
  simp only [Bool.or_eq_true, Bool.and_eq_true, ExactScalar.lt_iff,
    ExactScalar.eq_iff, ExactScalar.zero_eq]
  rfl

/-- The norm of a row of the products is one. -/
theorem quaternionNorm_eq {matrix : Matrix4 ℝ}
    (h : matrix.motion.Proper) :
    quaternionNorm (quaternionFromMatrix matrix) = 1 := by
  obtain ⟨pivot, hpivot, hrow⟩ := quaternionFromMatrix_row matrix
  have hunit := unitNorm_row h (lt_of_lt_of_le one_pos hpivot)
  rw [← hrow] at hunit
  unfold quaternionNorm
  simp only [ExactScalar.add_eq, ExactScalar.mul_eq, ExactKinematics.sqrt_eq]
  rw [Real.sqrt_eq_one]
  exact hunit

theorem poseFromMatrix_orientation_eq {matrix : Matrix4 ℝ}
    (h : matrix.motion.Proper) :
    (poseFromMatrix matrix).orientation
      = if quaternionNegative (quaternionFromMatrix matrix) = true then
          -toQuaternion (quaternionFromMatrix matrix)
        else toQuaternion (quaternionFromMatrix matrix) := by
  have hone : Scalar.lt Scalar.zero (1 : ℝ) = true := by
    rw [ExactScalar.lt_iff, ExactScalar.zero_eq]
    exact one_pos
  unfold poseFromMatrix
  dsimp only
  rw [quaternionNorm_eq h]
  simp only [if_pos hone, ExactScalar.div_eq, div_one, ExactScalar.neg_eq]
  by_cases hnegative : quaternionNegative (quaternionFromMatrix matrix) = true
  · simp only [if_pos hnegative]
    funext i
    fin_cases i <;> rfl
  · simp only [if_neg hnegative]
    rfl

/-- The orientation is the quaternion of the rotation. -/
theorem poseFromMatrix_orientation {matrix : Matrix4 ℝ}
    (h : matrix.motion.Proper) :
    UnitNorm (poseFromMatrix matrix).orientation
      ∧ rotationOf (poseFromMatrix matrix).orientation
        = matrix.motion.rotation
      ∧ Canonical (poseFromMatrix matrix).orientation := by
  obtain ⟨pivot, hpivot, hrow⟩ := quaternionFromMatrix_row matrix
  have hpos := lt_of_lt_of_le one_pos hpivot
  have hunit := unitNorm_row h hpos
  have hrotation := rotationOf_row h hpos
  rw [← hrow] at hunit hrotation
  rw [poseFromMatrix_orientation_eq h]
  by_cases hnegative : quaternionNegative (quaternionFromMatrix matrix) = true
  · rw [if_pos hnegative, rotationOf_neg]
    exact ⟨unitNorm_neg hunit, hrotation,
      canonical_neg ((quaternionNegative_iff _).mp hnegative)⟩
  · rw [if_neg hnegative]
    exact ⟨hunit, hrotation, canonical_of_not_negative hunit
      (mt (quaternionNegative_iff _).mpr hnegative)⟩

variable {robot : SerialRobotModel ℝ} {configuration : List ℝ}

theorem proper_endEffectorTransform {transform : Matrix4 ℝ}
    (h : robot.endEffectorTransform configuration = .ok transform) :
    transform.motion.Proper := by
  unfold SerialRobotModel.endEffectorTransform at h
  rw [bind_eq_ok] at h
  obtain ⟨_, -, h⟩ := h
  cases h
  rw [motion_endEffector]
  exact (proper_chainMotion _).comp (proper_chainMotion _)

omit [ExactKinematics] in
/-- The pose is that of the transform. -/
theorem endEffectorPose_eq {transform : Matrix4 ℝ}
    (h : robot.endEffectorTransform configuration = .ok transform) :
    robot.endEffectorPose configuration = .ok (poseFromMatrix transform) := by
  unfold SerialRobotModel.endEffectorPose
  rw [h, ok_bind]

/-- What the orientation of an end effector is, where its transform is. -/
structure Oriented (transform : Matrix4 ℝ) (pose : Pose3d ℝ) : Prop where
  unitNorm : UnitNorm pose.orientation
  rotation : rotationOf pose.orientation = transform.motion.rotation
  canonical : Canonical pose.orientation
  scales : ScalesPositive transform.motion.rotation
  norm : 0 < quaternionNorm (quaternionFromMatrix transform)

/-- **The pose of the end effector carries its rotation**: a unit
quaternion of the rotation, of the chosen sign, that no division by zero
is made for. Equal rotations have equal quaternions, of whatever robot and
configuration they are. -/
theorem endEffectorPose_orientation
    (hrobot : robot.validate = .ok ()) (hinside : robot.Inside configuration) :
    ∃ transform pose,
      robot.endEffectorTransform configuration = .ok transform
      ∧ robot.endEffectorPose configuration = .ok pose
      ∧ Oriented transform pose
      ∧ ∀ (other : SerialRobotModel ℝ) (elsewhere : List ℝ)
        (transform' : Matrix4 ℝ) (pose' : Pose3d ℝ),
        other.endEffectorTransform elsewhere = .ok transform' →
        other.endEffectorPose elsewhere = .ok pose' →
        transform'.motion.rotation = transform.motion.rotation →
        pose'.orientation = pose.orientation := by
  obtain ⟨transform, htransform⟩ : ∃ transform,
      robot.endEffectorTransform configuration = .ok transform := by
    unfold SerialRobotModel.endEffectorTransform
    rw [accepted_of_inside hrobot hinside, ok_bind]
    exact ⟨_, rfl⟩
  have hproper := proper_endEffectorTransform htransform
  obtain ⟨hunit, hrotation, hcanonical⟩ := poseFromMatrix_orientation hproper
  refine ⟨transform, _, htransform, endEffectorPose_eq htransform,
    ⟨hunit, hrotation, hcanonical, scalesPositive _, ?_⟩, ?_⟩
  · rw [quaternionNorm_eq hproper]
    exact one_pos
  · intro other elsewhere transform' pose' htransform' hpose' hequal
    rw [endEffectorPose_eq htransform'] at hpose'
    cases hpose'
    obtain ⟨hunit', hrotation', hcanonical'⟩ :=
      poseFromMatrix_orientation (proper_endEffectorTransform htransform')
    apply eq_of_rotationOf_eq hunit' hunit hcanonical' hcanonical
    rw [hrotation', hrotation, hequal]

end

theorem endEffectorPose_orientation_turntable :
    letI := realKinematics
    ∃ transform pose,
      turntable.endEffectorTransform [0] = .ok transform
      ∧ turntable.endEffectorPose [0] = .ok pose
      ∧ Oriented transform pose
      ∧ ∀ (other : SerialRobotModel ℝ) (elsewhere : List ℝ)
        (transform' : Matrix4 ℝ) (pose' : Pose3d ℝ),
        other.endEffectorTransform elsewhere = .ok transform' →
        other.endEffectorPose elsewhere = .ok pose' →
        transform'.motion.rotation = transform.motion.rotation →
        pose'.orientation = pose.orientation :=
  letI := realKinematics
  haveI := exact_realKinematics
  endEffectorPose_orientation validate_turntable inside_turntable

end RbfSafe
