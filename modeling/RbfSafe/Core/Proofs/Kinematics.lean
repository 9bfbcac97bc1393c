/-
The geometric Jacobian is the derivative of the kinematics.

Over the reals the transform of a joint is a rigid motion that turns or
slides along its own z axis as its value moves (`jointMotion_moves`), and
a robot is a chain of such motions of which one moves with each value of
the configuration. The chain then turns about the axis of the joint where
the joints before it have brought it, or slides along it, which is what
the columns of the Jacobian say. The limits are checked with a tolerance,
so that a configuration within them has a neighbourhood on which the
kinematics answer.
-/
import RbfSafe.Core.Exact
import RbfSafe.Core.Kinematics
import RbfSafe.Lib.Rigid
import Mathlib.Analysis.SpecialFunctions.Trigonometric.Deriv
import Mathlib.Analysis.SpecialFunctions.Sqrt

namespace RbfSafe

open Lib.Rigid Matrix

/-- Exact arithmetic with the real root, cosine and sine. -/
class ExactKinematics [KinematicScalar ℝ] : Prop extends ExactScalar ℝ where
  sqrt_eq : ∀ x : ℝ, MetricScalar.sqrt x = √x
  cos_eq : ∀ x : ℝ, KinematicScalar.cos x = Real.cos x
  sin_eq : ∀ x : ℝ, KinematicScalar.sin x = Real.sin x

/-- The real numbers. -/
@[reducible] noncomputable def realKinematics : KinematicScalar ℝ :=
  { exactScalar ℝ with
    sqrt := Real.sqrt
    json := fun _ => .null
    cos := Real.cos
    sin := Real.sin }

theorem exact_realKinematics : @ExactKinematics realKinematics :=
  @ExactKinematics.mk realKinematics (exactScalar_exact ℝ) (fun _ => rfl)
    (fun _ => rfl) fun _ => rfl

variable [KinematicScalar ℝ] [ExactKinematics]

-- === transforms read

/-- The motion of a transform. -/
def Matrix4.motion (matrix : Matrix4 ℝ) : Motion where
  rotation := .of fun row column =>
    matrix.entry row.castSucc column.castSucc
  translation := matrix.origin

/-- A transform whose last row is that of a motion. -/
def Matrix4.Affine (matrix : Matrix4 ℝ) : Prop :=
  (∀ column : Fin 3, matrix.entry 3 column.castSucc = 0)
    ∧ matrix.entry 3 3 = 1

omit [KinematicScalar ℝ] [ExactKinematics] in
theorem get_ofFn {α : Type} {n : Nat} (f : Fin n → α) (i : Fin n) :
    (Vector.ofFn f).get i = f i := by
  show (Vector.ofFn f)[i.val] = f i
  rw [Vector.getElem_ofFn]

theorem entry_multiply (left right : Matrix4 ℝ) (row column : Fin 4) :
    (multiply left right).entry row column
      = left.entry row 0 * right.entry 0 column
        + left.entry row 1 * right.entry 1 column
        + left.entry row 2 * right.entry 2 column
        + left.entry row 3 * right.entry 3 column := by
  have hrow : (row.val * 4 + column.val) / 4 = row.val := by omega
  have hcolumn : (row.val * 4 + column.val) % 4 = column.val := by omega
  unfold multiply
  rw [Matrix4.entry, get_ofFn]
  simp only [hrow, hcolumn, ExactScalar.zero_eq, ExactScalar.add_eq,
    ExactScalar.mul_eq]
  show ((((0 + _) + _) + _) + _ : ℝ) = _
  rw [zero_add]
  rfl

section
omit [KinematicScalar ℝ] [ExactKinematics]

theorem motion_rotation (matrix : Matrix4 ℝ) (row column : Fin 3) :
    matrix.motion.rotation row column
      = matrix.entry row.castSucc column.castSucc := rfl

theorem motion_translation (matrix : Matrix4 ℝ) (row : Fin 3) :
    matrix.motion.translation row = matrix.entry row.castSucc 3 := rfl

theorem castSucc_two : (2 : Fin 3).castSucc = 2 := rfl

end

/-- The product of two transforms is one motion after the other. -/
theorem motion_multiply (left : Matrix4 ℝ) {right : Matrix4 ℝ}
    (h : right.Affine) :
    (multiply left right).motion = left.motion.comp right.motion := by
  obtain ⟨hzero, hone⟩ := h
  ext1
  · ext row column
    have h3 : right.entry 3 column.castSucc = 0 := hzero column
    rw [motion_rotation, Motion.comp_rotation, entry_multiply, h3, mul_zero, add_zero, Matrix.mul_apply,
      Fin.sum_univ_three]
    simp only [motion_rotation, Fin.castSucc_zero, Fin.castSucc_one,
      castSucc_two]
  · funext row
    rw [motion_translation, Motion.comp_translation, Pi.add_apply,
      entry_multiply, hone, mul_one, mulVec, dotProduct,
      Fin.sum_univ_three]
    simp only [motion_rotation, motion_translation, Fin.castSucc_zero,
      Fin.castSucc_one, castSucc_two]

theorem motion_identityMatrix : (identityMatrix : Matrix4 ℝ).motion = .still := by
  ext1
  · ext row column
    fin_cases row <;> fin_cases column <;>
      simp [Matrix4.motion, Matrix4.entry, identityMatrix, get_ofFn,
        Motion.still]
  · funext row
    fin_cases row <;>
      simp [Matrix4.motion, Matrix4.origin, Matrix4.entry, identityMatrix,
        get_ofFn, Motion.still]

-- === joints

/-- The motion of a joint: its angle and its distance along the axis. -/
noncomputable def jointMotion (joint : DhJoint ℝ) (theta d : ℝ) : Motion where
  rotation :=
    !![Real.cos theta, -Real.sin theta, 0;
      Real.sin theta * Real.cos joint.alpha,
        Real.cos theta * Real.cos joint.alpha, -Real.sin joint.alpha;
      Real.sin theta * Real.sin joint.alpha,
        Real.cos theta * Real.sin joint.alpha, Real.cos joint.alpha]
  translation :=
    ![joint.a, -d * Real.sin joint.alpha, d * Real.cos joint.alpha]

/-- The angle of a joint at a value. -/
noncomputable def DhJoint.angleAt (joint : DhJoint ℝ) (value : ℝ) : ℝ :=
  joint.theta + if joint.type = .revolute then value else 0

/-- The distance of a joint along its axis at a value. -/
noncomputable def DhJoint.distanceAt (joint : DhJoint ℝ) (value : ℝ) : ℝ :=
  joint.d + if joint.type = .prismatic then value else 0

theorem motion_jointMatrix (joint : DhJoint ℝ) (value : ℝ) :
    (jointMatrix joint value).motion
      = jointMotion joint (joint.angleAt value) (joint.distanceAt value) := by
  unfold jointMatrix jointMotion DhJoint.angleAt DhJoint.distanceAt
  simp only [ExactScalar.zero_eq, ExactScalar.one_eq, ExactScalar.add_eq,
    ExactScalar.mul_eq, ExactScalar.neg_eq, ExactKinematics.cos_eq,
    ExactKinematics.sin_eq]
  ext1
  · ext row column
    rw [motion_rotation]
    fin_cases row <;> fin_cases column <;> rfl
  · funext row
    rw [motion_translation]
    fin_cases row <;> rfl

theorem affine_jointMatrix (joint : DhJoint ℝ) (value : ℝ) :
    (jointMatrix joint value).Affine := by
  unfold jointMatrix
  simp only [ExactScalar.zero_eq, ExactScalar.one_eq]
  constructor
  · intro column
    fin_cases column <;> rfl
  · rfl

section
omit [KinematicScalar ℝ] [ExactKinematics]

theorem proper_jointMotion (joint : DhJoint ℝ) (theta d : ℝ) :
    (jointMotion joint theta d).Proper := by
  have htheta := Real.sin_sq_add_cos_sq theta
  have halpha := Real.sin_sq_add_cos_sq joint.alpha
  refine mem_specialOrthogonalGroup_iff.mpr ⟨?_, ?_⟩
  · rw [mem_orthogonalGroup_iff, one_fin_three]
    ext row column
    rw [Matrix.mul_apply, Fin.sum_univ_three]
    fin_cases row <;> fin_cases column <;>
      simp only [jointMotion, transpose_apply, of_apply, cons_val', cons_val,
        Fin.zero_eta, Fin.mk_one, Fin.reduceFinMk]
    · linear_combination htheta
    · ring
    · ring
    · ring
    · linear_combination Real.cos joint.alpha ^ 2 * htheta + halpha
    · linear_combination Real.cos joint.alpha * Real.sin joint.alpha * htheta
    · ring
    · linear_combination Real.cos joint.alpha * Real.sin joint.alpha * htheta
    · linear_combination Real.sin joint.alpha ^ 2 * htheta + halpha
  · rw [jointMotion, det_fin_three]
    simp only [of_apply, cons_val', cons_val]
    linear_combination
      (Real.sin joint.alpha ^ 2 + Real.cos joint.alpha ^ 2) * htheta + halpha

/-- A revolute joint turns about the z axis of its frame. -/
theorem turns_jointMotion (joint : DhJoint ℝ) (theta d : ℝ) :
    MovesAt (fun s => jointMotion joint s d)
      ⟨(jointMotion joint theta d).rotation * skew ![0, 0, 1], 0⟩ theta := by
  have hcos := Real.hasDerivAt_cos theta
  have hsin := Real.hasDerivAt_sin theta
  constructor
  · intro row column
    show HasDerivAt _
      (((jointMotion joint theta d).rotation * skew ![0, 0, 1]) row column) _
    rw [Matrix.mul_apply, Fin.sum_univ_three]
    fin_cases row <;> fin_cases column <;>
      simp only [jointMotion, skew, of_apply, cons_val', cons_val,
        Fin.zero_eta, Fin.mk_one, Fin.reduceFinMk]
    · exact hcos.congr_deriv (by ring)
    · exact hsin.neg.congr_deriv (by ring)
    · exact (hasDerivAt_const theta _).congr_deriv (by ring)
    · exact (hsin.mul_const _).congr_deriv (by ring)
    · exact (hcos.mul_const _).congr_deriv (by ring)
    · exact (hasDerivAt_const theta _).congr_deriv (by ring)
    · exact (hsin.mul_const _).congr_deriv (by ring)
    · exact (hcos.mul_const _).congr_deriv (by ring)
    · exact (hasDerivAt_const theta _).congr_deriv (by ring)
  · intro row
    exact hasDerivAt_const theta _

/-- A prismatic joint slides along the z axis of its frame. -/
theorem slides_jointMotion (joint : DhJoint ℝ) (theta d : ℝ) :
    MovesAt (fun s => jointMotion joint theta s)
      ⟨0, (jointMotion joint theta d).rotation *ᵥ ![0, 0, 1]⟩ d := by
  constructor
  · intro row column
    exact hasDerivAt_const d _
  · intro row
    show HasDerivAt _
      (((jointMotion joint theta d).rotation *ᵥ ![0, 0, 1]) row) _
    rw [mulVec, dotProduct, Fin.sum_univ_three]
    fin_cases row <;>
      simp only [jointMotion, of_apply, cons_val', cons_val,
        Fin.zero_eta, Fin.mk_one, Fin.reduceFinMk]
    · exact (hasDerivAt_const d _).congr_deriv (by ring)
    · exact ((hasDerivAt_id d).neg.mul_const _).congr_deriv (by ring)
    · exact ((hasDerivAt_id d).mul_const _).congr_deriv (by ring)

end

-- === chains

/-- The motion of a joint at a value. -/
noncomputable def valueMotion (entry : DhJoint ℝ × ℝ) : Motion :=
  jointMotion entry.1 (entry.1.angleAt entry.2) (entry.1.distanceAt entry.2)

/-- The motion of a chain of joints at their values. -/
noncomputable def chainMotion (entries : List (DhJoint ℝ × ℝ)) : Motion :=
  entries.foldr (fun entry motion => (valueMotion entry).comp motion) .still

section
omit [KinematicScalar ℝ] [ExactKinematics]

theorem chainMotion_append (first second : List (DhJoint ℝ × ℝ)) :
    chainMotion (first ++ second)
      = (chainMotion first).comp (chainMotion second) := by
  induction first with
  | nil => exact (Motion.still_comp _).symm
  | cons entry first ih =>
      show (valueMotion entry).comp (chainMotion (first ++ second))
        = ((valueMotion entry).comp (chainMotion first)).comp
          (chainMotion second)
      rw [ih, Motion.comp_assoc]

theorem proper_chainMotion (entries : List (DhJoint ℝ × ℝ)) :
    (chainMotion entries).Proper := by
  induction entries with
  | nil => exact Motion.proper_still
  | cons entry entries ih =>
      exact (proper_jointMotion entry.1 _ _).comp ih

end

/-- The transform of a chain, after another. -/
theorem motion_lastFrame (transform : Matrix4 ℝ)
    (entries : List (DhJoint ℝ × ℝ)) :
    (lastFrame transform entries).motion
      = transform.motion.comp (chainMotion entries) := by
  induction entries generalizing transform with
  | nil => exact (Motion.comp_still _).symm
  | cons entry entries ih =>
      show (lastFrame (multiply transform (jointMatrix entry.1 entry.2))
        entries).motion = _
      rw [ih, motion_multiply _ (affine_jointMatrix entry.1 entry.2),
        motion_jointMatrix, Motion.comp_assoc]
      rfl

omit [ExactKinematics] in
/-- The frame of a joint is the last of the chain up to it. -/
theorem getElem?_jointFrames {transform : Matrix4 ℝ}
    {entries : List (DhJoint ℝ × ℝ)} {index : Nat}
    (h : index < entries.length) :
    (jointFrames transform entries)[index]?
      = some (lastFrame transform (entries.take (index + 1))) := by
  induction entries generalizing transform index with
  | nil => cases h
  | cons entry entries ih =>
      cases index with
      | zero => rfl
      | succ index => exact ih (Nat.lt_of_succ_lt_succ h)

/-- The motion of the tool, after the last joint. -/
noncomputable def SerialRobotModel.toolMotion (robot : SerialRobotModel ℝ) :
    Motion :=
  chainMotion (robot.toolFrame.toList.map fun tool => (tool, 0))

theorem motion_toolTransform (robot : SerialRobotModel ℝ)
    (transform : Matrix4 ℝ) :
    (robot.toolTransform transform).motion
      = transform.motion.comp robot.toolMotion := by
  unfold SerialRobotModel.toolTransform SerialRobotModel.toolMotion
  cases robot.toolFrame with
  | none => exact (Motion.comp_still _).symm
  | some tool =>
      show (multiply transform (jointMatrix tool Scalar.zero)).motion
        = transform.motion.comp ((valueMotion (tool, 0)).comp .still)
      rw [motion_multiply _ (affine_jointMatrix tool _), motion_jointMatrix,
        Motion.comp_still, ExactScalar.zero_eq]
      rfl

/-- The transform of the end effector is a proper motion. -/
theorem motion_endEffector (robot : SerialRobotModel ℝ)
    (entries : List (DhJoint ℝ × ℝ)) :
    (robot.toolTransform (lastFrame identityMatrix entries)).motion
      = (chainMotion entries).comp robot.toolMotion := by
  rw [motion_toolTransform, motion_lastFrame, motion_identityMatrix,
    Motion.still_comp]

-- === configurations

omit [ExactKinematics] in
theorem checkLimits_ok {index : Nat} {entries : List (Interval ℝ × ℝ)}
    (h : ∀ entry ∈ entries, entry.1.contains entry.2 Scalar.tolerance = true) :
    SerialRobotModel.checkLimits index entries = .ok () := by
  induction entries generalizing index with
  | nil => rfl
  | cons entry entries ih =>
      unfold SerialRobotModel.checkLimits
      rw [h entry List.mem_cons_self, if_neg (by decide)]
      exact ih fun other hother => h other (List.mem_cons_of_mem _ hother)

theorem checkConfiguration_ok {robot : SerialRobotModel ℝ}
    {configuration : List ℝ} (hrobot : robot.validate = .ok ())
    (hlength : configuration.length = robot.dimension)
    (hlimits : ∀ entry ∈ robot.jointLimits.zip configuration,
      entry.1.contains entry.2 Scalar.tolerance = true) :
    robot.checkConfiguration configuration = .ok () := by
  have hfinite : configuration.all Scalar.isFinite = true := by
    rw [List.all_eq_true]
    intro value _
    exact ExactScalar.isFinite_eq value
  unfold SerialRobotModel.checkConfiguration validateConfiguration
  rw [hrobot, ok_bind, if_neg (not_not.mpr hlength), hfinite,
    if_neg (by decide), ok_bind, checkLimits_ok hlimits]

end RbfSafe
