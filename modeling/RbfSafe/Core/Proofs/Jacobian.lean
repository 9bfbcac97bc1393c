/-
The geometric Jacobian is the derivative of the kinematics.

A robot is a chain of motions of which one moves with each value of the
configuration. The chain turns about the axis of the joint where the
joints before it have brought it, or slides along it
(`jacobianColumn_moves`), and that axis and its origin are read off the
frame after the transform of the joint itself. The limits are checked
with a tolerance, so a configuration within them has a neighbourhood on
which the kinematics answer (`eventually_accepted`).
-/
import RbfSafe.Core.Proofs.Kinematics

namespace RbfSafe

open Lib.Rigid Matrix Filter Topology

-- === the layout

/-- The entries of rows of one length, one row after the other. -/
theorem getElem?_rows {α β : Type} {f : α → List β} {n : Nat}
    (hf : ∀ a, (f a).length = n) {column : Nat} (hcolumn : column < n) :
    ∀ {rows : List α} {row : Nat},
      (rows.flatMap f)[row * n + column]?
        = rows[row]?.bind fun a => (f a)[column]? := by
  intro rows
  induction rows with
  | nil =>
      intro row
      rfl
  | cons a rows ih =>
      intro row
      rw [List.flatMap_cons]
      cases row with
      | zero =>
          rw [Nat.zero_mul, Nat.zero_add,
            List.getElem?_append_left (by rw [hf]; exact hcolumn)]
          rfl
      | succ row =>
          have hsub : (row + 1) * n + column - n = row * n + column := by
            rw [Nat.succ_mul]
            omega
          rw [List.getElem?_append_right (by rw [hf, Nat.succ_mul]; omega), hf,
            hsub, ih]
          rfl

section
variable [KinematicScalar ℝ] [ExactKinematics]

/-- The linear velocity that a joint gives the end effector. -/
def linearVelocity (type : JointType) (axis origin endEffector : Fin 3 → ℝ) :
    Fin 3 → ℝ :=
  if type = .revolute then axis ⨯₃ (endEffector - origin) else axis

/-- The angular velocity that a joint gives the end effector. -/
def angularVelocity (type : JointType) (axis : Fin 3 → ℝ) : Fin 3 → ℝ :=
  if type = .revolute then axis else 0

theorem getD_jacobianColumn (type : JointType)
    (axis origin endEffector : Fin 3 → ℝ) (i : Fin 3) :
    (SerialRobotModel.jacobianColumn type axis origin endEffector).getD i
        Scalar.zero = linearVelocity type axis origin endEffector i
      ∧ (SerialRobotModel.jacobianColumn type axis origin endEffector).getD
        (3 + i) Scalar.zero = angularVelocity type axis i := by
  unfold SerialRobotModel.jacobianColumn linearVelocity angularVelocity
  by_cases htype : type = .revolute
  · simp only [if_pos htype, ExactScalar.sub_eq, ExactScalar.mul_eq]
    constructor
    · fin_cases i <;> rfl
    · fin_cases i <;> rfl
  · simp only [if_neg htype, ExactScalar.zero_eq]
    constructor
    · fin_cases i <;> rfl
    · fin_cases i <;> rfl

-- === one value

/-- The configurations within the limits. -/
def SerialRobotModel.Inside (robot : SerialRobotModel ℝ)
    (configuration : List ℝ) : Prop :=
  List.Forall₂ (fun limit value => limit.lower ≤ value ∧ value ≤ limit.upper)
    robot.jointLimits configuration

section
variable {robot : SerialRobotModel ℝ} {configuration : List ℝ} {j : Nat}
  {joint : DhJoint ℝ} {value : ℝ}

omit [KinematicScalar ℝ] [ExactKinematics] in
/-- The joints with one value exchanged: those before it, the joint at its
new value, and those after it. -/
theorem zip_set (hjoint : robot.joints[j]? = some joint)
    (hvalue : configuration[j]? = some value) (s : ℝ) :
    robot.joints.zip (configuration.set j s)
      = (robot.joints.zip configuration).take j ++ (joint, s)
        :: (robot.joints.zip configuration).drop (j + 1) := by
  have hset : robot.joints.zip (configuration.set j s)
      = (robot.joints.zip configuration).set j (joint, s) := by
    apply List.ext_getElem?
    intro i
    by_cases hij : j = i
    · subst hij
      have hold : (robot.joints.zip configuration)[j]? = some (joint, value) :=
        List.getElem?_zip_eq_some.mpr ⟨hjoint, hvalue⟩
      rw [List.getElem?_set_self (List.getElem?_eq_some_iff.mp hold).1]
      apply List.getElem?_zip_eq_some.mpr
      exact ⟨hjoint, List.getElem?_set_self
        (List.getElem?_eq_some_iff.mp hvalue).1⟩
    · rw [List.getElem?_set_ne hij]
      apply Option.ext
      intro entry
      rw [List.getElem?_zip_eq_some, List.getElem?_set_ne hij,
        List.getElem?_zip_eq_some]
  have hold : (robot.joints.zip configuration)[j]? = some (joint, value) :=
    List.getElem?_zip_eq_some.mpr ⟨hjoint, hvalue⟩
  rw [hset, List.set_eq_take_append_cons_drop,
    if_pos (List.getElem?_eq_some_iff.mp hold).1]

/-- Configurations near one within the limits are accepted. -/
theorem eventually_accepted (hrobot : robot.validate = .ok ())
    (hinside : robot.Inside configuration)
    (hvalue : configuration[j]? = some value) :
    ∀ᶠ s in 𝓝 value,
      robot.checkConfiguration (configuration.set j s) = .ok () := by
  have hlength : configuration.length = robot.dimension := by
    rw [← hinside.length_eq]
    exact (SerialRobotModel.validate_ok hrobot).2.1
  have htolerance : (Scalar.tolerance : ℝ) = 1 / 10 ^ 12 := by
    unfold Scalar.tolerance
    rw [ExactScalar.decimal_eq, Nat.cast_one]
  have hnear := eventually_abs_sub_lt value
    (show (0 : ℝ) < 1 / 10 ^ 12 by positivity)
  filter_upwards [hnear] with s hs
  apply checkConfiguration_ok hrobot
  · rw [List.length_set, hlength]
  · intro entry hentry
    obtain ⟨i, hi⟩ := List.mem_iff_getElem?.mp hentry
    rw [List.getElem?_zip_eq_some] at hi
    obtain ⟨hlimit, hentry⟩ := hi
    have hbounds : ∀ old, configuration[i]? = some old →
        entry.1.lower ≤ old ∧ old ≤ entry.1.upper := by
      intro old hold
      exact (List.forall₂_iff_get.mp hinside).2 i
        (List.getElem?_eq_some_iff.mp hlimit).1
        (List.getElem?_eq_some_iff.mp hold).1 |> fun h => by
          rw [List.get_eq_getElem, List.get_eq_getElem,
            (List.getElem?_eq_some_iff.mp hlimit).2,
            (List.getElem?_eq_some_iff.mp hold).2] at h
          exact h
    unfold Interval.contains
    rw [Bool.and_eq_true, ExactScalar.le_iff, ExactScalar.le_iff,
      ExactScalar.sub_eq, ExactScalar.add_eq, htolerance]
    by_cases hij : j = i
    · subst hij
      have hold := hbounds value hvalue
      rw [List.getElem?_set_self (List.getElem?_eq_some_iff.mp hvalue).1,
        Option.some_inj] at hentry
      rw [← hentry]
      have hclose := abs_lt.mp hs
      constructor
      · linarith
      · linarith
    · rw [List.getElem?_set_ne hij] at hentry
      have hold := hbounds entry.2 hentry
      constructor
      · linarith
      · linarith

theorem accepted_of_inside (hrobot : robot.validate = .ok ())
    (hinside : robot.Inside configuration) :
    robot.checkConfiguration configuration = .ok () := by
  obtain ⟨hpos, hlimits, -⟩ := SerialRobotModel.validate_ok hrobot
  have hlength : 0 < configuration.length := by
    rw [← hinside.length_eq, hlimits]
    exact hpos
  obtain ⟨value, hvalue⟩ : ∃ value, configuration[0]? = some value :=
    ⟨_, List.getElem?_eq_getElem hlength⟩
  have hhere := (eventually_accepted hrobot hinside hvalue).self_of_nhds
  obtain ⟨_, hget⟩ := List.getElem?_eq_some_iff.mp hvalue
  rw [← hget, List.set_getElem_self] at hhere
  exact hhere

-- === one joint

omit [KinematicScalar ℝ] [ExactKinematics] in
/-- A joint turns or slides along the z axis of its frame. -/
theorem moves_valueMotion (joint : DhJoint ℝ) (value : ℝ) :
    MovesAt (fun s => valueMotion (joint, s))
      (if joint.type = .revolute then
        ⟨(valueMotion (joint, value)).rotation * skew ![0, 0, 1], 0⟩
      else ⟨0, (valueMotion (joint, value)).rotation *ᵥ ![0, 0, 1]⟩) value := by
  cases htype : joint.type with
  | revolute =>
      have hmotion : ∀ s, valueMotion (joint, s)
          = jointMotion joint (joint.theta + s) (joint.d + 0) := by
        intro s
        simp only [valueMotion, DhJoint.angleAt, DhJoint.distanceAt, htype,
          if_true, reduceCtorEq, if_false]
      simp only [hmotion, if_true]
      exact (turns_jointMotion joint (joint.theta + value) (joint.d + 0)).shift
  | prismatic =>
      have hmotion : ∀ s, valueMotion (joint, s)
          = jointMotion joint (joint.theta + 0) (joint.d + s) := by
        intro s
        simp only [valueMotion, DhJoint.angleAt, DhJoint.distanceAt, htype,
          if_true, reduceCtorEq, if_false]
      simp only [hmotion, reduceCtorEq, if_false]
      exact (slides_jointMotion joint (joint.theta + 0) (joint.d + value)).shift

omit [KinematicScalar ℝ] [ExactKinematics] in
theorem axis_eq (matrix : Matrix4 ℝ) :
    matrix.axis = matrix.motion.rotation *ᵥ ![0, 0, 1] := by
  funext row
  rw [mulVec, dotProduct, Fin.sum_univ_three]
  simp only [motion_rotation, cons_val, mul_zero, zero_add, mul_one]
  rfl

omit [KinematicScalar ℝ] [ExactKinematics] in
/-- What the Jacobian says of a joint, of a chain of motions in which it
is the moving one. -/
theorem jacobianColumn_moves (before after : Motion) (joint : DhJoint ℝ)
    (value : ℝ) (hbefore : before.Proper) :
    let frame := before.comp (valueMotion (joint, value))
    let chain := frame.comp after
    let axis := frame.rotation *ᵥ ![0, 0, 1]
    MovesAt (fun s => (before.comp (valueMotion (joint, s))).comp after)
      ⟨skew (angularVelocity joint.type axis) * chain.rotation,
        linearVelocity joint.type axis frame.translation chain.translation⟩
      value := by
  intro frame chain axis
  have hmoves := moves_valueMotion joint value
  have hframe : frame.Proper := hbefore.comp (proper_jointMotion joint _ _)
  unfold angularVelocity linearVelocity
  by_cases htype : joint.type = .revolute
  · rw [if_pos htype] at hmoves ⊢
    rw [if_pos htype]
    exact hmoves.turning hframe after
  · rw [if_neg htype] at hmoves ⊢
    rw [if_neg htype, skew_zero, Matrix.zero_mul]
    exact hmoves.sliding before after

-- === every joint

/-- The end effector moves with one value of the configuration, as the
kinematics give its origin and its rotation near that value. -/
def SerialRobotModel.EndEffectorMoves (robot : SerialRobotModel ℝ)
    (configuration : List ℝ) (j : Nat) (linear angular : Fin 3 → ℝ) : Prop :=
  ∃ (value : ℝ) (motion : ℝ → Motion), configuration[j]? = some value
    ∧ (∀ᶠ s in 𝓝 value, ∃ origins transform,
      robot.forwardKinematics (configuration.set j s) = .ok origins
        ∧ origins.getLast? = some (motion s).translation
        ∧ robot.endEffectorTransform (configuration.set j s) = .ok transform
        ∧ transform.motion = motion s)
    ∧ (∀ i, HasDerivAt (fun s => (motion s).translation i) (linear i) value)
    ∧ ∀ i k, HasDerivAt (fun s => (motion s).rotation i k)
      ((skew angular * (motion value).rotation) i k) value

omit [ExactKinematics] in
theorem getLast?_jointFrames {transform : Matrix4 ℝ}
    {entries : List (DhJoint ℝ × ℝ)} (h : entries ≠ []) :
    (jointFrames transform entries).getLast?
      = some (lastFrame transform entries) := by
  induction entries generalizing transform with
  | nil => exact absurd rfl h
  | cons entry entries ih =>
      cases entries with
      | nil => rfl
      | cons second entries =>
          have hrest := @ih (multiply transform
            (jointMatrix entry.1 entry.2)) (List.cons_ne_nil _ _)
          unfold jointFrames
          rw [List.getLast?_cons, hrest]
          rfl

omit [ExactKinematics] in
/-- The last origin is that of the transform of the end effector. -/
theorem getLast?_forwardKinematics
    (hentries : robot.joints.zip configuration ≠ [])
    (haccepted : robot.checkConfiguration configuration = .ok ()) :
    ∃ origins, robot.forwardKinematics configuration = .ok origins
      ∧ origins.getLast? = some (robot.toolTransform (lastFrame identityMatrix
        (robot.joints.zip configuration))).origin := by
  have hframes := @getLast?_jointFrames _ identityMatrix _ hentries
  unfold SerialRobotModel.forwardKinematics SerialRobotModel.toolTransform
  rw [haccepted, ok_bind]
  cases robot.toolFrame with
  | none =>
      refine ⟨_, rfl, ?_⟩
      rw [List.getLast?_cons, List.getLast?_map, hframes]
      rfl
  | some tool =>
      refine ⟨_, rfl, ?_⟩
      rw [List.getLast?_append, List.getLast?_singleton]
      rfl

omit [ExactKinematics] in
/-- The value of a row and a column, where the columns are given. -/
theorem at_columns {n : Nat} {columns : List (List ℝ)}
    (hlength : columns.length = n) {row : Nat} (hrow : row < 6)
    {column : List ℝ} (hcolumn : columns[j]? = some column) :
    GeometricJacobian.at
      { columns := n
        values := (List.range 6).flatMap fun row =>
          columns.map fun column => column.getD row Scalar.zero } row j
      = some (column.getD row Scalar.zero) := by
  subst hlength
  have hj := (List.getElem?_eq_some_iff.mp hcolumn).1
  unfold GeometricJacobian.at
  dsimp only
  rw [if_neg (by omega), getElem?_rows (fun row => List.length_map _) hj,
    List.getElem?_range hrow]
  show (columns.map fun column => column.getD row Scalar.zero)[j]? = _
  rw [List.getElem?_map, hcolumn]
  rfl

omit [ExactKinematics] in
theorem length_jointFrames (transform : Matrix4 ℝ)
    (entries : List (DhJoint ℝ × ℝ)) :
    (jointFrames transform entries).length = entries.length := by
  induction entries generalizing transform with
  | nil => rfl
  | cons entry entries ih => exact congrArg Nat.succ (ih _)

/-- The motion of the end effector, as that of one joint between those
before and after it. -/
theorem motion_endEffector_set (hjoint : robot.joints[j]? = some joint)
    (hvalue : configuration[j]? = some value) (s : ℝ) :
    (robot.toolTransform (lastFrame identityMatrix
        (robot.joints.zip (configuration.set j s)))).motion
      = ((chainMotion ((robot.joints.zip configuration).take j)).comp
          (valueMotion (joint, s))).comp
        ((chainMotion ((robot.joints.zip configuration).drop (j + 1))).comp
          robot.toolMotion) := by
  rw [motion_endEffector, zip_set hjoint hvalue, chainMotion_append]
  show (Motion.comp _ ((valueMotion (joint, s)).comp (chainMotion _))).comp _ = _
  rw [← Motion.comp_assoc, Motion.comp_assoc]

/-- The frame of a joint has the motion of the joints up to it. -/
theorem motion_frame (hjoint : robot.joints[j]? = some joint)
    (hvalue : configuration[j]? = some value) :
    (lastFrame identityMatrix
        ((robot.joints.zip configuration).take (j + 1))).motion
      = (chainMotion ((robot.joints.zip configuration).take j)).comp
          (valueMotion (joint, value)) := by
  have hentry : (robot.joints.zip configuration)[j]? = some (joint, value) :=
    List.getElem?_zip_eq_some.mpr ⟨hjoint, hvalue⟩
  rw [motion_lastFrame, motion_identityMatrix, Motion.still_comp,
    List.take_add_one, hentry, chainMotion_append]
  show Motion.comp _ ((valueMotion (joint, value)).comp .still) = _
  rw [Motion.comp_still]

/-- **The geometric Jacobian is the derivative of the kinematics**: its
first three rows that of the last origin, its last three the vector about
which the rotation of the end effector turns. -/
theorem geometricJacobian_is_derivative
    (hrobot : robot.validate = .ok ()) (hinside : robot.Inside configuration) :
    ∃ jacobian, robot.endEffectorGeometricJacobian configuration = .ok jacobian
      ∧ jacobian.columns = robot.dimension
      ∧ ∀ j < robot.dimension, ∃ linear angular : Fin 3 → ℝ,
        (∀ i : Fin 3, jacobian.at i j = some (linear i)
          ∧ jacobian.at (3 + i) j = some (angular i))
        ∧ robot.EndEffectorMoves configuration j linear angular := by
  have hlength : configuration.length = robot.dimension := by
    rw [← hinside.length_eq]
    exact (SerialRobotModel.validate_ok hrobot).2.1
  have hzip : (robot.joints.zip configuration).length = robot.dimension := by
    rw [List.length_zip, hlength]
    exact Nat.min_self _
  have haccepted := accepted_of_inside hrobot hinside
  unfold SerialRobotModel.endEffectorGeometricJacobian
  rw [haccepted, ok_bind]
  refine ⟨_, rfl, rfl, ?_⟩
  intro j hj
  obtain ⟨joint, hjoint⟩ : ∃ joint, robot.joints[j]? = some joint :=
    ⟨_, List.getElem?_eq_getElem hj⟩
  obtain ⟨value, hvalue⟩ : ∃ value, configuration[j]? = some value :=
    ⟨_, List.getElem?_eq_getElem (hlength ▸ hj)⟩
  have hframe := @getElem?_jointFrames _ identityMatrix
    (robot.joints.zip configuration) j (hzip ▸ hj)
  have hmotion := motion_frame hjoint hvalue
  have hend := motion_endEffector_set hjoint hvalue value
  obtain ⟨hj', hget⟩ := List.getElem?_eq_some_iff.mp hvalue
  rw [← hget, List.set_getElem_self, hget] at hend
  have hmoves := jacobianColumn_moves
    (chainMotion ((robot.joints.zip configuration).take j))
    ((chainMotion ((robot.joints.zip configuration).drop (j + 1))).comp
      robot.toolMotion) joint value (proper_chainMotion _)
  dsimp only at hmoves
  have haxis : ((chainMotion ((robot.joints.zip configuration).take j)).comp
      (valueMotion (joint, value))).rotation *ᵥ ![0, 0, 1]
        = (lastFrame identityMatrix
          ((robot.joints.zip configuration).take (j + 1))).axis := by
    rw [axis_eq, hmotion]
  have horigin : ((chainMotion ((robot.joints.zip configuration).take j)).comp
      (valueMotion (joint, value))).translation
        = (lastFrame identityMatrix
          ((robot.joints.zip configuration).take (j + 1))).origin := by
    rw [← hmotion]
    rfl
  have horiginEnd : (((chainMotion
      ((robot.joints.zip configuration).take j)).comp
      (valueMotion (joint, value))).comp ((chainMotion
        ((robot.joints.zip configuration).drop (j + 1))).comp
        robot.toolMotion)).translation
        = (robot.toolTransform (lastFrame identityMatrix
          (robot.joints.zip configuration))).origin := by
    rw [← hend]
    rfl
  rw [haxis, horigin, horiginEnd] at hmoves
  refine ⟨_, _, ?_, value, _, hvalue, ?_, hmoves.translation, hmoves.rotation⟩
  · intro i
    have hcolumns : ((robot.joints.zip (jointFrames identityMatrix
        (robot.joints.zip configuration))).map fun entry =>
          SerialRobotModel.jacobianColumn entry.1.type entry.2.axis
            entry.2.origin (robot.toolTransform (lastFrame identityMatrix
              (robot.joints.zip configuration))).origin).length
        = robot.dimension := by
      rw [List.length_map, List.length_zip, length_jointFrames, hzip]
      exact Nat.min_self _
    have hcolumn : (robot.joints.zip (jointFrames identityMatrix
        (robot.joints.zip configuration)))[j]?
          = some (joint, lastFrame identityMatrix
            ((robot.joints.zip configuration).take (j + 1))) :=
      List.getElem?_zip_eq_some.mpr ⟨hjoint, hframe⟩
    constructor
    · rw [at_columns hcolumns (by omega) (by rw [List.getElem?_map, hcolumn]; rfl)]
      exact congrArg some (getD_jacobianColumn _ _ _ _ i).1
    · rw [at_columns hcolumns (by omega) (by rw [List.getElem?_map, hcolumn]; rfl)]
      exact congrArg some (getD_jacobianColumn _ _ _ _ i).2
  · filter_upwards [eventually_accepted hrobot hinside hvalue] with s hs
    have hentries : robot.joints.zip (configuration.set j s) ≠ [] := by
      rw [zip_set hjoint hvalue]
      simp
    obtain ⟨origins, horigins, hlast⟩ := getLast?_forwardKinematics hentries hs
    have hset := motion_endEffector_set hjoint hvalue s
    refine ⟨origins, _, horigins, ?_, ?_, hset⟩
    · rw [hlast, ← hset]
      rfl
    · unfold SerialRobotModel.endEffectorTransform
      rw [hs, ok_bind]

end

-- === sample

/-- One joint that turns at the origin. -/
noncomputable def turntable : SerialRobotModel ℝ where
  name := ascii "turntable"
  joints := [⟨0, 0, 0, 0, .revolute⟩]
  jointLimits := [⟨-1, 1⟩]
  linkRadii := [1]
  toolFrame := none

theorem validate_turntable : turntable.validate = .ok () := by
  have hfinite : ∀ x : ℝ, Scalar.isFinite x = true := ExactScalar.isFinite_eq
  have hlimit : (⟨-1, 1⟩ : Interval ℝ).valid = true := by
    unfold Interval.valid
    rw [hfinite, hfinite, Bool.true_and, Bool.true_and, ExactScalar.le_iff]
    norm_num
  have hradius : Scalar.lt (1 : ℝ) Scalar.zero = false := by
    rw [ExactScalar.lt_eq, ExactScalar.zero_eq, decide_eq_false_iff_not]
    norm_num
  have hjoints : validateJoints 0 (turntable.joints.zip turntable.jointLimits)
      = .ok () := by
    show (if finiteJoint (⟨0, 0, 0, 0, .revolute⟩ : DhJoint ℝ) = false then _
      else if (⟨-1, 1⟩ : Interval ℝ).valid = false then _ else _) = _
    rw [hlimit]
    simp [finiteJoint, hfinite, validateJoints]
  have hradii : validateRadii 0 turntable.linkRadii = .ok () := by
    show (if Scalar.isFinite (1 : ℝ) = false ∨ Scalar.lt (1 : ℝ) Scalar.zero = true
      then _ else _) = _
    rw [hfinite, hradius]
    rfl
  unfold SerialRobotModel.validate
  rw [if_neg (by decide), if_neg (by decide), if_neg (by decide), hjoints,
    ok_bind, hradii, ok_bind, if_neg]
  intro h
  obtain ⟨tool, htool, -⟩ := h
  cases htool

omit [KinematicScalar ℝ] [ExactKinematics] in
theorem inside_turntable : turntable.Inside [0] := by
  refine .cons ⟨?_, ?_⟩ .nil
  · norm_num
  · norm_num

end

theorem geometricJacobian_is_derivative_turntable :
    letI := realKinematics
    ∃ jacobian, turntable.endEffectorGeometricJacobian [0] = .ok jacobian
      ∧ jacobian.columns = turntable.dimension
      ∧ ∀ j < turntable.dimension, ∃ linear angular : Fin 3 → ℝ,
        (∀ i : Fin 3, jacobian.at i j = some (linear i)
          ∧ jacobian.at (3 + i) j = some (angular i))
        ∧ turntable.EndEffectorMoves [0] j linear angular :=
  letI := realKinematics
  haveI := exact_realKinematics
  geometricJacobian_is_derivative validate_turntable inside_turntable

end RbfSafe
