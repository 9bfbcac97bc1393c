/-
`model.cpp`: the kinematics of a robot.

A joint is a modified Denavit-Hartenberg transform: it turns about the x
axis of the frame before it and moves along it, then turns about its own
z axis and moves along that. The transform of a frame is the product of
those of the joints up to it; the tool is one more, at the value zero.
-/
import RbfSafe.Core.Robot
import Mathlib.Data.Fin.VecNotation

namespace RbfSafe

/-- The scalars that also have `std::cos` and `std::sin`. -/
class KinematicScalar (α : Type) extends MetricScalar α where
  cos : α → α
  sin : α → α

-- === matrices

/-- `Matrix4`: four rows of four. -/
abbrev Matrix4 (α : Type) := Vector α 16

/-- The entry of a row and a column. -/
def Matrix4.entry {α : Type} (matrix : Matrix4 α) (row column : Fin 4) : α :=
  matrix.get ⟨row.val * 4 + column.val, by omega⟩

variable {α : Type}

section
variable [Scalar α]

/-- `identity_matrix`. -/
def identityMatrix : Matrix4 α :=
  Vector.ofFn fun index =>
    if index.val = 0 ∨ index.val = 5 ∨ index.val = 10 ∨ index.val = 15 then
      Scalar.one
    else Scalar.zero

/-- `multiply`. -/
def multiply (left right : Matrix4 α) : Matrix4 α :=
  Vector.ofFn fun index =>
    let row : Fin 4 := ⟨index.val / 4, by omega⟩
    let column : Fin 4 := ⟨index.val % 4, by omega⟩
    (List.finRange 4).foldl (fun sum inner =>
      Scalar.add sum (Scalar.mul (left.entry row inner)
        (right.entry inner column))) Scalar.zero

/-- The fourth column of a transform. -/
def Matrix4.origin (matrix : Matrix4 α) : Fin 3 → α :=
  fun axis => matrix.entry axis.castSucc 3

/-- The third column of a transform. -/
def Matrix4.axis (matrix : Matrix4 α) : Fin 3 → α :=
  fun axis => matrix.entry axis.castSucc 2

end

section
variable [KinematicScalar α]

/-- `joint_matrix`. -/
def jointMatrix (joint : DhJoint α) (value : α) : Matrix4 α :=
  let theta := Scalar.add joint.theta
    (if joint.type = .revolute then value else Scalar.zero)
  let d := Scalar.add joint.d
    (if joint.type = .prismatic then value else Scalar.zero)
  let cosineTheta := KinematicScalar.cos theta
  let sineTheta := KinematicScalar.sin theta
  let cosineAlpha := KinematicScalar.cos joint.alpha
  let sineAlpha := KinematicScalar.sin joint.alpha
  #v[cosineTheta, Scalar.neg sineTheta, Scalar.zero, joint.a,
    Scalar.mul sineTheta cosineAlpha, Scalar.mul cosineTheta cosineAlpha,
    Scalar.neg sineAlpha, Scalar.mul (Scalar.neg d) sineAlpha,
    Scalar.mul sineTheta sineAlpha, Scalar.mul cosineTheta sineAlpha,
    cosineAlpha, Scalar.mul d cosineAlpha,
    Scalar.zero, Scalar.zero, Scalar.zero, Scalar.one]

/-- The transforms after each joint, from one before the first. -/
def jointFrames (transform : Matrix4 α) :
    List (DhJoint α × α) → List (Matrix4 α)
  | [] => []
  | (joint, value) :: rest =>
      let next := multiply transform (jointMatrix joint value)
      next :: jointFrames next rest

/-- The transform after all joints. -/
def lastFrame (transform : Matrix4 α) (joints : List (DhJoint α × α)) :
    Matrix4 α :=
  joints.foldl (fun transform entry =>
    multiply transform (jointMatrix entry.1 entry.2)) transform

-- === poses

/-- `Pose3d`; the orientation is `x`, `y`, `z`, `w`. -/
structure Pose3d (α : Type) where
  position : Fin 3 → α
  orientation : Fin 4 → α

/-- `scale`: twice the root of a number that is not negative. -/
def quaternionScale (square : α) : α :=
  Scalar.mul (Scalar.decimal 2 0)
    (MetricScalar.sqrt (Scalar.max Scalar.zero square))

/-- `pose_from_matrix`, before the quaternion is normalized. -/
def quaternionFromMatrix (matrix : Matrix4 α) : α × α × α × α :=
  let m := fun index : Fin 16 => matrix.get index
  let trace := Scalar.add (Scalar.add (m 0) (m 5)) (m 10)
  let quarter := Scalar.decimal 25 2
  if Scalar.lt Scalar.zero trace = true then
    let scale := quaternionScale (Scalar.add trace Scalar.one)
    (Scalar.div (Scalar.sub (m 9) (m 6)) scale,
      Scalar.div (Scalar.sub (m 2) (m 8)) scale,
      Scalar.div (Scalar.sub (m 4) (m 1)) scale, Scalar.mul quarter scale)
  else if Scalar.lt (m 5) (m 0) = true ∧ Scalar.lt (m 10) (m 0) = true then
    let scale := quaternionScale (Scalar.sub (Scalar.sub
      (Scalar.add Scalar.one (m 0)) (m 5)) (m 10))
    (Scalar.mul quarter scale, Scalar.div (Scalar.add (m 1) (m 4)) scale,
      Scalar.div (Scalar.add (m 2) (m 8)) scale,
      Scalar.div (Scalar.sub (m 9) (m 6)) scale)
  else if Scalar.lt (m 10) (m 5) = true then
    let scale := quaternionScale (Scalar.sub (Scalar.sub
      (Scalar.add Scalar.one (m 5)) (m 0)) (m 10))
    (Scalar.div (Scalar.add (m 1) (m 4)) scale, Scalar.mul quarter scale,
      Scalar.div (Scalar.add (m 6) (m 9)) scale,
      Scalar.div (Scalar.sub (m 2) (m 8)) scale)
  else
    let scale := quaternionScale (Scalar.sub (Scalar.sub
      (Scalar.add Scalar.one (m 10)) (m 0)) (m 5))
    (Scalar.div (Scalar.add (m 2) (m 8)) scale,
      Scalar.div (Scalar.add (m 6) (m 9)) scale, Scalar.mul quarter scale,
      Scalar.div (Scalar.sub (m 4) (m 1)) scale)

/-- The norm of a quaternion. -/
def quaternionNorm (q : α × α × α × α) : α :=
  MetricScalar.sqrt (Scalar.add (Scalar.add (Scalar.add
    (Scalar.mul q.1 q.1) (Scalar.mul q.2.1 q.2.1))
    (Scalar.mul q.2.2.1 q.2.2.1)) (Scalar.mul q.2.2.2 q.2.2.2))

/-- Whether the first nonzero number of `w`, `x`, `y`, `z` is negative. -/
def quaternionNegative (q : α × α × α × α) : Bool :=
  let negative := fun value => Scalar.lt value Scalar.zero
  let zero := fun value => Scalar.eq value Scalar.zero
  negative q.2.2.2 || (zero q.2.2.2 && (negative q.1 || (zero q.1
    && (negative q.2.1 || (zero q.2.1 && negative q.2.2.1)))))

/-- `pose_from_matrix`. -/
def poseFromMatrix (matrix : Matrix4 α) : Pose3d α :=
  let q := quaternionFromMatrix matrix
  let norm := quaternionNorm q
  let q := if Scalar.lt Scalar.zero norm = true then
      (Scalar.div q.1 norm, Scalar.div q.2.1 norm, Scalar.div q.2.2.1 norm,
        Scalar.div q.2.2.2 norm)
    else q
  let q := if quaternionNegative q = true then
      (Scalar.neg q.1, Scalar.neg q.2.1, Scalar.neg q.2.2.1,
        Scalar.neg q.2.2.2)
    else q
  { position := matrix.origin
    orientation := ![q.1, q.2.1, q.2.2.1, q.2.2.2] }

-- === kinematics

/-- `GeometricJacobian`. -/
structure GeometricJacobian (α : Type) where
  columns : Nat := 0
  values : List α := []

/-- `GeometricJacobian::at`; `none` where the index is out of range. -/
def GeometricJacobian.at (jacobian : GeometricJacobian α)
    (row column : Nat) : Option α :=
  if row ≥ 6 ∨ column ≥ jacobian.columns then none
  else jacobian.values[row * jacobian.columns + column]?

namespace SerialRobotModel

/-- The loop of the limits. -/
def checkLimits : Nat → List (Interval α × α) → Result Unit
  | _, [] => .ok ()
  | index, (limit, value) :: rest =>
      if limit.contains value Scalar.tolerance = false then
        failure .invalidArgument "configuration lies outside joint limits"
          (stdToString index)
      else checkLimits (index + 1) rest

/-- The checks that the kinematics begin with. -/
def checkConfiguration (robot : SerialRobotModel α)
    (configuration : List α) : Result Unit := do
  robot.validate
  validateConfiguration configuration robot.dimension
    (ascii "configuration")
  checkLimits 0 (robot.jointLimits.zip configuration)

/-- The transform of the tool, after that of the last joint. -/
def toolTransform (robot : SerialRobotModel α) (transform : Matrix4 α) :
    Matrix4 α :=
  match robot.toolFrame with
  | none => transform
  | some tool => multiply transform (jointMatrix tool Scalar.zero)

/-- `SerialRobotModel::forward_kinematics`. -/
def forwardKinematics (robot : SerialRobotModel α) (configuration : List α) :
    Result (List (Fin 3 → α)) := do
  robot.checkConfiguration configuration
  let joints := robot.joints.zip configuration
  let frames := jointFrames identityMatrix joints
  let origins := (fun _ => Scalar.zero) :: frames.map Matrix4.origin
  match robot.toolFrame with
  | none => .ok origins
  | some _ =>
      .ok (origins ++
        [(robot.toolTransform (lastFrame identityMatrix joints)).origin])

/-- The transform of the end effector. -/
def endEffectorTransform (robot : SerialRobotModel α)
    (configuration : List α) : Result (Matrix4 α) := do
  robot.checkConfiguration configuration
  .ok (robot.toolTransform
    (lastFrame identityMatrix (robot.joints.zip configuration)))

/-- `SerialRobotModel::end_effector_pose`. -/
def endEffectorPose (robot : SerialRobotModel α)
    (configuration : List α) : Result (Pose3d α) := do
  let transform ← robot.endEffectorTransform configuration
  .ok (poseFromMatrix transform)

/-- One column of the Jacobian: the linear and the angular velocity. -/
def jacobianColumn (type : JointType) (axis origin endEffector : Fin 3 → α) :
    List α :=
  if type = .revolute then
    let offset := fun i => Scalar.sub (endEffector i) (origin i)
    [Scalar.sub (Scalar.mul (axis 1) (offset 2)) (Scalar.mul (axis 2) (offset 1)),
      Scalar.sub (Scalar.mul (axis 2) (offset 0)) (Scalar.mul (axis 0) (offset 2)),
      Scalar.sub (Scalar.mul (axis 0) (offset 1)) (Scalar.mul (axis 1) (offset 0)),
      axis 0, axis 1, axis 2]
  else [axis 0, axis 1, axis 2, Scalar.zero, Scalar.zero, Scalar.zero]

/-- `SerialRobotModel::end_effector_geometric_jacobian`. -/
def endEffectorGeometricJacobian (robot : SerialRobotModel α)
    (configuration : List α) : Result (GeometricJacobian α) := do
  robot.checkConfiguration configuration
  let joints := robot.joints.zip configuration
  let frames := jointFrames identityMatrix joints
  let endEffector :=
    (robot.toolTransform (lastFrame identityMatrix joints)).origin
  let columns := (robot.joints.zip frames).map fun entry =>
    jacobianColumn entry.1.type entry.2.axis entry.2.origin endEffector
  -- row by row: the values of all joints in the row
  .ok { columns := robot.dimension
        values := (List.range 6).flatMap fun row =>
          columns.map fun column => column.getD row Scalar.zero }

end SerialRobotModel

end

end RbfSafe
