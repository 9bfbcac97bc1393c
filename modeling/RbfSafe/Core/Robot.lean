/-
`model.cpp`: the robot, a chain of joints with a radius for each link.

The kinematics are not here: what the occupancies use of a robot is the
check of its fields, its limits and its digest.
-/
import RbfSafe.Core.Workspace

namespace RbfSafe

open Json

/-- `JointType`. -/
inductive JointType where
  | revolute
  | prismatic
deriving DecidableEq, Repr

section
variable (α : Type)

/-- `DhJoint`. -/
structure DhJoint where
  alpha : α
  a : α
  d : α
  theta : α
  type : JointType

/-- `SerialRobotModel`. -/
structure SerialRobotModel where
  name : Bytes
  joints : List (DhJoint α)
  jointLimits : List (Interval α)
  linkRadii : List α
  toolFrame : Option (DhJoint α)

end

variable {α : Type} [MetricScalar α]

/-- `finite_joint`. -/
def finiteJoint (joint : DhJoint α) : Bool :=
  Scalar.isFinite joint.alpha && Scalar.isFinite joint.a
    && Scalar.isFinite joint.d && Scalar.isFinite joint.theta

/-- `joint_json`. -/
def jointJson (joint : DhJoint α) : Json :=
  .object (obj
    [("a", MetricScalar.json joint.a),
      ("alpha", MetricScalar.json joint.alpha),
      ("d", MetricScalar.json joint.d),
      ("theta", MetricScalar.json joint.theta),
      ("type", .string (if joint.type = .revolute then ascii "revolute"
        else ascii "prismatic"))])

/-- The joint loop of `SerialRobotModel::validate`. -/
def validateJoints : Nat → List (DhJoint α × Interval α) → Result Unit
  | _, [] => .ok ()
  | index, (joint, limit) :: rest =>
      if finiteJoint joint = false then
        failure .invalidArgument "joint contains invalid values"
          (stdToString index)
      else if limit.valid = false then
        failure .invalidArgument "joint limit is invalid" (stdToString index)
      else validateJoints (index + 1) rest

/-- The radius loop of `SerialRobotModel::validate`. -/
def validateRadii : Nat → List α → Result Unit
  | _, [] => .ok ()
  | index, radius :: rest =>
      if Scalar.isFinite radius = false
          ∨ Scalar.lt radius Scalar.zero = true then
        failure .invalidArgument "link radius must be finite and non-negative"
          (stdToString index)
      else validateRadii (index + 1) rest

namespace SerialRobotModel

/-- `SerialRobotModel::dimension`. -/
def dimension (robot : SerialRobotModel α) : Nat := robot.joints.length

/-- `SerialRobotModel::link_count`. -/
def linkCount (robot : SerialRobotModel α) : Nat := robot.linkRadii.length

/-- `SerialRobotModel::validate`. -/
def validate (robot : SerialRobotModel α) : Result Unit :=
  if robot.name.isEmpty = true then
    failure .invalidArgument "robot name must not be empty"
  else if robot.joints.isEmpty = true ∨ 64 < robot.joints.length then
    failure .invalidArgument "robot must contain between 1 and 64 joints"
  else if robot.jointLimits.length ≠ robot.joints.length
      ∨ robot.linkRadii.length
        ≠ robot.joints.length + (if robot.toolFrame.isSome then 1 else 0) then
    failure .dimensionMismatch
      "link radii must describe every joint link and the optional tool link"
  else do
    validateJoints 0 (robot.joints.zip robot.jointLimits)
    validateRadii 0 robot.linkRadii
    if ∃ tool ∈ robot.toolFrame, finiteJoint tool = false then
      failure .invalidArgument "tool frame contains invalid values"
    else .ok ()

/-- `SerialRobotModel::canonical_json`. -/
def canonicalJson (L : Libc) (robot : SerialRobotModel α) : Bytes :=
  dump L false 0 (.object (obj
    [("joint_limits", .array (robot.jointLimits.map fun limit =>
        .array [MetricScalar.json limit.lower, MetricScalar.json limit.upper])),
      ("joints", .array (robot.joints.map jointJson)),
      ("link_radii", .array (robot.linkRadii.map MetricScalar.json)),
      ("name", .string robot.name),
      ("schema", num 1),
      ("tool_frame", robot.toolFrame.elim .null jointJson)]))

/-- `SerialRobotModel::digest`. -/
def digest (P : Platform) (robot : SerialRobotModel α) : Bytes :=
  P.sha256 (robot.canonicalJson P.toLibc)

/-- What a robot that passes its check has. -/
theorem validate_ok {robot : SerialRobotModel α}
    (h : robot.validate = .ok ()) :
    0 < robot.dimension ∧ robot.jointLimits.length = robot.dimension
      ∧ 0 < robot.linkCount := by
  rw [validate, ite_failure_eq_ok, ite_failure_eq_ok, ite_failure_eq_ok] at h
  obtain ⟨-, hjoints, hlengths, -⟩ := h
  simp only [not_or, List.isEmpty_iff, not_not] at hjoints hlengths
  have hpos : 0 < robot.joints.length := List.length_pos_of_ne_nil hjoints.1
  refine ⟨hpos, hlengths.1, ?_⟩
  unfold linkCount
  rw [hlengths.2]
  omega

end SerialRobotModel

end RbfSafe
