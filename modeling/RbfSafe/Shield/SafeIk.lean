/-
`safe_ik.cpp`: inverse kinematics inside the regions of an atlas.

The regions are tried in the order of their distance from the seed, each
from the projection of the seed and from its center. Within a region the
solver takes damped least squares steps, clamped to the box and halved
until the weighted error falls, so that every configuration it asks the
robot about lies in the box; a solution is one whose pose is within the
tolerances. The first solution that the atlas connects with the seed is
reported.

The Jacobian of finite differences is kept as the list of its columns.
The answers of the cancellation token are a function of where the solver
is: the attempt and the iteration. A computation that asks the atlas for a
route has an answer where the route has one.
-/
import RbfSafe.Core.Kinematics
import RbfSafe.Atlas.Audit
import RbfSafe.Atlas.Query
import RbfSafe.Atlas.Route

namespace RbfSafe

/-- The scalars that also have `std::atan2`. -/
class InverseScalar (α : Type) extends KinematicScalar α, DecodedScalar α where
  atan2 : α → α → α

/-- `Pose3d::valid`. -/
def Pose3d.valid {α : Type} [MetricScalar α] (pose : Pose3d α) (tolerance : α) :
    Bool :=
  let position := (List.finRange 3).map pose.position
  let orientation := (List.finRange 4).map pose.orientation
  let squaredNorm := orientation.foldl
    (fun sum value => Scalar.add sum (Scalar.mul value value)) Scalar.zero
  Scalar.isFinite tolerance && !Scalar.lt tolerance Scalar.zero
    && position.all Scalar.isFinite && orientation.all Scalar.isFinite
    && Scalar.le (Scalar.abs (Scalar.sub (MetricScalar.sqrt squaredNorm)
      Scalar.one)) tolerance

namespace Atlas

-- === distances

section
variable {α : Type} [Scalar α]

/-- `squared_distance`. -/
def squaredDistance (first second : List α) : α :=
  (first.zip second).foldl (fun squared ends =>
    let difference := Scalar.sub ends.1 ends.2
    Scalar.add squared (Scalar.mul difference difference)) Scalar.zero

/-- `project_to_box`. -/
def projectToBox (configuration : List α) (box : CspaceAabb α) : List α :=
  (configuration.zip box.axes).map fun p =>
    Scalar.clamp p.1 p.2.lower p.2.upper

end

-- === residuals

section
variable {α : Type} [InverseScalar α]

/-- `normalized_quaternion`. -/
def normalizedQuaternion (q : Fin 4 → α) : Vector α 4 :=
  let normSquared := (List.finRange 4).foldl
    (fun sum axis => Scalar.add sum (Scalar.mul (q axis) (q axis))) Scalar.zero
  let inverseNorm := Scalar.div Scalar.one (MetricScalar.sqrt normSquared)
  Vector.ofFn fun axis => Scalar.mul (q axis) inverseNorm

/-- `conjugate`. -/
def conjugate (q : Fin 4 → α) : Fin 4 → α :=
  ![Scalar.neg (q 0), Scalar.neg (q 1), Scalar.neg (q 2), q 3]

/-- `multiply` of quaternions. -/
def multiplyQuaternions (l r : Fin 4 → α) : Fin 4 → α :=
  let term := fun i j => Scalar.mul (l i) (r j)
  ![Scalar.sub (Scalar.add (Scalar.add (term 3 0) (term 0 3)) (term 1 2))
      (term 2 1),
    Scalar.add (Scalar.add (Scalar.sub (term 3 1) (term 0 2)) (term 1 3))
      (term 2 0),
    Scalar.add (Scalar.sub (Scalar.add (term 3 2) (term 0 1)) (term 1 0))
      (term 2 3),
    Scalar.sub (Scalar.sub (Scalar.sub (term 3 3) (term 0 0)) (term 1 1))
      (term 2 2)]

/-- `rotation_vector`. -/
def rotationVector (source target : Fin 4 → α) : Vector α 3 :=
  let relative := normalizedQuaternion (multiplyQuaternions
    (normalizedQuaternion target).get
    (conjugate (normalizedQuaternion source).get))
  let relative := if Scalar.lt relative[3] Scalar.zero then
    relative.map Scalar.neg else relative
  let sineHalf := MetricScalar.sqrt (Scalar.add (Scalar.add
    (Scalar.mul relative[0] relative[0]) (Scalar.mul relative[1] relative[1]))
    (Scalar.mul relative[2] relative[2]))
  let scale :=
    if Scalar.le sineHalf (Scalar.decimal 1 15) then Scalar.decimal 2 0
    else
      let angle := Scalar.mul (Scalar.decimal 2 0) (InverseScalar.atan2 sineHalf
        (Scalar.clamp relative[3] Scalar.zero Scalar.one))
      Scalar.div angle sineHalf
  #v[Scalar.mul scale relative[0], Scalar.mul scale relative[1],
    Scalar.mul scale relative[2]]

/-- `PoseResidual`. -/
structure PoseResidual (α : Type) where
  vector : Vector α 6
  positionNorm : α
  orientationNorm : α

/-- `residual`. -/
def residual (current target : Pose3d α) : PoseResidual α :=
  let position := Vector.ofFn fun axis : Fin 3 =>
    Scalar.sub (target.position axis) (current.position axis)
  let orientation := rotationVector current.orientation target.orientation
  let norm := fun v : Vector α 3 => MetricScalar.sqrt (v.toList.foldl
    (fun sum value => Scalar.add sum (Scalar.mul value value)) Scalar.zero)
  { vector := (position ++ orientation).cast rfl
    positionNorm := norm position
    orientationNorm := norm orientation }

/-- `weighted_objective`. -/
def weightedObjective (value : PoseResidual α) (orientationWeight : α) : α :=
  (List.finRange 6).foldl (fun sum axis =>
    let entry := value.vector.get axis
    Scalar.add sum (if axis.val < 3 then Scalar.mul entry entry
      else Scalar.mul (Scalar.mul (Scalar.mul orientationWeight
        orientationWeight) entry) entry)) Scalar.zero

end

-- === linear systems

section
variable {α : Type} [Scalar α]

/-- The rows of a `Matrix6`. -/
abbrev Matrix6 (α : Type) := Vector (Vector α 6) 6

/-- The row of the largest entry of a column, from the diagonal down. -/
def selectPivot (matrix : Matrix6 α) (pivot : Fin 6) : Fin 6 :=
  ((List.finRange 6).filter (pivot < ·)).foldl (fun selected row =>
    if Scalar.lt (Scalar.abs ((matrix.get selected).get pivot))
        (Scalar.abs ((matrix.get row).get pivot)) then row
    else selected) pivot

/-- One turn of the outer loop of `solve_linear_system`. -/
def eliminate (pivot : Fin 6) (matrix : Matrix6 α) (right : Vector α 6) :
    Option (Matrix6 α × Vector α 6) :=
  let selected := selectPivot matrix pivot
  if Scalar.le (Scalar.abs ((matrix.get selected).get pivot))
      (Scalar.decimal 1 18) then none
  else
    let swap := fun row : Fin 6 =>
      if row = pivot then selected else if row = selected then pivot else row
    let matrix : Matrix6 α := Vector.ofFn fun row => Vector.ofFn fun column =>
      if pivot ≤ column then (matrix.get (swap row)).get column
      else (matrix.get row).get column
    let right : Vector α 6 := Vector.ofFn fun row => right.get (swap row)
    let inverse := Scalar.div Scalar.one ((matrix.get pivot).get pivot)
    let scaled : Vector α 6 := Vector.ofFn fun column =>
      if pivot ≤ column then Scalar.mul ((matrix.get pivot).get column) inverse
      else (matrix.get pivot).get column
    let scaledRight := Scalar.mul (right.get pivot) inverse
    some (Vector.ofFn fun row =>
        if row = pivot then scaled
        else Vector.ofFn fun column =>
          let entry := (matrix.get row).get column
          if pivot ≤ column then
            Scalar.sub entry (Scalar.mul ((matrix.get row).get pivot)
              (scaled.get column))
          else entry,
      Vector.ofFn fun row =>
        if row = pivot then scaledRight
        else Scalar.sub (right.get row)
          (Scalar.mul ((matrix.get row).get pivot) scaledRight))

/-- `solve_linear_system`. -/
def solveLinearSystem (matrix : Matrix6 α) (right : Vector α 6) :
    Option (Vector α 6) :=
  ((List.finRange 6).foldlM (fun system pivot =>
    eliminate pivot system.1 system.2) (matrix, right)).map Prod.snd

end

-- === options

section
variable {α : Type}

/-- `SafeIkOptions`. -/
structure SafeIkOptions (α : Type) where
  positionTolerance : α
  orientationTolerance : α
  orientationWeight : α
  damping : α
  finiteDifferenceStep : α
  maximumStepNorm : α
  minimumStepNorm : α
  maximumIterations : Nat := 128
  maximumRegionAttempts : Nat := 256
  maximumLineSearchSteps : Nat := 8
  requireConnectivity : Bool := true

/-- `SafeIkStats`. -/
structure SafeIkStats where
  regionAttempts : Nat := 0
  iterations : Nat := 0
  poseEvaluations : Nat := 0
  disconnectedSolutions : Nat := 0

/-- One more pose was asked for. -/
def SafeIkStats.evaluated (stats : SafeIkStats) : SafeIkStats :=
  { stats with poseEvaluations := stats.poseEvaluations + 1 }

/-- `SafeIkStatus`. -/
inductive SafeIkStatus where
  | safeConnected
  | safeUnconnected
  | seedNotCertified
  | noSolution
deriving DecidableEq, Repr

/-- `SafeIkReport`. -/
structure SafeIkReport (α : Type) [Scalar α] where
  status : SafeIkStatus := .noSolution
  solution : List α := []
  regionId : RegionId := 0
  regionCertificate : Option (Certificate α) := none
  connectivityRoute : Option (AtlasRoute α) := none
  poseEvidence : EvidenceLevel := .unknown
  positionError : α := Scalar.zero
  orientationError : α := Scalar.zero
  stats : SafeIkStats := {}

/-- `IterationResult`. -/
structure IterationResult (α : Type) where
  converged : Bool
  configuration : List α
  residual : PoseResidual α

/-- `valid_options`. -/
def SafeIkOptions.valid [Scalar α] (options : SafeIkOptions α) : Bool :=
  let nonNegative := fun value : α =>
    Scalar.isFinite value && Scalar.le Scalar.zero value
  let positive := fun value : α =>
    Scalar.isFinite value && Scalar.lt Scalar.zero value
  nonNegative options.positionTolerance
    && nonNegative options.orientationTolerance
    && positive options.orientationWeight && positive options.damping
    && positive options.finiteDifferenceStep && positive options.maximumStepNorm
    && nonNegative options.minimumStepNorm
    && Scalar.lt options.minimumStepNorm options.maximumStepNorm
    && decide (options.maximumIterations ≤ 10000)
    && decide (0 < options.maximumRegionAttempts)
    && decide (options.maximumRegionAttempts ≤ 1000000)
    && decide (options.maximumLineSearchSteps ≤ 64)

end

-- === one region

section
variable {α : Type} [InverseScalar α]

namespace SafeIkSolver

/-- What does not change while a region is tried. -/
structure Attempt (α : Type) where
  robot : SerialRobotModel α
  target : Pose3d α
  region : CspaceAabb α
  options : SafeIkOptions α
  cancelled : Nat → Bool

variable (attempt : Attempt α)

/-- The pose of a configuration with one value changed. -/
def poseAt (configuration : List α) (joint : Nat) (value : α)
    (stats : SafeIkStats) : Result (Pose3d α × SafeIkStats) := do
  let pose ← attempt.robot.endEffectorPose (configuration.set joint value)
  .ok (pose, stats.evaluated)

/-- A column of the Jacobian: the change of the pose between two poses. -/
def difference (lower upper : Pose3d α) (span : α) : Vector α 6 :=
  let orientation := rotationVector lower.orientation upper.orientation
  (Vector.ofFn (fun axis : Fin 3 => Scalar.div
    (Scalar.sub (upper.position axis) (lower.position axis)) span)
    ++ orientation.map fun value => Scalar.div value span).cast rfl

/-- The loop over the joints: the columns of the Jacobian. -/
def differentiate (configuration : List α) (pose : Pose3d α) :
    Nat → List (α × Interval α) → SafeIkStats →
      Result (List (Vector α 6) × SafeIkStats)
  | _, [], stats => .ok ([], stats)
  | joint, (value, axis) :: rest, stats =>
      let step := attempt.options.finiteDifferenceStep
      let plusStep := Scalar.min step
        (Scalar.max Scalar.zero (Scalar.sub axis.upper value))
      let minusStep := Scalar.min step
        (Scalar.max Scalar.zero (Scalar.sub value axis.lower))
      if Scalar.le plusStep Scalar.zero && Scalar.le minusStep Scalar.zero then do
        let (columns, stats) ←
          differentiate configuration pose (joint + 1) rest stats
        .ok (Vector.replicate 6 Scalar.zero :: columns, stats)
      else do
        let (lower, stats) ←
          if Scalar.lt Scalar.zero minusStep then
            poseAt attempt configuration joint (Scalar.sub value minusStep) stats
          else .ok (pose, stats)
        let (upper, stats) ←
          if Scalar.lt Scalar.zero plusStep then
            poseAt attempt configuration joint (Scalar.add value plusStep) stats
          else .ok (pose, stats)
        let (columns, stats) ←
          differentiate configuration pose (joint + 1) rest stats
        .ok (difference lower upper (Scalar.add plusStep minusStep) :: columns,
          stats)

/-- An entry of a column, weighted if it is of the orientation. -/
def weighted (options : SafeIkOptions α) (column : Vector α 6) (row : Fin 6) : α :=
  if row.val < 3 then column.get row
  else Scalar.mul (column.get row) options.orientationWeight

/-- `normal`: the weighted Jacobian times its transpose, and the damping. -/
def normalMatrix (options : SafeIkOptions α) (jacobian : List (Vector α 6)) :
    Matrix6 α :=
  Vector.ofFn fun row => Vector.ofFn fun column =>
    let value := jacobian.foldl (fun sum entry => Scalar.add sum
      (Scalar.mul (weighted options entry row) (weighted options entry column)))
      Scalar.zero
    if row = column then
      Scalar.add value (Scalar.mul options.damping options.damping)
    else value

/-- `step`, before it is scaled. -/
def leastSquaresStep (options : SafeIkOptions α) (jacobian : List (Vector α 6))
    (multiplier : Vector α 6) : List α :=
  jacobian.map fun column => (List.finRange 6).foldl (fun sum row =>
    Scalar.add sum (Scalar.mul (weighted options column row)
      (multiplier.get row))) Scalar.zero

/-- `step`, no longer than allowed. -/
def boundedStep (options : SafeIkOptions α) (step : List α) (norm : α) : List α :=
  if Scalar.lt options.maximumStepNorm norm then
    let scale := Scalar.div options.maximumStepNorm norm
    step.map fun value => Scalar.mul value scale
  else step

/-- `std::ldexp(1.0, -n)`. -/
def powerOfHalf (n : Nat) : α := (Scalar.mul Scalar.half)^[n] Scalar.one

/-- `candidate`: a step from a configuration, clamped to the box. -/
def candidateAt (region : CspaceAabb α) (configuration step : List α) (scale : α) :
    List α :=
  projectToBox ((configuration.zip step).map fun p =>
    Scalar.add p.1 (Scalar.mul scale p.2)) region

/-- The line search: the first candidate that is a step and lowers the
objective. -/
def lineSearch (configuration step : List α) (objective : α) :
    List Nat → SafeIkStats → Result (Option (List α) × SafeIkStats)
  | [], stats => .ok (none, stats)
  | halvings :: rest, stats =>
      let candidate := candidateAt attempt.region configuration step
        (powerOfHalf halvings)
      let minimum := attempt.options.minimumStepNorm
      if Scalar.le (squaredDistance candidate configuration)
          (Scalar.mul minimum minimum) then
        lineSearch configuration step objective rest stats
      else do
        let pose ← attempt.robot.endEffectorPose candidate
        let value := weightedObjective (residual pose attempt.target)
          attempt.options.orientationWeight
        if Scalar.lt value objective then .ok (some candidate, stats.evaluated)
        else lineSearch configuration step objective rest stats.evaluated

/-- The step from a configuration that is not a solution; `none` where the
solver gives up. -/
def advance (configuration : List α) (pose : Pose3d α)
    (current : PoseResidual α) (stats : SafeIkStats) :
    Result (Option (List α) × SafeIkStats) := do
  let options := attempt.options
  let (jacobian, stats) ← differentiate attempt configuration pose 0
    (configuration.zip attempt.region.axes) stats
  let error := Vector.ofFn fun row : Fin 6 =>
    if row.val < 3 then current.vector.get row
    else Scalar.mul (current.vector.get row) options.orientationWeight
  match solveLinearSystem (normalMatrix options jacobian) error with
  | none => .ok (none, stats)
  | some multiplier =>
      let step := leastSquaresStep options jacobian multiplier
      let norm := MetricScalar.sqrt (step.foldl
        (fun sum value => Scalar.add sum (Scalar.mul value value)) Scalar.zero)
      if Scalar.le norm options.minimumStepNorm then .ok (none, stats)
      else
        lineSearch attempt configuration (boundedStep options step norm)
          (weightedObjective current options.orientationWeight)
          (List.range (options.maximumLineSearchSteps + 1)) stats

/-- The loop of `solve_in_region`. -/
def iterate : Nat → Nat → List α → SafeIkStats →
    Result (IterationResult α × SafeIkStats)
  | 0, _, _, _ => failure .internalError "Safe IK iteration escaped its bound"
  | fuel + 1, iteration, configuration, stats =>
      if attempt.cancelled iteration then
        failure .cancelled "Safe IK was cancelled"
      else do
        let pose ← attempt.robot.endEffectorPose configuration
        let stats := stats.evaluated
        let current := residual pose attempt.target
        if Scalar.le current.positionNorm attempt.options.positionTolerance
            && Scalar.le current.orientationNorm
              attempt.options.orientationTolerance then
          .ok (⟨true, configuration, current⟩, stats)
        else if iteration = attempt.options.maximumIterations then
          .ok (⟨false, configuration, current⟩, stats)
        else do
          let (next, stats) ← advance attempt configuration pose current
            { stats with iterations := stats.iterations + 1 }
          match next with
          | none => .ok (⟨false, configuration, current⟩, stats)
          | some candidate => iterate fuel (iteration + 1) candidate stats

/-- `solve_in_region`. -/
def solveInRegion (initial : List α) (stats : SafeIkStats) :
    Result (IterationResult α × SafeIkStats) :=
  iterate attempt (attempt.options.maximumIterations + 1) 0
    (projectToBox initial attempt.region) stats

end SafeIkSolver

end

-- === solver

section
variable {α : Type}

/-- `SafeAtlas::verify_compatible`. -/
def SafeAtlas.verifyCompatible [DecodedScalar α] (P : Platform)
    (atlas : SafeAtlas α) (robot : SerialRobotModel α) (scene : SceneSnapshot α) :
    Result Unit := do
  robot.validate
  scene.validate
  if robot.digest P ≠ atlas.robotDigest then
    failure .identityMismatch "atlas robot identity does not match"
  else if scene.digest P ≠ atlas.sceneDigest then
    failure .identityMismatch "atlas scene identity does not match"
  else .ok ()

variable [InverseScalar α]

namespace SafeIkSolver

/-- The loop over the joint limits of the seed. -/
def checkSeed : Nat → List (Interval α × α) → Result Unit
  | _, [] => .ok ()
  | joint, (limit, value) :: rest =>
      if limit.contains value Scalar.tolerance = false then
        failure .invalidArgument "Safe IK seed exceeds joint limits"
          (stdToString joint)
      else checkSeed (joint + 1) rest

/-- The comparator of `region_order`. -/
def regionLess (current : List α) (left right : SafeRegion α) : Bool :=
  let leftDistance := pointBoxDistanceSquared current left.bounds
  let rightDistance := pointBoxDistanceSquared current right.bounds
  if !Scalar.eq leftDistance rightDistance then
    Scalar.lt leftDistance rightDistance
  else decide (left.id < right.id)

/-- `region_order`. -/
def regionOrder (current : List α) (regions : List (SafeRegion α)) :
    List (SafeRegion α) :=
  regions.mergeSort fun left right => !regionLess current right left

/-- The seeds of a region; the second is skipped where it is the first. -/
def seeds (options : SafeIkOptions α) (current : List α) (bounds : CspaceAabb α) :
    List (List α) :=
  let projected := projectToBox current bounds
  if Scalar.le (squaredDistance projected bounds.center)
      (Scalar.mul options.minimumStepNorm options.minimumStepNorm) then
    [projected]
  else [projected, bounds.center]

/-- What the attempts end with. -/
def finish (stats : SafeIkStats) (disconnected : Option (SafeIkReport α)) :
    SafeIkReport α :=
  match disconnected with
  | some report => { report with stats }
  | none => { status := .noSolution, stats }

/-- What does not change over the attempts. -/
structure Problem (α : Type) where
  robot : SerialRobotModel α
  atlas : SafeAtlas α
  target : Pose3d α
  current : List α
  options : SafeIkOptions α
  cancelled : Nat → Nat → Bool

/-- The certificate of a region, which a solution of it is reported with. -/
def regionCertificate (atlas : SafeAtlas α) (region : SafeRegion α) :
    Result (Certificate α) :=
  match atlas.certificates[region.certificateIndex]? with
  | none => failure .internalError "Safe IK region certificate is missing"
  | some certificate =>
      if certificate.level ≠ .certifiedRegion
          ∨ certificate.robotDigest ≠ atlas.robotDigest
          ∨ certificate.sceneDigest ≠ atlas.sceneDigest then
        failure .internalError
          "Safe IK region certificate has an invalid level or identity"
      else .ok certificate

/-- The report of a solution, before its route is known. -/
def solution (region : SafeRegion α) (certificate : Certificate α)
    (solved : IterationResult α) : SafeIkReport α :=
  { solution := solved.configuration
    regionId := region.id
    regionCertificate := some certificate
    poseEvidence := .pointChecked
    positionError := solved.residual.positionNorm
    orientationError := solved.residual.orientationNorm }

/-- The loops over the regions and their seeds. -/
def tryAttempts (P : Platform) (problem : Problem α) :
    List (SafeRegion α × List α) → SafeIkStats → Option (SafeIkReport α) →
      ExceptT Error Option (SafeIkReport α)
  | [], stats, disconnected => pure (finish stats disconnected)
  | (region, seed) :: rest, stats, disconnected =>
      if stats.regionAttempts = problem.options.maximumRegionAttempts then
        pure (finish stats disconnected)
      else do
        let attempted := stats.regionAttempts
        let (solved, stats) ← (solveInRegion
          { robot := problem.robot, target := problem.target
            region := region.bounds, options := problem.options
            cancelled := problem.cancelled attempted } seed
          { stats with regionAttempts := attempted + 1 } : Result _)
        if solved.converged = false then
          tryAttempts P problem rest stats disconnected
        else do
          let certificate ← (regionCertificate problem.atlas region : Result _)
          let route ← ExceptT.mk
            (problem.atlas.route P problem.current solved.configuration)
          let candidate := solution region certificate solved
          match route with
          | some route =>
              pure { candidate with
                status := .safeConnected
                connectivityRoute := some route
                stats := stats }
          | none =>
              let stats := { stats with
                disconnectedSolutions := stats.disconnectedSolutions + 1 }
              let candidate : SafeIkReport α :=
                { candidate with status := .safeUnconnected, stats := stats }
              if problem.options.requireConnectivity = false then pure candidate
              else tryAttempts P problem rest stats (disconnected <|> some candidate)

/-- `SafeIkSolver::solve`. -/
def solve (P : Platform) (robot : SerialRobotModel α) (scene : SceneSnapshot α)
    (atlas : SafeAtlas α) (queryIndex : Option (RegionQueryIndex α))
    (target : Pose3d α) (current : List α) (options : SafeIkOptions α)
    (cancelled : Nat → Nat → Bool) : ExceptT Error Option (SafeIkReport α) := do
  (do robot.validate
      scene.validate
      atlas.verifyCompatible P robot scene
      validateConfiguration current robot.dimension (ascii "Safe IK seed")
      checkSeed 0 (robot.jointLimits.zip current)
      if target.valid (Scalar.decimal 1 6) = false then
        failure .invalidArgument "Safe IK target pose is invalid"
      else if options.valid = false then
        failure .invalidArgument "Safe IK options are invalid"
      else .ok () : Result Unit)
  if atlas.regions = [] then pure {}
  else if options.requireConnectivity
      && !atlas.contains queryIndex current then
    pure { status := .seedNotCertified }
  else
    tryAttempts P { robot, atlas, target, current, options, cancelled }
      ((regionOrder current atlas.regions).flatMap fun region =>
        (seeds options current region.bounds).map fun seed => (region, seed))
      {} none

end SafeIkSolver

end

end Atlas

end RbfSafe
