/-
`higher_order.cpp`: zonotopes and first order Taylor regions of the
configuration space, and their membership.

A zonotope is a center and generators that are stored one after another:
entry `k * d + i` is coordinate `i` of generator `k`. Membership looks for
coefficients between `-1` and `1` by coordinate descent, one generator at a
time, and keeps what is left of the query up to date. It answers `true` as
soon as nothing beyond the tolerance is left; where the search ends without
that, what is left is computed once more and asked again.

The loops return the variables after every turn next to what they answer,
so that what is said about the search is said about all of its turns.
-/
import RbfSafe.Atlas.Audit
import RbfSafe.Corridor.Obb

namespace RbfSafe.HigherOrder

variable {α : Type} [TubeScalar α]

/-- `kMaximumMembershipIterations`. -/
def kMaximumMembershipIterations : Nat := 1000000

/-- `CspaceZonotope`. -/
structure CspaceZonotope (α : Type) where
  center : List α
  generatorCount : Nat
  generators : List α

/-- `CspaceTaylorRegion`. -/
structure CspaceTaylorRegion (α : Type) where
  center : List α
  variableCount : Nat
  linear : List α
  remainderRadii : List α

namespace CspaceZonotope

/-- `CspaceZonotope::dimension`. -/
def dimension (zonotope : CspaceZonotope α) : Nat := zonotope.center.length

/-- A coordinate of a generator. -/
def entry (zonotope : CspaceZonotope α) (generator axis : Nat) : α :=
  zonotope.generators.getD (generator * zonotope.dimension + axis) Scalar.zero

end CspaceZonotope

-- === membership

/-- The variables of the search. -/
structure Descent (α : Type) where
  coefficients : List α
  residual : List α
  maximumChange : α

section
variable (zonotope : CspaceZonotope α)

/-- An entry of `generator_norms`. -/
def generatorNorm (generator : Nat) : α :=
  (List.range zonotope.dimension).foldl (fun norm axis =>
    let value := zonotope.entry generator axis
    Scalar.add norm (Scalar.mul value value)) Scalar.zero

/-- One turn of the loop over the generators. -/
def coordinateStep (descent : Descent α) (generator : Nat) : Descent α :=
  let norm := generatorNorm zonotope generator
  if Scalar.lt Scalar.zero norm = false then descent
  else
    let correction := (List.range zonotope.dimension).foldl
      (fun correction axis => Scalar.add correction
        (Scalar.mul (zonotope.entry generator axis)
          (descent.residual.getD axis Scalar.zero))) Scalar.zero
    let coefficient := descent.coefficients.getD generator Scalar.zero
    let next := Scalar.clamp
      (Scalar.add coefficient (Scalar.div correction norm))
      (Scalar.neg Scalar.one) Scalar.one
    let change := Scalar.sub next coefficient
    { coefficients := descent.coefficients.set generator next
      residual := (List.range zonotope.dimension).map fun axis =>
        Scalar.sub (descent.residual.getD axis Scalar.zero)
          (Scalar.mul (zonotope.entry generator axis) change)
      maximumChange := Scalar.max descent.maximumChange (Scalar.abs change) }

/-- The loop over the generators: the variables after each turn. -/
def sweep : List Nat → Descent α → List (Descent α)
  | [], _ => []
  | generator :: rest, descent =>
      let next := coordinateStep zonotope descent generator
      next :: sweep rest next

/-- `maximum_residual`. -/
def maximumResidual (residual : List α) : α :=
  residual.foldl (fun maximum value => Scalar.max maximum (Scalar.abs value))
    Scalar.zero

/-- The loop over the iterations: the variables after each turn, and whether
it returns `true`. -/
def descend (limit : α) : Nat → Descent α → List (Descent α) × Bool
  | 0, _ => ([], false)
  | iterations + 1, descent =>
      if Scalar.le (maximumResidual descent.residual) limit then ([], true)
      else
        let turns := sweep zonotope (List.range zonotope.generatorCount)
          { descent with maximumChange := Scalar.zero }
        let last := turns.getLastD descent
        if Scalar.le last.maximumChange TubeScalar.epsilon then (turns, false)
        else
          let (later, accepted) := descend limit iterations last
          (turns ++ later, accepted)

variable (configuration : List α)

/-- `delta`. -/
def delta : List α :=
  (List.range zonotope.dimension).map fun axis =>
    Scalar.sub (configuration.getD axis Scalar.zero)
      (zonotope.center.getD axis Scalar.zero)

/-- `query_scale`. -/
def queryScale (configuration : List α) : α :=
  configuration.foldl (fun scale value => Scalar.max scale (Scalar.abs value))
    Scalar.one

/-- The variables before the search. -/
def initialDescent : Descent α :=
  { coefficients := List.replicate zonotope.generatorCount Scalar.zero
    residual := delta zonotope configuration
    maximumChange := Scalar.zero }

/-- The search: its turns, and whether it returns `true` on the way. -/
def search (tolerance : α) (maximumIterations : Nat) : List (Descent α) × Bool :=
  descend zonotope (Scalar.mul tolerance (queryScale configuration))
    maximumIterations (initialDescent zonotope configuration)

/-- The residual that is computed once more after the search. -/
def finalResidual (coefficients : List α) : List α :=
  (List.range zonotope.dimension).map fun axis =>
    (List.range zonotope.generatorCount).foldl (fun residual generator =>
      Scalar.sub residual (Scalar.mul (zonotope.entry generator axis)
        (coefficients.getD generator Scalar.zero)))
      ((delta zonotope configuration).getD axis Scalar.zero)

/-- Every value is within the limit. -/
def withinLimit (limit : α) (values : List α) : Bool :=
  values.all fun value => Scalar.le (Scalar.abs value) limit

/-- `zonotope_contains`, its first arguments being those of a zonotope. -/
def zonotopeContains (tolerance : α) (maximumIterations : Nat) :
    Result Bool := do
  validateConfiguration configuration zonotope.dimension
    (ascii "zonotope membership query")
  if Scalar.isFinite tolerance = false ∨ Scalar.lt tolerance Scalar.zero = true
      ∨ maximumIterations = 0
      ∨ kMaximumMembershipIterations < maximumIterations then
    failure .invalidArgument "invalid zonotope membership options"
  else
    let limit := Scalar.mul tolerance (queryScale configuration)
    let totalNorm := (List.range zonotope.generatorCount).foldl
      (fun total generator =>
        Scalar.add total (generatorNorm zonotope generator)) Scalar.zero
    if zonotope.generatorCount = 0 ∨ Scalar.lt Scalar.zero totalNorm = false then
      .ok (withinLimit limit (delta zonotope configuration))
    else
      let (turns, accepted) :=
        search zonotope configuration tolerance maximumIterations
      if accepted then .ok true
      else
        let last := turns.getLastD (initialDescent zonotope configuration)
        .ok (withinLimit limit
          (finalResidual zonotope configuration last.coefficients))

end

-- === regions

/-- The largest `std::size_t`. -/
def maximumSize : Nat := 2 ^ 64 - 1

namespace CspaceZonotope

/-- `CspaceZonotope::valid`. -/
def valid (zonotope : CspaceZonotope α) : Bool :=
  !zonotope.center.isEmpty
    && decide (zonotope.generatorCount ≤ maximumSize / zonotope.dimension)
    && decide (zonotope.generators.length
      = zonotope.generatorCount * zonotope.dimension)
    && zonotope.center.all Scalar.isFinite
    && zonotope.generators.all Scalar.isFinite

/-- `CspaceZonotope::create`. -/
def create (center : List α) (generatorCount : Nat) (generators : List α) :
    Result (CspaceZonotope α) :=
  let result : CspaceZonotope α := ⟨center, generatorCount, generators⟩
  if result.valid then .ok result
  else failure .invalidArgument
    "zonotope requires finite center and generator-major coefficients"

/-- `CspaceZonotope::enclosing_aabb`. -/
def enclosingAabb (zonotope : CspaceZonotope α) : CspaceAabb α :=
  if zonotope.valid = false then ⟨[]⟩
  else ⟨(List.range zonotope.dimension).map fun axis =>
    let radius := (List.range zonotope.generatorCount).foldl
      (fun radius generator => Scalar.add radius
        (Scalar.abs (zonotope.entry generator axis))) Scalar.zero
    let center := zonotope.center.getD axis Scalar.zero
    { lower := TubeScalar.nextBelow (Scalar.sub center radius)
      upper := TubeScalar.nextAbove (Scalar.add center radius) }⟩

/-- `CspaceZonotope::contains`. -/
def contains (zonotope : CspaceZonotope α) (configuration : List α)
    (tolerance : α) (maximumIterations : Nat) : Result Bool :=
  if zonotope.valid = false then
    failure .invalidArgument "zonotope is invalid"
  else do
    validateConfiguration configuration zonotope.dimension
      (ascii "zonotope membership query")
    if zonotope.enclosingAabb.contains configuration tolerance = false then
      .ok false
    else zonotopeContains zonotope configuration tolerance maximumIterations

end CspaceZonotope

namespace CspaceTaylorRegion

/-- `CspaceTaylorRegion::dimension`. -/
def dimension (region : CspaceTaylorRegion α) : Nat := region.center.length

/-- `CspaceTaylorRegion::valid`. -/
def valid (region : CspaceTaylorRegion α) : Bool :=
  !region.center.isEmpty
    && decide (region.remainderRadii.length = region.dimension)
    && decide (region.variableCount ≤ maximumSize / region.dimension)
    && decide (region.linear.length = region.variableCount * region.dimension)
    && region.center.all Scalar.isFinite && region.linear.all Scalar.isFinite
    && region.remainderRadii.all fun value =>
      Scalar.isFinite value && Scalar.le Scalar.zero value

/-- `CspaceTaylorRegion::create`. -/
def create (center : List α) (variableCount : Nat)
    (linear remainderRadii : List α) : Result (CspaceTaylorRegion α) :=
  let result : CspaceTaylorRegion α :=
    ⟨center, variableCount, linear, remainderRadii⟩
  if result.valid then .ok result
  else failure .invalidArgument
    "Taylor region requires finite linear coefficients and non-negative remainders"

/-- `CspaceTaylorRegion::from_zonotope`. -/
def fromZonotope (zonotope : CspaceZonotope α) : Result (CspaceTaylorRegion α) :=
  if zonotope.valid = false then
    failure .invalidArgument "zonotope is invalid"
  else
    create zonotope.center zonotope.generatorCount zonotope.generators
      (List.replicate zonotope.dimension Scalar.zero)

/-- `CspaceTaylorRegion::enclosing_aabb`. -/
def enclosingAabb (region : CspaceTaylorRegion α) : CspaceAabb α :=
  if region.valid = false then ⟨[]⟩
  else ⟨(List.range region.dimension).map fun axis =>
    let radius := (List.range region.variableCount).foldl
      (fun radius index => Scalar.add radius (Scalar.abs (region.linear.getD
        (index * region.dimension + axis) Scalar.zero)))
      (region.remainderRadii.getD axis Scalar.zero)
    let center := region.center.getD axis Scalar.zero
    { lower := TubeScalar.nextBelow (Scalar.sub center radius)
      upper := TubeScalar.nextAbove (Scalar.add center radius) }⟩

/-- One turn of the loop that makes a generator of a remainder. -/
def appendRemainder (region : CspaceTaylorRegion α)
    (zonotope : CspaceZonotope α) (axis : Nat) : CspaceZonotope α :=
  let radius := region.remainderRadii.getD axis Scalar.zero
  if Scalar.eq radius Scalar.zero then zonotope
  else
    { zonotope with
      generatorCount := zonotope.generatorCount + 1
      generators := zonotope.generators ++
        (List.range region.dimension).map fun other =>
          if other = axis then radius else Scalar.zero }

/-- The zonotope that a Taylor region is searched as. -/
def asZonotope (region : CspaceTaylorRegion α) : CspaceZonotope α :=
  (List.range region.dimension).foldl (appendRemainder region)
    ⟨region.center, region.variableCount, region.linear⟩

/-- `CspaceTaylorRegion::contains`. -/
def contains (region : CspaceTaylorRegion α) (configuration : List α)
    (tolerance : α) (maximumIterations : Nat) : Result Bool :=
  if region.valid = false then
    failure .invalidArgument "Taylor region is invalid"
  else do
    validateConfiguration configuration region.dimension
      (ascii "Taylor membership query")
    if region.enclosingAabb.contains configuration tolerance = false then
      .ok false
    else
      zonotopeContains region.asZonotope configuration tolerance
        maximumIterations

end CspaceTaylorRegion

end RbfSafe.HigherOrder
