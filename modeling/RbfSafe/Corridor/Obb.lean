/-
`corridor.cpp`: oriented boxes of the configuration space, and growing
one around a segment.

The basis of a box is stored row by row: entry `i * d + j` is coordinate
`j` of local axis `i`. `segmentTube` takes the direction of the segment
as the first axis and completes the basis by Gram-Schmidt over the
canonical axes, leaving out those that are nearly spanned already.
`grow` widens a tube as far as the validator certifies it; every tube
that the validator is asked about is recorded in order, so that what is
said about the budget is said about the questions and not about a counter.
-/
import RbfSafe.Atlas.Types

namespace RbfSafe

/-- The scalars that also have `std::nextafter` and `epsilon`. -/
class TubeScalar (α : Type) extends MetricScalar α where
  /-- `std::nextafter` towards negative infinity. -/
  nextBelow : α → α
  /-- `std::nextafter` towards infinity. -/
  nextAbove : α → α
  /-- `std::numeric_limits<double>::epsilon()`. -/
  epsilon : α

/-- `std::nextafter(x, infinity)`. -/
def Float.nextAbove (x : Float) : Float :=
  if x.isNaN || x == 1.0 / 0.0 then x
  else if x == 0.0 then Float.ofBits 1
  else if 0.0 < x then Float.ofBits (x.toBits + 1)
  else Float.ofBits (x.toBits - 1)

instance : TubeScalar Float where
  nextBelow x := -(Float.nextAbove (-x))
  nextAbove := Float.nextAbove
  epsilon := Float.ofBits 0x3cb0000000000000

namespace Corridor

variable {α : Type} [TubeScalar α]

-- === oriented boxes

/-- `orthonormal_tolerance`. -/
def orthonormalTolerance : α := Scalar.decimal 1 10

/-- `CspaceObb`. -/
structure CspaceObb (α : Type) where
  center : List α
  basis : List α
  halfWidths : List α

namespace CspaceObb

/-- `CspaceObb::dimension`. -/
def dimension (obb : CspaceObb α) : Nat := obb.center.length

/-- An entry of the basis. -/
def entry (obb : CspaceObb α) (axis coordinate : Nat) : α :=
  obb.basis.getD (axis * obb.dimension + coordinate) Scalar.zero

/-- `CspaceObb::valid`. -/
def valid (obb : CspaceObb α) : Bool :=
  let size := obb.dimension
  if size = 0 ∨ obb.halfWidths.length ≠ size
      ∨ obb.basis.length ≠ size * size then false
  else if !(obb.center.all Scalar.isFinite
      && obb.halfWidths.all (fun value =>
        Scalar.isFinite value && Scalar.le Scalar.zero value)
      && obb.basis.all Scalar.isFinite) then false
  else (List.range size).all fun left =>
    (List.range' left (size - left)).all fun right =>
      let dot := (List.range size).foldl (fun dot coordinate =>
        Scalar.add dot (Scalar.mul (obb.entry left coordinate)
          (obb.entry right coordinate))) Scalar.zero
      let expected := if left = right then Scalar.one else Scalar.zero
      !Scalar.lt (Scalar.mul orthonormalTolerance (Scalar.decimal size 0))
        (Scalar.abs (Scalar.sub dot expected))

/-- `CspaceObb::create`. -/
def create (center basis halfWidths : List α) : Result (CspaceObb α) :=
  let result : CspaceObb α := ⟨center, basis, halfWidths⟩
  if result.valid then .ok result
  else failure .invalidArgument
    "C-space OBB requires finite center/extents and an orthonormal row-major basis"

/-- The coordinate of a configuration along a local axis. -/
def coordinate (obb : CspaceObb α) (configuration : List α) (axis : Nat) :
    α :=
  (List.range obb.dimension).foldl (fun coordinate index =>
    Scalar.add coordinate (Scalar.mul (obb.entry axis index)
      (Scalar.sub (configuration.getD index Scalar.zero)
        (obb.center.getD index Scalar.zero)))) Scalar.zero

/-- `CspaceObb::contains`. -/
def contains (obb : CspaceObb α) (configuration : List α) (tolerance : α) :
    Bool :=
  if !obb.valid || configuration.length ≠ obb.dimension
      || !Scalar.isFinite tolerance || Scalar.lt tolerance Scalar.zero then false
  else if !configuration.all Scalar.isFinite then false
  else (List.range obb.dimension).all fun axis =>
    !Scalar.lt (Scalar.add (obb.halfWidths.getD axis Scalar.zero) tolerance)
      (Scalar.abs (obb.coordinate configuration axis))

/-- `CspaceObb::enclosing_aabb`. -/
def enclosingAabb (obb : CspaceObb α) : CspaceAabb α :=
  if !obb.valid then ⟨[]⟩
  else ⟨(List.range obb.dimension).map fun coordinate =>
    let radius := (List.range obb.dimension).foldl (fun radius axis =>
      Scalar.add radius (Scalar.mul (Scalar.abs (obb.entry axis coordinate))
        (obb.halfWidths.getD axis Scalar.zero))) Scalar.zero
    let center := obb.center.getD coordinate Scalar.zero
    { lower := TubeScalar.nextBelow (Scalar.sub center radius)
      upper := TubeScalar.nextAbove (Scalar.add center radius) }⟩

end CspaceObb

-- === segments

/-- The sum of the products of two vectors. -/
def projection (candidate existing : List α) : α :=
  (candidate.zip existing).foldl
    (fun sum p => Scalar.add sum (Scalar.mul p.1 p.2)) Scalar.zero

/-- The candidate of a canonical axis, less its projections. -/
def orthogonalized (vectors : List (List α)) (candidate : List α) : List α :=
  vectors.foldl (fun candidate existing =>
    let projection := projection candidate existing
    (candidate.zip existing).map fun p =>
      Scalar.sub p.1 (Scalar.mul projection p.2)) candidate

/-- The sum of the squares of a vector. -/
def normSquared (vector : List α) : α :=
  vector.foldl (fun sum value => Scalar.add sum (Scalar.mul value value))
    Scalar.zero

/-- One canonical axis of the completion. -/
def completeAxis (dimension : Nat) (vectors : List (List α))
    (canonical : Nat) : List (List α) :=
  if vectors.length < dimension then
    let candidate := orthogonalized vectors
      ((List.replicate dimension Scalar.zero).set canonical Scalar.one)
    let squared := normSquared candidate
    if Scalar.le squared (Scalar.mul (Scalar.decimal 256 0) TubeScalar.epsilon)
    then vectors
    else
      let norm := MetricScalar.sqrt squared
      vectors ++ [candidate.map fun value => Scalar.div value norm]
  else vectors

/-- `ObbGenerator::segment_tube`. -/
def segmentTube (first second : List α)
    (lateralHalfWidth longitudinalMargin : α) : Result (CspaceObb α) :=
  if first = [] ∨ first.length ≠ second.length then
    failure .dimensionMismatch
      "OBB segment endpoints must have equal nonzero dimension"
  else if !Scalar.isFinite lateralHalfWidth
      || Scalar.lt lateralHalfWidth Scalar.zero
      || !Scalar.isFinite longitudinalMargin
      || Scalar.lt longitudinalMargin Scalar.zero then
    failure .invalidArgument
      "OBB segment widths must be finite and non-negative"
  else if !(first.zip second).all fun p =>
      Scalar.isFinite p.1 && Scalar.isFinite p.2 then
    failure .invalidArgument "OBB segment endpoint is non-finite"
  else
    let dimension := first.length
    let center := (first.zip second).map fun p =>
      Scalar.mul Scalar.half (Scalar.add p.1 p.2)
    let direction := (first.zip second).map fun p => Scalar.sub p.2 p.1
    let length := MetricScalar.sqrt (normSquared direction)
    let vectors :=
      if Scalar.lt Scalar.zero length then
        [direction.map fun value => Scalar.div value length]
      else []
    let vectors := (List.range dimension).foldl (completeAxis dimension) vectors
    if vectors.length ≠ dimension then
      failure .internalError "failed to construct deterministic OBB basis"
    else
      let halfWidths := (List.replicate dimension lateralHalfWidth).set 0
        (if Scalar.lt Scalar.zero length then
          Scalar.add (Scalar.mul Scalar.half length) longitudinalMargin
        else Scalar.add lateralHalfWidth longitudinalMargin)
      CspaceObb.create center vectors.flatten halfWidths

-- === growing

/-- `ObbValidation`. -/
structure ObbValidation (α : Type) where
  disposition : Atlas.ValidationDisposition
  clearanceLowerBound : α
  conservativeEnclosure : CspaceAabb α
  envelope : Atlas.LinkEnvelope α

/-- `ObbRegionValidator`, for one robot and one scene. -/
structure ObbRegionValidator (α : Type) where
  obstaclePadding : α
  validate : CspaceObb α → Result (ObbValidation α)

/-- `ObbGrowthOptions`. -/
structure ObbGrowthOptions (α : Type) where
  initialLateralHalfWidth : α
  maximumLateralHalfWidth : α
  longitudinalMargin : α
  maximumIterations : Nat
  maximumValidations : Nat
  obstaclePadding : α

/-- `ObbGrowthResult`. -/
structure ObbGrowthResult (α : Type) where
  certified : Bool
  region : CspaceObb α
  validation : ObbValidation α
  achievedLateralHalfWidth : α
  validations : Nat
  growthAttempts : Nat

/-- What a computation answers, and the tubes that were validated, in
order, from those validated before. -/
abbrev Asking (α β : Type) := List (CspaceObb α) → Result β × List (CspaceObb α)

/-- The closure `validate`: a question within the budget. -/
def askValidator (validator : ObbRegionValidator α) (budget : Nat)
    (candidate : CspaceObb α) : Asking α (ObbValidation α) := fun asked =>
  if asked.length = budget then
    (failure .resourceLimit "OBB growth validation budget exhausted", asked)
  else (validator.validate candidate, asked ++ [candidate])

/-- A tube of the segment, and the answer about it. -/
def askTube (validator : ObbRegionValidator α) (options : ObbGrowthOptions α)
    (first second : List α) (width : α) :
    Asking α (CspaceObb α × ObbValidation α) := fun asked =>
  match segmentTube first second width options.longitudinalMargin with
  | .error e => (.error e, asked)
  | .ok candidate =>
      match askValidator validator options.maximumValidations candidate asked
      with
      | (.error e, asked) => (.error e, asked)
      | (.ok validation, asked) => (.ok (candidate, validation), asked)

/-- `result` after a tube has been taken. -/
def ObbGrowthResult.take (result : ObbGrowthResult α)
    (tube : CspaceObb α × ObbValidation α) (width : α) : ObbGrowthResult α :=
  { result with
    region := tube.1
    validation := tube.2
    achievedLateralHalfWidth := width }

/-- The bisection of `ObbGrower::grow`, with the iterations left. The count
of validations is that of the tubes asked about. -/
def bisect (validator : ObbRegionValidator α) (options : ObbGrowthOptions α)
    (first second : List α) : Nat → α → α → ObbGrowthResult α →
      Asking α (ObbGrowthResult α)
  | 0, _, _, result => fun asked =>
      (.ok { result with validations := asked.length }, asked)
  | iterations + 1, lower, upper, result => fun asked =>
      if asked.length < options.maximumValidations then
        let midpoint := Scalar.mul Scalar.half (Scalar.add lower upper)
        match askTube validator options first second midpoint asked with
        | (.error e, asked) => (.error e, asked)
        | (.ok tube, asked) =>
            let result :=
              { result with growthAttempts := result.growthAttempts + 1 }
            if tube.2.disposition = .certifiedFree then
              bisect validator options first second iterations midpoint upper
                (result.take tube midpoint) asked
            else
              bisect validator options first second iterations lower midpoint
                result asked
      else (.ok { result with validations := asked.length }, asked)

/-- The check of the options in `ObbGrower::grow`. -/
def ObbGrowthOptions.invalid (options : ObbGrowthOptions α) : Bool :=
  !Scalar.isFinite options.initialLateralHalfWidth
    || !Scalar.isFinite options.maximumLateralHalfWidth
    || !Scalar.isFinite options.longitudinalMargin
    || !Scalar.isFinite options.obstaclePadding
    || Scalar.lt options.initialLateralHalfWidth Scalar.zero
    || Scalar.lt options.maximumLateralHalfWidth options.initialLateralHalfWidth
    || Scalar.lt options.longitudinalMargin Scalar.zero
    || Scalar.lt options.obstaclePadding Scalar.zero
    || decide (128 < options.maximumIterations)
    || options.maximumValidations == 0

/-- `ObbGrower::grow` with the validator that it uses. -/
def growWith (validator : ObbRegionValidator α) (options : ObbGrowthOptions α)
    (first second : List α) : Asking α (ObbGrowthResult α) := fun asked =>
  let initial := options.initialLateralHalfWidth
  let maximum := options.maximumLateralHalfWidth
  match askTube validator options first second initial asked with
  | (.error e, asked) => (.error e, asked)
  | (.ok tube, asked) =>
      let certified := tube.2.disposition == .certifiedFree
      let result : ObbGrowthResult α :=
        { certified, region := tube.1, validation := tube.2
          achievedLateralHalfWidth := initial
          validations := asked.length
          growthAttempts := 0 }
      if !certified || Scalar.eq maximum initial
          || asked.length == options.maximumValidations then
        (.ok result, asked)
      else
        match askTube validator options first second maximum asked with
        | (.error e, asked) => (.error e, asked)
        | (.ok tube, asked) =>
            let result := { result with
              validations := asked.length
              growthAttempts := 1 }
            if tube.2.disposition = .certifiedFree then
              (.ok (result.take tube maximum), asked)
            else
              bisect validator options first second options.maximumIterations
                initial maximum result asked

/-- `ObbGrower::grow`: without a validator of its own the grower makes one
for the padding of the options. -/
def grow (makeValidator : α → ObbRegionValidator α)
    (validator : Option (ObbRegionValidator α)) (options : ObbGrowthOptions α)
    (first second : List α) : Result (ObbGrowthResult α) × List (CspaceObb α) :=
  if options.invalid then
    (failure .invalidArgument "invalid OBB growth options", [])
  else
    match validator with
    | none =>
        growWith (makeValidator options.obstaclePadding) options first second []
    | some validator =>
        if Scalar.lt (Scalar.decimal 1 15) (Scalar.abs
            (Scalar.sub validator.obstaclePadding options.obstaclePadding)) then
          (failure .invalidArgument
            "custom OBB validator padding must match growth obstacle_padding", [])
        else growWith validator options first second []

end Corridor

end RbfSafe
