/-
`workspace_envelope.cpp` and its JSON: the shapes an obstacle can have.

A box, an oriented box, an intersection of slabs (k-DOP) and the hull of
support points. The last three are made by their `create`, which checks
them; that of a k-DOP normalises its directions and computes its
vertices, that of a hull sorts its points. Distances between shapes are
not here: what a scene does with a shape is to check it, compare it and
write it down.
-/
import RbfSafe.Core.Decoded
import Mathlib.Data.List.Destutter

namespace RbfSafe

open Json

variable (α : Type)

/-- `WorkspacePoint`. -/
abbrev WorkspacePoint := Fin 3 → α

/-- `WorkspaceObb`. -/
structure WorkspaceObb where
  center : WorkspacePoint α
  basis : Fin 9 → α
  halfWidths : WorkspacePoint α

/-- `WorkspaceKdop`. -/
structure WorkspaceKdop where
  directions : List (WorkspacePoint α)
  projections : List (Interval α)
  vertices : List (WorkspacePoint α)

/-- `WorkspaceSupportHull`. -/
structure WorkspaceSupportHull where
  points : List (WorkspacePoint α)
  radius : α

/-- `WorkspaceEnvelope`. -/
inductive WorkspaceEnvelope where
  | aabb (box : WorkspaceAabb α)
  | obb (box : WorkspaceObb α)
  | kdop (slabs : WorkspaceKdop α)
  | supportHull (hull : WorkspaceSupportHull α)

variable {α} [DecodedScalar α]

/-- `kGeometryTolerance`. -/
def kGeometryTolerance : α := Scalar.decimal 1 10

/-- `kMaximumKdopDirections`. -/
def kMaximumKdopDirections : Nat := 64

/-- `kMaximumSupportPoints`. -/
def kMaximumSupportPoints : Nat := 100000

-- === points

namespace WorkspacePoint

/-- `add`. -/
def add (left right : WorkspacePoint α) : WorkspacePoint α :=
  fun axis => Scalar.add (left axis) (right axis)

/-- `subtract`. -/
def subtract (left right : WorkspacePoint α) : WorkspacePoint α :=
  fun axis => Scalar.sub (left axis) (right axis)

/-- `scale`. -/
def scale (value : WorkspacePoint α) (factor : α) : WorkspacePoint α :=
  fun axis => Scalar.mul factor (value axis)

/-- `dot`. -/
def dot (left right : WorkspacePoint α) : α :=
  Scalar.add (Scalar.add (Scalar.mul (left 0) (right 0))
    (Scalar.mul (left 1) (right 1))) (Scalar.mul (left 2) (right 2))

/-- `cross`. -/
def cross (left right : WorkspacePoint α) : WorkspacePoint α :=
  ![Scalar.sub (Scalar.mul (left 1) (right 2)) (Scalar.mul (left 2) (right 1)),
    Scalar.sub (Scalar.mul (left 2) (right 0)) (Scalar.mul (left 0) (right 2)),
    Scalar.sub (Scalar.mul (left 0) (right 1)) (Scalar.mul (left 1) (right 0))]

/-- `squared_norm`. -/
def squaredNorm (value : WorkspacePoint α) : α := dot value value

/-- `norm`. -/
def norm (value : WorkspacePoint α) : α :=
  MetricScalar.sqrt (squaredNorm value)

/-- `finite_point`. -/
def finite (value : WorkspacePoint α) : Bool :=
  (List.finRange 3).all fun axis => Scalar.isFinite (value axis)

/-- `determinant`. -/
def determinant (first second third : WorkspacePoint α) : α :=
  dot first (cross second third)

/-- `operator==` of two points. -/
def eq (left right : WorkspacePoint α) : Bool :=
  (List.finRange 3).all fun axis => Scalar.eq (left axis) (right axis)

/-- `operator<` of two points: by the first axis that differs. -/
def lt (left right : WorkspacePoint α) : Bool :=
  Scalar.lt (left 0) (right 0)
    || (!Scalar.lt (right 0) (left 0)
      && (Scalar.lt (left 1) (right 1)
        || (!Scalar.lt (right 1) (left 1)
          && Scalar.lt (left 2) (right 2))))

/-- `point_json`. -/
def json (point : WorkspacePoint α) : Json :=
  .array ((List.finRange 3).map fun axis => MetricScalar.json (point axis))

end WorkspacePoint

/-- Two elements of a list, the first before the second. -/
def pairs {β : Type} : List β → List (β × β)
  | [] => []
  | a :: l => l.map (fun b => (a, b)) ++ pairs l

/-- Three elements of a list in their order. -/
def triples {β : Type} : List β → List (β × β × β)
  | [] => []
  | a :: l => (pairs l).map (fun p => (a, p)) ++ triples l

-- === oriented boxes

namespace WorkspaceObb

/-- Row `i` of the basis. -/
def row (box : WorkspaceObb α) (i : Fin 3) : WorkspacePoint α :=
  fun column => box.basis ⟨3 * i + column, by omega⟩

/-- `WorkspaceObb::valid`. -/
def valid (box : WorkspaceObb α) : Bool :=
  WorkspacePoint.finite box.center && WorkspacePoint.finite box.halfWidths
    && ((List.finRange 3).all fun axis =>
      Scalar.le Scalar.zero (box.halfWidths axis))
    && ((List.finRange 9).all fun index => Scalar.isFinite (box.basis index))
    && ((List.finRange 3).all fun row => (List.finRange 3).all fun other =>
      !Scalar.lt (Scalar.decimal 1 9) (Scalar.abs (Scalar.sub
        ((List.finRange 3).foldl (fun product column => Scalar.add product
          (Scalar.mul (box.row row column) (box.row other column)))
          Scalar.zero)
        (if row = other then Scalar.one else Scalar.zero))))
    && Scalar.lt (Scalar.sub Scalar.one (Scalar.decimal 1 9))
      (WorkspacePoint.determinant (box.row 0) (box.row 1) (box.row 2))

/-- `WorkspaceObb::create`. -/
def create (center : WorkspacePoint α) (basis : Fin 9 → α)
    (halfWidths : WorkspacePoint α) : Result (WorkspaceObb α) :=
  let result : WorkspaceObb α := { center, basis, halfWidths }
  if result.valid = false then
    failure .invalidArgument
      "workspace OBB requires finite center/extents and a right-handed orthonormal basis"
  else .ok result

end WorkspaceObb

-- === k-DOPs

namespace WorkspaceKdop

/-- The loop over the directions in `WorkspaceKdop::create`: each is
normalised and compared with those before it. -/
def normalizeSlabs : List (WorkspacePoint α) →
    List (WorkspacePoint α × Interval α) →
      Result (List (WorkspacePoint α × Interval α))
  | _, [] => .ok []
  | previous, (direction, projection) :: rest =>
      let magnitude := WorkspacePoint.norm direction
      if WorkspacePoint.finite direction = false
          ∨ Scalar.isFinite magnitude = false
          ∨ Scalar.le magnitude kGeometryTolerance = true
          ∨ projection.valid = false then
        failure .invalidArgument
          "workspace k-DOP direction or projection is invalid"
      else
        let slab := if Scalar.lt (Scalar.decimal 1 12)
            (Scalar.abs (Scalar.sub magnitude Scalar.one)) then
          (WorkspacePoint.scale direction (Scalar.div Scalar.one magnitude),
            { lower := SteppedScalar.nextDown
                (Scalar.div projection.lower magnitude)
              upper := SteppedScalar.nextUp
                (Scalar.div projection.upper magnitude) })
        else (direction, projection)
        if previous.any fun other => Scalar.lt
            (Scalar.sub Scalar.one (Scalar.decimal 1 9))
            (Scalar.abs (WorkspacePoint.dot slab.1 other)) then
          failure .invalidArgument
            "workspace k-DOP directions must be unique up to sign"
        else do
          let slabs ← normalizeSlabs (previous ++ [slab.1]) rest
          .ok (slab :: slabs)

/-- `spans_workspace`. -/
def spansWorkspace (directions : List (WorkspacePoint α)) : Bool :=
  (triples directions).any fun t => Scalar.lt (Scalar.decimal 1 9)
    (Scalar.abs (WorkspacePoint.determinant t.1 t.2.1 t.2.2))

/-- A plane: its normal and its offset. -/
abbrev Plane (α : Type) := WorkspacePoint α × α

/-- `solve_three_planes`. -/
def solveThreePlanes (first second third : Plane α) :
    Option (WorkspacePoint α) :=
  let divisor := WorkspacePoint.determinant first.1 second.1 third.1
  if Scalar.le (Scalar.abs divisor) kGeometryTolerance then none
  else
    let result := WorkspacePoint.scale
      (WorkspacePoint.add
        (WorkspacePoint.add
          (WorkspacePoint.scale (WorkspacePoint.cross second.1 third.1)
            first.2)
          (WorkspacePoint.scale (WorkspacePoint.cross third.1 first.1)
            second.2))
        (WorkspacePoint.scale (WorkspacePoint.cross first.1 second.1)
          third.2))
      (Scalar.div Scalar.one divisor)
    if WorkspacePoint.finite result then some result else none

/-- `contains_kdop_point`. -/
def containsKdopPoint (slabs : List (WorkspacePoint α × Interval α))
    (point : WorkspacePoint α) : Bool :=
  slabs.all fun slab =>
    let projection := WorkspacePoint.dot slab.1 point
    let magnitude := Scalar.max (Scalar.max Scalar.one
      (Scalar.abs slab.2.lower)) (Scalar.abs slab.2.upper)
    let tolerance := Scalar.mul
      (Scalar.mul (Scalar.decimal 256 0) DecodedScalar.epsilon) magnitude
    !(Scalar.lt projection (Scalar.sub slab.2.lower tolerance)
      || Scalar.lt (Scalar.add slab.2.upper tolerance) projection)

/-- `kdop_vertices`. -/
def kdopVertices (slabs : List (WorkspacePoint α × Interval α)) :
    List (WorkspacePoint α) :=
  let planes : List (Plane α) := slabs.flatMap fun slab =>
    [(slab.1, slab.2.upper),
      (WorkspacePoint.scale slab.1 (Scalar.neg Scalar.one),
        Scalar.neg slab.2.lower)]
  (triples planes).foldl (fun result t =>
    match solveThreePlanes t.1 t.2.1 t.2.2 with
    | none => result
    | some candidate =>
        if containsKdopPoint slabs candidate = false then result
        else if result.any fun point => Scalar.le
            (WorkspacePoint.squaredNorm
              (WorkspacePoint.subtract point candidate))
            (Scalar.decimal 1 18) then result
        else result ++ [candidate]) []

/-- `WorkspaceKdop::create`. -/
def create (directions : List (WorkspacePoint α))
    (projections : List (Interval α)) : Result (WorkspaceKdop α) :=
  if directions.length < 3 ∨ directions.length > kMaximumKdopDirections
      ∨ projections.length ≠ directions.length then
    failure .invalidArgument
      "workspace k-DOP requires 3..64 directions and one projection interval per direction"
  else do
    let slabs ← normalizeSlabs [] (directions.zip projections)
    if spansWorkspace (slabs.map (·.1)) = false then
      failure .invalidArgument
        "workspace k-DOP directions do not span 3D workspace"
    else if (kdopVertices slabs).isEmpty then
      failure .invalidArgument
        "workspace k-DOP half-spaces have no bounded intersection"
    else
      .ok { directions := slabs.map (·.1), projections := slabs.map (·.2)
            vertices := kdopVertices slabs }

/-- `WorkspaceKdop::valid`. -/
def valid (kdop : WorkspaceKdop α) : Bool :=
  decide (3 ≤ kdop.directions.length)
    && decide (kdop.directions.length ≤ kMaximumKdopDirections)
    && kdop.projections.length == kdop.directions.length
    && !kdop.vertices.isEmpty
    && (kdop.directions.all fun direction =>
      WorkspacePoint.finite direction
        && Scalar.le (Scalar.abs (Scalar.sub (WorkspacePoint.norm direction)
          Scalar.one)) (Scalar.decimal 1 9))
    && kdop.projections.all Interval.valid
    && kdop.vertices.all WorkspacePoint.finite

end WorkspaceKdop

-- === support hulls

namespace WorkspaceSupportHull

/-- `WorkspaceSupportHull::valid`. -/
def valid (hull : WorkspaceSupportHull α) : Bool :=
  !hull.points.isEmpty
    && decide (hull.points.length ≤ kMaximumSupportPoints)
    && Scalar.isFinite hull.radius && Scalar.le Scalar.zero hull.radius
    && hull.points.all WorkspacePoint.finite

/-- `std::sort` and `std::unique` of points. -/
def sortPoints (points : List (WorkspacePoint α)) :
    List (WorkspacePoint α) :=
  (points.mergeSort fun a b => !WorkspacePoint.lt b a).destutter
    fun a b => WorkspacePoint.eq a b = false

/-- `WorkspaceSupportHull::create`. -/
def create (points : List (WorkspacePoint α)) (radius : α) :
    Result (WorkspaceSupportHull α) :=
  let result : WorkspaceSupportHull α := { points, radius }
  if result.valid = false then
    failure .invalidArgument
      "workspace support hull requires 1..100000 finite points and a non-negative finite radius"
  else .ok { result with points := sortPoints points }

end WorkspaceSupportHull

-- === envelopes

namespace WorkspaceEnvelope

/-- `workspace_envelope_type_name` of `WorkspaceEnvelope::type`. -/
def typeName : WorkspaceEnvelope α → Bytes
  | aabb _ => ascii "aabb"
  | obb _ => ascii "obb"
  | kdop _ => ascii "kdop"
  | supportHull _ => ascii "support_hull"

/-- `type() == WorkspaceEnvelopeType::Aabb`. -/
def isAabb : WorkspaceEnvelope α → Bool
  | aabb _ => true
  | _ => false

/-- `WorkspaceEnvelope::valid`. -/
def valid : WorkspaceEnvelope α → Bool
  | aabb box => box.valid
  | obb box => box.valid
  | kdop slabs => slabs.valid
  | supportHull hull => hull.valid

/-- Two vectors compared element by element. -/
def listEq {β : Type} (eq : β → β → Bool) (left right : List β) : Bool :=
  left.length == right.length && (left.zip right).all fun p => eq p.1 p.2

/-- `operator==`. -/
def eq : WorkspaceEnvelope α → WorkspaceEnvelope α → Bool
  | aabb left, aabb right =>
      WorkspacePoint.eq left.lower right.lower
        && WorkspacePoint.eq left.upper right.upper
  | obb left, obb right =>
      WorkspacePoint.eq left.center right.center
        && ((List.finRange 9).all fun index =>
          Scalar.eq (left.basis index) (right.basis index))
        && WorkspacePoint.eq left.halfWidths right.halfWidths
  | kdop left, kdop right =>
      listEq WorkspacePoint.eq left.directions right.directions
        && listEq Interval.eq left.projections right.projections
        && listEq WorkspacePoint.eq left.vertices right.vertices
  | supportHull left, supportHull right =>
      listEq WorkspacePoint.eq left.points right.points
        && Scalar.eq left.radius right.radius
  | _, _ => false

/-- `workspace_envelope_json`. -/
def json (envelope : WorkspaceEnvelope α) (includeType : Bool) : Json :=
  .object (obj
    ((if includeType then [("type", .string envelope.typeName)] else [])
      ++ match envelope with
      | aabb box =>
          [("lower", WorkspacePoint.json box.lower),
            ("upper", WorkspacePoint.json box.upper)]
      | obb box =>
          [("basis", .array ((List.finRange 9).map fun index =>
              MetricScalar.json (box.basis index))),
            ("center", WorkspacePoint.json box.center),
            ("half_widths", WorkspacePoint.json box.halfWidths)]
      | kdop slabs =>
          [("directions", .array (slabs.directions.map WorkspacePoint.json)),
            ("projections", .array (slabs.projections.map fun projection =>
              .array [MetricScalar.json projection.lower,
                MetricScalar.json projection.upper]))]
      | supportHull hull =>
          [("points", .array (hull.points.map WorkspacePoint.json)),
            ("radius", MetricScalar.json hull.radius)]))

end WorkspaceEnvelope

-- === decoding

/-- One coordinate in the loop of `decode_point`. -/
def decodeCoordinate (context : Bytes) (value : Json) : Result α :=
  match DecodedScalar.number value with
  | some coordinate =>
      if Scalar.isFinite coordinate = false then
        failure .corruptData "workspace point coordinate must be finite"
          context
      else .ok coordinate
  | none =>
      failure .corruptData "workspace point coordinate must be finite" context

/-- `decode_point`. -/
def decodePoint (context : Bytes) : Json → Result (WorkspacePoint α)
  | .array [first, second, third] => do
      let x ← decodeCoordinate context first
      let y ← decodeCoordinate context second
      let z ← decodeCoordinate context third
      .ok ![x, y, z]
  | _ =>
      failure .corruptData "workspace point must be a length-three array"
        context

/-- `decode_points`. -/
def decodePoints (maximum : Nat) (context : Bytes) :
    Option Json → Result (List (WorkspacePoint α))
  | some (.array items) =>
      if items = [] ∨ items.length > maximum then
        failure .corruptData "workspace point array is invalid" context
      else items.mapM (decodePoint context)
  | _ => failure .corruptData "workspace point array is invalid" context

/-- `decode_aabb`. -/
def decodeAabb (value : Json) : Result (WorkspaceEnvelope α) :=
  match find (ascii "lower") value, find (ascii "upper") value with
  | some lower, some upper => do
      let decodedLower ← decodePoint (ascii "lower") lower
      let decodedUpper ← decodePoint (ascii "upper") upper
      let box : WorkspaceAabb α := ⟨decodedLower, decodedUpper⟩
      if box.valid = false then
        failure .corruptData "workspace AABB is invalid"
      else .ok (.aabb box)
  | _, _ => failure .corruptData "workspace AABB bounds are missing"

/-- A failed `create` reported as corrupt data. -/
def corrupt {β : Type} : Result β → Result β
  | .ok value => .ok value
  | .error e => failure .corruptData e.message

/-- The loop over the basis of an oriented box. -/
def decodeBasisEntry (value : Json) : Result α :=
  match DecodedScalar.number value with
  | some entry =>
      if Scalar.isFinite entry = false then
        failure .corruptData "workspace OBB basis is invalid"
      else .ok entry
  | none => failure .corruptData "workspace OBB basis is invalid"

/-- The oriented boxes of `decode_workspace_envelope`. -/
def decodeObb (value : Json) : Result (WorkspaceEnvelope α) :=
  match find (ascii "center") value, find (ascii "half_widths") value,
      find (ascii "basis") value with
  | some center, some halfWidths, some (.array basis) => do
      if basis.length ≠ 9 then
        failure .corruptData "workspace OBB fields are invalid"
      else
        let decodedCenter ← decodePoint (ascii "center") center
        let decodedWidths ← decodePoint (ascii "half_widths") halfWidths
        let entries ← basis.mapM decodeBasisEntry
        let box ← corrupt (WorkspaceObb.create decodedCenter
          (fun index => entries.getD index Scalar.zero) decodedWidths)
        .ok (.obb box)
  | _, _, _ => failure .corruptData "workspace OBB fields are invalid"

/-- One turn of the loop over the projections of a k-DOP. -/
def decodeProjection : Json → Result (Interval α)
  | .array [lower, upper] =>
      match DecodedScalar.number lower, DecodedScalar.number upper with
      | some lower, some upper => .ok ⟨lower, upper⟩
      | _, _ => failure .corruptData "workspace k-DOP projection is invalid"
  | _ => failure .corruptData "workspace k-DOP projection is invalid"

/-- The k-DOPs of `decode_workspace_envelope`. -/
def decodeKdop (value : Json) : Result (WorkspaceEnvelope α) := do
  let directions ← decodePoints 64 (ascii "directions")
    (find (ascii "directions") value)
  match find (ascii "projections") value with
  | some (.array items) =>
      if items.length ≠ directions.length then
        failure .corruptData "workspace k-DOP projections are invalid"
      else
        let projections ← items.mapM decodeProjection
        let kdop ← corrupt (WorkspaceKdop.create directions projections)
        .ok (.kdop kdop)
  | _ => failure .corruptData "workspace k-DOP projections are invalid"

/-- The hulls of `decode_workspace_envelope`. -/
def decodeSupportHull (value : Json) : Result (WorkspaceEnvelope α) := do
  let points ← decodePoints 100000 (ascii "points")
    (find (ascii "points") value)
  match (find (ascii "radius") value).bind DecodedScalar.number with
  | some radius =>
      if Scalar.isFinite radius = false then
        failure .corruptData "workspace support-hull radius is invalid"
      else
        let hull ← corrupt (WorkspaceSupportHull.create points radius)
        .ok (.supportHull hull)
  | none => failure .corruptData "workspace support-hull radius is invalid"

/-- `decode_workspace_envelope`. -/
def decodeWorkspaceEnvelope (value : Json) (typed : Bool) :
    Result (WorkspaceEnvelope α) :=
  match value with
  | .object fields =>
      if typed = false then decodeAabb (.object fields)
      else match find (ascii "type") (.object fields) with
        | some (.string type) =>
            if type = ascii "aabb" then decodeAabb (.object fields)
            else if type = ascii "obb" then decodeObb (.object fields)
            else if type = ascii "kdop" then decodeKdop (.object fields)
            else if type = ascii "support_hull" then
              decodeSupportHull (.object fields)
            else failure .corruptData "unknown workspace envelope type" type
        | _ => failure .corruptData "workspace envelope type is missing"
  | _ => failure .corruptData "workspace envelope must be an object"

end RbfSafe
