/-
`types.h`: boxes of the workspace.

Distances take a square root, and boxes are hashed through their JSON,
so the scalars of the workspace can do both. Over exact arithmetic
neither is fixed: the root and the printing of a number are whatever the
instance says.
-/
import RbfSafe.Core.Box
import RbfSafe.Core.Json

namespace RbfSafe

open Float.Model (UnpackedFloat)

-- === scalars

/-- The scalars of workspace geometry. -/
class MetricScalar (α : Type) extends Scalar α where
  /-- `std::sqrt`. -/
  sqrt : α → α
  /-- `Json` of a `double`. -/
  json : α → Json

namespace Scalar

variable {α : Type} [Scalar α]

/-- `std::max`. -/
def max (a b : α) : α := if Scalar.lt a b then b else a

/-- `std::min`. -/
def min (a b : α) : α := if Scalar.lt b a then b else a

/-- `std::abs`, of which only comparisons are asked. -/
def abs (a : α) : α := if Scalar.lt a zero then Scalar.neg a else a

end Scalar

/-- The value of a significand and an exponent. -/
def scaled (m : Nat) (e : Int) : ℚ :=
  if 0 ≤ e then ((m * 2 ^ e.toNat : Nat) : ℚ)
  else mkRat m (2 ^ (-e).toNat)

/-- `Json` of a `double`. -/
def Json.double (x : Float) : Json :=
  match x.toModel.unpack with
  | .notANumber => .nonFinite .notANumber
  | .infinity .positive => .nonFinite .infinity
  | .infinity .negative => .nonFinite .negativeInfinity
  | .zero .positive => .number (.value 0)
  | .zero .negative => .number .negativeZero
  | .finite .positive m e _ => .number (.value (scaled m e))
  | .finite .negative m e _ => .number (.value (-scaled m e))

instance : MetricScalar Float where
  sqrt := Float.sqrt
  json := Json.double

-- === boxes

/-- `WorkspaceAabb`. -/
structure WorkspaceAabb (α : Type) where
  lower : Fin 3 → α
  upper : Fin 3 → α

namespace WorkspaceAabb

variable {α : Type} [MetricScalar α]

/-- `WorkspaceAabb::valid`. -/
def valid (box : WorkspaceAabb α) : Bool :=
  (List.finRange 3).all fun axis =>
    Scalar.isFinite (box.lower axis) && Scalar.isFinite (box.upper axis)
      && !Scalar.lt (box.upper axis) (box.lower axis)

/-- `WorkspaceAabb::overlaps`. -/
def overlaps (box other : WorkspaceAabb α) (tolerance : α) : Bool :=
  (List.finRange 3).all fun axis =>
    !(Scalar.lt (Scalar.add (other.upper axis) tolerance) (box.lower axis)
      || Scalar.lt (Scalar.add (box.upper axis) tolerance)
        (other.lower axis))

/-- The `separation` of one axis in `distance_lower_bound`. -/
def separation (box other : WorkspaceAabb α) (axis : Fin 3) : α :=
  if Scalar.lt (box.upper axis) (other.lower axis) then
    Scalar.sub (other.lower axis) (box.upper axis)
  else if Scalar.lt (other.upper axis) (box.lower axis) then
    Scalar.sub (box.lower axis) (other.upper axis)
  else Scalar.zero

/-- `WorkspaceAabb::distance_lower_bound`. -/
def distanceLowerBound (box other : WorkspaceAabb α) : α :=
  MetricScalar.sqrt <| (List.finRange 3).foldl
    (fun squared axis => Scalar.add squared
      (Scalar.mul (box.separation other axis) (box.separation other axis)))
    Scalar.zero

/-- `workspace_aabb_json`. -/
def json (box : WorkspaceAabb α) : Json :=
  .object (Json.obj
    [("lower", .array ((List.finRange 3).map fun axis =>
        MetricScalar.json (box.lower axis))),
      ("upper", .array ((List.finRange 3).map fun axis =>
        MetricScalar.json (box.upper axis)))])

end WorkspaceAabb

end RbfSafe
