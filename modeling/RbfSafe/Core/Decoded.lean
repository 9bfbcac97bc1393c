/-
`Json::as_number`: the `double` a document holds.

A number of a document is a value; the significand and the exponent of
the double with this value follow from it, the significand having its
leading bit unless the exponent is the least. Scalars that can be read
back from a document are `DecodedScalar`s.
-/
import RbfSafe.Core.RoundedScalar
import RbfSafe.Core.Rounding

namespace RbfSafe

open Float.Model (UnpackedFloat)

namespace Json

/-- The exponent of the double of a nonzero value. -/
def exponentOf (value : ℚ) : ℤ :=
  max (-1074) (value.num.natAbs.log2 - value.den.log2 - 52)

/-- The significand to that exponent. -/
def significandOf (value : ℚ) : ℕ :=
  let shift := exponentOf value + value.den.log2
  if 0 ≤ shift then value.num.natAbs / 2 ^ shift.toNat
  else value.num.natAbs * 2 ^ (-shift).toNat

/-- The double of a value that is one. -/
def doubleOf (value : ℚ) : Float :=
  if h : 0 < significandOf value then
    .ofModel (.pack (.finite
      (if value < 0 then .negative else .positive) (significandOf value)
      (exponentOf value) h))
  else .ofModel (.pack (.zero .positive))

/-- `Json::as_number`, where `Json::is_number` holds. -/
def asDouble : Json → Option Float
  | .number (.value value) => some (doubleOf value)
  | .number .negativeZero => some (.ofModel (.pack (.zero .negative)))
  | .nonFinite .infinity => some (.ofModel (.pack (.infinity .positive)))
  | .nonFinite .negativeInfinity =>
      some (.ofModel (.pack (.infinity .negative)))
  | .nonFinite .notANumber => some (.ofModel (.pack .notANumber))
  | _ => none

end Json

/-- The scalars a document can be read into. -/
class DecodedScalar (α : Type) extends SteppedScalar α where
  /-- `Json::as_number`, where `Json::is_number` holds. -/
  number : Json → Option α
  /-- `std::numeric_limits<double>::epsilon()`. -/
  epsilon : α

instance : DecodedScalar Float where
  number := Json.asDouble
  epsilon := Float.ofScientific 2220446049250313 true 31

/-- A finite scalar is read back from its document. -/
class LawfulDecoded (α : Type) [DecodedScalar α] : Prop where
  number_json : ∀ {x : α}, Scalar.isFinite x = true →
    DecodedScalar.number (MetricScalar.json x) = some x

end RbfSafe
