/-
Exact operations followed by a rounding.

A rounding is a monotone map onto the numbers that are represented. The
operations of `Rounded R` are those of the field, rounded: nothing else
is known of them, so that what is proved here holds for every precision
and every rounding mode without overflow. In particular `x + 1 * (y - x)`
need not be `y`.

The square root, the printing and the neighbours of a number are whatever
the rounding says.
-/
import RbfSafe.Core.Workspace

namespace RbfSafe

/-- The scalars that know their neighbours: `std::nextafter`. -/
class SteppedScalar (α : Type) extends MetricScalar α where
  nextDown : α → α
  nextUp : α → α

/-- `std::nextafter` towards positive infinity. -/
def nextUp (x : Float) : Float :=
  if x.isNaN || x == 1 / 0 then x
  else if x == 0 then Float.ofBits 1
  else if 0 < x then Float.ofBits (x.toBits + 1)
  else Float.ofBits (x.toBits - 1)

instance : SteppedScalar Float where
  nextUp := nextUp
  nextDown x := -nextUp (-x)

-- === roundings

/-- A monotone rounding onto the represented numbers, and what else the
scalars need. -/
structure Rounding (K : Type) [Field K] [LinearOrder K] where
  round : K → K
  monotone : Monotone round
  idempotent : ∀ x, round (round x) = round x
  zero : round 0 = 0
  one : round 1 = 1
  sqrt : K → K
  json : K → Json
  nextDown : K → K
  nextUp : K → K

section
variable {K : Type} [Field K] [LinearOrder K]

/-- The represented numbers. -/
def Rounded (R : Rounding K) : Type := {x : K // R.round x = x}

namespace Rounded

variable (R : Rounding K)

/-- The represented number an exact result is rounded to. -/
def of (x : K) : Rounded R := ⟨R.round x, R.idempotent x⟩

instance : SteppedScalar (Rounded R) where
  decimal m e := of R ((exactScalar K).decimal m e)
  add a b := of R (a.1 + b.1)
  sub a b := of R (a.1 - b.1)
  mul a b := of R (a.1 * b.1)
  div a b := of R (a.1 / b.1)
  neg a := of R (-a.1)
  le a b := decide (a.1 ≤ b.1)
  lt a b := decide (a.1 < b.1)
  eq a b := decide (a.1 = b.1)
  isFinite _ := true
  sqrt a := of R (R.sqrt a.1)
  json a := R.json a.1
  nextDown a := of R (R.nextDown a.1)
  nextUp a := of R (R.nextUp a.1)

variable {R}

theorem ext {a b : Rounded R} (h : a.1 = b.1) : a = b := Subtype.ext h

theorem add_val (a b : Rounded R) :
    (Scalar.add a b).1 = R.round (a.1 + b.1) := rfl

theorem mul_val (a b : Rounded R) :
    (Scalar.mul a b).1 = R.round (a.1 * b.1) := rfl

theorem div_val (a b : Rounded R) :
    (Scalar.div a b).1 = R.round (a.1 / b.1) := rfl

theorem le_iff (a b : Rounded R) : Scalar.le a b = true ↔ a.1 ≤ b.1 :=
  decide_eq_true_iff

theorem lt_iff (a b : Rounded R) : Scalar.lt a b = true ↔ a.1 < b.1 :=
  decide_eq_true_iff

theorem eq_iff (a b : Rounded R) : Scalar.eq a b = true ↔ a = b :=
  decide_eq_true_iff.trans ⟨ext, congrArg Subtype.val⟩

instance : LawfulScalar (Rounded R) where
  le_total _ _ := by
    simpa only [le_iff] using le_total _ _
  le_trans := by
    intro a b c hab hbc
    rw [le_iff] at hab hbc ⊢
    exact hab.trans hbc
  lt_iff {a b} _ _ := by
    rw [lt_iff, ← Bool.not_eq_true, le_iff, not_le]
  le_of_lt := by
    intro a b h
    rw [lt_iff] at h
    rw [le_iff]
    exact h.le
  eq_iff {a b} _ _ := by
    rw [eq_iff, le_iff, le_iff]
    exact ⟨fun h => h ▸ ⟨le_rfl, le_rfl⟩, fun h => ext (le_antisymm h.1 h.2)⟩
  finite_between _ _ _ _ := rfl

theorem min_val (a b : Rounded R) : (Scalar.min a b).1 = min a.1 b.1 := by
  unfold Scalar.min
  by_cases h : Scalar.lt b a = true
  · rw [if_pos h, min_eq_right ((lt_iff b a).mp h).le]
  · rw [if_neg h, min_eq_left (not_lt.mp (mt (lt_iff b a).mpr h))]

theorem max_val (a b : Rounded R) : (Scalar.max a b).1 = max a.1 b.1 := by
  unfold Scalar.max
  by_cases h : Scalar.lt a b = true
  · rw [if_pos h, max_eq_right ((lt_iff a b).mp h).le]
  · rw [if_neg h, max_eq_left (not_lt.mp (mt (lt_iff a b).mpr h))]

-- === interpolation

/-- One coordinate of `interpolate`. -/
def blend (a b fraction : Rounded R) : Rounded R :=
  Scalar.add a (Scalar.mul fraction (Scalar.sub b a))

/-- The interpolation starts where it should. -/
theorem blend_zero (a b : Rounded R) {fraction : Rounded R}
    (h : fraction.1 = 0) : blend a b fraction = a := by
  apply ext
  rw [blend, add_val, mul_val, h, zero_mul, R.zero, add_zero, a.2]

variable [IsStrictOrderedRing K]

/-- The interpolation between two fractions stays between their values. -/
theorem blend_between (a b : Rounded R) {f g h : Rounded R} (hfg : f.1 ≤ g.1)
    (hgh : g.1 ≤ h.1) :
    min (blend a b f).1 (blend a b h).1 ≤ (blend a b g).1
      ∧ (blend a b g).1 ≤ max (blend a b f).1 (blend a b h).1 := by
  have hval : ∀ fraction, (blend a b fraction).1
      = R.round (a.1 + R.round (fraction.1 * (Scalar.sub b a).1)) := by
    intro fraction
    rw [blend, add_val, mul_val]
  simp only [hval]
  rcases le_total 0 (Scalar.sub b a).1 with hpos | hneg
  · -- the fraction and the value increase together
    have hmono : ∀ {f g : Rounded R}, f.1 ≤ g.1 →
        R.round (a.1 + R.round (f.1 * (Scalar.sub b a).1))
          ≤ R.round (a.1 + R.round (g.1 * (Scalar.sub b a).1)) := by
      intro f g hle
      apply R.monotone
      apply add_le_add_right
      exact R.monotone (mul_le_mul_of_nonneg_right hle hpos)
    exact ⟨(min_le_left _ _).trans (hmono hfg),
      (hmono hgh).trans (le_max_right _ _)⟩
  · have hanti : ∀ {f g : Rounded R}, f.1 ≤ g.1 →
        R.round (a.1 + R.round (g.1 * (Scalar.sub b a).1))
          ≤ R.round (a.1 + R.round (f.1 * (Scalar.sub b a).1)) := by
      intro f g hle
      apply R.monotone
      apply add_le_add_right
      exact R.monotone (mul_le_mul_of_nonpos_right hle hneg)
    exact ⟨(min_le_right _ _).trans (hanti hgh),
      (hanti hfg).trans (le_max_left _ _)⟩

end Rounded

end

end RbfSafe
