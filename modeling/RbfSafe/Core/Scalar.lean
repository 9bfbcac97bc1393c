/-
The numbers the geometry computes with.

`double` is `Float`, the binary64 of the kernel: its operations compute,
round to nearest and have infinities and NaN. Much of what is said about
the geometry is said over exact numbers, so the model is written over a
type of scalars with the operations of the source, and read at `Float`
for the code as it runs and at an ordered field for exact arithmetic.

# What both have in common

`LawfulScalar` is what comparisons obey in either reading: on finite
values they form a total preorder (`0.0` and `-0.0` are two values that
compare equal), and a value between finite ones is finite.
`ToleratedScalar` adds that a tolerance does not shrink an interval.
-/
import RbfSafe.Core.Bytes

namespace RbfSafe

/-- The operations of `double` that the source uses. -/
class Scalar (α : Type) where
  /-- The literal `m` shifted `e` decimal places to the right. -/
  decimal : Nat → Nat → α
  add : α → α → α
  sub : α → α → α
  mul : α → α → α
  div : α → α → α
  neg : α → α
  le : α → α → Bool
  lt : α → α → Bool
  /-- `operator==`. -/
  eq : α → α → Bool
  /-- `std::isfinite`. -/
  isFinite : α → Bool

namespace Scalar

variable {α : Type} [Scalar α]

/-- `0.0`. -/
def zero : α := decimal 0 0

/-- `1.0`. -/
def one : α := decimal 1 0

/-- `0.5`. -/
def half : α := decimal 5 1

/-- `1e-12`. -/
def tolerance : α := decimal 1 12

end Scalar

/-- The scalars of the code as it runs. -/
instance : Scalar Float where
  decimal m e := Float.ofScientific m true e
  add := Float.add
  sub := Float.sub
  mul := Float.mul
  div := Float.div
  neg := Float.neg
  le := Float.le
  lt := Float.lt
  eq := Float.beq
  isFinite := Float.isFinite

/-- Exact arithmetic: every number is finite. -/
instance (priority := low) exactScalar (K : Type) [Field K] [LinearOrder K] :
    Scalar K where
  decimal m e := (m : K) / 10 ^ e
  add a b := a + b
  sub a b := a - b
  mul a b := a * b
  div a b := a / b
  neg a := -a
  le a b := decide (a ≤ b)
  lt a b := decide (a < b)
  eq a b := decide (a = b)
  isFinite _ := true

/-- Comparisons of doubles and of exact numbers. -/
class LawfulScalar (α : Type) [Scalar α] : Prop where
  le_total : ∀ {a b : α}, Scalar.isFinite a = true →
    Scalar.isFinite b = true → Scalar.le a b = true ∨ Scalar.le b a = true
  le_trans : ∀ {a b c : α}, Scalar.le a b = true → Scalar.le b c = true →
    Scalar.le a c = true
  lt_iff : ∀ {a b : α}, Scalar.isFinite a = true →
    Scalar.isFinite b = true →
    (Scalar.lt a b = true ↔ Scalar.le b a = false)
  le_of_lt : ∀ {a b : α}, Scalar.lt a b = true → Scalar.le a b = true
  eq_iff : ∀ {a b : α}, Scalar.isFinite a = true →
    Scalar.isFinite b = true →
    (Scalar.eq a b = true ↔ Scalar.le a b = true ∧ Scalar.le b a = true)
  finite_between : ∀ {a b c : α}, Scalar.isFinite a = true →
    Scalar.isFinite c = true → Scalar.le a b = true →
    Scalar.le b c = true → Scalar.isFinite b = true

/-- A tolerance moves a bound outwards, if at all. -/
class ToleratedScalar (α : Type) [Scalar α] : Prop extends
    LawfulScalar α where
  sub_tolerance_le : ∀ {a : α}, Scalar.isFinite a = true →
    Scalar.le (Scalar.sub a Scalar.tolerance) a = true
  le_add_tolerance : ∀ {a : α}, Scalar.isFinite a = true →
    Scalar.le a (Scalar.add a Scalar.tolerance) = true

namespace LawfulScalar

variable {α : Type} [Scalar α] [LawfulScalar α]

theorem le_refl {a : α} (ha : Scalar.isFinite a = true) :
    Scalar.le a a = true := by
  rcases le_total ha ha with h | h <;> exact h

theorem eq_refl {a : α} (ha : Scalar.isFinite a = true) :
    Scalar.eq a a = true :=
  (eq_iff ha ha).mpr ⟨le_refl ha, le_refl ha⟩

/-- Strictly below on both sides of one value is impossible. -/
theorem lt_asymm {a b : α} (ha : Scalar.isFinite a = true)
    (hb : Scalar.isFinite b = true) (h : Scalar.lt a b = true) :
    Scalar.lt b a = false := by
  have hle : Scalar.le a b = true := le_of_lt h
  by_contra hba
  have hnot : Scalar.le a b = false :=
    (lt_iff hb ha).mp (by simpa using hba)
  rw [hle] at hnot
  cases hnot

theorem lt_of_lt_of_le {a b c : α} (ha : Scalar.isFinite a = true)
    (hb : Scalar.isFinite b = true) (hc : Scalar.isFinite c = true)
    (h : Scalar.lt a b = true) (h' : Scalar.le b c = true) :
    Scalar.lt a c = true := by
  rw [lt_iff ha hc]
  by_contra hca
  have hba : Scalar.le b a = true := le_trans h' (by simpa using hca)
  rw [(lt_iff ha hb).mp h] at hba
  cases hba

theorem lt_of_le_of_lt {a b c : α} (ha : Scalar.isFinite a = true)
    (hb : Scalar.isFinite b = true) (hc : Scalar.isFinite c = true)
    (h : Scalar.le a b = true) (h' : Scalar.lt b c = true) :
    Scalar.lt a c = true := by
  rw [lt_iff ha hc]
  by_contra hca
  have hcb : Scalar.le c b = true := le_trans (by simpa using hca) h
  rw [(lt_iff hb hc).mp h'] at hcb
  cases hcb

end LawfulScalar

-- === exact numbers

section Exact

variable {K : Type} [Field K] [LinearOrder K]

instance exact_lawful : LawfulScalar K where
  le_total _ _ := by
    simpa [Scalar.le] using le_total _ _
  le_trans := by
    intro a b c hab hbc
    simp only [Scalar.le, decide_eq_true_eq] at hab hbc ⊢
    exact hab.trans hbc
  lt_iff _ _ := by simp [Scalar.lt, Scalar.le]
  le_of_lt := by
    intro a b h
    simp only [Scalar.lt, Scalar.le, decide_eq_true_eq] at h ⊢
    exact h.le
  eq_iff _ _ := by
    simp only [Scalar.eq, Scalar.le, decide_eq_true_eq]
    exact le_antisymm_iff
  finite_between _ _ _ _ := rfl

variable [IsStrictOrderedRing K]

instance exact_tolerated : ToleratedScalar K where
  sub_tolerance_le {a} _ := by
    have h : (0 : K) ≤ Scalar.tolerance (α := K) := by
      change (0 : K) ≤ ((1 : ℕ) : K) / 10 ^ 12
      positivity
    simpa [Scalar.le, Scalar.sub] using h
  le_add_tolerance {a} _ := by
    have h : (0 : K) ≤ Scalar.tolerance (α := K) := by
      change (0 : K) ≤ ((1 : ℕ) : K) / 10 ^ 12
      positivity
    simpa [Scalar.le, Scalar.add] using h

end Exact

end RbfSafe
