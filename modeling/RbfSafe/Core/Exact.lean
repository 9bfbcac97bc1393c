/-
Exact arithmetic, as a law.

A type of scalars is exact if its operations are those of an ordered
field, whatever else the scalars can do: `exactScalar` is, and so is
every extension of it by a root, a printing or a reading of numbers.
Comparisons of exact scalars are comparisons of the order, so that what
the code decides can be said in the terms of the field.
-/
import RbfSafe.Core.Decoded
import Mathlib.Tactic

namespace RbfSafe

/-- The operations are those of the field. -/
class ExactScalar (K : Type) [Field K] [LinearOrder K] [Scalar K] :
    Prop where
  decimal_eq : ∀ m e : Nat, (Scalar.decimal m e : K) = (m : K) / 10 ^ e
  add_eq : ∀ a b : K, Scalar.add a b = a + b
  sub_eq : ∀ a b : K, Scalar.sub a b = a - b
  mul_eq : ∀ a b : K, Scalar.mul a b = a * b
  div_eq : ∀ a b : K, Scalar.div a b = a / b
  neg_eq : ∀ a : K, Scalar.neg a = -a
  le_eq : ∀ a b : K, Scalar.le a b = decide (a ≤ b)
  lt_eq : ∀ a b : K, Scalar.lt a b = decide (a < b)
  eq_eq : ∀ a b : K, Scalar.eq a b = decide (a = b)
  isFinite_eq : ∀ a : K, Scalar.isFinite a = true

instance exactScalar_exact (K : Type) [Field K] [LinearOrder K] :
    ExactScalar K where
  decimal_eq _ _ := rfl
  add_eq _ _ := rfl
  sub_eq _ _ := rfl
  mul_eq _ _ := rfl
  div_eq _ _ := rfl
  neg_eq _ := rfl
  le_eq _ _ := rfl
  lt_eq _ _ := rfl
  eq_eq _ _ := rfl
  isFinite_eq _ := rfl

namespace ExactScalar

variable {K : Type} [Field K] [LinearOrder K] [Scalar K] [ExactScalar K]

@[simp] theorem zero_eq : (Scalar.zero : K) = 0 := by
  unfold Scalar.zero
  rw [decimal_eq]
  simp

@[simp] theorem one_eq : (Scalar.one : K) = 1 := by
  unfold Scalar.one
  rw [decimal_eq]
  simp

theorem half_eq : (Scalar.half : K) = 5 / 10 := by
  unfold Scalar.half
  rw [decimal_eq]
  simp

@[simp] theorem le_iff (a b : K) : Scalar.le a b = true ↔ a ≤ b := by
  rw [le_eq, decide_eq_true_eq]

@[simp] theorem lt_iff (a b : K) : Scalar.lt a b = true ↔ a < b := by
  rw [lt_eq, decide_eq_true_eq]

@[simp] theorem eq_iff (a b : K) : Scalar.eq a b = true ↔ a = b := by
  rw [eq_eq, decide_eq_true_eq]

@[simp] theorem max_eq (a b : K) : Scalar.max a b = max a b := by
  unfold Scalar.max
  by_cases h : a < b
  · rw [if_pos ((lt_iff a b).mpr h), max_eq_right h.le]
  · rw [if_neg (mt (lt_iff a b).mp h), max_eq_left (not_lt.mp h)]

@[simp] theorem min_eq (a b : K) : Scalar.min a b = min a b := by
  unfold Scalar.min
  by_cases h : b < a
  · rw [if_pos ((lt_iff b a).mpr h), min_eq_right h.le]
  · rw [if_neg (mt (lt_iff b a).mp h), min_eq_left (not_lt.mp h)]

omit [LinearOrder K] [Scalar K] [ExactScalar K] in
/-- A loop that adds up. -/
theorem foldl_add_range (f : Nat → K) (start : K) (n : Nat) :
    (List.range n).foldl (fun sum i => sum + f i) start
      = start + ∑ i ∈ Finset.range n, f i := by
  induction n with
  | zero => simp
  | succ n ih =>
      rw [List.range_succ, List.foldl_append, ih, Finset.sum_range_succ,
        ← add_assoc]
      rfl

@[simp] theorem abs_eq [IsStrictOrderedRing K] (x : K) : Scalar.abs x = |x| := by
  unfold Scalar.abs
  by_cases h : x < 0
  · rw [if_pos ((lt_iff x _).mpr (by rwa [zero_eq])), neg_eq, abs_of_neg h]
  · rw [if_neg, abs_of_nonneg (not_lt.mp h)]
    rw [lt_iff, zero_eq]
    exact h

/-- Exact scalars compare as doubles do. -/
instance (priority := low) lawful : LawfulScalar K where
  le_total _ _ := by
    simpa using le_total _ _
  le_trans := by
    intro a b c hab hbc
    rw [le_iff] at hab hbc ⊢
    exact hab.trans hbc
  lt_iff _ _ := by
    rw [lt_iff, le_eq, decide_eq_false_iff_not, not_le]
  le_of_lt := by
    intro a b h
    rw [lt_iff] at h
    rw [le_iff]
    exact h.le
  eq_iff _ _ := by
    rw [eq_iff, le_iff, le_iff]
    exact le_antisymm_iff
  finite_between _ _ _ _ := isFinite_eq _

end ExactScalar

end RbfSafe
