/-
Numbers that may be infinite.

`Scalar.isFinite` is what the checks ask of an input; a sum of squares of
finite doubles may overflow, and is then compared as an infinity. What is
computed from finite values without dividing is never a NaN, and a value
that is not a NaN compares with every other one: `NumberScalar` says so of
the few operations that distances and uncertainties are made of. A number
is a value that is at most itself.

Doubles are such numbers: the operations keep signs, and a value with a sign
is not a NaN.
-/
import RbfSafe.Core.Proofs.Workspace

namespace RbfSafe

open Float.Model (UnpackedFloat Format)

/-- Comparisons of numbers, and the operations that keep to numbers. -/
class NumberScalar (α : Type) [MetricScalar α] : Prop extends
    LawfulScalar α where
  zero_finite : Scalar.isFinite (Scalar.zero : α) = true
  number_of_le : ∀ {a b : α}, Scalar.le a b = true →
    Scalar.le a a = true ∧ Scalar.le b b = true
  number_total : ∀ {a b : α}, Scalar.le a a = true → Scalar.le b b = true →
    Scalar.le a b = true ∨ Scalar.le b a = true
  number_lt_iff : ∀ {a b : α}, Scalar.le a a = true → Scalar.le b b = true →
    (Scalar.lt a b = true ↔ Scalar.le b a = false)
  number_eq_iff : ∀ {a b : α}, Scalar.le a a = true → Scalar.le b b = true →
    (Scalar.eq a b = true ↔ Scalar.le a b = true ∧ Scalar.le b a = true)
  sub_number : ∀ {a b : α}, Scalar.isFinite a = true → Scalar.le b b = true →
    Scalar.le (Scalar.sub a b) (Scalar.sub a b) = true
  square_nonneg : ∀ {a : α}, Scalar.le a a = true →
    Scalar.le Scalar.zero (Scalar.mul a a) = true
  add_nonneg : ∀ {a b : α}, Scalar.le Scalar.zero a = true →
    Scalar.le Scalar.zero b = true →
    Scalar.le Scalar.zero (Scalar.add a b) = true
  sqrt_nonneg : ∀ {a : α}, Scalar.le Scalar.zero a = true →
    Scalar.le Scalar.zero (MetricScalar.sqrt a) = true

namespace NumberScalar

variable {α : Type} [MetricScalar α] [NumberScalar α]

theorem number_of_lt {a b : α} (h : Scalar.lt a b = true) :
    Scalar.le a a = true ∧ Scalar.le b b = true :=
  number_of_le (LawfulScalar.le_of_lt h)

/-- Clamping a number gives a number, whatever the bounds. -/
theorem clamp_number {value lower upper : α} (h : Scalar.le value value = true) :
    Scalar.le (if Scalar.lt value lower then lower
        else if Scalar.lt upper value then upper else value)
      (if Scalar.lt value lower then lower
        else if Scalar.lt upper value then upper else value) = true := by
  by_cases hlower : Scalar.lt value lower = true
  · rw [if_pos hlower]
    exact (number_of_lt hlower).2
  · rw [if_neg hlower]
    by_cases hupper : Scalar.lt upper value = true
    · rw [if_pos hupper]
      exact (number_of_lt hupper).1
    · rw [if_neg hupper]
      exact h

/-- What is between zero and a finite bound is finite. -/
theorem finite_of_bounded {a bound : α} (hbound : Scalar.isFinite bound = true)
    (h : Scalar.le Scalar.zero a = true) (hlt : Scalar.lt bound a = false) :
    Scalar.isFinite a = true := by
  have hnumber := (number_of_le h).2
  have hself : Scalar.le bound bound = true := LawfulScalar.le_refl hbound
  have hle : Scalar.le a bound = true := by
    by_contra hnot
    have hgt := (number_lt_iff hself hnumber).mpr (by simpa using hnot)
    rw [hlt] at hgt
    cases hgt
  exact LawfulScalar.finite_between zero_finite hbound h hle

/-- What is at least zero is not below it. -/
theorem not_negative {a : α} (h : Scalar.le Scalar.zero a = true) :
    Scalar.lt a Scalar.zero = false := by
  obtain ⟨hzero, ha⟩ := number_of_le h
  by_contra hlt
  have hnot := (number_lt_iff ha hzero).mp (by simpa using hlt)
  rw [h] at hnot
  cases hnot

/-- A finite value that is not below zero is at least zero. -/
theorem nonneg_of_not_negative {a : α} (hfinite : Scalar.isFinite a = true)
    (h : Scalar.lt a Scalar.zero = false) : Scalar.le Scalar.zero a = true := by
  by_contra hnot
  have hlt := (LawfulScalar.lt_iff hfinite zero_finite).mpr (by simpa using hnot)
  rw [h] at hlt
  cases hlt

end NumberScalar

-- === doubles

open Float.Model.UnpackedFloat

/-- A value with the positive sign, or the other zero. -/
def AtLeastZero (u : UnpackedFloat) : Prop :=
  Signed .positive u ∨ u = .zero .negative

theorem zero_le_iff (a : Float) :
    Scalar.le Scalar.zero a = true ↔ AtLeastZero a.toModel.unpack := by
  unfold AtLeastZero
  have hzero : (Scalar.zero : Float).toModel.unpack = .zero .positive := rfl
  rw [float_le, hzero]
  cases a.toModel.unpack with
  | notANumber =>
      constructor
      · intro h
        cases h
      · rintro (h | h)
        · cases h
        · cases h
  | infinity s => cases s <;> simp [Signed] <;> decide
  | zero s => cases s <;> simp [Signed] <;> decide
  | finite s m e hm =>
      cases s
      · simp [Signed]
        rfl
      · simp [Signed]
        rfl

theorem AtLeastZero.unpack_pack {u : UnpackedFloat} (h : AtLeastZero u) :
    AtLeastZero (unpack Format.binary64 (pack Format.binary64 u)) := by
  rcases h with h | rfl
  · exact .inl (signed_unpack_pack h)
  · exact .inr rfl

/-- A number is a value that is not a NaN. -/
theorem le_self_iff (a : Float) :
    Scalar.le a a = true ↔ a.toModel.unpack.isNaN = false := by
  rw [float_le]
  constructor
  · intro h
    exact (not_nan_of_le h).1
  · intro h
    rw [le_iff_place h h]

/-- The difference of a finite value and a number. -/
theorem signed_sub_number {t : Sign} {u v : UnpackedFloat}
    (hu : u.isFinite = true) (hv : Signed t v) :
    ∃ s, Signed s (sub Format.binary64 u v) := by
  by_cases hfinite : v.isFinite = true
  · exact signed_sub hu hfinite
  · cases v with
    | notANumber => exact hv.elim
    | infinity r =>
        cases u with
        | notANumber => cases hu
        | infinity s => cases hu
        | zero s => exact ⟨-r, rfl⟩
        | finite s m e hm => exact ⟨-r, rfl⟩
    | zero r => exact absurd rfl hfinite
    | finite r m e hm => exact absurd rfl hfinite

/-- The sum of two values that are at least zero. -/
theorem AtLeastZero.add {u v : UnpackedFloat} (hu : AtLeastZero u)
    (hv : AtLeastZero v) : AtLeastZero (add Format.binary64 u v) := by
  rcases hu with hu | rfl
  · rcases hv with hv | rfl
    · exact .inl (signed_add hu hv)
    · cases u with
      | notANumber => exact hu.elim
      | infinity s => exact .inl hu
      | zero s =>
          cases hu
          exact .inl rfl
      | finite s m e hm => exact .inl hu
  · rcases hv with hv | rfl
    · cases v with
      | notANumber => exact hv.elim
      | infinity s => exact .inl hv
      | zero s =>
          cases hv
          exact .inl rfl
      | finite s m e hm => exact .inl hv
    · exact .inr rfl

instance float_numbers : NumberScalar Float where
  zero_finite := rfl
  number_of_le {a b} h := by
    rw [float_le] at h
    rw [le_self_iff, le_self_iff]
    exact not_nan_of_le h
  number_total {a b} ha hb := by
    rw [le_self_iff] at ha hb
    rw [float_le, float_le, le_iff_place ha hb, le_iff_place hb ha]
    exact le_total _ _
  number_lt_iff {a b} ha hb := by
    rw [le_self_iff] at ha hb
    rw [float_lt, float_le, ← Bool.not_eq_true, lt_iff_place ha hb,
      le_iff_place hb ha, not_le]
  number_eq_iff {a b} ha hb := by
    rw [le_self_iff] at ha hb
    rw [float_eq, float_le, float_le, beq_iff_place ha hb, le_iff_place ha hb,
      le_iff_place hb ha]
    exact le_antisymm_iff
  sub_number {a b} ha hb := by
    rw [float_isFinite] at ha
    rw [le_self_iff] at hb ⊢
    obtain ⟨t, ht⟩ := signed_of_not_nan hb
    obtain ⟨s, hs⟩ := signed_sub_number ha ht
    exact (signed_unpack_pack hs).not_nan
  square_nonneg {a} ha := by
    rw [le_self_iff] at ha
    rw [zero_le_iff]
    apply AtLeastZero.unpack_pack
    obtain ⟨s, hs⟩ := signed_of_not_nan ha
    exact .inl (signed_mul_self hs)
  add_nonneg {a b} ha hb := by
    rw [zero_le_iff] at ha hb ⊢
    apply AtLeastZero.unpack_pack
    exact ha.add hb
  sqrt_nonneg {a} ha := by
    rw [zero_le_iff] at ha ⊢
    apply AtLeastZero.unpack_pack
    rcases ha with ha | ha
    · exact .inl (signed_sqrt ha)
    · rw [ha]
      exact .inr rfl

end RbfSafe
