/-
Coordinate descent over a box of coefficients.

A target is approximated by a combination of finitely many vectors whose
coefficients stay between two bounds. A step looks at one vector and moves
its coefficient to where what is left of the target is shortest, or as far
towards there as the bounds allow. Clamping stops between the old
coefficient and that optimum, so that no step makes the remainder longer;
how the optimum is computed does not matter beyond that.

Vectors are functions on an index type and lengths are sums over finitely
many indices, so that nothing is asked of either type.
-/
import Mathlib.Algebra.BigOperators.Field
import Mathlib.Algebra.Order.BigOperators.Ring.Finset
import Mathlib.Tactic

namespace RbfSafe.Lib.BoxDescent

variable {K ι κ : Type} [Field K]

-- === remainders

/-- What a combination leaves of the target. -/
def remainder (target : ι → K) (vectors : κ → ι → K) (used : Finset κ)
    (coefficients : κ → K) (i : ι) : K :=
  target i - ∑ k ∈ used, coefficients k * vectors k i

/-- The square of the length, over some of the indices. -/
def squaredLength (indices : Finset ι) (vector : ι → K) : K :=
  ∑ i ∈ indices, vector i * vector i

/-- Changing one coefficient takes its vector off as often as it grows. -/
theorem remainder_update [DecidableEq κ] {target : ι → K}
    {vectors : κ → ι → K} {used : Finset κ} {coefficients : κ → K} {k : κ}
    (hk : k ∈ used) (value : K) (i : ι) :
    remainder target vectors used (Function.update coefficients k value) i
      = remainder target vectors used coefficients i
        - vectors k i * (value - coefficients k) := by
  have hrest : ∑ j ∈ used.erase k, Function.update coefficients k value j
      * vectors j i = ∑ j ∈ used.erase k, coefficients j * vectors j i := by
    apply Finset.sum_congr rfl
    intro j hj
    rw [Function.update_of_ne (Finset.ne_of_mem_erase hj)]
  unfold remainder
  rw [← Finset.add_sum_erase used _ hk, ← Finset.add_sum_erase used
    (fun j => coefficients j * vectors j i) hk, hrest, Function.update_self]
  ring

theorem squaredLength_congr {indices : Finset ι} {vector other : ι → K}
    (h : ∀ i ∈ indices, vector i = other i) :
    squaredLength indices vector = squaredLength indices other := by
  apply Finset.sum_congr rfl
  intro i hi
  rw [h i hi]

/-- The squared length after a multiple of a vector is taken off. -/
theorem squaredLength_sub_mul (indices : Finset ι) (rest vector : ι → K)
    (change : K) :
    squaredLength indices (fun i => rest i - vector i * change)
      = squaredLength indices rest
        - 2 * change * ∑ i ∈ indices, vector i * rest i
        + change * change * squaredLength indices vector := by
  unfold squaredLength
  rw [Finset.mul_sum, Finset.mul_sum, ← Finset.sum_sub_distrib,
    ← Finset.sum_add_distrib]
  apply Finset.sum_congr rfl
  intro i _
  ring

-- === descent

section Order

variable [LinearOrder K] [IsStrictOrderedRing K]

/-- Clamping stops between where it starts and where it is sent. -/
theorem clamped_between {lower upper start shift : K} (hlower : lower ≤ start)
    (hupper : start ≤ upper) :
    (max lower (min upper (start + shift)) - start)
        * (max lower (min upper (start + shift)) - start)
      ≤ (max lower (min upper (start + shift)) - start) * shift := by
  rcases le_total (start + shift) upper with habove | habove
  · rw [min_eq_right habove]
    rcases le_total lower (start + shift) with hbelow | hbelow
    · rw [max_eq_right hbelow, add_sub_cancel_left]
    · rw [max_eq_left hbelow]
      exact mul_le_mul_of_nonpos_left (by linarith) (by linarith)
  · rw [min_eq_left habove, max_eq_right (hlower.trans hupper)]
    exact mul_le_mul_of_nonneg_left (by linarith) (by linarith)

/-- A step that stops between the old coefficient and the optimum does not
make the remainder longer. -/
theorem squaredLength_step_le {indices : Finset ι} {rest vector : ι → K}
    {change : K} (hpos : 0 < squaredLength indices vector)
    (hchange : change * change
      ≤ change * ((∑ i ∈ indices, vector i * rest i)
        / squaredLength indices vector)) :
    squaredLength indices (fun i => rest i - vector i * change)
      ≤ squaredLength indices rest := by
  rw [squaredLength_sub_mul]
  have hscaled : change * change * squaredLength indices vector
      ≤ change * ∑ i ∈ indices, vector i * rest i := by
    have hmul := mul_le_mul_of_nonneg_right hchange hpos.le
    rwa [mul_assoc change (_ / _), div_mul_cancel₀ _ hpos.ne'] at hmul
  have hnonneg : 0 ≤ change * change * squaredLength indices vector :=
    mul_nonneg (mul_self_nonneg change) hpos.le
  linarith

/-- The optimum, clamped to the bounds. -/
def clampedStep (indices : Finset ι) (lower upper : K) (rest vector : ι → K)
    (coefficient : K) : K :=
  max lower (min upper (coefficient
    + (∑ i ∈ indices, vector i * rest i) / squaredLength indices vector))

omit [IsStrictOrderedRing K] in
theorem clampedStep_bounds {indices : Finset ι} {lower upper : K}
    (h : lower ≤ upper) (rest vector : ι → K) (coefficient : K) :
    lower ≤ clampedStep indices lower upper rest vector coefficient
      ∧ clampedStep indices lower upper rest vector coefficient ≤ upper :=
  ⟨le_max_left _ _, max_le h (min_le_left _ _)⟩

/-- **No step of the descent makes the remainder longer.** -/
theorem squaredLength_clampedStep_le {indices : Finset ι} {lower upper : K}
    {rest vector : ι → K} {coefficient : K}
    (hpos : 0 < squaredLength indices vector) (hlower : lower ≤ coefficient)
    (hupper : coefficient ≤ upper) :
    squaredLength indices (fun i => rest i - vector i
        * (clampedStep indices lower upper rest vector coefficient - coefficient))
      ≤ squaredLength indices rest :=
  squaredLength_step_le hpos (clamped_between hlower hupper)

end Order

end RbfSafe.Lib.BoxDescent
