/-
Rigid motions that depend on a parameter, and their velocity.

A motion turns by a matrix and then moves by a vector. The velocity of a
motion is that of its entries. Fixed motions before and after a moving
one pass its velocity on (`MovesAt.comp`), so that a chain of which one
part moves has a velocity of one of two kinds: if the part turns about
its own axis, the chain turns about the axis where the part has brought
it (`MovesAt.turning`); if the part slides along the axis, the chain
slides along it (`MovesAt.sliding`). The first rests on a rotation
commuting with the cross product (`cross_mulVec`).
-/
import RbfSafe.Lib.Numerals
import Mathlib.Analysis.Calculus.Deriv.Add
import Mathlib.Analysis.Calculus.Deriv.Mul
import Mathlib.Analysis.Calculus.Deriv.Shift
import Mathlib.LinearAlgebra.CrossProduct
import Mathlib.LinearAlgebra.UnitaryGroup
import Mathlib.Tactic
import Mathlib.Topology.Algebra.Module.ModuleTopology

namespace RbfSafe.Lib.Rigid

open Matrix

-- === cross products

/-- The matrix of the cross product with a vector. -/
def skew (w : Fin 3 → ℝ) : Matrix (Fin 3) (Fin 3) ℝ :=
  !![0, -w 2, w 1; w 2, 0, -w 0; -w 1, w 0, 0]

theorem skew_mulVec (w v : Fin 3 → ℝ) : skew w *ᵥ v = w ⨯₃ v := by
  ext i
  fin_cases i <;>
    simp [skew, cross_apply, mulVec, dotProduct, Fin.sum_univ_three] <;> ring

theorem skew_zero : skew 0 = 0 := by
  ext i j
  fin_cases i <;> fin_cases j <;> simp [skew]

/-- The transpose of a matrix takes the cross product of two images back,
up to the determinant. -/
theorem transpose_mulVec_cross (m : Matrix (Fin 3) (Fin 3) ℝ)
    (v u : Fin 3 → ℝ) :
    mᵀ *ᵥ ((m *ᵥ v) ⨯₃ (m *ᵥ u)) = m.det • (v ⨯₃ u) := by
  ext i
  rw [det_fin_three]
  fin_cases i <;>
    simp [cross_apply, mulVec, dotProduct, Fin.sum_univ_three] <;> ring

/-- A rotation keeps cross products. -/
theorem cross_mulVec {m : Matrix (Fin 3) (Fin 3) ℝ}
    (h : m ∈ specialOrthogonalGroup (Fin 3) ℝ) (v u : Fin 3 → ℝ) :
    (m *ᵥ v) ⨯₃ (m *ᵥ u) = m *ᵥ (v ⨯₃ u) := by
  obtain ⟨horthogonal, hdet⟩ := mem_specialOrthogonalGroup_iff.mp h
  have hinverse : m * mᵀ = 1 := (mem_orthogonalGroup_iff (Fin 3) ℝ).mp horthogonal
  have hback := transpose_mulVec_cross m v u
  rw [hdet, one_smul] at hback
  rw [← hback, mulVec_mulVec, hinverse, one_mulVec]

/-- A rotation takes the matrix of a vector to that of its image. -/
theorem mul_skew {m : Matrix (Fin 3) (Fin 3) ℝ}
    (h : m ∈ specialOrthogonalGroup (Fin 3) ℝ) (w : Fin 3 → ℝ) :
    m * skew w = skew (m *ᵥ w) * m := by
  apply ext_of_mulVec_single
  intro i
  rw [← mulVec_mulVec, ← mulVec_mulVec, skew_mulVec, skew_mulVec,
    cross_mulVec h]

-- === motions

/-- A rotation, and then a translation. -/
@[ext] structure Motion where
  rotation : Matrix (Fin 3) (Fin 3) ℝ
  translation : Fin 3 → ℝ

namespace Motion

/-- The motion that does nothing. -/
def still : Motion := ⟨1, 0⟩

/-- The second motion first. -/
def comp (f g : Motion) : Motion :=
  ⟨f.rotation * g.rotation, f.rotation *ᵥ g.translation + f.translation⟩

@[simp] theorem comp_rotation (f g : Motion) :
    (f.comp g).rotation = f.rotation * g.rotation := rfl

@[simp] theorem comp_translation (f g : Motion) :
    (f.comp g).translation
      = f.rotation *ᵥ g.translation + f.translation := rfl

theorem comp_still (f : Motion) : f.comp still = f := by
  ext1
  · exact Matrix.mul_one _
  · show f.rotation *ᵥ 0 + _ = _
    rw [mulVec_zero, zero_add]

theorem still_comp (f : Motion) : still.comp f = f := by
  ext1
  · exact Matrix.one_mul _
  · show 1 *ᵥ f.translation + 0 = _
    rw [one_mulVec, add_zero]

theorem comp_assoc (f g h : Motion) :
    (f.comp g).comp h = f.comp (g.comp h) := by
  ext1
  · exact Matrix.mul_assoc _ _ _
  · show (f.rotation * g.rotation) *ᵥ h.translation
        + (f.rotation *ᵥ g.translation + f.translation)
      = f.rotation *ᵥ (g.rotation *ᵥ h.translation + g.translation)
        + f.translation
    rw [mulVec_add, mulVec_mulVec, add_assoc]

/-- Motions whose rotation is one. -/
def Proper (f : Motion) : Prop :=
  f.rotation ∈ specialOrthogonalGroup (Fin 3) ℝ

theorem proper_still : still.Proper := one_mem _

theorem Proper.comp {f g : Motion} (hf : f.Proper) (hg : g.Proper) :
    (f.comp g).Proper := mul_mem hf hg

end Motion

-- === velocities

/-- A motion that depends on a parameter, and the velocity of its
entries. -/
structure MovesAt (f : ℝ → Motion) (velocity : Motion) (t : ℝ) : Prop where
  rotation : ∀ i j, HasDerivAt (fun s => (f s).rotation i j)
    (velocity.rotation i j) t
  translation : ∀ i, HasDerivAt (fun s => (f s).translation i)
    (velocity.translation i) t

/-- The parameter counted from elsewhere. -/
theorem MovesAt.shift {f : ℝ → Motion} {velocity : Motion} {origin t : ℝ}
    (h : MovesAt f velocity (origin + t)) :
    MovesAt (fun s => f (origin + s)) velocity t := by
  constructor
  · intro i j
    exact (h.rotation i j).comp_const_add origin t
  · intro i
    exact (h.translation i).comp_const_add origin t

/-- Fixed motions before and after. -/
theorem MovesAt.comp {f : ℝ → Motion} {velocity : Motion} {t : ℝ}
    (h : MovesAt f velocity t) (before after : Motion) :
    MovesAt (fun s => (before.comp (f s)).comp after)
      ⟨before.rotation * velocity.rotation * after.rotation,
        before.rotation *ᵥ (velocity.rotation *ᵥ after.translation
          + velocity.translation)⟩ t := by
  have hrotation : ∀ i j, HasDerivAt
      (fun s => (before.rotation * (f s).rotation) i j)
      ((before.rotation * velocity.rotation) i j) t := by
    intro i j
    simp only [Matrix.mul_apply]
    exact HasDerivAt.fun_sum fun k _ =>
      (h.rotation k j).const_mul (before.rotation i k)
  have htranslation : ∀ i, HasDerivAt
      (fun s => (before.rotation *ᵥ (f s).translation) i)
      ((before.rotation *ᵥ velocity.translation) i) t := by
    intro i
    simp only [mulVec, dotProduct]
    exact HasDerivAt.fun_sum fun k _ =>
      (h.translation k).const_mul (before.rotation i k)
  constructor
  · intro i j
    show HasDerivAt (fun s =>
      (before.rotation * (f s).rotation * after.rotation) i j) _ t
    simp only [Matrix.mul_apply (M := before.rotation * _)]
    exact HasDerivAt.fun_sum fun k _ =>
      (hrotation i k).mul_const (after.rotation k j)
  · intro i
    have hturned : HasDerivAt (fun s =>
        ((before.rotation * (f s).rotation) *ᵥ after.translation) i)
        (((before.rotation * velocity.rotation) *ᵥ after.translation) i) t := by
      simp only [mulVec, dotProduct]
      exact HasDerivAt.fun_sum fun k _ =>
        (hrotation i k).mul_const (after.translation k)
    rw [mulVec_add, mulVec_mulVec]
    exact hturned.add ((htranslation i).add_const _)

section
variable {f : ℝ → Motion} {t : ℝ} {axis : Fin 3 → ℝ}

/-- A chain of which one part turns about an axis of its own. -/
theorem MovesAt.turning (h : MovesAt f ⟨(f t).rotation * skew axis, 0⟩ t)
    {before : Motion} (hproper : (before.comp (f t)).Proper)
    (after : Motion) :
    let here := before.comp (f t)
    let chain := here.comp after
    let w := here.rotation *ᵥ axis
    MovesAt (fun s => (before.comp (f s)).comp after)
      ⟨skew w * chain.rotation,
        w ⨯₃ (chain.translation - here.translation)⟩ t := by
  intro here chain w
  have hskew : here.rotation * skew axis = skew w * here.rotation :=
    mul_skew hproper axis
  have hcomp := h.comp before after
  have hrotation : before.rotation * ((f t).rotation * skew axis)
      * after.rotation = skew w * chain.rotation := by
    rw [← Matrix.mul_assoc before.rotation]
    show here.rotation * skew axis * after.rotation
      = skew w * (here.rotation * after.rotation)
    rw [hskew, Matrix.mul_assoc]
  have htranslation : before.rotation *ᵥ
        (((f t).rotation * skew axis) *ᵥ after.translation + 0)
      = w ⨯₃ (chain.translation - here.translation) := by
    have hoffset : chain.translation - here.translation
        = here.rotation *ᵥ after.translation := add_sub_cancel_right _ _
    rw [add_zero, mulVec_mulVec, ← Matrix.mul_assoc, hoffset]
    show (here.rotation * skew axis) *ᵥ after.translation = _
    rw [← mulVec_mulVec, skew_mulVec]
    exact (cross_mulVec hproper axis after.translation).symm
  rw [hrotation, htranslation] at hcomp
  exact hcomp

/-- A chain of which one part slides along an axis of its own. -/
theorem MovesAt.sliding (h : MovesAt f ⟨0, (f t).rotation *ᵥ axis⟩ t)
    (before after : Motion) :
    MovesAt (fun s => (before.comp (f s)).comp after)
      ⟨0, (before.comp (f t)).rotation *ᵥ axis⟩ t := by
  have hcomp := h.comp before after
  rw [Matrix.mul_zero, Matrix.zero_mul, zero_mulVec, zero_add,
    mulVec_mulVec] at hcomp
  exact hcomp

end

end RbfSafe.Lib.Rigid
