/-
Doubles that stay in range, and `long double`.

A finite `double` of at most `N` in magnitude (`Within`) stays one under
the operations of the source as long as the exact result would.

How wide `long double` is depends on the platform; it holds every
`double`, and that is all that is used of it.
-/
import RbfSafe.Core.Double
import RbfSafe.Core.Workspace
import RbfSafe.Lib.Rounding

namespace RbfSafe

open Float.Model (UnpackedFloat Format)
open Float.Model.UnpackedFloat Lib.Rounding

-- === long double

/-- The format of `long double`. -/
structure LongDouble where
  format : Format
  holdsDouble : 53 ≤ format.mantissaBits

namespace LongDouble

/-- The conversion from `double`. -/
def ofDouble (L : LongDouble) (x : Float) : UnpackedFloat :=
  match x.toModel.unpack with
  | .finite s m e _ => round L.format s m e
  | x => x

/-- `static_cast<double>`. -/
def toDouble (x : UnpackedFloat) : Float :=
  match x with
  | .finite s m e _ => .ofModel (.pack (round Format.binary64 s m e))
  | x => .ofModel (.pack x)

/-- The 80 bits of the x87. -/
def x87 : LongDouble where
  format := { mantissaBitsWithoutImplicit := 63, exponentBits := 15 }
  holdsDouble := by decide

theorem lt_of_lt {L : LongDouble} {N : ℕ} (h : N < 2 ^ 53) :
    N < 2 ^ L.format.mantissaBits :=
  h.trans_le (Nat.pow_le_pow_right two_pos L.holdsDouble)

end LongDouble

-- === in range

/-- Finite, and at most `N` in magnitude. -/
def Within (N : ℕ) (x : Float) : Prop := Bounded N x.toModel.unpack

section
variable {M N : ℕ} {x y : Float}

theorem Within.finite (h : Within N x) : x.isFinite = true :=
  Bounded.finite h

theorem Within.mono (h : Within M x) (hle : M ≤ N) : Within N x :=
  Bounded.mono h hle

theorem within_zero (N : ℕ) : Within N 0 :=
  bounded_zero .positive N

theorem Within.add (hx : Within M x) (hy : Within N y) (hpos : 0 < M + N)
    (hlt : M + N < 2 ^ 53) : Within (M + N) (x + y) :=
  bounded_pack hpos hlt (bounded_add hx hy hlt)

theorem Within.sub (hx : Within M x) (hy : Within N y) (hpos : 0 < M + N)
    (hlt : M + N < 2 ^ 53) : Within (M + N) (x - y) :=
  bounded_pack hpos hlt (bounded_sub hx hy hlt)

theorem Within.mul (hx : Within M x) (hy : Within N y) (hpos : 0 < M * N)
    (hlt : M * N < 2 ^ 53) : Within (M * N) (x * y) :=
  bounded_pack hpos hlt (bounded_mul hx hy hlt)

theorem Within.abs (h : Within N x) (hpos : 0 < N) (hlt : N < 2 ^ 53) :
    Within N x.abs := by
  apply bounded_pack hpos hlt
  unfold Within at h
  cases hx : x.toModel.unpack with
  | finite s m e hm =>
      rw [hx] at h
      exact ⟨rfl, h.le, h.fractional⟩
  | infinity s =>
      rw [hx] at h
      cases h.finite
  | notANumber =>
      rw [hx] at h
      cases h.finite
  | zero s => exact bounded_zero _ N

theorem Within.max (hx : Within N x) (hy : Within N y) :
    Within N (Scalar.max x y) := by
  unfold Scalar.max
  split
  · exact hy
  · exact hx

/-- A count is a value of its own. -/
theorem magnitude_toFloat {n : UInt64} (h : n.toNat < 2 ^ 53) :
    Within n.toNat n.toFloat ∧ magnitude n.toFloat.toModel.unpack = n.toNat :=
  magnitude_pack_ofNat h

/-- The fraction of two counts. -/
theorem within_fraction {m n : UInt64} (hle : m ≤ n) (hpos : 0 < n)
    (hlt : n.toNat < 2 ^ 53) : Within 1 (m.toFloat / n.toFloat) := by
  have hle' : m.toNat ≤ n.toNat := UInt64.le_iff_toNat_le.mp hle
  have hpos' : 0 < n.toNat := UInt64.lt_iff_toNat_lt.mp hpos
  obtain ⟨hm, hmvalue⟩ := magnitude_toFloat (hle'.trans_lt hlt)
  obtain ⟨hn, hnvalue⟩ := magnitude_toFloat hlt
  apply bounded_pack one_pos (by norm_num)
  refine bounded_div hm.finite hn.finite ?_ ?_ (by decide)
  · rw [hnvalue]
    exact_mod_cast hpos'
  · rw [hmvalue, hnvalue, Nat.cast_one, one_mul]
    exact_mod_cast hle'

/-- A number from zero to one. -/
theorem within_one {x : Float} (hfinite : x.isFinite = true) (hnonneg : 0 ≤ x)
    (hle : x ≤ 1) : Within 1 x := by
  have hunpack : x.toModel.unpack.isFinite = true := hfinite
  have hzero : UnpackedFloat.le (0 : Float).toModel.unpack x.toModel.unpack
      = true := (float_le 0 x).symm.trans hnonneg
  have hone : UnpackedFloat.le x.toModel.unpack (1 : Float).toModel.unpack
      = true := (float_le x 1).symm.trans hle
  have hvalue : (1 : Float).toModel.unpack
      = .finite .positive (2 ^ 52) (-52) (by decide) := rfl
  have hleast : (0 : Float).toModel.unpack = .zero .positive := rfl
  rw [hvalue] at hone
  rw [hleast] at hzero
  unfold Within
  cases hx : x.toModel.unpack with
  | infinity s =>
      rw [hx] at hunpack
      cases hunpack
  | notANumber =>
      rw [hx] at hunpack
      cases hunpack
  | zero s => exact bounded_zero s 1
  | finite s m e hm =>
      rw [hx] at hzero hone
      cases s with
      | negative => cases hzero
      | positive =>
          obtain ⟨hlt, -, -, -⟩ := unpack_canonical hx
          have horder : ((compare e (-52)).then (compare m (2 ^ 52))).isLE
              = true := hone
          have hbound : (m : ℚ) * (2 : ℚ) ^ e ≤ 1 ∧ e ≤ 0 := by
            cases hcompare : compare e (-52) with
            | lt =>
                have he : e ≤ -53 := by
                  have := compare_lt_iff_lt.mp hcompare
                  omega
                have hm' : (m : ℚ) ≤ 2 ^ 53 := by exact_mod_cast hlt.le
                refine ⟨?_, by omega⟩
                calc (m : ℚ) * (2 : ℚ) ^ e ≤ 2 ^ 53 * (2 : ℚ) ^ (-53 : ℤ) :=
                      mul_le_mul hm' (zpow_le_zpow_right₀ one_le_two he)
                        (by positivity) (by positivity)
                  _ = 1 := by norm_num
            | eq =>
                have he : e = -52 := compare_eq_iff_eq.mp hcompare
                rw [hcompare] at horder
                have hm' : m ≤ 2 ^ 52 := Nat.isLE_compare.mp horder
                refine ⟨?_, by omega⟩
                have hcast : (m : ℚ) ≤ 2 ^ 52 := by exact_mod_cast hm'
                rw [he]
                calc (m : ℚ) * (2 : ℚ) ^ (-52 : ℤ)
                    ≤ 2 ^ 52 * (2 : ℚ) ^ (-52 : ℤ) :=
                      mul_le_mul_of_nonneg_right hcast (by positivity)
                  _ = 1 := by norm_num
            | gt =>
                rw [hcompare] at horder
                cases horder
          exact ⟨rfl, by exact_mod_cast hbound.1, hbound.2⟩

end

-- === in range, in long double

namespace LongDouble

variable {L : LongDouble} {N : ℕ}

theorem bounded_ofDouble {x : Float} (h : Within N x) (hlt : N < 2 ^ 53) :
    Bounded N (L.ofDouble x) := by
  unfold Within at h
  unfold ofDouble
  cases hx : x.toModel.unpack with
  | finite s m e hm =>
      rw [hx] at h
      exact bounded_round s (lt_of_lt hlt) h.fractional h.le
  | infinity s =>
      rw [hx] at h
      cases h.finite
  | notANumber =>
      rw [hx] at h
      cases h.finite
  | zero s => exact bounded_zero s N

theorem within_toDouble {x : UnpackedFloat} (h : Bounded N x) (hpos : 0 < N)
    (hlt : N < 2 ^ 53) : Within N (toDouble x) := by
  cases x with
  | finite s m e hm =>
      exact bounded_pack hpos hlt (bounded_round s hlt h.fractional h.le)
  | infinity s => cases h.finite
  | notANumber => cases h.finite
  | zero s => exact bounded_pack hpos hlt (bounded_zero s N)

end LongDouble

end RbfSafe
