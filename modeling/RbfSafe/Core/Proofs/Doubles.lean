/-
Doubles in documents.

A finite double is printed as its value, and no two have the same value
and the same printed form: the significand of a double has its leading
bit, or its exponent is the least. A document therefore names its
doubles.
-/
import RbfSafe.Core.Rounding
import RbfSafe.Core.Proofs.Documents

namespace RbfSafe

open Float.Model (UnpackedFloat Format)
open Float.Model.UnpackedFloat Lib.Rounding Json

theorem scaled_eq (m : ℕ) (e : ℤ) : scaled m e = m * (2 : ℚ) ^ e := by
  unfold scaled
  by_cases h : 0 ≤ e
  · rw [if_pos h]
    have he : e = (e.toNat : ℤ) := by omega
    rw [he, zpow_natCast, Int.toNat_natCast]
    push_cast
    rfl
  · rw [if_neg h, Rat.mkRat_eq_div]
    have he : e = -((-e).toNat : ℤ) := by omega
    rw [he, zpow_neg, zpow_natCast]
    push_cast
    rw [neg_neg, Int.toNat_natCast, div_eq_mul_inv]

/-- Two values in the format, of equal magnitude, are written alike. -/
theorem canonical_unique {x y : Float.Model} {s t : Sign} {m n : ℕ} {e f : ℤ}
    {hm : 0 < m} {hn : 0 < n} (hx : x.unpack = .finite s m e hm)
    (hy : y.unpack = .finite t n f hn)
    (h : (m : ℚ) * (2 : ℚ) ^ e = n * (2 : ℚ) ^ f) : m = n ∧ e = f := by
  obtain ⟨hmlt, hmin, -, hmlead⟩ := unpack_canonical hx
  obtain ⟨hnlt, hnmin, -, hnlead⟩ := unpack_canonical hy
  -- the smaller exponent would need a significand that is too long
  have hlong : ∀ {p q : ℕ} {c d : ℤ}, c < d → p < 2 ^ 53 →
      (2 ^ 52 ≤ q ∨ d = -1074) → -1074 ≤ c →
      (p : ℚ) * (2 : ℚ) ^ c ≠ q * (2 : ℚ) ^ d := by
    intro p q c d hcd hp hq hc heq
    have hlead : 2 ^ 52 ≤ q := by
      rcases hq with hq | hq
      · exact hq
      · omega
    obtain ⟨k, hk⟩ : ∃ k : ℕ, d = c + (k + 1 : ℕ) :=
      ⟨(d - c - 1).toNat, by omega⟩
    rw [hk, zpow_add₀ two_ne_zero, zpow_natCast, mul_comm ((2 : ℚ) ^ c),
      ← mul_assoc] at heq
    have hcancel : (p : ℚ) = q * (2 : ℚ) ^ (k + 1) :=
      mul_right_cancel₀ (by positivity) heq
    have hnat : p = q * 2 ^ (k + 1) := by exact_mod_cast hcancel
    have hpow : 2 ^ 1 ≤ 2 ^ (k + 1) := Nat.pow_le_pow_right two_pos (by omega)
    have hmul : 2 ^ 52 * 2 ^ 1 ≤ q * 2 ^ (k + 1) := Nat.mul_le_mul hlead hpow
    omega
  rcases lt_trichotomy e f with hlt | heq | hlt
  · exact absurd h (hlong hlt hmlt hnlead hmin)
  · subst heq
    have hcast : (m : ℚ) = n := mul_right_cancel₀ (by positivity) h
    exact ⟨by exact_mod_cast hcast, rfl⟩
  · exact absurd h.symm (hlong hlt hnlt hmlead hnmin)

/-- A finite double is determined by its parts. -/
theorem eq_of_unpack {x y : Float} (hx : x.isFinite = true)
    (h : x.toModel.unpack = y.toModel.unpack) : x = y := by
  have hy : y.isFinite = true := by
    show y.toModel.unpack.isFinite = true
    rw [← h]
    exact hx
  obtain ⟨⟨a, ha⟩⟩ := x
  obtain ⟨⟨b, hb⟩⟩ := y
  have hab : a.toBitVec = b.toBitVec := by
    rw [← @pack_unpack a.toBitVec hx, ← @pack_unpack b.toBitVec hy]
    exact congrArg (pack Format.binary64) h
  have hbits : a = b := UInt64.toBitVec_inj.mp hab
  subst hbits
  rfl

theorem isDouble_scaled {x : Float.Model} {s : Sign} {m : ℕ} {e : ℤ}
    {h : 0 < m} (hx : x.unpack = .finite s m e h) :
    IsDouble (scaled m e) ∧ IsDouble (-scaled m e) := by
  obtain ⟨hm, hlow, hhigh, -⟩ := unpack_canonical hx
  rw [scaled_eq]
  refine ⟨⟨m, e, ?_, hlow, hhigh, ?_⟩, -m, e, ?_, hlow, hhigh, ?_⟩
  · rw [Nat.abs_cast]
    exact_mod_cast hm
  · rw [Int.cast_natCast]
  · rw [abs_neg, Nat.abs_cast]
    exact_mod_cast hm
  · rw [Int.cast_neg, Int.cast_natCast, neg_mul]

theorem fits_double {levels : Nat} {x : Float} (h : x.isFinite = true) :
    Fits (levels + 1) (Json.double x) := by
  have hfinite : x.toModel.unpack.isFinite = true := h
  unfold Json.double
  cases hx : x.toModel.unpack with
  | notANumber =>
      rw [hx] at hfinite
      cases hfinite
  | infinity s =>
      rw [hx] at hfinite
      cases hfinite
  | zero s =>
      cases s
      · exact .number trivial
      · exact .number ⟨0, 0, by norm_num, by norm_num, by norm_num, by norm_num⟩
  | finite s m e hm =>
      obtain ⟨hpos, hneg⟩ := isDouble_scaled hx
      cases s
      · exact .number hneg
      · exact .number hpos

theorem scaled_pos {m : ℕ} (e : ℤ) (h : 0 < m) : 0 < scaled m e := by
  rw [scaled_eq]
  positivity

/-- The printed form of a double names it. -/
theorem double_inj {x y : Float} (hx : x.isFinite = true)
    (hy : y.isFinite = true) (h : Json.double x = Json.double y) : x = y := by
  apply eq_of_unpack hx
  have hfx : x.toModel.unpack.isFinite = true := hx
  have hfy : y.toModel.unpack.isFinite = true := hy
  unfold Json.double at h
  cases hux : x.toModel.unpack with
  | notANumber =>
      rw [hux] at hfx
      cases hfx
  | infinity s =>
      rw [hux] at hfx
      cases hfx
  | zero s =>
      rw [hux] at h
      cases huy : y.toModel.unpack with
      | notANumber =>
          rw [huy] at hfy
          cases hfy
      | infinity t =>
          rw [huy] at hfy
          cases hfy
      | zero t =>
          rw [huy] at h
          cases s <;> cases t <;> first | rfl | cases h
      | finite t n f hn =>
          rw [huy] at h
          have hne := (scaled_pos f hn).ne'
          cases s <;> cases t <;> simp [hne, hne.symm] at h
  | finite s m e hm =>
      rw [hux] at h
      have hpos := scaled_pos e hm
      cases huy : y.toModel.unpack with
      | notANumber =>
          rw [huy] at hfy
          cases hfy
      | infinity t =>
          rw [huy] at hfy
          cases hfy
      | zero t =>
          rw [huy] at h
          have hne := hpos.ne'
          cases s <;> cases t <;> simp [hne] at h
      | finite t n f hn =>
          rw [huy] at h
          have hposn := scaled_pos f hn
          have hvalue : s = t ∧ scaled m e = scaled n f := by
            cases s <;> cases t <;> simp at h
            · exact ⟨rfl, h⟩
            · linarith
            · linarith
            · exact ⟨rfl, h⟩
          obtain ⟨rfl, hscaled⟩ := hvalue
          rw [scaled_eq, scaled_eq] at hscaled
          obtain ⟨rfl, rfl⟩ := canonical_unique hux huy hscaled
          rfl

end RbfSafe
