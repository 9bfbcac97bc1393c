/-
A finite double is read back from the document it is written to.

The value `m * 2 ^ e` has, in lowest terms, a numerator that is `m` and a
denominator that is `2 ^ -e`, each up to one power of two; the binary
logarithms move by that power together, so the exponent and the
significand are found again.
-/
import RbfSafe.Core.Decoded
import RbfSafe.Core.Proofs.Doubles

namespace RbfSafe

open Float.Model (UnpackedFloat Format)
open Float.Model.UnpackedFloat Lib.Rounding

namespace Json

/-- A power of two moves the logarithm by its exponent. -/
theorem log2_mul_two_pow {m : ℕ} (hm : 0 < m) (k : ℕ) :
    (m * 2 ^ k).log2 = m.log2 + k := by
  induction k with
  | zero => rw [pow_zero, mul_one, Nat.add_zero]
  | succ k ih =>
      have hne : m * 2 ^ k ≠ 0 := by positivity
      rw [pow_succ, ← mul_assoc, mul_comm _ 2, Nat.log2_two_mul hne, ih]
      rfl

/-- Numerator and denominator of a double, against its significand. -/
theorem num_den_scaled {m : ℕ} {e : ℤ} (hm : 0 < m) (hlow : -1074 ≤ e)
    (hhigh : e ≤ 971) (hlt : m < 2 ^ 53) :
    (0 ≤ e + (scaled m e).den.log2 ∧ (scaled m e).num.natAbs
        = m * 2 ^ (e + (scaled m e).den.log2).toNat) ∨
      (e + (scaled m e).den.log2 ≤ 0 ∧ (scaled m e).num.natAbs
        * 2 ^ (-(e + (scaled m e).den.log2)).toNat = m) := by
  have hdouble : IsDouble (scaled m e) := by
    rw [scaled_eq]
    refine ⟨m, e, ?_, hlow, hhigh, ?_⟩
    · rw [Nat.abs_cast]
      exact_mod_cast hlt
    · rw [Int.cast_natCast]
  have hden : (scaled m e).den = 2 ^ (scaled m e).den.log2 :=
    den_eq_two_pow hdouble
  set q := scaled m e with hq
  set k := q.den.log2 with hk
  have hnum : ((q.num.natAbs : ℕ) : ℚ) = m * (2 : ℚ) ^ (e + k) := by
    have hpos : 0 < q := by
      rw [hq]
      exact scaled_pos e hm
    have habs : ((q.num.natAbs : ℕ) : ℚ) = q.num := by
      have hnumpos : 0 < q.num := Rat.num_pos.mpr hpos
      rw [Nat.cast_natAbs, abs_of_nonneg hnumpos.le]
    have hmul : q * q.den = q.num := Rat.mul_den_eq_num q
    rw [habs, ← hmul, hden, hq, scaled_eq, zpow_add₀ two_ne_zero,
      zpow_natCast]
    push_cast
    ring
  by_cases hsign : 0 ≤ e + k
  · left
    refine ⟨hsign, ?_⟩
    have hexp : e + k = ((e + k).toNat : ℤ) := by omega
    rw [hexp, zpow_natCast] at hnum
    exact_mod_cast hnum
  · right
    refine ⟨by omega, ?_⟩
    have hexp : e + k = -((-(e + k)).toNat : ℤ) := by omega
    rw [hexp, zpow_neg, zpow_natCast] at hnum
    have hback : ((q.num.natAbs : ℕ) : ℚ) * 2 ^ (-(e + k)).toNat = m := by
      rw [hnum]
      field_simp
    exact_mod_cast hback

/-- The parts of a double are found again. -/
theorem parts_scaled {x : Float.Model} {s : Sign} {m : ℕ} {e : ℤ}
    {h : 0 < m} (hx : x.unpack = .finite s m e h) :
    exponentOf (scaled m e) = e ∧ significandOf (scaled m e) = m := by
  obtain ⟨hlt, hlow, hhigh, hlead⟩ := unpack_canonical hx
  have hparts := num_den_scaled h hlow hhigh hlt
  have hlog : ((scaled m e).num.natAbs.log2 : ℤ) - (scaled m e).den.log2
      = m.log2 + e := by
    rcases hparts with ⟨hsign, hnum⟩ | ⟨hsign, hnum⟩
    · rw [hnum, log2_mul_two_pow h]
      push_cast
      omega
    · have hpos : 0 < (scaled m e).num.natAbs := by
        rcases Nat.eq_zero_or_pos (scaled m e).num.natAbs with hzero | hpos
        · rw [hzero, Nat.zero_mul] at hnum
          omega
        · exact hpos
      have := log2_mul_two_pow hpos (-(e + (scaled m e).den.log2)).toNat
      rw [hnum] at this
      omega
  have hlt' : m.log2 ≤ 52 := by
    have := (Nat.log2_lt h.ne').mpr hlt
    omega
  have hexponent : exponentOf (scaled m e) = e := by
    unfold exponentOf
    rw [hlog]
    rcases hlead with hlead | hlead
    · have hleast : 52 ≤ m.log2 := (Nat.le_log2 h.ne').mpr hlead
      omega
    · omega
  refine ⟨hexponent, ?_⟩
  unfold significandOf
  dsimp only
  rw [hexponent]
  rcases hparts with ⟨hsign, hnum⟩ | ⟨hsign, hnum⟩
  · rw [if_pos hsign, hnum, Nat.mul_div_cancel _ (Nat.two_pow_pos _)]
  · by_cases hzero : 0 ≤ e + (scaled m e).den.log2
    · have hsum : e + (scaled m e).den.log2 = 0 := by omega
      rw [if_pos hzero]
      rw [hsum] at hnum ⊢
      simpa using hnum
    · rw [if_neg hzero, hnum]

/-- The sign changes neither part. -/
theorem parts_neg (value : ℚ) : exponentOf (-value) = exponentOf value ∧
    significandOf (-value) = significandOf value := by
  unfold significandOf exponentOf
  simp

theorem pack_unpack_model (x : Float) (hx : x.isFinite = true) :
    Float.ofModel (.pack x.toModel.unpack) = x := by
  apply Eq.symm
  apply eq_of_unpack hx
  obtain ⟨⟨bits, hvalid⟩⟩ := x
  have hback : pack Format.binary64 (unpack Format.binary64 bits.toBitVec)
      = bits.toBitVec := pack_unpack hx
  show unpack Format.binary64 bits.toBitVec = unpack Format.binary64
    (UInt64.ofBitVec (pack Format.binary64
      (unpack Format.binary64 bits.toBitVec))).toBitVec
  rw [hback]

/-- A finite double is read back. -/
theorem asDouble_double {x : Float} (hx : x.isFinite = true) :
    asDouble (Json.double x) = some x := by
  have hback := pack_unpack_model x hx
  have hfinite : x.toModel.unpack.isFinite = true := hx
  unfold Json.double
  cases hux : x.toModel.unpack with
  | notANumber =>
      rw [hux] at hfinite
      cases hfinite
  | infinity s =>
      rw [hux] at hfinite
      cases hfinite
  | zero s =>
      rw [hux] at hback
      cases s
      · exact congrArg some hback
      · show some (doubleOf 0) = some x
        rw [← hback]
        rfl
  | finite s m e hm =>
      rw [hux] at hback
      obtain ⟨hexponent, hsignificand⟩ := parts_scaled hux
      have hpos := scaled_pos e hm
      cases s
      · show some (doubleOf (-scaled m e)) = some x
        obtain ⟨hexp, hsig⟩ := parts_neg (scaled m e)
        unfold doubleOf
        simp only [hexp, hsig, hexponent, hsignificand, dif_pos hm]
        rw [if_pos (by linarith), hback]
      · show some (doubleOf (scaled m e)) = some x
        unfold doubleOf
        simp only [hexponent, hsignificand, dif_pos hm]
        rw [if_neg (by linarith), hback]

end Json

instance : LawfulDecoded Float where
  number_json h := Json.asDouble_double h

end RbfSafe
