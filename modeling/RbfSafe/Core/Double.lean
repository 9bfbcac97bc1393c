/-
Doubles: their comparisons and their bit patterns.

A double that is not a NaN has a place in a lexicographic order (class
of the value, exponent, significand), and the comparisons of the kernel
are the comparisons of the places. A finite double is determined by its
bit pattern, and is written with the pattern it was read from.
-/
import RbfSafe.Core.Scalar

namespace RbfSafe

open Float.Model (UnpackedFloat Format)
open Float.Model.UnpackedFloat

-- === comparisons

/-- The place of a value that is not a NaN. -/
def place : UnpackedFloat → ℤ ×ₗ ℤ ×ₗ ℤ
  | .infinity .negative => toLex (-2, toLex (0, 0))
  | .infinity .positive => toLex (2, toLex (0, 0))
  | .notANumber => toLex (0, toLex (0, 0))
  | .zero _ => toLex (0, toLex (0, 0))
  | .finite .negative m e _ => toLex (-1, toLex (-e, -(m : ℤ)))
  | .finite .positive m e _ => toLex (1, toLex (e, (m : ℤ)))

theorem compare_toLex {α β : Type} [LinearOrder α] [LinearOrder β]
    (a a' : α) (b b' : β) :
    compare (toLex (a, b)) (toLex (a', b'))
      = (compare a a').then (compare b b') := by
  rw [Prod.Lex.compare_def]
  rfl

theorem compare_natCast (m m' : ℕ) :
    compare (m : ℤ) (m' : ℤ) = compare m m' := by
  rcases lt_trichotomy m m' with h | rfl | h
  · rw [compare_lt_iff_lt.mpr h, compare_lt_iff_lt.mpr (by exact_mod_cast h)]
  · rw [compare_eq_iff_eq.mpr rfl, compare_eq_iff_eq.mpr rfl]
  · rw [compare_gt_iff_gt.mpr h, compare_gt_iff_gt.mpr (by exact_mod_cast h)]

theorem compare_neg (e e' : ℤ) : compare (-e) (-e') = (compare e e').swap := by
  rcases lt_trichotomy e e' with h | rfl | h
  · rw [compare_lt_iff_lt.mpr h, compare_gt_iff_gt.mpr (by omega)]
    rfl
  · rw [compare_eq_iff_eq.mpr rfl, compare_eq_iff_eq.mpr rfl]
    rfl
  · rw [compare_gt_iff_gt.mpr h, compare_lt_iff_lt.mpr (by omega)]
    rfl

theorem compare_place_positive (e e' : ℤ) (m m' : ℕ) :
    compare (toLex ((1 : ℤ), toLex (e, (m : ℤ))))
        (toLex ((1 : ℤ), toLex (e', (m' : ℤ))))
      = (compare e e').then (compare m m') := by
  rw [compare_toLex, compare_toLex, compare_natCast,
    compare_eq_iff_eq.mpr rfl]
  rfl

theorem compare_place_negative (e e' : ℤ) (m m' : ℕ) :
    compare (toLex ((-1 : ℤ), toLex (-e, -(m : ℤ))))
        (toLex ((-1 : ℤ), toLex (-e', -(m' : ℤ))))
      = ((compare e e').then (compare m m')).swap := by
  have hsame : compare (-1 : ℤ) (-1) = .eq := compare_eq_iff_eq.mpr rfl
  rw [compare_toLex, compare_toLex, hsame, compare_neg e,
    compare_neg (m : ℤ), compare_natCast, Ordering.swap_then]
  rfl

/-- The comparison is the one of the places. -/
theorem compare_eq_place {a b : UnpackedFloat} (ha : a.isNaN = false)
    (hb : b.isNaN = false) :
    a.compare b = some (compare (place a) (place b)) := by
  cases a with
  | notANumber => cases ha
  | infinity s =>
      cases b with
      | notANumber => cases hb
      | infinity s' => cases s <;> cases s' <;> rfl
      | zero s' => cases s <;> rfl
      | finite s' m e h => cases s <;> cases s' <;> rfl
  | zero s =>
      cases b with
      | notANumber => cases hb
      | infinity s' => cases s' <;> rfl
      | zero s' => rfl
      | finite s' m e h => cases s' <;> rfl
  | finite s m e h =>
      cases b with
      | notANumber => cases hb
      | infinity s' => cases s <;> cases s' <;> rfl
      | zero s' => cases s <;> rfl
      | finite s' m' e' h' =>
          cases s <;> cases s'
          · exact congrArg some (compare_place_negative e e' m m').symm
          · rfl
          · rfl
          · exact congrArg some (compare_place_positive e e' m m').symm

theorem le_iff_place {a b : UnpackedFloat} (ha : a.isNaN = false)
    (hb : b.isNaN = false) : a.le b = true ↔ place a ≤ place b := by
  unfold UnpackedFloat.le
  rw [compare_eq_place ha hb, ← compare_le_iff_le]
  cases compare (place a) (place b) <;> simp

theorem lt_iff_place {a b : UnpackedFloat} (ha : a.isNaN = false)
    (hb : b.isNaN = false) : a.lt b = true ↔ place a < place b := by
  unfold UnpackedFloat.lt
  rw [compare_eq_place ha hb, ← compare_lt_iff_lt]
  cases compare (place a) (place b) <;> simp

theorem beq_iff_place {a b : UnpackedFloat} (ha : a.isNaN = false)
    (hb : b.isNaN = false) : a.beq b = true ↔ place a = place b := by
  unfold UnpackedFloat.beq
  rw [compare_eq_place ha hb, beq_iff_eq, Option.some_inj,
    compare_eq_iff_eq]

/-- A NaN is comparable to nothing. -/
theorem not_nan_of_le {a b : UnpackedFloat} (h : a.le b = true) :
    a.isNaN = false ∧ b.isNaN = false := by
  cases a <;> cases b <;> first | exact ⟨rfl, rfl⟩ | cases h

theorem le_of_lt_unpacked {a b : UnpackedFloat} (h : a.lt b = true) :
    a.le b = true := by
  unfold UnpackedFloat.lt at h
  unfold UnpackedFloat.le
  rw [beq_iff_eq] at h
  rw [h]
  rfl

theorem not_nan_of_finite {a : UnpackedFloat} (h : a.isFinite = true) :
    a.isNaN = false := by
  cases a <;> first | rfl | cases h

/-- Between finite values there are only finite ones. -/
theorem finite_between_unpacked {a b c : UnpackedFloat}
    (ha : a.isFinite = true) (hc : c.isFinite = true)
    (hab : a.le b = true) (hbc : b.le c = true) : b.isFinite = true := by
  cases b with
  | finite s m e h => rfl
  | zero s => rfl
  | notANumber => cases (not_nan_of_le hbc).1
  | infinity s =>
      cases s with
      | positive =>
          cases c with
          | notANumber => cases hc
          | infinity s => cases hc
          | zero s => cases hbc
          | finite s m e h => cases s <;> cases hbc
      | negative =>
          cases a with
          | notANumber => cases ha
          | infinity s => cases ha
          | zero s => cases hab
          | finite s m e h => cases s <;> cases hab

theorem float_le (a b : Float) :
    Scalar.le a b = a.toModel.unpack.le b.toModel.unpack := by
  change decide (a.toModel.unpack.le b.toModel.unpack = true) = _
  simp

theorem float_lt (a b : Float) :
    Scalar.lt a b = a.toModel.unpack.lt b.toModel.unpack := by
  change decide (a.toModel.unpack.lt b.toModel.unpack = true) = _
  simp

theorem float_eq (a b : Float) :
    Scalar.eq a b = a.toModel.unpack.beq b.toModel.unpack := rfl

theorem float_isFinite (a : Float) :
    Scalar.isFinite a = a.toModel.unpack.isFinite := rfl

instance float_lawful : LawfulScalar Float where
  le_total {a b} ha hb := by
    rw [float_isFinite] at ha hb
    rw [float_le, float_le,
      le_iff_place (not_nan_of_finite ha) (not_nan_of_finite hb),
      le_iff_place (not_nan_of_finite hb) (not_nan_of_finite ha)]
    exact le_total _ _
  le_trans {a b c} hab hbc := by
    rw [float_le] at hab hbc ⊢
    obtain ⟨ha, hb⟩ := not_nan_of_le hab
    obtain ⟨-, hc⟩ := not_nan_of_le hbc
    rw [le_iff_place ha hb] at hab
    rw [le_iff_place hb hc] at hbc
    rw [le_iff_place ha hc]
    exact hab.trans hbc
  lt_iff {a b} ha hb := by
    rw [float_isFinite] at ha hb
    rw [float_lt, float_le, ← Bool.not_eq_true,
      lt_iff_place (not_nan_of_finite ha) (not_nan_of_finite hb),
      le_iff_place (not_nan_of_finite hb) (not_nan_of_finite ha), not_le]
  le_of_lt {a b} h := by
    rw [float_lt] at h
    rw [float_le]
    exact le_of_lt_unpacked h
  eq_iff {a b} ha hb := by
    rw [float_isFinite] at ha hb
    rw [float_eq, float_le, float_le,
      beq_iff_place (not_nan_of_finite ha) (not_nan_of_finite hb),
      le_iff_place (not_nan_of_finite ha) (not_nan_of_finite hb),
      le_iff_place (not_nan_of_finite hb) (not_nan_of_finite ha)]
    exact le_antisymm_iff
  finite_between {a b c} ha hc hab hbc := by
    rw [float_isFinite] at ha hc ⊢
    rw [float_le] at hab hbc
    exact finite_between_unpacked ha hc hab hbc

-- === bit patterns

/-- A pattern is put together from its three fields. -/
theorem packComponents_unpack (b : BitVec 64) :
    packComponents Format.binary64
      (Sign.ofBitVec (@unpackSign Format.binary64 b))
      (@unpackExponent Format.binary64 b)
      (@unpackMantissa Format.binary64 b) = b := by
  have hsign : (Sign.ofBitVec (@unpackSign Format.binary64 b)).toBitVec
      = @unpackSign Format.binary64 b := by
    generalize @unpackSign Format.binary64 b = s
    revert s
    decide
  unfold packComponents
  rw [hsign]
  apply BitVec.eq_of_getLsbD_eq
  intro i hi
  delta unpackSign
  simp only [BitVec.getLsbD_append, unpackMantissa, unpackExponent,
    BitVec.getLsbD_cast, BitVec.getLsbD_extractLsb]
  by_cases h52 : i < 52
  · simp [h52]
  · by_cases h63 : i < 63
    · simp [h52, show i - 52 < 11 by omega, show 52 + (i - 52) = i by omega]
    · have : i = 63 := by
        have : i < 64 := hi
        omega
      subst this
      rfl

/-- A significand without its leading bit belongs to the least exponent. -/
theorem pack_subnormal (s : Sign) {m : Nat} (hpos : 0 < m) (hm : m < 2 ^ 52) :
    pack Format.binary64 (.finite s m (-1074) hpos)
      = packComponents Format.binary64 s 0 (BitVec.ofNat 52 m) := by
  have hlog : m.log2 < 52 := (Nat.log2_lt (by omega)).mpr hm
  unfold pack
  rw [if_neg, if_neg]
  · rfl
  · show ¬ m.log2 + 1 = 53
    omega
  · decide

theorem pack_normal (s : Sign) {m k : Nat} (hpos : 0 < m)
    (hlow : 2 ^ 52 ≤ m) (hhigh : m < 2 ^ 53) (hk : k < 2047) :
    pack Format.binary64 (.finite s m ((k : ℤ) - 1075) hpos)
      = packComponents Format.binary64 s (BitVec.ofNat 11 k)
          (BitVec.ofNat 52 m) := by
  have hlog : m.log2 = 52 := by
    rw [Nat.log2_eq_iff (by omega)]
    exact ⟨hlow, hhigh⟩
  have hbiased : ((k : ℤ) - 1075 + 1023 + 52).toNat = k := by omega
  unfold pack
  have hexp : ((k : ℤ) - 1075 + ((Format.binary64.exponentBias : Nat) : ℤ)
      + ((Format.binary64.mantissaBitsWithoutImplicit : Nat) : ℤ)).toNat = k := hbiased
  simp only [hexp]
  rw [if_neg, if_pos]
  · show m.log2 + 1 = 53
    omega
  · show ¬ 2 ^ 11 ≤ k + 1
    omega

theorem pack_unpack {b : BitVec 64}
    (h : (unpack Format.binary64 b).isFinite = true) :
    pack Format.binary64 (unpack Format.binary64 b) = b := by
  have hb := packComponents_unpack b
  have hlt := (@unpackExponent Format.binary64 b).isLt
  unfold unpack at h ⊢
  by_cases hones : @unpackExponent Format.binary64 b = -1#11
  · rw [if_pos hones] at h
    split at h <;> cases h
  rw [if_neg hones]
  by_cases hzero : @unpackExponent Format.binary64 b = 0#11
  · rw [if_pos hzero]
    by_cases hm : @unpackMantissa Format.binary64 b = 0#52
    · rw [dif_pos hm]
      rw [hm, hzero] at hb
      exact hb
    · rw [dif_neg hm]
      rw [hzero] at hb ⊢
      refine Eq.trans ?_ hb
      refine (pack_subnormal _ _ (BitVec.isLt _)).trans ?_
      rw [BitVec.ofNat_toNat]
      rfl
  · rw [if_neg hzero]
    refine Eq.trans ?_ hb
    have hk : (@unpackExponent Format.binary64 b).toNat < 2047 := by
      have hne : (@unpackExponent Format.binary64 b).toNat ≠ 2047 := by
        intro heq
        exact hones (BitVec.eq_of_toNat_eq heq)
      have : (@unpackExponent Format.binary64 b).toNat < 2 ^ 11 := hlt
      omega
    have hm : (@unpackMantissa Format.binary64 b).toNat < 2 ^ 52 :=
      BitVec.isLt _
    have hval : (1#1 ++ @unpackMantissa Format.binary64 b).toNat
        = 2 ^ 52 + (@unpackMantissa Format.binary64 b).toNat := by
      rw [BitVec.toNat_append, Nat.shiftLeft_eq]
      simpa using (Nat.two_pow_add_eq_or_of_lt hm 1).symm
    refine (pack_normal _ _ ?_ ?_ hk).trans ?_
    · omega
    · omega
    · rw [hval, BitVec.ofNat_toNat, BitVec.setWidth_eq]
      congr 1
      apply BitVec.eq_of_toNat_eq
      rw [BitVec.toNat_ofNat]
      omega

/-- A finite double is determined by its pattern. -/
theorem ofBits_toBits {x : Float} (h : x.isFinite = true) :
    Float.ofBits x.toBits = x := by
  obtain ⟨⟨bits, hvalid⟩⟩ := x
  change Float.ofModel (Float.Model.pack
    (unpack Format.binary64 bits.toBitVec)) = _
  congr 1
  have hpack := @pack_unpack bits.toBitVec h
  unfold Float.Model.pack
  congr 1
  exact (congrArg UInt64.ofBitVec hpack)

/-- The pattern of a finite double is the one it was read from. -/
theorem toBits_ofBits {bits : UInt64}
    (h : (Float.ofBits bits).isFinite = true) :
    (Float.ofBits bits).toBits = bits := by
  have hfinite : (unpack Format.binary64 bits.toBitVec).isFinite = true := by
    change (unpack Format.binary64 (pack Format.binary64
      (unpack Format.binary64 bits.toBitVec))).isFinite = true at h
    cases hu : unpack Format.binary64 bits.toBitVec with
    | finite s m e hpos => rfl
    | zero s => rfl
    | notANumber =>
        rw [hu] at h
        revert h
        decide
    | infinity s =>
        rw [hu] at h
        cases s <;> revert h <;> decide
  exact congrArg UInt64.ofBitVec (pack_unpack hfinite)

end RbfSafe
