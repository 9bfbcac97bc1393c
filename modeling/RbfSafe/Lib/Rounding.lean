/-
Bounds that survive rounding.

A result is rounded to the nearest value of its format, and a natural
number of few enough bits is such a value: what is at most `N` before the
rounding is at most `N` after it. With this alone a computation that
stays below `N` over the rationals stays below it in the format, whatever
the order of its operations, and so never overflows (`Bounded`).

# The argument

A significand is shifted right until it fits, and what falls out is kept
as a residue (`shift`). The rounded significand exceeds the shifted one
by at most one, and only when there is a residue; so it is at most the
least whole number above the exact value (`rounded_le`), and `N` shifted
alike is a whole number.
-/
import Mathlib

namespace RbfSafe.Lib.Rounding

open Float.Model (UnpackedFloat Format totalExponent)
open Float.Model.UnpackedFloat

-- === magnitudes

/-- The magnitude of a finite value. -/
def magnitude : UnpackedFloat → ℚ
  | .finite _ m e _ => m * (2 : ℚ) ^ e
  | _ => 0

/-- The significand has its last bit at the point, or to the right. -/
def Fractional : UnpackedFloat → Prop
  | .finite _ _ e _ => e ≤ 0
  | _ => True

/-- The value is finite and at most `N` in magnitude. -/
structure Bounded (N : ℕ) (x : UnpackedFloat) : Prop where
  finite : x.isFinite = true
  le : magnitude x ≤ N
  fractional : Fractional x

theorem Bounded.mono {M N : ℕ} {x : UnpackedFloat} (h : Bounded M x)
    (hle : M ≤ N) : Bounded N x :=
  ⟨h.finite, h.le.trans (by exact_mod_cast hle), h.fractional⟩

theorem bounded_zero (s : Sign) (N : ℕ) : Bounded N (.zero s) :=
  ⟨rfl, Nat.cast_nonneg N, trivial⟩

/-- The leading bit of a bounded value. -/
theorem log2_le_of_bounded {m N p : ℕ} {e : ℤ} (hm : 0 < m) (hN : N < 2 ^ p)
    (h : (m : ℚ) * (2 : ℚ) ^ e ≤ N) : (m.log2 : ℤ) + 1 + e ≤ p := by
  have hlog : (2 : ℚ) ^ (m.log2 : ℤ) ≤ m := by
    rw [zpow_natCast]
    exact_mod_cast Nat.log2_self_le (Nat.ne_of_gt hm)
  have hpow : (2 : ℚ) ^ ((m.log2 : ℤ) + e) ≤ N := by
    rw [zpow_add₀ two_ne_zero]
    exact (mul_le_mul_of_nonneg_right hlog (by positivity)).trans h
  have hlt : (2 : ℚ) ^ ((m.log2 : ℤ) + e) < (2 : ℚ) ^ (p : ℤ) := by
    refine hpow.trans_lt ?_
    rw [zpow_natCast]
    exact_mod_cast hN
  have hexp := (zpow_lt_zpow_iff_right₀ (one_lt_two (α := ℚ))).mp hlt
  omega

-- === shifting

/-- Nothing has been shifted out. -/
def NoResidue (em : ExtendedMantissa) : Prop :=
  em.roundBit = false ∧ em.stickyBit = false

theorem shift_succ (em : ExtendedMantissa) (n : ℕ) :
    em >>> (n + 1) = (em >>> n).shiftRightOne := rfl

theorem shift_mantissa (em : ExtendedMantissa) (n : ℕ) :
    (em >>> n).mantissa = em.mantissa / 2 ^ n := by
  induction n with
  | zero => exact (Nat.div_one _).symm
  | succ n ih =>
      rw [shift_succ]
      show (em >>> n).mantissa / 2 = _
      rw [ih, Nat.div_div_eq_div_mul, pow_succ]

/-- There is no residue exactly when only zeros were shifted out. -/
theorem noResidue_shift (em : ExtendedMantissa) (n : ℕ) :
    NoResidue (em >>> n) ↔ NoResidue em ∧ 2 ^ n ∣ em.mantissa := by
  induction n with
  | zero =>
      show NoResidue em ↔ _
      simp
  | succ n ih =>
      have hstep : NoResidue (em >>> (n + 1)) ↔ NoResidue (em >>> n)
          ∧ 2 ∣ (em >>> n).mantissa := by
        rw [shift_succ]
        simp only [NoResidue, ExtendedMantissa.shiftRightOne, bne_eq_false_iff_eq,
          Bool.or_eq_false_iff, Nat.dvd_iff_mod_eq_zero]
        tauto
      rw [hstep, ih, shift_mantissa, and_assoc, and_congr_right_iff]
      intro _
      constructor
      · rintro ⟨hdvd, htwo⟩
        rw [pow_succ]
        exact (Nat.dvd_div_iff_mul_dvd hdvd).mp htwo
      · intro h
        have hdvd : 2 ^ n ∣ em.mantissa :=
          (pow_dvd_pow 2 (Nat.le_succ n)).trans h
        refine ⟨hdvd, (Nat.dvd_div_iff_mul_dvd hdvd).mpr ?_⟩
        rwa [← pow_succ]

theorem rounded_le_succ (em : ExtendedMantissa) :
    em.roundedMantissa ≤ em.mantissa + 1 := by
  obtain ⟨m, round, sticky⟩ := em
  cases round <;> cases sticky <;>
    simp only [ExtendedMantissa.roundedMantissa, ExtendedMantissa.accuracy,
      Accuracy.roundToNearestEven] <;> omega

theorem rounded_of_noResidue {em : ExtendedMantissa} (h : NoResidue em) :
    em.roundedMantissa = em.mantissa := by
  obtain ⟨m, round, sticky⟩ := em
  obtain ⟨hround, hsticky⟩ := h
  cases hround
  cases hsticky
  rfl

theorem ofMantissaAndAccuracy_mantissa (m : ℕ) (accuracy : Accuracy) :
    (ExtendedMantissa.ofMantissaAndAccuracy m accuracy).mantissa = m := by
  cases accuracy with
  | exact => rfl
  | inexact order => cases order <;> rfl

theorem noResidue_ofMantissaAndAccuracy (m : ℕ) (accuracy : Accuracy) :
    NoResidue (ExtendedMantissa.ofMantissaAndAccuracy m accuracy)
      ↔ accuracy = .exact := by
  cases accuracy with
  | exact => exact ⟨fun _ => rfl, fun _ => ⟨rfl, rfl⟩⟩
  | inexact order =>
      cases order <;>
        simp [NoResidue, ExtendedMantissa.ofMantissaAndAccuracy]

/-- What is rounded up is at most the next whole number. -/
theorem rounded_le {m n K : ℕ} {accuracy : Accuracy} (hle : m ≤ K * 2 ^ n)
    (hlt : accuracy ≠ .exact → m < K * 2 ^ n) :
    (ExtendedMantissa.ofMantissaAndAccuracy m accuracy >>> n).roundedMantissa
      ≤ K := by
  have hmantissa := shift_mantissa
    (ExtendedMantissa.ofMantissaAndAccuracy m accuracy) n
  rw [ofMantissaAndAccuracy_mantissa] at hmantissa
  have hfloor : m / 2 ^ n ≤ K := Nat.div_le_of_le_mul (by linarith)
  by_cases hresidue : NoResidue
      (ExtendedMantissa.ofMantissaAndAccuracy m accuracy >>> n)
  · rw [rounded_of_noResidue hresidue, hmantissa]
    exact hfloor
  · have hstrict : m < K * 2 ^ n := by
      by_cases hexact : accuracy = .exact
      · rw [noResidue_shift, noResidue_ofMantissaAndAccuracy,
          ofMantissaAndAccuracy_mantissa] at hresidue
        refine lt_of_le_of_ne hle fun heq => hresidue ⟨hexact, ?_⟩
        rw [heq]
        exact Dvd.intro_left K rfl
      · exact hlt hexact
    have hbelow : m / 2 ^ n < K := (Nat.div_lt_iff_lt_mul (by positivity)).mpr
      hstrict
    have hsucc := rounded_le_succ
      (ExtendedMantissa.ofMantissaAndAccuracy m accuracy >>> n)
    omega

-- === rounding

theorem minExponent_nonpos (spec : Format) : spec.minExponent ≤ 0 := by
  have hbits := spec.hm
  have hpow : (1 : ℤ) ≤ 2 ^ (spec.exponentBits - 1) := one_le_pow₀ (by norm_num)
  unfold Format.minExponent Format.mantissaBits
  push_cast
  omega

theorem targetExponent_nonpos {spec : Format} {total : ℤ}
    (h : total ≤ spec.mantissaBits) : spec.targetExponent total ≤ 0 := by
  have hmin := minExponent_nonpos spec
  unfold Format.targetExponent
  omega

theorem totalExponent_le {spec : Format} {N m : ℕ} {e : ℤ}
    (hN : N < 2 ^ spec.mantissaBits) (he : e ≤ 0)
    (hle : (m : ℚ) * (2 : ℚ) ^ e ≤ N) :
    totalExponent m e ≤ spec.mantissaBits := by
  unfold totalExponent
  by_cases hm : m = 0
  · have hbits := spec.hm
    rw [hm, Nat.log2_zero]
    unfold Format.mantissaBits
    push_cast
    omega
  · exact log2_le_of_bounded (Nat.pos_of_ne_zero hm) hN hle

/-- The shift that ends at an exponent that is not positive. -/
theorem le_shifted {m N n : ℕ} {e : ℤ} (hend : e + n ≤ 0)
    (h : (m : ℚ) * (2 : ℚ) ^ e ≤ N) :
    m ≤ N * 2 ^ (-(e + n)).toNat * 2 ^ n := by
  have hexp : (e : ℤ) = -((((-(e + n)).toNat + n : ℕ)) : ℤ) := by omega
  rw [hexp, zpow_neg, zpow_natCast, ← div_eq_mul_inv,
    div_le_iff₀ (by positivity)] at h
  rw [mul_assoc, ← pow_add]
  exact_mod_cast h

theorem lt_shifted {m N n : ℕ} {e : ℤ} (hend : e + n ≤ 0)
    (h : (m : ℚ) * (2 : ℚ) ^ e < N) :
    m < N * 2 ^ (-(e + n)).toNat * 2 ^ n := by
  have hexp : (e : ℤ) = -((((-(e + n)).toNat + n : ℕ)) : ℤ) := by omega
  rw [hexp, zpow_neg, zpow_natCast, ← div_eq_mul_inv,
    div_lt_iff₀ (by positivity)] at h
  rw [mul_assoc, ← pow_add]
  exact_mod_cast h

/-- A value at most `N` is rounded to one at most `N`. -/
theorem bounded_roundWithAccuracy {spec : Format} {N m : ℕ} {e : ℤ}
    {accuracy : Accuracy} (s : Sign) (hN : N < 2 ^ spec.mantissaBits)
    (he : e ≤ 0) (hle : (m : ℚ) * (2 : ℚ) ^ e ≤ N)
    (hlt : accuracy ≠ .exact → (m : ℚ) * (2 : ℚ) ^ e < N) :
    Bounded N (roundWithAccuracy spec s m e accuracy) := by
  have htarget := targetExponent_nonpos (totalExponent_le hN he hle)
  unfold roundWithAccuracy shiftToTargetExponent shiftToExponent
  dsimp only
  generalize hn : (spec.targetExponent (totalExponent m e) - e).toNat = n
  have hend : e + n ≤ 0 := by omega
  have hrounded : (ExtendedMantissa.ofMantissaAndAccuracy m accuracy
      >>> n).roundedMantissa ≤ _ :=
    rounded_le (le_shifted hend hle) fun hinexact => lt_shifted hend (hlt hinexact)
  generalize (ExtendedMantissa.ofMantissaAndAccuracy m accuracy
    >>> n).roundedMantissa = r at hrounded
  have hbound : (r : ℚ) * (2 : ℚ) ^ (e + n) ≤ N := by
    have hexp : e + n = -((-(e + n)).toNat : ℤ) := by omega
    rw [hexp, zpow_neg, zpow_natCast, ← div_eq_mul_inv,
      div_le_iff₀ (by positivity)]
    exact_mod_cast hrounded
  have hretarget := targetExponent_nonpos (totalExponent_le hN hend hbound)
  generalize hk : (spec.targetExponent (totalExponent r (e + n))
    - (e + n)).toNat = k
  split
  · exact bounded_zero s N
  · refine ⟨rfl, ?_, ?_⟩
    · -- the second shift drops a zero, or nothing
      show (((ExtendedMantissa.ofMantissaAndAccuracy r .exact
        >>> k).mantissa : ℕ) : ℚ) * (2 : ℚ) ^ (e + n + k) ≤ N
      rw [shift_mantissa, ofMantissaAndAccuracy_mantissa]
      have hfloor : ((r / 2 ^ k : ℕ) : ℚ) * (2 : ℚ) ^ k ≤ r := by
        exact_mod_cast Nat.div_mul_le_self r (2 ^ k)
      calc ((r / 2 ^ k : ℕ) : ℚ) * (2 : ℚ) ^ (e + n + k)
          = ((r / 2 ^ k : ℕ) : ℚ) * (2 : ℚ) ^ k * (2 : ℚ) ^ (e + n) := by
            rw [zpow_add₀ two_ne_zero, zpow_natCast]
            ring
        _ ≤ r * (2 : ℚ) ^ (e + n) :=
            mul_le_mul_of_nonneg_right hfloor (by positivity)
        _ ≤ N := hbound
    · show e + n + k ≤ 0
      omega

/-- Lowering an exponent keeps the value. -/
theorem decreaseExponent_value (m : ℕ) (e target : ℤ) :
    ((decreaseExponent m e target).1 : ℚ)
      * (2 : ℚ) ^ (decreaseExponent m e target).2 = m * (2 : ℚ) ^ e := by
  unfold decreaseExponent
  dsimp only
  generalize (e - target).toNat = k
  rw [Nat.shiftLeft_eq, Nat.cast_mul, Nat.cast_pow, Nat.cast_ofNat,
    zpow_sub₀ two_ne_zero, zpow_natCast, mul_assoc, mul_div_cancel₀]
  positivity

theorem decreaseExponent_le (m : ℕ) (e target : ℤ) :
    (decreaseExponent m e target).2 ≤ e := by
  unfold decreaseExponent
  dsimp only
  omega

theorem bounded_round {spec : Format} {N m : ℕ} {e : ℤ} (s : Sign)
    (hN : N < 2 ^ spec.mantissaBits) (he : e ≤ 0)
    (hle : (m : ℚ) * (2 : ℚ) ^ e ≤ N) : Bounded N (round spec s m e) := by
  have hvalue := decreaseExponent_value m e
    (spec.targetExponent (totalExponent m e))
  have hlow := decreaseExponent_le m e
    (spec.targetExponent (totalExponent m e))
  apply bounded_roundWithAccuracy s hN (hlow.trans he)
  · exact hvalue.le.trans hle
  · intro h
    exact absurd rfl h

theorem bounded_normalize {spec : Format} {N : ℕ} {m e : ℤ} (s : Sign)
    (hN : N < 2 ^ spec.mantissaBits) (he : e ≤ 0)
    (hle : |(m : ℚ)| * (2 : ℚ) ^ e ≤ N) : Bounded N (UnpackedFloat.normalize spec m e s) := by
  unfold UnpackedFloat.normalize
  cases hcompare : compare m 0 with
  | lt =>
      have hneg := compare_lt_iff_lt.mp hcompare
      apply bounded_round _ hN he
      have habs : (((-m).toNat : ℕ) : ℚ) = |(m : ℚ)| := by
        rw [abs_of_neg (by exact_mod_cast hneg)]
        exact_mod_cast Int.toNat_of_nonneg (by omega)
      rwa [habs]
  | eq => exact bounded_zero _ N
  | gt =>
      have hpos := compare_gt_iff_gt.mp hcompare
      apply bounded_round _ hN he
      have habs : ((m.toNat : ℕ) : ℚ) = |(m : ℚ)| := by
        rw [abs_of_pos (by exact_mod_cast hpos)]
        exact_mod_cast Int.toNat_of_nonneg (by omega)
      rwa [habs]

-- === operations

theorem magnitude_finite (s : Sign) (m : ℕ) (e : ℤ) (h : 0 < m) :
    magnitude (.finite s m e h) = m * (2 : ℚ) ^ e := rfl

theorem abs_apply (s : Sign) (n : ℤ) : |((s.apply n : ℤ) : ℚ)| = |(n : ℚ)| := by
  cases s with
  | negative =>
      show |((-n : ℤ) : ℚ)| = _
      rw [Int.cast_neg, abs_neg]
  | positive => rfl

/-- The sum of two significands at one exponent. -/
theorem abs_sum_le {M N m n : ℕ} {d e f : ℤ} {s t : Sign}
    (hm : (m : ℚ) * (2 : ℚ) ^ e ≤ M) (hn : (n : ℚ) * (2 : ℚ) ^ f ≤ N)
    (hde : d ≤ e) (hdf : d ≤ f) :
    |((s.apply (decreaseExponent m e d).1
        + t.apply (decreaseExponent n f d).1 : ℤ) : ℚ)| * (2 : ℚ) ^ d
      ≤ (M + N : ℕ) := by
  have hmvalue := decreaseExponent_value m e d
  have hnvalue := decreaseExponent_value n f d
  have hmexp : (decreaseExponent m e d).2 = d := by
    unfold decreaseExponent
    dsimp only
    omega
  have hnexp : (decreaseExponent n f d).2 = d := by
    unfold decreaseExponent
    dsimp only
    omega
  rw [hmexp] at hmvalue
  rw [hnexp] at hnvalue
  rw [← hmvalue] at hm
  rw [← hnvalue] at hn
  rw [Int.cast_add]
  refine (mul_le_mul_of_nonneg_right (abs_add_le _ _) (by positivity)).trans ?_
  rw [abs_apply, abs_apply, Int.cast_natCast, Int.cast_natCast, Nat.abs_cast,
    Nat.abs_cast, add_mul]
  push_cast
  exact add_le_add hm hn

theorem bounded_add {spec : Format} {M N : ℕ} {x y : UnpackedFloat}
    (hx : Bounded M x) (hy : Bounded N y)
    (hbits : M + N < 2 ^ spec.mantissaBits) :
    Bounded (M + N) (add spec x y) := by
  cases x with
  | infinity s => cases hx.finite
  | notANumber => cases hx.finite
  | zero s =>
      cases y with
      | infinity t => cases hy.finite
      | notANumber => cases hy.finite
      | zero t => cases s <;> cases t <;> exact bounded_zero _ _
      | finite t n f hn => exact hy.mono (Nat.le_add_left N M)
  | finite s m e hm =>
      cases y with
      | infinity t => cases hy.finite
      | notANumber => cases hy.finite
      | zero t => exact hx.mono (Nat.le_add_right M N)
      | finite t n f hn =>
          exact bounded_normalize _ hbits ((min_le_left e f).trans hx.fractional)
            (abs_sum_le hx.le hy.le (min_le_left e f) (min_le_right e f))

/-- A difference is a sum. -/
theorem bounded_sub {spec : Format} {M N : ℕ} {x y : UnpackedFloat}
    (hx : Bounded M x) (hy : Bounded N y)
    (hbits : M + N < 2 ^ spec.mantissaBits) :
    Bounded (M + N) (sub spec x y) := by
  cases x with
  | infinity s => cases hx.finite
  | notANumber => cases hx.finite
  | zero s =>
      cases y with
      | infinity t => cases hy.finite
      | notANumber => cases hy.finite
      | zero t => cases s <;> cases t <;> exact bounded_zero _ _
      | finite t n f hn =>
          exact ⟨rfl, (hy.mono (Nat.le_add_left N M)).le, hy.fractional⟩
  | finite s m e hm =>
      cases y with
      | infinity t => cases hy.finite
      | notANumber => cases hy.finite
      | zero t => exact hx.mono (Nat.le_add_right M N)
      | finite t n f hn =>
          have hneg : ∀ k : ℤ, s.apply (decreaseExponent m e (min e f)).1
              - t.apply k = s.apply (decreaseExponent m e (min e f)).1
                + (-t).apply k := by
            intro k
            cases t
            · exact Int.sub_neg _ _
            · rfl
          show Bounded (M + N) (UnpackedFloat.normalize spec
            (s.apply (decreaseExponent m e (min e f)).1
              - t.apply (decreaseExponent n f (min e f)).1) (min e f) .positive)
          rw [hneg]
          exact bounded_normalize _ hbits ((min_le_left e f).trans hx.fractional)
            (abs_sum_le hx.le hy.le (min_le_left e f) (min_le_right e f))

/-- A value less itself. -/
theorem sub_self_unpacked (spec : Format) {x : UnpackedFloat}
    (h : x.isFinite = true) : ∃ s, sub spec x x = .zero s := by
  cases x with
  | infinity s => cases h
  | notANumber => cases h
  | zero s => cases s <;> exact ⟨.positive, rfl⟩
  | finite s m e hm =>
      refine ⟨.positive, ?_⟩
      show UnpackedFloat.normalize spec _ _ _ = _
      rw [sub_self]
      rfl

theorem bounded_mul {spec : Format} {M N : ℕ} {x y : UnpackedFloat}
    (hx : Bounded M x) (hy : Bounded N y) (hbits : M * N < 2 ^ spec.mantissaBits) :
    Bounded (M * N) (mul spec x y) := by
  cases x with
  | infinity s => cases hx.finite
  | notANumber => cases hx.finite
  | zero s =>
      cases y with
      | infinity t => cases hy.finite
      | notANumber => cases hy.finite
      | zero t => exact bounded_zero _ _
      | finite t n f hn => exact bounded_zero _ _
  | finite s m e hm =>
      cases y with
      | infinity t => cases hy.finite
      | notANumber => cases hy.finite
      | zero t => exact bounded_zero _ _
      | finite t n f hn =>
          apply bounded_roundWithAccuracy _ hbits (add_nonpos hx.fractional hy.fractional)
          · calc ((m * n : ℕ) : ℚ) * (2 : ℚ) ^ (e + f)
                = (m * (2 : ℚ) ^ e) * (n * (2 : ℚ) ^ f) := by
                  rw [zpow_add₀ two_ne_zero]
                  push_cast
                  ring
              _ ≤ M * N := mul_le_mul hx.le hy.le (by positivity) (by positivity)
              _ = (M * N : ℕ) := by push_cast; rfl
          · intro h
            exact absurd rfl h

/-- The quotient of the significands is below the exact quotient when
something is left over. -/
theorem bounded_div {spec : Format} {N : ℕ} {x y : UnpackedFloat}
    (hx : x.isFinite = true) (hy : y.isFinite = true) (hpos : 0 < magnitude y)
    (hle : magnitude x ≤ N * magnitude y)
    (hbits : N < 2 ^ spec.mantissaBits) : Bounded N (div spec x y) := by
  cases y with
  | infinity t => cases hy
  | notANumber => cases hy
  | zero t => exact absurd hpos (lt_irrefl _)
  | finite t n f hn =>
      cases x with
      | infinity s => cases hx
      | notANumber => cases hx
      | zero s => exact bounded_zero _ _
      | finite s m e hm =>
          rw [magnitude_finite, magnitude_finite] at hle
          have htotal : totalExponent m e - totalExponent n f
              ≤ spec.mantissaBits := by
            have hupper : (n : ℚ) ≤ (2 : ℚ) ^ ((n.log2 : ℤ) + 1) := by
              have hlt := (Nat.lt_log2_self (n := n)).le
              have hcast : (n : ℚ) ≤ (2 : ℚ) ^ (n.log2 + 1) := by
                exact_mod_cast hlt
              exact_mod_cast hcast
            have hvalue : (m : ℚ) * (2 : ℚ) ^ (e - f - (n.log2 + 1)) ≤ N := by
              rw [zpow_sub₀ two_ne_zero, zpow_sub₀ two_ne_zero]
              rw [div_div, ← mul_div_assoc, div_le_iff₀ (by positivity)]
              calc (m : ℚ) * (2 : ℚ) ^ e ≤ N * (n * (2 : ℚ) ^ f) := hle
                _ ≤ N * ((2 : ℚ) ^ ((n.log2 : ℤ) + 1) * (2 : ℚ) ^ f) := by
                    gcongr
                _ = N * ((2 : ℚ) ^ f * (2 : ℚ) ^ ((n.log2 : ℤ) + 1)) := by ring
            have hlog := log2_le_of_bounded hm hbits hvalue
            unfold totalExponent
            omega
          have hexp : min (e - f) (spec.targetExponent
              (totalExponent m e - totalExponent n f)) ≤ 0 :=
            (min_le_right _ _).trans (targetExponent_nonpos htotal)
          show Bounded N (roundWithAccuracy spec (s / t)
            (divCore spec m e n f).1 (divCore spec m e n f).2.1
            (divCore spec m e n f).2.2)
          unfold divCore
          dsimp only
          have hbelow := min_le_left (e - f) (spec.targetExponent
            (totalExponent m e - totalExponent n f))
          generalize min (e - f) (spec.targetExponent
            (totalExponent m e - totalExponent n f)) = d at hexp hbelow
          generalize hk : (e - f - d).toNat = k
          rw [Nat.shiftLeft_eq]
          have hquotient : ((m * 2 ^ k : ℕ) : ℚ) * (2 : ℚ) ^ d ≤ N * n := by
            have hexponent : e = k + d + f := by omega
            rw [hexponent, zpow_add₀ two_ne_zero, ← mul_assoc, ← mul_assoc]
              at hle
            have hcancel := le_of_mul_le_mul_right hle (by positivity)
            rw [zpow_add₀ two_ne_zero, zpow_natCast, ← mul_assoc] at hcancel
            exact_mod_cast hcancel
          have hn' : (0 : ℚ) < n := by exact_mod_cast hn
          apply bounded_roundWithAccuracy _ hbits hexp
          · refine le_of_mul_le_mul_right ?_ hn'
            refine le_trans ?_ hquotient
            have hfloor : ((m * 2 ^ k / n : ℕ) : ℚ) * n ≤ (m * 2 ^ k : ℕ) := by
              exact_mod_cast Nat.div_mul_le_self (m * 2 ^ k) n
            calc ((m * 2 ^ k / n : ℕ) : ℚ) * (2 : ℚ) ^ d * n
                = ((m * 2 ^ k / n : ℕ) : ℚ) * n * (2 : ℚ) ^ d := by ring
              _ ≤ _ := mul_le_mul_of_nonneg_right hfloor (by positivity)
          · intro hinexact
            refine lt_of_mul_lt_mul_right ?_ hn'.le
            refine lt_of_lt_of_le ?_ hquotient
            have hmod : 0 < m * 2 ^ k % n := by
              refine Nat.pos_of_ne_zero fun hzero => hinexact ?_
              exact if_pos hzero
            have hfloor : ((m * 2 ^ k / n : ℕ) : ℚ) * n < (m * 2 ^ k : ℕ) := by
              have hdiv := Nat.div_add_mod (m * 2 ^ k) n
              have hlt : m * 2 ^ k / n * n < m * 2 ^ k := by
                rw [mul_comm]
                omega
              exact_mod_cast hlt
            calc ((m * 2 ^ k / n : ℕ) : ℚ) * (2 : ℚ) ^ d * n
                = ((m * 2 ^ k / n : ℕ) : ℚ) * n * (2 : ℚ) ^ d := by ring
              _ < _ := mul_lt_mul_of_pos_right hfloor (by positivity)

/-- A whole number of few bits is a value of the format: its significand
is shifted to the left until it has the exponent it needs. -/
theorem ofNat_eq {spec : Format} {n : ℕ} (hpos : 0 < n)
    (h : n < 2 ^ spec.mantissaBits) :
    ∃ k : ℕ, -(k : ℤ) = spec.targetExponent (totalExponent n 0)
      ∧ (n <<< k).log2 = n.log2 + k
      ∧ ∃ hk, ofNat spec n = .finite .positive (n <<< k) (-(k : ℤ)) hk := by
  have hzero : n ≠ 0 := Nat.ne_of_gt hpos
  have hround : ofNat spec n = round spec .positive n 0 := by
    unfold ofNat ofInt UnpackedFloat.normalize
    rw [compare_gt_iff_gt.mpr (by exact_mod_cast hpos)]
    rfl
  have hlog : n.log2 < spec.mantissaBits := (Nat.log2_lt hzero).mpr h
  have hmin := minExponent_nonpos spec
  generalize ht : spec.targetExponent (totalExponent n 0) = t
  have htarget : t = max ((n.log2 : ℤ) + 1 - spec.mantissaBits)
      spec.minExponent := by
    rw [← ht]
    unfold Format.targetExponent totalExponent
    rw [add_zero]
  generalize hk : (0 - t).toNat = k
  have hexp : -(k : ℤ) = t := by omega
  have hlogk : (n <<< k).log2 = n.log2 + k := by
    rw [Nat.log2_eq_iff (by rw [Nat.shiftLeft_eq]; positivity), Nat.shiftLeft_eq]
    constructor
    · rw [pow_add]
      exact Nat.mul_le_mul_right _ (Nat.log2_self_le hzero)
    · rw [show n.log2 + k + 1 = n.log2 + 1 + k by omega, pow_add]
      exact Nat.mul_lt_mul_of_pos_right Nat.lt_log2_self (by positivity)
  have htotal : spec.targetExponent (totalExponent (n <<< k) t) = t := by
    unfold Format.targetExponent totalExponent
    rw [hlogk]
    push_cast
    omega
  have hshift : round spec .positive n 0
      = roundWithAccuracy spec .positive (n <<< k) t .exact := by
    show roundWithAccuracy spec .positive
      (n <<< (0 - spec.targetExponent (totalExponent n 0)).toNat)
      (0 - ((0 - spec.targetExponent (totalExponent n 0)).toNat : ℤ)) .exact = _
    rw [ht, hk, zero_sub, hexp]
  have hfixed : shiftToTargetExponent spec (n <<< k) t .exact
      = (⟨n <<< k, false, false⟩, t) := by
    unfold shiftToTargetExponent shiftToExponent
    dsimp only
    rw [htotal, sub_self]
    show (_, t + ((0 : ℕ) : ℤ)) = _
    rw [Nat.cast_zero, add_zero]
    rfl
  have hne : n <<< k ≠ 0 := by
    rw [Nat.shiftLeft_eq]
    positivity
  have hvalue : roundWithAccuracy spec .positive (n <<< k) t .exact
      = .finite .positive (n <<< k) t (Nat.pos_of_ne_zero hne) := by
    unfold roundWithAccuracy
    rw [hfixed]
    dsimp only
    rw [rounded_of_noResidue ⟨rfl, rfl⟩]
    dsimp only
    rw [hfixed]
    exact dif_neg hne
  refine ⟨k, hexp, hlogk, Nat.pos_of_ne_zero hne, ?_⟩
  rw [hround, hshift, hvalue]
  simp only [hexp]

theorem magnitude_shifted (s : Sign) {n k : ℕ} (h : 0 < n <<< k) :
    magnitude (.finite s (n <<< k) (-(k : ℤ)) h) = n := by
  rw [magnitude_finite, Nat.shiftLeft_eq, zpow_neg, zpow_natCast]
  push_cast
  field_simp

theorem magnitude_ofNat {spec : Format} {n : ℕ}
    (h : n < 2 ^ spec.mantissaBits) :
    Bounded n (ofNat spec n) ∧ magnitude (ofNat spec n) = n := by
  by_cases hzero : n = 0
  · subst hzero
    exact ⟨bounded_zero _ _, rfl⟩
  · obtain ⟨k, -, -, hk, heq⟩ := ofNat_eq (Nat.pos_of_ne_zero hzero) h
    rw [heq]
    have hvalue := magnitude_shifted .positive hk
    exact ⟨⟨rfl, hvalue.le, neg_nonpos.mpr (Nat.cast_nonneg k)⟩, hvalue⟩

-- === packing

theorem leadingBit_toNat (m : BitVec 52) :
    (1#1 ++ m).toNat = 2 ^ 52 + m.toNat := by
  rw [BitVec.toNat_append, Nat.shiftLeft_eq]
  simpa using (Nat.two_pow_add_eq_or_of_lt m.isLt 1).symm

/-- A value read from its bits has its leading bit, or the least
exponent. -/
theorem unpack_canonical {x : Float.Model} {s : Sign} {m : ℕ} {e : ℤ}
    {h : 0 < m} (hx : x.unpack = .finite s m e h) :
    m < 2 ^ 53 ∧ -1074 ≤ e ∧ e ≤ 971 ∧ (2 ^ 52 ≤ m ∨ e = -1074) := by
  have hmantissa : (@unpackMantissa Format.binary64 x.toBits.toBitVec).toNat
      < 2 ^ 52 := BitVec.isLt _
  have hbits : (@unpackExponent Format.binary64 x.toBits.toBitVec).toNat
      < 2 ^ 11 := BitVec.isLt _
  have hval := leadingBit_toNat
    (@unpackMantissa Format.binary64 x.toBits.toBitVec)
  unfold Float.Model.unpack unpack at hx
  dsimp only at hx
  split at hx
  · split at hx <;> cases hx
  rename_i hones
  split at hx
  · rename_i hzero
    split at hx
    · cases hx
    · cases hx
      rw [hzero]
      have hleast : ((0#11).toNat : ℤ) - (((Format.binary64.exponentBias : ℕ) : ℤ)
          + ((Format.binary64.mantissaBitsWithoutImplicit : ℕ) : ℤ)) + 1
          = -1074 := rfl
      exact ⟨by omega, hleast.ge, hleast.trans_le (by norm_num), Or.inr hleast⟩
  · rename_i hzero
    cases hx
    have hne : (@unpackExponent Format.binary64 x.toBits.toBitVec).toNat
        ≠ 2047 := fun heq => hones (BitVec.eq_of_toNat_eq heq)
    have hpos : (@unpackExponent Format.binary64 x.toBits.toBitVec).toNat
        ≠ 0 := fun heq => hzero (BitVec.eq_of_toNat_eq heq)
    have hbias : ((Format.binary64.exponentBias : ℕ) : ℤ)
        + ((Format.binary64.mantissaBitsWithoutImplicit : ℕ) : ℤ) = 1075 := rfl
    rw [hbias, hval]
    exact ⟨by omega, by omega, by omega, Or.inl (by omega)⟩

theorem unpackSign_packComponents (s : Sign) (e : BitVec 11) (m : BitVec 52) :
    Sign.ofBitVec (@unpackSign Format.binary64
      (packComponents Format.binary64 s e m)) = s := by
  have hbit : @unpackSign Format.binary64 (packComponents Format.binary64 s e m)
      = s.toBitVec := by
    apply BitVec.eq_of_getLsbD_eq
    intro i hi
    have hzero : i = 0 := by omega
    subst hzero
    show ((packComponents Format.binary64 s e m).extractLsb 63 63).getLsbD 0 = _
    rw [BitVec.getLsbD_extractLsb]
    show (decide (0 ≤ 63 - 63) && (s.toBitVec ++ e ++ m).getLsbD 63) = _
    rw [BitVec.getLsbD_append, if_neg (by norm_num), BitVec.getLsbD_append,
      if_neg (by norm_num)]
    rfl
  rw [hbit]
  cases s <;> rfl

theorem unpack_packComponents_zero (s : Sign) (m : BitVec 52) :
    unpack Format.binary64 (packComponents Format.binary64 s 0#11 m) = .zero s
      ∨ ∃ h, unpack Format.binary64 (packComponents Format.binary64 s 0#11 m)
        = .finite s m.toNat (-1074) h := by
  unfold unpack
  simp only [unpackExponent_packComponents, unpackMantissa_packComponents]
  rw [if_neg (by decide)]
  simp only [if_true, unpackSign_packComponents]
  split
  · exact Or.inl rfl
  · rename_i hm
    have hpos : 0 < m.toNat := Nat.pos_of_ne_zero fun h =>
      hm (BitVec.eq_of_toNat_eq h)
    exact Or.inr ⟨hpos, rfl⟩

theorem unpack_packComponents_normal (s : Sign) {e : BitVec 11}
    (m : BitVec 52) (hones : e ≠ -1#11) (hzero : e ≠ 0#11) :
    ∃ h, unpack Format.binary64 (packComponents Format.binary64 s e m)
      = .finite s (2 ^ 52 + m.toNat) ((e.toNat : ℤ) - 1075) h := by
  have hval := leadingBit_toNat m
  unfold unpack
  simp only [unpackExponent_packComponents, unpackMantissa_packComponents,
    unpackSign_packComponents]
  rw [if_neg hones, if_neg hzero]
  have hpos : 0 < 2 ^ 52 + m.toNat := Nat.add_pos_left (by positivity) _
  simp only [hval]
  exact ⟨hpos, rfl⟩

/-- A value with its leading bit is stored as it is. -/
theorem unpack_pack_normal (s : Sign) {m : ℕ} {e : ℤ} (hm : 0 < m)
    (hlog : m.log2 = 52) (hlow : -1075 < e) (hhigh : e < 972) :
    (Float.Model.pack (.finite s m e hm)).unpack = .finite s m e hm := by
  have hrange := (Nat.log2_eq_iff (Nat.ne_of_gt hm)).mp hlog
  have hnat : (BitVec.ofNat 11 (e + 1075).toNat).toNat = (e + 1075).toNat := by
    rw [BitVec.toNat_ofNat]
    omega
  have hones : BitVec.ofNat 11 (e + 1075).toNat ≠ -1#11 := by
    intro heq
    have heq' := congrArg BitVec.toNat heq
    rw [hnat] at heq'
    have hvalue : (-1#11 : BitVec 11).toNat = 2047 := rfl
    omega
  have hzero : BitVec.ofNat 11 (e + 1075).toNat ≠ 0#11 := by
    intro heq
    have heq' := congrArg BitVec.toNat heq
    rw [hnat] at heq'
    have hvalue : (0#11 : BitVec 11).toNat = 0 := rfl
    omega
  have hpack : pack Format.binary64 (.finite s m e hm)
      = packComponents Format.binary64 s (BitVec.ofNat 11 (e + 1075).toNat)
        (BitVec.ofNat 52 m) := by
    unfold pack
    have hbias : e + ((Format.binary64.exponentBias : ℕ) : ℤ)
        + ((Format.binary64.mantissaBitsWithoutImplicit : ℕ) : ℤ)
        = e + 1075 := by
      show e + 1023 + 52 = _
      omega
    dsimp only
    rw [hbias, if_neg (by
      show ¬ 2 ^ 11 ≤ (e + 1075).toNat + 1
      omega), if_pos (by
      show m.log2 + 1 = 53
      omega)]
  obtain ⟨hpos, ht⟩ := unpack_packComponents_normal s (BitVec.ofNat 52 m)
    hones hzero
  have hsame : 2 ^ 52 + (BitVec.ofNat 52 m).toNat = m := by
    rw [BitVec.toNat_ofNat]
    omega
  have hexp : ((BitVec.ofNat 11 (e + 1075).toNat).toNat : ℤ) - 1075 = e := by
    rw [hnat]
    omega
  show unpack Format.binary64 (pack Format.binary64 (.finite s m e hm)) = _
  rw [hpack, ht]
  simp only [hsame, hexp]

/-- What is stored with the least exponent is tiny. -/
theorem bounded_subnormal {N : ℕ} (hpos : 0 < N) (s : Sign) (m : BitVec 52) :
    Bounded N (unpack Format.binary64
      (packComponents Format.binary64 s 0#11 m)) := by
  have hone : (1 : ℚ) ≤ N := by exact_mod_cast hpos
  obtain ht | ⟨hm, ht⟩ := unpack_packComponents_zero s m
  · rw [ht]
    exact bounded_zero s N
  · rw [ht]
    refine ⟨rfl, ?_, by show (-1074 : ℤ) ≤ 0; decide⟩
    rw [magnitude_finite]
    have hlt : (m.toNat : ℚ) ≤ 2 ^ 52 := by exact_mod_cast m.isLt.le
    calc (m.toNat : ℚ) * (2 : ℚ) ^ (-1074 : ℤ)
        ≤ 2 ^ 52 * (2 : ℚ) ^ (-1074 : ℤ) :=
          mul_le_mul_of_nonneg_right hlt (by positivity)
      _ = ((2 : ℚ) ^ 1022)⁻¹ := by
          rw [zpow_neg, show ((1074 : ℤ)) = ((1074 : ℕ) : ℤ) from rfl,
            zpow_natCast, show (1074 : ℕ) = 52 + 1022 from rfl, pow_add,
            mul_inv, ← mul_assoc, mul_inv_cancel₀ (by positivity), one_mul]
      _ ≤ 1 := inv_le_one_of_one_le₀ (one_le_pow₀ one_le_two)
      _ ≤ N := hone

/-- A bounded value is stored as one. -/
theorem bounded_pack {N : ℕ} {x : UnpackedFloat} (hpos : 0 < N)
    (hN : N < 2 ^ 53) (h : Bounded N x) :
    Bounded N (Float.Model.pack x).unpack := by
  cases x with
  | infinity s => cases h.finite
  | notANumber => cases h.finite
  | zero s => exact bounded_subnormal hpos s 0
  | finite s m e hm =>
      have hbits := log2_le_of_bounded hm hN h.le
      by_cases hnormal : m.log2 = 52 ∧ -1075 < e
      · rw [unpack_pack_normal s hm hnormal.1 hnormal.2 (by omega)]
        exact h
      · -- an exponent of zero is stored
        have hpack : ∃ m' : BitVec 52, pack Format.binary64 (.finite s m e hm)
            = packComponents Format.binary64 s 0#11 m' := by
          unfold pack
          have hbias : e + ((Format.binary64.exponentBias : ℕ) : ℤ)
              + ((Format.binary64.mantissaBitsWithoutImplicit : ℕ) : ℤ)
              = e + 1075 := by
            show e + 1023 + 52 = _
            omega
          dsimp only
          rw [hbias, if_neg (by
            show ¬ 2 ^ 11 ≤ (e + 1075).toNat + 1
            omega)]
          split
          · rename_i hlog
            have hlog52 : m.log2 + 1 = 53 := hlog
            have hleast : (e + 1075).toNat = 0 := by omega
            rw [hleast]
            exact ⟨_, rfl⟩
          · exact ⟨_, rfl⟩
        obtain ⟨m', hm'⟩ := hpack
        show Bounded N (unpack Format.binary64 (pack Format.binary64
          (.finite s m e hm)))
        rw [hm']
        exact bounded_subnormal hpos s m'

/-- A whole number is stored as it is. -/
theorem magnitude_pack_ofNat {n : ℕ} (h : n < 2 ^ 53) :
    Bounded n (Float.Model.pack (ofNat Format.binary64 n)).unpack
      ∧ magnitude (Float.Model.pack (ofNat Format.binary64 n)).unpack = n := by
  by_cases hzero : n = 0
  · subst hzero
    exact ⟨bounded_zero .positive 0, rfl⟩
  · have hspec : n < 2 ^ Format.binary64.mantissaBits := h
    obtain ⟨k, hk, hlog, hpos, heq⟩ := ofNat_eq (Nat.pos_of_ne_zero hzero) hspec
    have hbits : n.log2 < 53 := (Nat.log2_lt hzero).mpr h
    have htarget : -(k : ℤ) = max ((n.log2 : ℤ) + 1 + 0 - 53) (-1074) := hk
    have hstored := unpack_pack_normal .positive hpos (e := -(k : ℤ)) (by omega)
      (by omega) (by omega)
    have hvalue := magnitude_shifted .positive hpos
    rw [heq, hstored]
    exact ⟨⟨rfl, hvalue.le, neg_nonpos.mpr (Nat.cast_nonneg k)⟩, hvalue⟩

-- === signs

/-- Zero, or of positive sign. -/
def NonNegative : UnpackedFloat → Prop
  | .zero _ => True
  | .finite s _ _ _ => s = .positive
  | .infinity s => s = .positive
  | .notANumber => False

theorem zero_le_of_nonNegative (s : Sign) {x : UnpackedFloat}
    (h : NonNegative x) : UnpackedFloat.le (.zero s) x = true := by
  cases x with
  | zero t => rfl
  | finite t m e hm =>
      cases h
      rfl
  | infinity t =>
      cases h
      rfl
  | notANumber => exact h.elim

/-- Storing a value keeps its sign. -/
theorem nonNegative_pack {x : UnpackedFloat} (h : NonNegative x) :
    NonNegative (Float.Model.pack x).unpack := by
  have hsubnormal : ∀ m : BitVec 52, NonNegative (unpack Format.binary64
      (packComponents Format.binary64 .positive 0#11 m)) := by
    intro m
    obtain hm | ⟨hpos, hm⟩ := unpack_packComponents_zero .positive m
    · rw [hm]
      trivial
    · rw [hm]
      rfl
  cases x with
  | zero s => cases s <;> trivial
  | infinity s =>
      cases h
      rfl
  | notANumber => exact h.elim
  | finite s m e hm =>
      cases h
      show NonNegative (unpack Format.binary64 (pack Format.binary64
        (.finite .positive m e hm)))
      unfold pack
      dsimp only
      split
      · rfl
      rename_i hrange
      split
      · generalize hk : BitVec.ofNat Format.binary64.exponentBits _ = k
        by_cases hzero : k = 0#11
        · rw [hzero]
          exact hsubnormal _
        · by_cases hones : k = -1#11
          · rw [hones]
            have hexp : k.toNat = 2047 := congrArg BitVec.toNat hones
            rw [← hk, BitVec.toNat_ofNat] at hexp
            have hbits : 2 ^ Format.binary64.exponentBits = 2048 := rfl
            rw [hbits] at hexp hrange
            omega
          · obtain ⟨hpos, hstored⟩ := unpack_packComponents_normal .positive
              (BitVec.ofNat 52 m) hones hzero
            exact (congrArg NonNegative hstored).mpr rfl
      · exact hsubnormal _

theorem nonNegative_round {spec : Format} (m : ℕ) (e : ℤ)
    (accuracy : Accuracy) :
    NonNegative (roundWithAccuracy spec .positive m e accuracy) := by
  unfold roundWithAccuracy
  dsimp only
  split
  · trivial
  · rfl

end RbfSafe.Lib.Rounding
