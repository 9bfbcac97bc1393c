/-
Distances between boxes.

A distance of doubles is the root of a sum of squares of differences.
Differences of finite values may overflow and are never a NaN; squares,
sums of what has the positive sign and their root keep that sign. So a
distance of valid boxes compares equal to itself, whatever it is. Over
any scalars whose comparisons are lawful the distance is symmetric.
-/
import Mathlib
import RbfSafe.Core.Double
import RbfSafe.Core.Workspace

namespace RbfSafe

open Float.Model (UnpackedFloat Format)
open Float.Model.UnpackedFloat

-- === the sign bit

/-- A value that is not a NaN, and its sign. -/
def Signed (s : Sign) : UnpackedFloat → Prop
  | .notANumber => False
  | .infinity t => t = s
  | .zero t => t = s
  | .finite t _ _ _ => t = s

theorem Signed.not_nan {s : Sign} {u : UnpackedFloat} (h : Signed s u) :
    u.isNaN = false := by
  cases u with
  | notANumber => exact h.elim
  | infinity t => rfl
  | zero t => rfl
  | finite t m e hm => rfl

theorem signed_of_not_nan {u : UnpackedFloat} (h : u.isNaN = false) :
    ∃ s, Signed s u := by
  cases u with
  | notANumber => cases h
  | infinity t => exact ⟨t, rfl⟩
  | zero t => exact ⟨t, rfl⟩
  | finite t m e hm => exact ⟨t, rfl⟩

theorem ofBitVec_toBitVec (s : Sign) : Sign.ofBitVec s.toBitVec = s := by
  cases s <;> rfl

theorem unpackSign_packComponents (spec : Format) (s : Sign)
    (exponent : BitVec spec.exponentBits)
    (mantissa : BitVec spec.mantissaBitsWithoutImplicit) :
    unpackSign (packComponents spec s exponent mantissa) = s.toBitVec := by
  apply BitVec.eq_of_getLsbD_eq
  intro i hi
  have hlast : i = 0 := by omega
  subst hlast
  delta unpackSign
  simp [packComponents, BitVec.getLsbD_append, BitVec.getElem_append]

/-- A pattern that is no NaN has the sign that its last bit shows. -/
theorem signed_unpack {b : BitVec 64}
    (h : @unpackExponent Format.binary64 b = -1#11 →
      @unpackMantissa Format.binary64 b = 0#52) :
    Signed (Sign.ofBitVec (@unpackSign Format.binary64 b))
      (unpack Format.binary64 b) := by
  unfold unpack
  by_cases hones : @unpackExponent Format.binary64 b = -1#11
  · rw [if_pos hones, if_pos (h hones)]
    rfl
  · rw [if_neg hones]
    by_cases hzero : @unpackExponent Format.binary64 b = 0#11
    · rw [if_pos hzero]
      split <;> rfl
    · rw [if_neg hzero]
      rfl

theorem signed_unpack_components (s : Sign) {exponent : BitVec 11}
    {mantissa : BitVec 52} (h : exponent = -1#11 → mantissa = 0#52) :
    Signed s (unpack Format.binary64
      (packComponents Format.binary64 s exponent mantissa)) := by
  have hsigned := signed_unpack (b := packComponents Format.binary64 s exponent mantissa)
    (by rw [unpackExponent_packComponents, unpackMantissa_packComponents]; exact h)
  rw [unpackSign_packComponents, ofBitVec_toBitVec] at hsigned
  exact hsigned

/-- Storing a value keeps its sign, and makes no NaN of it. -/
theorem signed_unpack_pack {s : Sign} {u : UnpackedFloat} (h : Signed s u) :
    Signed s (unpack Format.binary64 (pack Format.binary64 u)) := by
  cases u with
  | notANumber => exact h.elim
  | infinity t =>
      cases h
      exact signed_unpack_components _ fun _ => rfl
  | zero t =>
      cases h
      exact signed_unpack_components _ fun _ => rfl
  | finite t m e hm =>
      cases h
      unfold pack
      dsimp only
      split
      · exact signed_unpack_components _ fun _ => rfl
      · rename_i hfits
        split
        · refine signed_unpack_components _ fun hones => absurd hones ?_
          intro heq
          have hnat := congrArg BitVec.toNat heq
          rw [BitVec.toNat_ofNat] at hnat
          have hbound : ¬ 2 ^ 11 ≤ (e + ((Format.binary64.exponentBias : Nat) : ℤ)
            + ((Format.binary64.mantissaBitsWithoutImplicit : Nat) : ℤ)).toNat
              + 1 := hfits
          rw [Nat.mod_eq_of_lt (by omega)] at hnat
          simp only [BitVec.toNat_neg, BitVec.toNat_ofNat] at hnat
          omega
        · exact signed_unpack_components _ fun hones => absurd hones (by decide)

-- === arithmetic

/-- A value that is chosen by a test. -/
theorem signed_dite {s : Sign} {c : Prop} [Decidable c] {x : c → UnpackedFloat}
    {y : ¬c → UnpackedFloat} (hx : ∀ h, Signed s (x h)) (hy : ∀ h, Signed s (y h)) :
    Signed s (dite c x y) := by
  by_cases h : c
  · rw [dif_pos h]
    exact hx h
  · rw [dif_neg h]
    exact hy h

theorem signed_roundWithAccuracy (s : Sign) (m : Nat) (e : ℤ)
    (accuracy : Accuracy) :
    Signed s (roundWithAccuracy Format.binary64 s m e accuracy) := by
  unfold roundWithAccuracy
  dsimp only
  exact signed_dite (fun _ => rfl) fun _ => rfl

theorem signed_normalize (m : ℤ) (e : ℤ) :
    ∃ s, (0 ≤ m → s = .positive)
      ∧ Signed s (UnpackedFloat.normalize Format.binary64 m e .positive) := by
  unfold UnpackedFloat.normalize
  cases hm : compare m 0 with
  | lt =>
      refine ⟨.negative, fun hle => ?_, signed_roundWithAccuracy _ _ _ _⟩
      exact absurd (compare_lt_iff_lt.mp hm) (not_lt.mpr hle)
  | eq => exact ⟨.positive, fun _ => rfl, rfl⟩
  | gt => exact ⟨.positive, fun _ => rfl, signed_roundWithAccuracy _ _ _ _⟩

/-- The difference of finite values. -/
theorem signed_sub {u v : UnpackedFloat} (hu : u.isFinite = true)
    (hv : v.isFinite = true) : ∃ s, Signed s (sub Format.binary64 u v) := by
  cases u with
  | notANumber => cases hu
  | infinity s => cases hu
  | zero s =>
      cases v with
      | notANumber => cases hv
      | infinity t => cases hv
      | zero t =>
          refine signed_of_not_nan ?_
          cases s <;> cases t <;> rfl
      | finite t m e hm => exact ⟨-t, rfl⟩
  | finite s m e hm =>
      cases v with
      | notANumber => cases hv
      | infinity t => cases hv
      | zero t => exact ⟨s, rfl⟩
      | finite t m' e' hm' =>
          obtain ⟨r, -, hr⟩ := signed_normalize _ _
          exact ⟨r, hr⟩

/-- A square. -/
theorem signed_mul_self {s : Sign} {u : UnpackedFloat} (h : Signed s u) :
    Signed .positive (mul Format.binary64 u u) := by
  have hsquare : ∀ t : Sign, t * t = .positive := by
    intro t
    cases t <;> rfl
  cases u with
  | notANumber => exact h.elim
  | infinity t => exact hsquare t
  | zero t => exact hsquare t
  | finite t m e hm =>
      have hround := signed_roundWithAccuracy (t * t) (m * m) (e + e) .exact
      cases t <;> exact hround

theorem signed_add {u v : UnpackedFloat} (hu : Signed .positive u)
    (hv : Signed .positive v) : Signed .positive (add Format.binary64 u v) := by
  cases u with
  | notANumber => exact hu.elim
  | infinity s =>
      cases hu
      cases v with
      | notANumber => exact hv.elim
      | infinity t =>
          cases hv
          rfl
      | zero t => rfl
      | finite t m e hm => rfl
  | zero s =>
      cases hu
      cases v with
      | notANumber => exact hv.elim
      | infinity t => exact hv
      | zero t =>
          cases hv
          rfl
      | finite t m e hm => exact hv
  | finite s m e hm =>
      cases hu
      cases v with
      | notANumber => exact hv.elim
      | infinity t => exact hv
      | zero t => rfl
      | finite t m' e' hm' =>
          cases hv
          obtain ⟨r, hpositive, hr⟩ := signed_normalize
            (((decreaseExponent m e (min e e')).1 : ℤ)
              + ((decreaseExponent m' e' (min e e')).1 : ℤ)) (min e e')
          rw [hpositive (by positivity)] at hr
          exact hr

theorem signed_sqrt {u : UnpackedFloat} (h : Signed .positive u) :
    Signed .positive (sqrt Format.binary64 u) := by
  cases u with
  | notANumber => exact h.elim
  | infinity s =>
      cases h
      rfl
  | zero s => exact h
  | finite s m e hm =>
      cases h
      exact signed_roundWithAccuracy _ _ _ _

-- === distances

/-- A double that is not a NaN compares equal to itself. -/
theorem float_eq_self {x : Float} {s : Sign} (h : Signed s x.toModel.unpack) :
    Scalar.eq x x = true := by
  rw [float_eq, beq_iff_place h.not_nan h.not_nan]

theorem signed_zero : Signed .positive (Scalar.zero : Float).toModel.unpack :=
  @signed_unpack_pack .positive (.zero .positive) rfl

namespace WorkspaceAabb

section
variable {α : Type} [MetricScalar α] [LawfulScalar α]
  {box other : WorkspaceAabb α}

omit [LawfulScalar α] in
theorem valid_iff : box.valid = true ↔ ∀ axis,
    Scalar.isFinite (box.lower axis) = true
      ∧ Scalar.isFinite (box.upper axis) = true
      ∧ Scalar.lt (box.upper axis) (box.lower axis) = false := by
  unfold valid
  simp only [List.all_eq_true, List.mem_finRange, true_implies,
    Bool.and_eq_true, Bool.not_eq_true', and_assoc]

omit [LawfulScalar α] in
theorem overlaps_comm (box other : WorkspaceAabb α) (tolerance : α) :
    box.overlaps other tolerance = other.overlaps box tolerance := by
  unfold overlaps
  simp only [Bool.or_comm]

theorem separation_comm (hbox : box.valid = true)
    (hother : other.valid = true) (axis : Fin 3) :
    box.separation other axis = other.separation box axis := by
  obtain ⟨hl, hu, hle⟩ := valid_iff.mp hbox axis
  obtain ⟨hl', hu', hle'⟩ := valid_iff.mp hother axis
  -- two boxes are not each below the other
  have hnot : Scalar.lt (box.upper axis) (other.lower axis) = true →
      Scalar.lt (other.upper axis) (box.lower axis) = false := by
    intro h
    by_contra hback
    have hback : Scalar.lt (other.upper axis) (box.lower axis) = true := by
      simpa using hback
    have hself : Scalar.le (box.lower axis) (box.upper axis) = true := by
      by_contra hself
      rw [Bool.not_eq_true, ← LawfulScalar.lt_iff hu hl, hle] at hself
      cases hself
    have hself' : Scalar.le (other.lower axis) (other.upper axis) = true := by
      by_contra hself'
      rw [Bool.not_eq_true, ← LawfulScalar.lt_iff hu' hl', hle'] at hself'
      cases hself'
    have hround : Scalar.lt (box.upper axis) (box.upper axis) = true :=
      LawfulScalar.lt_of_lt_of_le hu hl' hu h
        (LawfulScalar.le_trans hself'
          (LawfulScalar.le_trans (LawfulScalar.le_of_lt hback) hself))
    rw [LawfulScalar.lt_asymm hu hu hround] at hround
    cases hround
  unfold separation
  cases hbelow : Scalar.lt (box.upper axis) (other.lower axis) with
  | true => simp [hnot hbelow]
  | false => simp

theorem distance_comm (hbox : box.valid = true) (hother : other.valid = true) :
    box.distanceLowerBound other = other.distanceLowerBound box := by
  unfold distanceLowerBound
  simp only [separation_comm hbox hother]

end

section Float

variable {box other : WorkspaceAabb Float}

theorem signed_separation (hbox : box.valid = true)
    (hother : other.valid = true) (axis : Fin 3) :
    ∃ s, Signed s (box.separation other axis).toModel.unpack := by
  obtain ⟨hl, hu, -⟩ := valid_iff.mp hbox axis
  obtain ⟨hl', hu', -⟩ := valid_iff.mp hother axis
  rw [float_isFinite] at hl hu hl' hu'
  unfold separation
  split
  · obtain ⟨s, hs⟩ := signed_sub hl' hu
    exact ⟨s, signed_unpack_pack hs⟩
  · split
    · obtain ⟨s, hs⟩ := signed_sub hl hu'
      exact ⟨s, signed_unpack_pack hs⟩
    · exact ⟨.positive, signed_zero⟩

/-- A distance is a value, though it may not be a finite one. -/
theorem signed_distance (hbox : box.valid = true)
    (hother : other.valid = true) :
    Signed .positive (box.distanceLowerBound other).toModel.unpack := by
  have hfold : ∀ (axes : List (Fin 3)) (squared : Float),
      Signed .positive squared.toModel.unpack →
      Signed .positive (axes.foldl (fun squared axis => Scalar.add squared
        (Scalar.mul (box.separation other axis)
          (box.separation other axis))) squared).toModel.unpack := by
    intro axes
    induction axes with
    | nil => exact fun _ h => h
    | cons axis axes ih =>
        intro squared h
        obtain ⟨s, hs⟩ := signed_separation hbox hother axis
        have hsquare := signed_unpack_pack (signed_mul_self hs)
        exact ih _ (signed_unpack_pack (signed_add h hsquare))
  exact signed_unpack_pack (signed_sqrt (hfold _ _ signed_zero))

theorem distance_eq_self (hbox : box.valid = true)
    (hother : other.valid = true) :
    Scalar.eq (box.distanceLowerBound other) (box.distanceLowerBound other)
      = true :=
  float_eq_self (signed_distance hbox hother)

end Float

end WorkspaceAabb

end RbfSafe
