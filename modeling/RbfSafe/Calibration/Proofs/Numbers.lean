/-
The numbers of a report are finite.

A number is compared with itself when a report is made again, and only a
finite number agrees with itself. Every number of a report is made of
fractions of counts, of which there are at most as many as a profile has
bins; so none leaves the range of `double`, whatever way its operations
are rounded.
-/
import RbfSafe.Calibration.Lifecycle

namespace RbfSafe

open Float.Model (UnpackedFloat Format)
open Float.Model.UnpackedFloat Lib.Rounding

-- === agreement

theorem nonNegative_abs {x : Float} (h : x.isFinite = true) :
    NonNegative x.abs.toModel.unpack := by
  have hunpack : x.toModel.unpack.isFinite = true := h
  apply nonNegative_pack
  cases hx : x.toModel.unpack with
  | finite s m e hm => rfl
  | zero s => trivial
  | infinity s =>
      rw [hx] at hunpack
      cases hunpack
  | notANumber =>
      rw [hx] at hunpack
      cases hunpack

theorem nonNegative_max {x y : Float} (hx : NonNegative x.toModel.unpack)
    (hy : NonNegative y.toModel.unpack) :
    NonNegative (Scalar.max x y).toModel.unpack := by
  unfold Scalar.max
  split
  · exact hy
  · exact hx

/-- The tolerance is of positive sign. -/
theorem nonNegative_tolerance {y : Float} (hy : NonNegative y.toModel.unpack) :
    NonNegative (1e-12 * y).toModel.unpack := by
  obtain ⟨m, e, hm, htolerance⟩ : ∃ m e hm, (1e-12 : Float).toModel.unpack
      = .finite .positive m e hm := ⟨_, _, _, rfl⟩
  apply nonNegative_pack
  show NonNegative (UnpackedFloat.mul Format.binary64
    (1e-12 : Float).toModel.unpack y.toModel.unpack)
  rw [htolerance]
  cases hu : y.toModel.unpack with
  | zero s => trivial
  | infinity s =>
      rw [hu] at hy
      cases hy
      rfl
  | notANumber =>
      rw [hu] at hy
      exact hy.elim
  | finite s n f hn =>
      rw [hu] at hy
      cases hy
      exact nonNegative_round _ _ _

/-- A finite number agrees with itself. -/
theorem approximatelyEqual_refl {x : Float} (h : x.isFinite = true) :
    approximatelyEqual x x = true := by
  have hdifference : ∃ s, (x - x).abs.toModel.unpack = .zero s := by
    obtain ⟨s, hs⟩ := sub_self_unpacked Format.binary64 (x := x.toModel.unpack) h
    refine ⟨.positive, ?_⟩
    have hsub : (x - x).toModel.unpack = .zero s := by
      show (Float.Model.pack (UnpackedFloat.sub Format.binary64
        x.toModel.unpack x.toModel.unpack)).unpack = _
      rw [hs]
      cases s <;> rfl
    show (Float.Model.pack (x - x).toModel.unpack.abs).unpack = _
    rw [hsub]
    cases s <;> rfl
  obtain ⟨s, hs⟩ := hdifference
  have hone : NonNegative (1 : Float).toModel.unpack := rfl
  have hle : UnpackedFloat.le (x - x).abs.toModel.unpack
      (1e-12 * Scalar.max (Scalar.max 1 x.abs) x.abs).toModel.unpack = true := by
    rw [hs]
    exact zero_le_of_nonNegative s (nonNegative_tolerance
      (nonNegative_max (nonNegative_max hone (nonNegative_abs h))
        (nonNegative_abs h)))
  exact decide_eq_true ((float_le _ _).trans hle)

-- === sums

section
variable {β : Type}

theorem within_foldl_add {M N : ℕ} {f : β → Float} {items : List β}
    {sum : Float} (hpos : 0 < N) (hsum : Within M sum)
    (hitems : ∀ item ∈ items, Within N (f item))
    (hlt : M + N * items.length < 2 ^ 53) :
    Within (M + N * items.length)
      (items.foldl (fun sum item => sum + f item) sum) := by
  induction items generalizing sum M with
  | nil => exact hsum
  | cons item items ih =>
      rw [List.length_cons, Nat.mul_succ] at hlt ⊢
      have hnext := hsum.add (hitems item List.mem_cons_self) (by omega)
        (by omega)
      have hrest := ih hnext
        (fun other hother => hitems other (List.mem_cons_of_mem _ hother))
        (by omega)
      exact hrest.mono (by omega)

theorem within_foldl_max {N : ℕ} {f : β → Float} {items : List β}
    {maximum : Float} (hmaximum : Within N maximum)
    (hitems : ∀ item ∈ items, Within N (f item)) :
    Within N (items.foldl (fun maximum item =>
      Scalar.max maximum (f item)) maximum) := by
  induction items generalizing maximum with
  | nil => exact hmaximum
  | cons item items ih =>
      apply ih (hmaximum.max (hitems item List.mem_cons_self))
      exact fun other hother => hitems other (List.mem_cons_of_mem _ hother)

end

/-- The weights of a weighted sum, added up. -/
def totalWeight (errors : List (UInt64 × Float)) : ℕ :=
  (errors.map fun error => error.1.toNat).sum

theorem bounded_weightedSum {L : LongDouble} {M N : ℕ}
    {errors : List (UInt64 × Float)} {weighted : UnpackedFloat}
    (hweighted : Bounded M weighted)
    (herrors : ∀ error ∈ errors, Within N error.2) (hpos : 0 < N)
    (hN : N < 2 ^ 53) (hlt : M + totalWeight errors * N < 2 ^ 53) :
    Bounded (M + totalWeight errors * N) (errors.foldl (fun weighted error =>
      .add L.format weighted (.mul L.format (.ofUInt64 L.format error.1)
        (L.ofDouble error.2))) weighted) := by
  induction errors generalizing weighted M with
  | nil =>
      rw [totalWeight, List.map_nil, List.sum_nil, zero_mul, add_zero]
      exact hweighted
  | cons error errors ih =>
      have hweight : totalWeight (error :: errors)
          = error.1.toNat + totalWeight errors := by
        rw [totalWeight, List.map_cons, List.sum_cons]
        rfl
      rw [hweight, add_mul] at hlt ⊢
      have hcount : error.1.toNat < 2 ^ 53 := by
        have hone : error.1.toNat * 1 ≤ error.1.toNat * N :=
          Nat.mul_le_mul_left _ hpos
        omega
      have hterm : Bounded (error.1.toNat * N) (.mul L.format
          (.ofUInt64 L.format error.1) (L.ofDouble error.2)) := by
        apply bounded_mul
        · exact (magnitude_ofNat (LongDouble.lt_of_lt hcount)).1
        · exact LongDouble.bounded_ofDouble (herrors error List.mem_cons_self) hN
        · exact LongDouble.lt_of_lt (by omega)
      have hnext := bounded_add hweighted hterm
        (LongDouble.lt_of_lt (L := L) (by omega))
      have hrest := ih hnext
        (fun other hother => herrors other (List.mem_cons_of_mem _ hother))
        (by omega)
      exact hrest.mono (by omega)

/-- The mean of errors over at least the samples they are of. -/
theorem within_meanError {L : LongDouble} {N : ℕ}
    {errors : List (UInt64 × Float)} {totalSamples : UInt64}
    (herrors : ∀ error ∈ errors, Within N error.2) (hpos : 0 < N)
    (hN : N < 2 ^ 53) (hle : totalWeight errors ≤ totalSamples.toNat)
    (hsamples : 0 < totalSamples) (hlt : totalSamples.toNat * N < 2 ^ 53) :
    Within (totalSamples.toNat * N) (meanError L errors totalSamples) := by
  have hsamples' : 0 < totalSamples.toNat := UInt64.lt_iff_toNat_lt.mp hsamples
  have hweight : totalWeight errors * N ≤ totalSamples.toNat * N :=
    Nat.mul_le_mul_right N hle
  have hlt' : 0 + totalWeight errors * N < 2 ^ 53 := by omega
  have hsum := @bounded_weightedSum L 0 N errors _ (bounded_zero .positive 0)
    herrors hpos hN hlt'
  have htotal : totalSamples.toNat < 2 ^ 53 := by
    have hone : totalSamples.toNat * 1 ≤ totalSamples.toNat * N :=
      Nat.mul_le_mul_left _ hpos
    omega
  have hbits : totalSamples.toNat < 2 ^ L.format.mantissaBits :=
    LongDouble.lt_of_lt htotal
  obtain ⟨hcount, hvalue⟩ := magnitude_ofNat hbits
  have hone : (1 : ℚ) ≤ totalSamples.toNat := by exact_mod_cast hsamples'
  apply LongDouble.within_toDouble _ (Nat.mul_pos hsamples' hpos) hlt
  refine bounded_div hsum.finite hcount.finite ?_ ?_ (LongDouble.lt_of_lt hlt)
  · exact lt_of_lt_of_eq (by linarith) hvalue.symm
  · have hvalue' : magnitude (.ofUInt64 L.format totalSamples)
        = totalSamples.toNat := hvalue
    refine hsum.le.trans ?_
    rw [hvalue']
    have hcast : ((0 + totalWeight errors * N : ℕ) : ℚ)
        ≤ (totalSamples.toNat * N : ℕ) := by
      exact_mod_cast (by omega : 0 + totalWeight errors * N
        ≤ totalSamples.toNat * N)
    have hnonneg : (0 : ℚ) ≤ (totalSamples.toNat * N : ℕ) := by positivity
    nlinarith

-- === profiles

/-- The counts and the rates of a profile. -/
structure SoundProfile (profile : PolicyCalibrationProfile) : Prop where
  meanConfidence : ∀ bin ∈ profile.bins, Within 1 bin.meanConfidence
  observedSuccessRate : ∀ bin ∈ profile.bins, Within 1 bin.observedSuccessRate
  successes : ∀ bin ∈ profile.bins, bin.successes ≤ bin.samples
  samples : ∀ bin ∈ profile.bins, bin.samples ≤ profile.sampleCount
  sampleCount_pos : 0 < profile.sampleCount
  sampleCount_lt : profile.sampleCount.toNat < 2 ^ 53
  length : profile.bins.length ≤ kMaximumBins

theorem kMaximumSamples_toNat : kMaximumSamples.toNat = 1000000000000 := rfl

/-- The mean confidence of a bin lies between zero and one. -/
theorem within_meanConfidence {previous : Option Float} {last : Bool}
    {source : PolicyCalibrationBinInput}
    (h : validBin previous last source = true) :
    Within 1 source.meanConfidence := by
  simp only [validBin, Bool.and_eq_true, Bool.not_eq_true',
    decide_eq_false_iff_not] at h
  obtain ⟨⟨⟨⟨⟨⟨⟨⟨⟨⟨hlower, hupper⟩, hmean⟩, hzero⟩, -⟩, hone⟩, -⟩, hbelow⟩, habove⟩,
    -⟩, -⟩ := h
  have hzeroFinite : Scalar.isFinite (0 : Float) = true := rfl
  have honeFinite : Scalar.isFinite (1 : Float) = true := rfl
  have hle : ∀ {a b : Float}, Scalar.isFinite a = true →
      Scalar.isFinite b = true → ¬ a < b → Scalar.le b a = true := by
    intro a b ha hb hab
    by_contra hba
    exact hab ((LawfulScalar.lt_iff ha hb).mpr (by simpa using hba))
  have hlowest := hle hlower hzeroFinite hzero
  have hlow := hle hmean hlower hbelow
  have hhigh : Scalar.le source.meanConfidence source.upperConfidence
      = true := by
    cases last with
    | true =>
        simp only [if_true, decide_eq_false_iff_not] at habove
        exact hle hupper hmean habove
    | false =>
        simp only [Bool.false_eq_true, if_false, decide_eq_false_iff_not]
          at habove
        rcases LawfulScalar.le_total (a := source.meanConfidence)
          (b := source.upperConfidence) hmean hupper with hle' | hge
        · exact hle'
        · exact absurd hge habove
  have hhighest : Scalar.le source.upperConfidence 1 = true := by
    cases last with
    | true =>
        simp only [if_true] at hone
        exact ((LawfulScalar.eq_iff hupper honeFinite).mp hone).1
    | false =>
        simp only [Bool.false_eq_true, if_false, decide_eq_true_eq] at hone
        exact LawfulScalar.le_of_lt hone
  exact within_one hmean (LawfulScalar.le_trans hlowest hlow)
    (LawfulScalar.le_trans hhigh hhighest)

theorem validBin_counts {previous : Option Float} {last : Bool}
    {source : PolicyCalibrationBinInput}
    (h : validBin previous last source = true) :
    0 < source.samples ∧ source.successes ≤ source.samples := by
  simp only [validBin, Bool.and_eq_true, bne_iff_ne, decide_eq_true_eq] at h
  exact ⟨UInt64.pos_iff_ne_zero.mpr h.1.2, h.2⟩

/-- What the bin loop of `create` has checked. -/
theorem admitBins_ok {index : Nat} {previous : Option Float}
    {bins : List PolicyCalibrationBinInput} {total count : UInt64}
    (h : admitBins index previous bins total = .ok count)
    (htotal : total ≤ kMaximumSamples) :
    count ≤ kMaximumSamples ∧ total ≤ count
      ∧ ∀ source ∈ bins, source.samples ≤ count
        ∧ ∃ previous last, validBin previous last source = true := by
  induction bins generalizing index previous total with
  | nil =>
      cases h
      exact ⟨htotal, UInt64.le_refl _, fun source hsource => absurd hsource (by simp)⟩
  | cons source rest ih =>
      rw [admitBins, ite_failure_eq_ok, ite_failure_eq_ok] at h
      obtain ⟨hlimit, hvalid, hrest⟩ := h
      rw [not_or, UInt64.not_lt, UInt64.not_lt] at hlimit
      obtain ⟨hsamples, hroom⟩ := hlimit
      have hsum : (total + source.samples).toNat
          = total.toNat + source.samples.toNat := by
        rw [UInt64.le_iff_toNat_le, UInt64.toNat_sub_of_le _ _ hsamples] at hroom
        rw [UInt64.le_iff_toNat_le] at hsamples
        rw [UInt64.toNat_add, Nat.mod_eq_of_lt]
        rw [kMaximumSamples_toNat] at hsamples hroom
        omega
      have hnext : total + source.samples ≤ kMaximumSamples := by
        rw [UInt64.le_iff_toNat_le, hsum]
        rw [UInt64.le_iff_toNat_le, UInt64.toNat_sub_of_le _ _ hsamples] at hroom
        rw [UInt64.le_iff_toNat_le] at hsamples
        omega
      obtain ⟨hcount, hge, hall⟩ := ih hrest hnext
      have hge' : total.toNat + source.samples.toNat ≤ count.toNat := by
        rw [← hsum]
        exact UInt64.le_iff_toNat_le.mp hge
      refine ⟨hcount, UInt64.le_iff_toNat_le.mpr (by omega), ?_⟩
      intro other hother
      rcases List.mem_cons.mp hother with rfl | hother
      · exact ⟨UInt64.le_iff_toNat_le.mpr (by omega), previous, rest.isEmpty,
          by simpa using hvalid⟩
      · exact hall other hother

theorem soundProfile_of_create {P : Platform} {L : LongDouble}
    {input : PolicyCalibrationProfileInput}
    {profile : PolicyCalibrationProfile}
    (h : createProfile P L input = .ok profile) : SoundProfile profile := by
  rw [createProfile, ite_failure_eq_ok, ite_failure_eq_ok, bind_eq_ok] at h
  obtain ⟨hinput, hlength, count, hbins, hprofile⟩ := h
  cases hprofile
  obtain ⟨hcount, -, hall⟩ := admitBins_ok hbins (by decide)
  have hlt : count.toNat < 2 ^ 53 := by
    have := UInt64.le_iff_toNat_le.mp hcount
    rw [kMaximumSamples_toNat] at this
    omega
  have hsource : ∀ bin ∈ input.bins.map calibratedBin, ∃ source,
      bin = calibratedBin source ∧ Within 1 source.meanConfidence
        ∧ 0 < source.samples ∧ source.successes ≤ source.samples
        ∧ source.samples ≤ count := by
    intro bin hbin
    obtain ⟨source, hmem, rfl⟩ := List.mem_map.mp hbin
    obtain ⟨hle, previous, last, hvalid⟩ := hall source hmem
    obtain ⟨hpos, hsuccesses⟩ := validBin_counts hvalid
    exact ⟨source, rfl, within_meanConfidence hvalid, hpos, hsuccesses, hle⟩
  refine ⟨?_, ?_, ?_, ?_, ?_, hlt, by simpa using hlength⟩
  · intro bin hbin
    obtain ⟨source, rfl, hmean, -⟩ := hsource bin hbin
    exact hmean
  · intro bin hbin
    obtain ⟨source, rfl, -, hpos, hsuccesses, hle⟩ := hsource bin hbin
    exact within_fraction hsuccesses hpos
      ((UInt64.le_iff_toNat_le.mp hle).trans_lt hlt)
  · intro bin hbin
    obtain ⟨source, rfl, -, -, hsuccesses, -⟩ := hsource bin hbin
    exact hsuccesses
  · intro bin hbin
    obtain ⟨source, rfl, -, -, -, hle⟩ := hsource bin hbin
    exact hle
  · -- there is a bin, and it has samples
    obtain ⟨source, hmem⟩ : ∃ source, source ∈ input.bins := by
      cases hnil : input.bins with
      | nil =>
          rw [hnil] at hinput
          simp at hinput
      | cons source rest => exact ⟨source, List.mem_cons_self⟩
    obtain ⟨hle, previous, last, hvalid⟩ := hall source hmem
    have hpos := UInt64.lt_iff_toNat_lt.mp (validBin_counts hvalid).1
    have hle' := UInt64.le_iff_toNat_le.mp hle
    exact UInt64.lt_iff_toNat_lt.mpr (hpos.trans_le hle')

-- === windows

/-- The samples of a window, added up. -/
def windowSamples (bins : List PolicyCalibrationWindowBinInput) : ℕ :=
  (bins.map fun bin => bin.samples.toNat).sum

/-- The totals of a window are those of its bins. -/
structure SoundTotals (bins : List PolicyCalibrationWindowBinInput)
    (totals : WindowTotals) : Prop where
  limit : totals.samples.toNat ≤ 1000000000000
  total : windowSamples bins ≤ totals.samples.toNat
  successes : totals.successes ≤ totals.samples
  bins : ∀ bin ∈ bins, bin.successes ≤ bin.samples
    ∧ bin.samples ≤ totals.samples

/-- What the first loop over a window has checked. -/
theorem windowTotals_ok {minimum : UInt64}
    {bins : List PolicyCalibrationWindowBinInput} {before totals : WindowTotals}
    (h : windowTotals minimum bins before = .ok totals)
    (hlimit : before.samples.toNat ≤ 1000000000000)
    (hsuccesses : before.successes ≤ before.samples) :
    SoundTotals bins totals
      ∧ before.samples.toNat + windowSamples bins = totals.samples.toNat := by
  induction bins generalizing before with
  | nil =>
      cases h
      exact ⟨⟨hlimit, Nat.zero_le _, hsuccesses,
        fun bin hbin => absurd hbin (by simp)⟩, rfl⟩
  | cons bin rest ih =>
      rw [windowTotals, ite_failure_eq_ok, ite_failure_eq_ok] at h
      obtain ⟨hroom, hbin, hrest⟩ := h
      rw [not_or, UInt64.not_lt, UInt64.not_lt] at hroom
      rw [UInt64.not_lt] at hbin
      obtain ⟨hsamples, hroom⟩ := hroom
      rw [UInt64.le_iff_toNat_le, UInt64.toNat_sub_of_le _ _ hsamples] at hroom
      rw [UInt64.le_iff_toNat_le] at hsamples hsuccesses
      rw [kMaximumSamples_toNat] at hsamples hroom
      have hbin' := UInt64.le_iff_toNat_le.mp hbin
      have hsum : (before.samples + bin.samples).toNat
          = before.samples.toNat + bin.samples.toNat := by
        rw [UInt64.toNat_add, Nat.mod_eq_of_lt (by omega)]
      have hwins : (before.successes + bin.successes).toNat
          = before.successes.toNat + bin.successes.toNat := by
        rw [UInt64.toNat_add, Nat.mod_eq_of_lt (by omega)]
      obtain ⟨hsound, htotal⟩ := ih hrest
        (show (before.samples + bin.samples).toNat ≤ _ by omega)
        (UInt64.le_iff_toNat_le.mpr
          (show (before.successes + bin.successes).toNat
            ≤ (before.samples + bin.samples).toNat by omega))
      have htotal' : before.samples.toNat + bin.samples.toNat
          + windowSamples rest = totals.samples.toNat := by
        rw [← hsum]
        exact htotal
      have hwindow : windowSamples (bin :: rest)
          = bin.samples.toNat + windowSamples rest := by
        rw [windowSamples, List.map_cons, List.sum_cons]
        rfl
      rw [hwindow]
      refine ⟨⟨hsound.limit, by omega, hsound.successes, ?_⟩, by omega⟩
      intro other hother
      rcases List.mem_cons.mp hother with rfl | hother
      · exact ⟨hbin, UInt64.le_iff_toNat_le.mpr (by omega)⟩
      · exact hsound.bins other hother

theorem within_countFraction {count totalSamples : UInt64}
    (hle : count ≤ totalSamples) (hlt : totalSamples.toNat < 2 ^ 53) :
    Within 1 (countFraction count totalSamples) := by
  unfold countFraction
  split
  · exact within_zero 1
  · exact within_fraction hle (UInt64.pos_iff_ne_zero.mpr ‹_›) hlt

-- === reports

/-- The numbers of a bin of a report. -/
structure FiniteWindowBin (bin : PolicyCalibrationWindowBin) : Prop where
  baselineFraction : Within 1 bin.baselineFraction
  observedFraction : Within 1 bin.observedFraction
  baselineSuccessRate : Within 1 bin.baselineSuccessRate
  observedSuccessRate : Within 1 bin.observedSuccessRate
  successRateDrop : Within 2 bin.successRateDrop
  absoluteCalibrationError : Within 2 bin.absoluteCalibrationError

theorem windowBin_samples (sampleCount totalSamples : UInt64)
    (baseline : PolicyCalibrationBin)
    (observed : PolicyCalibrationWindowBinInput) :
    (windowBin sampleCount totalSamples baseline observed).samples
      = observed.samples := by
  unfold windowBin
  split <;> rfl

theorem windowBin_successes (sampleCount totalSamples : UInt64)
    (baseline : PolicyCalibrationBin)
    (observed : PolicyCalibrationWindowBinInput) :
    (windowBin sampleCount totalSamples baseline observed).successes
      = observed.successes := by
  unfold windowBin
  split <;> rfl

theorem finite_windowBin {profile : PolicyCalibrationProfile}
    {window : List PolicyCalibrationWindowBinInput} {totals : WindowTotals}
    {baseline : PolicyCalibrationBin}
    {observed : PolicyCalibrationWindowBinInput}
    (hprofile : SoundProfile profile) (htotals : SoundTotals window totals)
    (hbaseline : baseline ∈ profile.bins) (hobserved : observed ∈ window) :
    FiniteWindowBin
      (windowBin profile.sampleCount totals.samples baseline observed) := by
  have hlimit := htotals.limit
  obtain ⟨hwins, htotal⟩ := htotals.bins observed hobserved
  have hbaselineFraction : Within 1
      (baseline.samples.toFloat / profile.sampleCount.toFloat) :=
    within_fraction (hprofile.samples baseline hbaseline)
      hprofile.sampleCount_pos hprofile.sampleCount_lt
  have hobservedFraction : Within 1
      (countFraction observed.samples totals.samples) :=
    within_countFraction htotal (by omega)
  have hrate := hprofile.observedSuccessRate baseline hbaseline
  unfold windowBin
  split
  case isTrue =>
    exact ⟨hbaselineFraction, hobservedFraction, hrate, within_zero 1,
      within_zero 2, within_zero 2⟩
  case isFalse hsamples =>
    have hobservedRate : Within 1
        (observed.successes.toFloat / observed.samples.toFloat) := by
      have := UInt64.le_iff_toNat_le.mp htotal
      exact within_fraction hwins (UInt64.pos_iff_ne_zero.mpr hsamples)
        (by omega)
    refine ⟨hbaselineFraction, hobservedFraction, hrate, hobservedRate, ?_, ?_⟩
    · exact (within_zero 2).max
        (hrate.sub hobservedRate two_pos (by norm_num))
    · have hmean := hprofile.meanConfidence baseline hbaseline
      exact (hmean.sub hobservedRate two_pos (by norm_num)).abs two_pos
        (by norm_num)

/-- The numbers of a report. -/
structure FiniteReport (report : PolicyCalibrationDriftReport) : Prop where
  options : validDriftOptions report.options = true
  bins : ∀ bin ∈ report.bins, FiniteWindowBin bin
  totalVariationDistance : report.totalVariationDistance.isFinite = true
  baselineSuccessRate : report.baselineSuccessRate.isFinite = true
  observedSuccessRate : report.observedSuccessRate.isFinite = true
  overallSuccessRateDrop : report.overallSuccessRateDrop.isFinite = true
  expectedCalibrationError : report.expectedCalibrationError.isFinite = true
  maximumCalibrationError : report.maximumCalibrationError.isFinite = true
  maximumBinSuccessRateDrop : report.maximumBinSuccessRateDrop.isFinite = true

theorem equalOptions_refl {options : PolicyCalibrationDriftOptions}
    (h : validDriftOptions options = true) :
    equalOptions options options = true := by
  simp only [validDriftOptions, finiteUnitInterval, Bool.and_eq_true] at h
  obtain ⟨⟨⟨⟨-, ⟨hvariation, -⟩, -⟩, ⟨herror, -⟩, -⟩, ⟨hoverall, -⟩, -⟩,
    ⟨hbin, -⟩, -⟩ := h
  simp only [equalOptions, approximatelyEqual_refl hvariation,
    approximatelyEqual_refl herror, approximatelyEqual_refl hoverall,
    approximatelyEqual_refl hbin, beq_self_eq_true, Bool.and_self]

theorem equalWindowBin_refl {bin : PolicyCalibrationWindowBin}
    (h : FiniteWindowBin bin) : equalWindowBin bin bin = true := by
  simp only [equalWindowBin, approximatelyEqual_refl h.baselineFraction.finite,
    approximatelyEqual_refl h.observedFraction.finite,
    approximatelyEqual_refl h.baselineSuccessRate.finite,
    approximatelyEqual_refl h.observedSuccessRate.finite,
    approximatelyEqual_refl h.successRateDrop.finite,
    approximatelyEqual_refl h.absoluteCalibrationError.finite,
    beq_self_eq_true, Bool.and_self]

/-- A report whose numbers are finite agrees with itself. -/
theorem equalReport_refl {report : PolicyCalibrationDriftReport}
    (h : FiniteReport report) : equalReport report report = true := by
  have hbins : ((report.bins.zip report.bins).all fun bins =>
      equalWindowBin bins.1 bins.2) = true := by
    rw [List.zip_eq_zipWith, List.zipWith_self, List.all_map,
      List.all_eq_true]
    exact fun bin hbin => equalWindowBin_refl (h.bins bin hbin)
  simp only [equalReport, equalOptions_refl h.options, hbins,
    approximatelyEqual_refl h.totalVariationDistance,
    approximatelyEqual_refl h.baselineSuccessRate,
    approximatelyEqual_refl h.observedSuccessRate,
    approximatelyEqual_refl h.overallSuccessRateDrop,
    approximatelyEqual_refl h.expectedCalibrationError,
    approximatelyEqual_refl h.maximumCalibrationError,
    approximatelyEqual_refl h.maximumBinSuccessRateDrop,
    beq_self_eq_true, Bool.and_self]

/-- The samples of the bins that have a rate are at most those of the
window. -/
theorem totalWeight_available {profile : PolicyCalibrationProfile}
    {window : List PolicyCalibrationWindowBinInput} (totals : WindowTotals)
    (hlength : window.length = profile.bins.length) :
    totalWeight ((((profile.bins.zip window).map fun bins =>
        windowBin profile.sampleCount totals.samples bins.1 bins.2).filter
          (·.outcomeRateAvailable)).map fun bin =>
        (bin.samples, bin.absoluteCalibrationError)) ≤ windowSamples window := by
  rw [totalWeight, windowSamples, List.map_map]
  refine ((List.filter_sublist.map _).sum_le_sum ?_).trans ?_
  · exact fun count _ => Nat.zero_le count
  · rw [List.map_map]
    have hsnd : (profile.bins.zip window).map Prod.snd = window :=
      List.map_snd_zip hlength.le
    conv_rhs => rw [← hsnd, List.map_map]
    apply le_of_eq
    congr 1
    apply List.map_congr_left
    intro bins _
    simp only [Function.comp_apply, windowBin_samples]

/-- The share of a bin's successes among all samples. -/
theorem within_share {profile : PolicyCalibrationProfile}
    (h : SoundProfile profile) {bin : PolicyCalibrationBin}
    (hbin : bin ∈ profile.bins) :
    Within 1 (bin.successes.toFloat / profile.sampleCount.toFloat) := by
  have hwins := UInt64.le_iff_toNat_le.mp (h.successes bin hbin)
  have hall := UInt64.le_iff_toNat_le.mp (h.samples bin hbin)
  exact within_fraction (UInt64.le_iff_toNat_le.mpr (hwins.trans hall))
    h.sampleCount_pos h.sampleCount_lt

theorem within_baselineRate {profile : PolicyCalibrationProfile}
    (h : SoundProfile profile) :
    Within 4096 (profile.bins.foldl (fun rate bin =>
      rate + bin.successes.toFloat / profile.sampleCount.toFloat) 0) := by
  have hlength : profile.bins.length ≤ 4096 := h.length
  have hsum := within_foldl_add (N := 1) one_pos (within_zero 0)
    (fun _ hbin => within_share h hbin) (by omega)
  exact hsum.mono (by omega)

theorem within_variation {bins : List PolicyCalibrationWindowBin}
    (hbins : ∀ bin ∈ bins, FiniteWindowBin bin) (hlength : bins.length ≤ 4096) :
    Within 8192 (bins.foldl (fun sum bin =>
      sum + (bin.baselineFraction - bin.observedFraction).abs) 0) := by
  have hitem : ∀ bin ∈ bins,
      Within 2 (bin.baselineFraction - bin.observedFraction).abs := by
    intro bin hbin
    have h := hbins bin hbin
    exact (h.baselineFraction.sub h.observedFraction two_pos
      (by norm_num)).abs two_pos (by norm_num)
  have hsum := within_foldl_add two_pos (within_zero 0) hitem (by omega)
  exact hsum.mono (by omega)

/-- Every number of a report on a sound profile is finite. -/
theorem finite_driftReport (P : Platform) {L : LongDouble}
    {profile : PolicyCalibrationProfile} {window : PolicyCalibrationWindowInput}
    {options : PolicyCalibrationDriftOptions} {totals : WindowTotals}
    (hprofile : SoundProfile profile)
    (htotals : SoundTotals window.bins totals)
    (hlength : window.bins.length = profile.bins.length)
    (hoptions : validDriftOptions options = true) :
    FiniteReport (driftReport P L profile window options totals) := by
  have hlimit := htotals.limit
  have hbinCount := hprofile.length
  have hbins : ∀ bin ∈ (profile.bins.zip window.bins).map (fun bins =>
      windowBin profile.sampleCount totals.samples bins.1 bins.2),
      FiniteWindowBin bin := by
    intro bin hbin
    obtain ⟨bins, hmem, rfl⟩ := List.mem_map.mp hbin
    obtain ⟨hbaseline, hobserved⟩ := List.of_mem_zip hmem
    exact finite_windowBin hprofile htotals hbaseline hobserved
  have havailable : ∀ bin ∈ ((profile.bins.zip window.bins).map (fun bins =>
      windowBin profile.sampleCount totals.samples bins.1 bins.2)).filter
        (·.outcomeRateAvailable), FiniteWindowBin bin :=
    fun bin hbin => hbins bin (List.mem_of_mem_filter hbin)
  have hcount : ((profile.bins.zip window.bins).map (fun bins =>
      windowBin profile.sampleCount totals.samples bins.1 bins.2)).length
        ≤ 4096 := by
    rw [List.length_map, List.length_zip]
    exact (Nat.min_le_left _ _).trans hbinCount
  have hbaseline := within_baselineRate hprofile
  have hobserved : Within 1 (countFraction totals.successes totals.samples) :=
    within_countFraction htotals.successes (by omega)
  have hvariation := within_variation hbins hcount
  constructor
  case options => exact hoptions
  case bins => exact hbins
  case totalVariationDistance =>
    show Float.isFinite (if totals.samples = 0 then _ else _) = true
    split
    · rfl
    · have hhalf : Within 1 (0.5 : Float) := within_one rfl rfl rfl
      exact (hhalf.mul hvariation (by norm_num) (by norm_num)).finite
  case baselineSuccessRate => exact hbaseline.finite
  case observedSuccessRate => exact hobserved.finite
  case overallSuccessRateDrop =>
    exact ((within_zero _).max
      (hbaseline.sub hobserved (by norm_num) (by norm_num))).finite
  case expectedCalibrationError =>
    show Float.isFinite (if totals.samples = 0 then _ else _) = true
    split
    · rfl
    case isFalse hsamples =>
      refine (within_meanError (N := 2) ?_ two_pos (by norm_num)
        ((totalWeight_available totals hlength).trans htotals.total)
        (UInt64.pos_iff_ne_zero.mpr hsamples) (by omega)).finite
      intro error herror
      obtain ⟨bin, hbin, rfl⟩ := List.mem_map.mp herror
      exact (havailable bin hbin).absoluteCalibrationError
  case maximumCalibrationError =>
    exact (within_foldl_max (within_zero 2)
      (fun bin hbin => (havailable bin hbin).absoluteCalibrationError)).finite
  case maximumBinSuccessRateDrop =>
    exact (within_foldl_max (within_zero 2)
      (fun bin hbin => (havailable bin hbin).successRateDrop)).finite

/-- What an assessment has checked. -/
theorem drift_ok {P : Platform} {L : LongDouble}
    {profile : PolicyCalibrationProfile} {window : PolicyCalibrationWindowInput}
    {options : PolicyCalibrationDriftOptions}
    {report : PolicyCalibrationDriftReport}
    (h : assessPolicyCalibrationDrift P L profile window options = .ok report) :
    window.bins.length = profile.bins.length
      ∧ validDriftOptions options = true
      ∧ ∃ totals, SoundTotals window.bins totals
        ∧ report = driftReport P L profile window options totals := by
  rw [assessPolicyCalibrationDrift, ite_failure_eq_ok, bind_eq_ok] at h
  obtain ⟨hinput, totals, htotals, hreport⟩ := h
  simp only [Bool.or_eq_true, Bool.not_eq_true', bne_iff_ne, not_or,
    ne_eq, not_not, Bool.not_eq_false] at hinput
  obtain ⟨⟨-, hlength⟩, hoptions⟩ := hinput
  cases hreport
  exact ⟨hlength, hoptions, totals,
    (windowTotals_ok htotals (by decide) (by decide)).1, rfl⟩

/-- A report agrees with itself. -/
theorem equalReport_of_assess {P : Platform} {L : LongDouble}
    {profile : PolicyCalibrationProfile} {window : PolicyCalibrationWindowInput}
    {options : PolicyCalibrationDriftOptions}
    {report : PolicyCalibrationDriftReport} (hprofile : SoundProfile profile)
    (h : assessPolicyCalibrationDrift P L profile window options = .ok report) :
    equalReport report report = true := by
  obtain ⟨hlength, hoptions, totals, htotals, rfl⟩ := drift_ok h
  exact equalReport_refl (finite_driftReport P hprofile htotals hlength hoptions)

/-- A report keeps the window and the options it was made from. -/
theorem windowInput_of_assess {P : Platform} {L : LongDouble}
    {profile : PolicyCalibrationProfile} {window : PolicyCalibrationWindowInput}
    {options : PolicyCalibrationDriftOptions}
    {report : PolicyCalibrationDriftReport}
    (h : assessPolicyCalibrationDrift P L profile window options = .ok report) :
    windowInput report = window ∧ report.options = options := by
  obtain ⟨hlength, -, totals, -, rfl⟩ := drift_ok h
  refine ⟨?_, rfl⟩
  have hbins : ((profile.bins.zip window.bins).map fun bins =>
      windowBin profile.sampleCount totals.samples bins.1 bins.2).map
        (fun bin => ({ samples := bin.samples, successes := bin.successes } :
          PolicyCalibrationWindowBinInput)) = window.bins := by
    have hzip : (profile.bins.zip window.bins).map Prod.snd = window.bins :=
      List.map_snd_zip hlength.le
    rw [List.map_map]
    refine Eq.trans ?_ hzip
    apply List.map_congr_left
    intro bins _
    simp only [Function.comp_apply, windowBin_samples, windowBin_successes]
  cases window
  simp only [windowInput, driftReport, PolicyCalibrationWindowInput.mk.injEq,
    true_and]
  exact hbins

end RbfSafe
