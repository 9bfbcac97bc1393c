/-
`assess_policy_calibration_drift`: a window of outcomes against a profile.

The report keeps the window it was made from, so that it can be made
again; `equal_report` compares a stored report with the one made again.
-/
import RbfSafe.Calibration.Types

namespace RbfSafe

open Json

-- === windows

/-- `PolicyCalibrationWindowBinInput`. -/
structure PolicyCalibrationWindowBinInput where
  samples : UInt64 := 0
  successes : UInt64 := 0
deriving DecidableEq

/-- `PolicyCalibrationWindowInput`. -/
structure PolicyCalibrationWindowInput where
  windowId : Bytes
  sequence : UInt64
  sourceDigest : Bytes
  bins : List PolicyCalibrationWindowBinInput

/-- `PolicyCalibrationDriftOptions`. -/
structure PolicyCalibrationDriftOptions where
  minimumTotalSamples : UInt64 := 1000
  minimumBinSamples : UInt64 := 30
  maximumTotalVariationDistance : Float := 0.1
  maximumExpectedCalibrationError : Float := 0.1
  maximumOverallSuccessRateDrop : Float := 0.1
  maximumBinSuccessRateDrop : Float := 0.2

/-- `finite_unit_interval`. -/
def finiteUnitInterval (value : Float) : Bool :=
  value.isFinite && 0 ≤ value && value ≤ 1

/-- `valid_options` of a drift assessment. -/
def validDriftOptions (options : PolicyCalibrationDriftOptions) : Bool :=
  0 < options.minimumTotalSamples
    && options.minimumTotalSamples ≤ kMaximumSamples
    && 0 < options.minimumBinSamples
    && options.minimumBinSamples ≤ kMaximumSamples
    && finiteUnitInterval options.maximumTotalVariationDistance
    && finiteUnitInterval options.maximumExpectedCalibrationError
    && finiteUnitInterval options.maximumOverallSuccessRateDrop
    && finiteUnitInterval options.maximumBinSuccessRateDrop

-- === reports

/-- `PolicyCalibrationDriftStatus`. -/
inductive PolicyCalibrationDriftStatus where
  | insufficientData
  | stable
  | driftDetected
deriving DecidableEq, Repr

/-- `policy_calibration_drift_status_name`. -/
def PolicyCalibrationDriftStatus.name : PolicyCalibrationDriftStatus → Bytes
  | .insufficientData => ascii "insufficient-data"
  | .stable => ascii "stable"
  | .driftDetected => ascii "drift-detected"

/-- `PolicyCalibrationDriftReason`. -/
inductive PolicyCalibrationDriftReason where
  | insufficientTotalSamples
  | insufficientBinSamples
  | confidenceDistributionShift
  | expectedCalibrationErrorExceeded
  | overallSuccessRateDropExceeded
  | binSuccessRateDropExceeded
deriving DecidableEq, Repr

/-- `PolicyCalibrationWindowBin`. -/
structure PolicyCalibrationWindowBin where
  samples : UInt64 := 0
  successes : UInt64 := 0
  baselineFraction : Float := 0
  observedFraction : Float := 0
  baselineSuccessRate : Float := 0
  outcomeRateAvailable : Bool := false
  observedSuccessRate : Float := 0
  successRateDrop : Float := 0
  absoluteCalibrationError : Float := 0

/-- `PolicyCalibrationDriftReport`. -/
structure PolicyCalibrationDriftReport where
  id : Bytes
  profileId : Bytes
  windowId : Bytes
  windowSequence : UInt64
  sourceDigest : Bytes
  options : PolicyCalibrationDriftOptions
  status : PolicyCalibrationDriftStatus
  reasons : List PolicyCalibrationDriftReason
  sampleCount : UInt64
  totalVariationDistance : Float
  baselineSuccessRate : Float
  observedSuccessRate : Float
  overallSuccessRateDrop : Float
  expectedCalibrationError : Float
  maximumCalibrationError : Float
  maximumBinSuccessRateDrop : Float
  bins : List PolicyCalibrationWindowBin

/-- `drift_options_json`. -/
def driftOptionsJson (options : PolicyCalibrationDriftOptions) : Json :=
  .object (obj
    [("maximum_bin_success_rate_drop",
        Json.double options.maximumBinSuccessRateDrop),
      ("maximum_expected_calibration_error",
        Json.double options.maximumExpectedCalibrationError),
      ("maximum_overall_success_rate_drop",
        Json.double options.maximumOverallSuccessRateDrop),
      ("maximum_total_variation_distance",
        Json.double options.maximumTotalVariationDistance),
      ("minimum_bin_samples", uint options.minimumBinSamples.toNat),
      ("minimum_total_samples", uint options.minimumTotalSamples.toNat)])

/-- `drift_report_identity`. -/
def driftReportIdentity (P : Platform) (profile : PolicyCalibrationProfile)
    (window : PolicyCalibrationWindowInput)
    (options : PolicyCalibrationDriftOptions) : Bytes :=
  P.sha256 (dump P.toLibc false 0 (.object (obj
    [("bins", .array (window.bins.map fun bin => .object (obj
        [("samples", uint bin.samples.toNat),
          ("successes", uint bin.successes.toNat)]))),
      ("options", driftOptionsJson options),
      ("profile_id", .string profile.id),
      ("source_digest", .string window.sourceDigest),
      ("window_id", .string window.windowId),
      ("window_sequence", uint window.sequence.toNat)])))

-- === assessment

/-- What the first loop over the bins of a window adds up. -/
structure WindowTotals where
  samples : UInt64 := 0
  successes : UInt64 := 0
  insufficientBinSamples : Bool := false

/-- The first loop over the bins of a window. -/
def windowTotals (minimumBinSamples : UInt64) :
    List PolicyCalibrationWindowBinInput → WindowTotals → Result WindowTotals
  | [], totals => .ok totals
  | bin :: rest, totals =>
      if kMaximumSamples < bin.samples
          ∨ kMaximumSamples - bin.samples < totals.samples then
        failure .resourceLimit
          "policy calibration window exceeds sample limit"
      else if bin.samples < bin.successes then
        failure .invalidArgument "policy calibration window bin is invalid"
      else windowTotals minimumBinSamples rest
        { samples := totals.samples + bin.samples
          successes := totals.successes + bin.successes
          insufficientBinSamples := totals.insufficientBinSamples
            || (0 < bin.samples && bin.samples < minimumBinSamples) }

/-- The fraction of two counts, zero of none. -/
def countFraction (count totalSamples : UInt64) : Float :=
  if totalSamples = 0 then 0 else count.toFloat / totalSamples.toFloat

/-- The result of one bin. -/
def windowBin (sampleCount totalSamples : UInt64)
    (baseline : PolicyCalibrationBin)
    (observed : PolicyCalibrationWindowBinInput) :
    PolicyCalibrationWindowBin :=
  let result : PolicyCalibrationWindowBin :=
    { samples := observed.samples
      successes := observed.successes
      baselineFraction := baseline.samples.toFloat / sampleCount.toFloat
      observedFraction := countFraction observed.samples totalSamples
      baselineSuccessRate := baseline.observedSuccessRate
      outcomeRateAvailable := observed.samples != 0 }
  if observed.samples = 0 then result
  else
    let rate := observed.successes.toFloat / observed.samples.toFloat
    { result with
      observedSuccessRate := rate
      successRateDrop := Scalar.max 0 (result.baselineSuccessRate - rate)
      absoluteCalibrationError := (baseline.meanConfidence - rate).abs }

/-- The reasons of a report that has enough samples. -/
def driftReasons (options : PolicyCalibrationDriftOptions)
    (totalVariationDistance expectedCalibrationError overallSuccessRateDrop
      maximumBinSuccessRateDrop : Float) :
    List PolicyCalibrationDriftReason :=
  (if options.maximumTotalVariationDistance < totalVariationDistance then
      [.confidenceDistributionShift] else [])
    ++ (if options.maximumExpectedCalibrationError
        < expectedCalibrationError then
      [.expectedCalibrationErrorExceeded] else [])
    ++ (if options.maximumOverallSuccessRateDrop
        < overallSuccessRateDrop then
      [.overallSuccessRateDropExceeded] else [])
    ++ (if options.maximumBinSuccessRateDrop
        < maximumBinSuccessRateDrop then
      [.binSuccessRateDropExceeded] else [])

/-- The reasons of a report that has too few samples. -/
def insufficiencyReasons (options : PolicyCalibrationDriftOptions)
    (totals : WindowTotals) : List PolicyCalibrationDriftReason :=
  (if totals.samples < options.minimumTotalSamples then
      [.insufficientTotalSamples] else [])
    ++ (if totals.insufficientBinSamples then [.insufficientBinSamples] else [])

/-- The status and the reasons of a report. -/
def driftVerdict (insufficient drifted : List PolicyCalibrationDriftReason) :
    PolicyCalibrationDriftStatus × List PolicyCalibrationDriftReason :=
  if insufficient ≠ [] then (.insufficientData, insufficient)
  else if drifted = [] then (.stable, [])
  else (.driftDetected, drifted)

section
variable (P : Platform) (L : LongDouble)

/-- The report on a window that has been added up. -/
def driftReport (profile : PolicyCalibrationProfile)
    (window : PolicyCalibrationWindowInput)
    (options : PolicyCalibrationDriftOptions) (totals : WindowTotals) :
    PolicyCalibrationDriftReport :=
  let bins := (profile.bins.zip window.bins).map fun bins =>
    windowBin profile.sampleCount totals.samples bins.1 bins.2
  let available := bins.filter (·.outcomeRateAvailable)
  let baselineSuccessRate := profile.bins.foldl (fun rate bin =>
    rate + bin.successes.toFloat / profile.sampleCount.toFloat) 0
  let observedSuccessRate := countFraction totals.successes totals.samples
  let overallSuccessRateDrop :=
    Scalar.max 0 (baselineSuccessRate - observedSuccessRate)
  let maximumCalibrationError := available.foldl (fun maximum bin =>
    Scalar.max maximum bin.absoluteCalibrationError) 0
  let maximumBinSuccessRateDrop := available.foldl (fun maximum bin =>
    Scalar.max maximum bin.successRateDrop) 0
  let variationSum := bins.foldl (fun sum bin =>
    sum + (bin.baselineFraction - bin.observedFraction).abs) 0
  let totalVariationDistance :=
    if totals.samples = 0 then 1 else 0.5 * variationSum
  let expectedCalibrationError :=
    if totals.samples = 0 then 0
    else meanError L (available.map fun bin =>
      (bin.samples, bin.absoluteCalibrationError)) totals.samples
  let verdict := driftVerdict (insufficiencyReasons options totals)
    (driftReasons options totalVariationDistance expectedCalibrationError
      overallSuccessRateDrop maximumBinSuccessRateDrop)
  { id := driftReportIdentity P profile window options
    profileId := profile.id
    windowId := window.windowId
    windowSequence := window.sequence
    sourceDigest := window.sourceDigest
    options
    status := verdict.1
    reasons := verdict.2
    sampleCount := totals.samples
    totalVariationDistance
    baselineSuccessRate
    observedSuccessRate
    overallSuccessRateDrop
    expectedCalibrationError
    maximumCalibrationError
    maximumBinSuccessRateDrop
    bins }

/-- `assess_policy_calibration_drift`. -/
def assessPolicyCalibrationDrift (profile : PolicyCalibrationProfile)
    (window : PolicyCalibrationWindowInput)
    (options : PolicyCalibrationDriftOptions) :
    Result PolicyCalibrationDriftReport :=
  if (!profile.valid P L || !validIdentifier window.windowId
      || !validSha256 window.sourceDigest
      || window.bins.length != profile.bins.length
      || !validDriftOptions options) = true then
    failure .invalidArgument "policy calibration drift input is invalid"
  else do
    let totals ← windowTotals options.minimumBinSamples window.bins {}
    .ok (driftReport P L profile window options totals)

end

-- === comparison

/-- `equal_options`. -/
def equalOptions (first second : PolicyCalibrationDriftOptions) : Bool :=
  first.minimumTotalSamples == second.minimumTotalSamples
    && first.minimumBinSamples == second.minimumBinSamples
    && approximatelyEqual first.maximumTotalVariationDistance
      second.maximumTotalVariationDistance
    && approximatelyEqual first.maximumExpectedCalibrationError
      second.maximumExpectedCalibrationError
    && approximatelyEqual first.maximumOverallSuccessRateDrop
      second.maximumOverallSuccessRateDrop
    && approximatelyEqual first.maximumBinSuccessRateDrop
      second.maximumBinSuccessRateDrop

/-- The bins of `equal_report`. -/
def equalWindowBin (left right : PolicyCalibrationWindowBin) : Bool :=
  left.samples == right.samples && left.successes == right.successes
    && left.outcomeRateAvailable == right.outcomeRateAvailable
    && approximatelyEqual left.baselineFraction right.baselineFraction
    && approximatelyEqual left.observedFraction right.observedFraction
    && approximatelyEqual left.baselineSuccessRate right.baselineSuccessRate
    && approximatelyEqual left.observedSuccessRate right.observedSuccessRate
    && approximatelyEqual left.successRateDrop right.successRateDrop
    && approximatelyEqual left.absoluteCalibrationError
      right.absoluteCalibrationError

/-- `equal_report`. -/
def equalReport (first second : PolicyCalibrationDriftReport) : Bool :=
  first.id == second.id && first.profileId == second.profileId
    && first.windowId == second.windowId
    && first.windowSequence == second.windowSequence
    && first.sourceDigest == second.sourceDigest
    && equalOptions first.options second.options
    && first.status == second.status && first.reasons == second.reasons
    && first.sampleCount == second.sampleCount
    && first.bins.length == second.bins.length
    && approximatelyEqual first.totalVariationDistance
      second.totalVariationDistance
    && approximatelyEqual first.baselineSuccessRate second.baselineSuccessRate
    && approximatelyEqual first.observedSuccessRate second.observedSuccessRate
    && approximatelyEqual first.overallSuccessRateDrop
      second.overallSuccessRateDrop
    && approximatelyEqual first.expectedCalibrationError
      second.expectedCalibrationError
    && approximatelyEqual first.maximumCalibrationError
      second.maximumCalibrationError
    && approximatelyEqual first.maximumBinSuccessRateDrop
      second.maximumBinSuccessRateDrop
    && (first.bins.zip second.bins).all fun bins =>
      equalWindowBin bins.1 bins.2

/-- `window_input`. -/
def windowInput (report : PolicyCalibrationDriftReport) :
    PolicyCalibrationWindowInput where
  windowId := report.windowId
  sequence := report.windowSequence
  sourceDigest := report.sourceDigest
  bins := report.bins.map fun bin =>
    { samples := bin.samples, successes := bin.successes }

end RbfSafe
