/-
`calibration.cpp`: calibration profiles of a policy.

A profile divides the confidences from zero to one into bins and records
how often the policy succeeded in each. What is derived from the counts
is stored with them, and `valid` derives it again: numbers agree if they
agree up to a tolerance.
-/
import RbfSafe.Core.Rounding

namespace RbfSafe

open Json

-- === numbers

/-- `approximately_equal`, as both translation units have it. -/
def approximatelyEqual (first second : Float) : Bool :=
  (first - second).abs
    ≤ 1e-12 * Scalar.max (Scalar.max 1 first.abs) second.abs

/-- `kMaximumSamples`. -/
def kMaximumSamples : UInt64 := 1000000000000

/-- `kWilsonZ95`. -/
def kWilsonZ95 : Float := 1.959963984540054

/-- `wilson_lower_bound`. -/
def wilsonLowerBound (successes samples : UInt64) : Float :=
  let count := samples.toFloat
  let probability := successes.toFloat / count
  let zSquared := kWilsonZ95 * kWilsonZ95
  let denominator := 1 + zSquared / count
  let center := probability + zSquared / (2 * count)
  let margin := kWilsonZ95
    * ((probability * (1 - probability) + zSquared / (4 * count)) / count).sqrt
  Scalar.max 0 ((center - margin) / denominator)

-- === profiles

/-- `PolicyCalibrationBinInput`. -/
structure PolicyCalibrationBinInput where
  lowerConfidence : Float := 0
  upperConfidence : Float := 1
  meanConfidence : Float := 0.5
  samples : UInt64 := 0
  successes : UInt64 := 0

/-- `PolicyCalibrationProfileInput`. -/
structure PolicyCalibrationProfileInput where
  policyId : Bytes := []
  policyModelDigest : Bytes := []
  scopeId : Bytes := []
  taskId : Bytes := []
  datasetDigest : Bytes := []
  method : Bytes := []
  methodVersion : Bytes := []
  outcomeDefinition : Bytes := []
  stateUncertaintyUnit : Bytes := []
  actionUncertaintyUnit : Bytes := []
  bins : List PolicyCalibrationBinInput := []

/-- `PolicyCalibrationBin`. -/
structure PolicyCalibrationBin where
  lowerConfidence : Float
  upperConfidence : Float
  meanConfidence : Float
  samples : UInt64
  successes : UInt64
  observedSuccessRate : Float
  lowerConfidenceBound95 : Float
  absoluteCalibrationError : Float

/-- `PolicyCalibrationProfile`. -/
structure PolicyCalibrationProfile where
  id : Bytes := []
  policyId : Bytes := []
  policyModelDigest : Bytes := []
  scopeId : Bytes := []
  taskId : Bytes := []
  datasetDigest : Bytes := []
  method : Bytes := []
  methodVersion : Bytes := []
  outcomeDefinition : Bytes := []
  stateUncertaintyUnit : Bytes := []
  actionUncertaintyUnit : Bytes := []
  bins : List PolicyCalibrationBin := []
  sampleCount : UInt64 := 0
  expectedCalibrationError : Float := 0
  maximumCalibrationError : Float := 0

/-- `kMaximumTextBytes` of a profile. -/
def kMaximumCalibrationTextBytes : Nat := 256

/-- `kMaximumOutcomeBytes`. -/
def kMaximumOutcomeBytes : Nat := 1024

/-- `kMaximumBins`. -/
def kMaximumBins : Nat := 4096

/-- `bin_input_json`. -/
def binInputJson (bin : PolicyCalibrationBinInput) : Json :=
  .object (obj
    [("lower_confidence", Json.double bin.lowerConfidence),
      ("mean_confidence", Json.double bin.meanConfidence),
      ("samples", uint bin.samples.toNat),
      ("successes", uint bin.successes.toNat),
      ("upper_confidence", Json.double bin.upperConfidence)])

/-- `profile_identity_json`. -/
def profileIdentityJson (input : PolicyCalibrationProfileInput) : Json :=
  .object (obj
    [("action_uncertainty_unit", .string input.actionUncertaintyUnit),
      ("bins", .array (input.bins.map binInputJson)),
      ("dataset_digest", .string input.datasetDigest),
      ("method", .string input.method),
      ("method_version", .string input.methodVersion),
      ("outcome_definition", .string input.outcomeDefinition),
      ("policy_id", .string input.policyId),
      ("policy_model_digest", .string input.policyModelDigest),
      ("scope_id", .string input.scopeId),
      ("state_uncertainty_unit", .string input.stateUncertaintyUnit),
      ("task_id", .string input.taskId)])

/-- `profile_input`. -/
def profileInput (profile : PolicyCalibrationProfile) :
    PolicyCalibrationProfileInput where
  policyId := profile.policyId
  policyModelDigest := profile.policyModelDigest
  scopeId := profile.scopeId
  taskId := profile.taskId
  datasetDigest := profile.datasetDigest
  method := profile.method
  methodVersion := profile.methodVersion
  outcomeDefinition := profile.outcomeDefinition
  stateUncertaintyUnit := profile.stateUncertaintyUnit
  actionUncertaintyUnit := profile.actionUncertaintyUnit
  bins := profile.bins.map fun bin =>
    { lowerConfidence := bin.lowerConfidence
      upperConfidence := bin.upperConfidence
      meanConfidence := bin.meanConfidence
      samples := bin.samples
      successes := bin.successes }

/-- Whether a bin continues the ones before it; `previous` is the upper
bound of the last of them. -/
def validBin (previous : Option Float) (last : Bool)
    (source : PolicyCalibrationBinInput) : Bool :=
  source.lowerConfidence.isFinite && source.upperConfidence.isFinite
    && source.meanConfidence.isFinite && !(source.lowerConfidence < 0)
    && source.lowerConfidence == previous.getD 0
    && (if last then source.upperConfidence == 1
      else source.upperConfidence < 1)
    && !(source.upperConfidence ≤ source.lowerConfidence)
    && !(source.meanConfidence < source.lowerConfidence)
    && !(if last then decide (source.upperConfidence < source.meanConfidence)
      else decide (source.upperConfidence ≤ source.meanConfidence))
    && source.samples != 0 && source.successes ≤ source.samples

/-- The bin loop of `PolicyCalibrationProfile::create`, which returns the
number of samples. -/
def admitBins : Nat → Option Float → List PolicyCalibrationBinInput →
    UInt64 → Result UInt64
  | _, _, [], totalSamples => .ok totalSamples
  | index, previous, source :: rest, totalSamples =>
      if kMaximumSamples < source.samples
          ∨ kMaximumSamples - source.samples < totalSamples then
        failure .resourceLimit "policy calibration sample count exceeds limit"
      else if validBin previous rest.isEmpty source = false then
        failure .invalidArgument "policy calibration bin is invalid"
          (stdToString index)
      else admitBins (index + 1) (some source.upperConfidence) rest
        (totalSamples + source.samples)

/-- The bin a profile keeps. -/
def calibratedBin (source : PolicyCalibrationBinInput) :
    PolicyCalibrationBin :=
  let observed := source.successes.toFloat / source.samples.toFloat
  { lowerConfidence := source.lowerConfidence
    upperConfidence := source.upperConfidence
    meanConfidence := source.meanConfidence
    samples := source.samples
    successes := source.successes
    observedSuccessRate := observed
    lowerConfidenceBound95 := wilsonLowerBound source.successes source.samples
    absoluteCalibrationError := (source.meanConfidence - observed).abs }

/-- The sum `weighted_error` of errors and the samples they are of, in
`long double`. -/
def weightedError (L : LongDouble) (errors : List (UInt64 × Float)) :
    Float.Model.UnpackedFloat :=
  errors.foldl (fun weighted error =>
    .add L.format weighted
      (.mul L.format (.ofUInt64 L.format error.1) (L.ofDouble error.2)))
    (.zero .positive)

/-- `weighted_error / total_samples`. -/
def meanError (L : LongDouble) (errors : List (UInt64 × Float))
    (totalSamples : UInt64) : Float :=
  LongDouble.toDouble (.div L.format (weightedError L errors)
    (.ofUInt64 L.format totalSamples))

section
variable (P : Platform) (L : LongDouble)

/-- `PolicyCalibrationProfile::create`. -/
def createProfile (input : PolicyCalibrationProfileInput) :
    Result PolicyCalibrationProfile :=
  let text (value : Bytes) := validText value kMaximumCalibrationTextBytes
  if (!text input.policyId || !validSha256 input.policyModelDigest
      || !text input.scopeId || !text input.taskId
      || !validSha256 input.datasetDigest || !text input.method
      || !text input.methodVersion
      || !validText input.outcomeDefinition kMaximumOutcomeBytes
      || !text input.stateUncertaintyUnit
      || !text input.actionUncertaintyUnit || input.bins.isEmpty) = true then
    failure .invalidArgument "policy calibration profile input is invalid"
  else if kMaximumBins < input.bins.length then
    failure .resourceLimit "policy calibration profile exceeds bin limit"
  else do
    let totalSamples ← admitBins 0 none input.bins 0
    let bins := input.bins.map calibratedBin
    .ok
      { id := P.sha256 (dump P.toLibc false 0 (profileIdentityJson input))
        policyId := input.policyId
        policyModelDigest := input.policyModelDigest
        scopeId := input.scopeId
        taskId := input.taskId
        datasetDigest := input.datasetDigest
        method := input.method
        methodVersion := input.methodVersion
        outcomeDefinition := input.outcomeDefinition
        stateUncertaintyUnit := input.stateUncertaintyUnit
        actionUncertaintyUnit := input.actionUncertaintyUnit
        bins
        sampleCount := totalSamples
        expectedCalibrationError := meanError L
          (bins.map fun bin => (bin.samples, bin.absoluteCalibrationError))
          totalSamples
        maximumCalibrationError := bins.foldl (fun maximum bin =>
          Scalar.max maximum bin.absoluteCalibrationError) 0 }

/-- The derived numbers of two bins agree. -/
def equalBin (expected actual : PolicyCalibrationBin) : Bool :=
  approximatelyEqual expected.observedSuccessRate actual.observedSuccessRate
    && approximatelyEqual expected.lowerConfidenceBound95
      actual.lowerConfidenceBound95
    && approximatelyEqual expected.absoluteCalibrationError
      actual.absoluteCalibrationError

/-- `PolicyCalibrationProfile::valid`. -/
def PolicyCalibrationProfile.valid (profile : PolicyCalibrationProfile) :
    Bool :=
  match createProfile P L (profileInput profile) with
  | .error _ => false
  | .ok rebuilt =>
      decide (rebuilt.id = profile.id)
        && decide (rebuilt.sampleCount = profile.sampleCount)
        && approximatelyEqual rebuilt.expectedCalibrationError
          profile.expectedCalibrationError
        && approximatelyEqual rebuilt.maximumCalibrationError
          profile.maximumCalibrationError
        && decide (rebuilt.bins.length = profile.bins.length)
        && (rebuilt.bins.zip profile.bins).all fun bins =>
          equalBin bins.1 bins.2

end

end RbfSafe
