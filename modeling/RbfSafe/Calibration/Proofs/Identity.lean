/-
What the identity of a profile tells apart.

A profile is hashed as the document of what it was created from. Its
numbers are finite, so they print as what they are, and profiles whose
documents are alike are the same profile.
-/
import RbfSafe.Calibration.Proofs.Numbers
import RbfSafe.Core.Proofs.Doubles

namespace RbfSafe

open Json

/-- What the identity of a profile is the digest of. -/
def profileDocument (L : Libc) (profile : PolicyCalibrationProfile) : Bytes :=
  dump L false 0 (profileIdentityJson (profileInput profile))

-- === documents

/-- The bounds and the mean of a bin are finite. -/
def FiniteBinInput (bin : PolicyCalibrationBinInput) : Prop :=
  bin.lowerConfidence.isFinite = true ∧ bin.upperConfidence.isFinite = true
    ∧ bin.meanConfidence.isFinite = true

theorem FiniteBinInput.of_validBin {previous : Option Float} {last : Bool}
    {source : PolicyCalibrationBinInput}
    (h : validBin previous last source = true) : FiniteBinInput source := by
  simp only [validBin, Bool.and_eq_true] at h
  obtain ⟨⟨⟨⟨⟨⟨⟨⟨⟨⟨hlower, hupper⟩, hmean⟩, -⟩, -⟩, -⟩, -⟩, -⟩, -⟩, -⟩, -⟩ := h
  exact ⟨hlower, hupper, hmean⟩

/-- The fields of a bin. -/
def binInputFields (bin : PolicyCalibrationBinInput) : List (String × Json) :=
  [("lower_confidence", Json.double bin.lowerConfidence),
    ("mean_confidence", Json.double bin.meanConfidence),
    ("samples", uint bin.samples.toNat),
    ("successes", uint bin.successes.toNat),
    ("upper_confidence", Json.double bin.upperConfidence)]

theorem fits_binInputFields {levels : Nat} {bin : PolicyCalibrationBinInput}
    (h : FiniteBinInput bin) :
    ∀ field ∈ binInputFields bin, Fits (levels + 1) field.2 := by
  obtain ⟨hlower, hupper, hmean⟩ := h
  intro field hfield
  simp only [binInputFields, List.mem_cons, List.not_mem_nil, or_false]
    at hfield
  rcases hfield with rfl | rfl | rfl | rfl | rfl
  · exact fits_double hlower
  · exact fits_double hmean
  · exact .string _
  · exact .string _
  · exact fits_double hupper

theorem binInputJson_inj (L : Libc) {first second : PolicyCalibrationBinInput}
    (hfirst : FiniteBinInput first) (hsecond : FiniteBinInput second)
    (h : binInputJson first = binInputJson second) : first = second := by
  have hfields : binInputFields first = binInputFields second := by
    apply values_of_dump_eq L
    · rfl
    · show [ascii "lower_confidence", ascii "mean_confidence",
        ascii "samples", ascii "successes", ascii "upper_confidence"].Nodup
      decide
    · exact fits_binInputFields hfirst
    · exact fits_binInputFields hsecond
    · exact congrArg (dump L false 0) h
  simp only [binInputFields, List.cons.injEq, Prod.mk.injEq, true_and,
    and_true] at hfields
  obtain ⟨hlower, hmean, hsamples, hsuccesses, hupper⟩ := hfields
  cases first
  cases second
  simp only [PolicyCalibrationBinInput.mk.injEq]
  exact ⟨double_inj hfirst.1 hsecond.1 hlower,
    double_inj hfirst.2.1 hsecond.2.1 hupper,
    double_inj hfirst.2.2 hsecond.2.2 hmean,
    UInt64.toNat_inj.mp (uint_inj hsamples),
    UInt64.toNat_inj.mp (uint_inj hsuccesses)⟩

theorem binInputs_inj (L : Libc) {first second : List PolicyCalibrationBinInput}
    (hfirst : ∀ bin ∈ first, FiniteBinInput bin)
    (hsecond : ∀ bin ∈ second, FiniteBinInput bin)
    (h : first.map binInputJson = second.map binInputJson) :
    first = second := by
  induction first generalizing second with
  | nil => exact (List.map_eq_nil_iff.mp h.symm).symm
  | cons bin first ih =>
      cases second with
      | nil => cases h
      | cons other second =>
          rw [List.map_cons, List.map_cons, List.cons.injEq] at h
          rw [binInputJson_inj L (hfirst bin List.mem_cons_self)
            (hsecond other List.mem_cons_self) h.1,
            ih (fun bin hbin => hfirst bin (List.mem_cons_of_mem _ hbin))
              (fun bin hbin => hsecond bin (List.mem_cons_of_mem _ hbin)) h.2]

/-- The bins of a profile that was created. -/
def FiniteInput (input : PolicyCalibrationProfileInput) : Prop :=
  (∀ bin ∈ input.bins, FiniteBinInput bin) ∧ input.bins.length ≤ kMaximumBins

/-- The fields of a profile. -/
def profileIdentityFields (input : PolicyCalibrationProfileInput) :
    List (String × Json) :=
  [("action_uncertainty_unit", .string input.actionUncertaintyUnit),
    ("bins", .array (input.bins.map binInputJson)),
    ("dataset_digest", .string input.datasetDigest),
    ("method", .string input.method),
    ("method_version", .string input.methodVersion),
    ("outcome_definition", .string input.outcomeDefinition),
    ("policy_id", .string input.policyId),
    ("policy_model_digest", .string input.policyModelDigest),
    ("scope_id", .string input.scopeId),
    ("state_uncertainty_unit", .string input.stateUncertaintyUnit),
    ("task_id", .string input.taskId)]

theorem fits_profileIdentityFields {input : PolicyCalibrationProfileInput}
    (h : FiniteInput input) :
    ∀ field ∈ profileIdentityFields input, Fits 64 field.2 := by
  obtain ⟨hbins, hlength⟩ := h
  intro field hfield
  simp only [profileIdentityFields, List.mem_cons, List.not_mem_nil, or_false]
    at hfield
  rcases hfield with rfl | rfl | rfl | rfl | rfl | rfl | rfl | rfl | rfl | rfl
    | rfl
  · exact .string _
  · apply Fits.array
    · intro item hitem
      obtain ⟨bin, hbin, rfl⟩ := List.mem_map.mp hitem
      exact fits_obj (fits_binInputFields (hbins bin hbin))
    · rw [List.length_map]
      unfold kMaximumBins at hlength
      omega
  all_goals exact .string _

theorem profileInput_of_identity (L : Libc)
    {first second : PolicyCalibrationProfileInput} (hfirst : FiniteInput first)
    (hsecond : FiniteInput second)
    (h : dump L false 0 (profileIdentityJson first)
      = dump L false 0 (profileIdentityJson second)) : first = second := by
  have hfields : profileIdentityFields first
      = profileIdentityFields second := by
    apply values_of_dump_eq L
    · rfl
    · show [ascii "action_uncertainty_unit", ascii "bins",
        ascii "dataset_digest", ascii "method", ascii "method_version",
        ascii "outcome_definition", ascii "policy_id",
        ascii "policy_model_digest", ascii "scope_id",
        ascii "state_uncertainty_unit", ascii "task_id"].Nodup
      decide
    · exact fits_profileIdentityFields hfirst
    · exact fits_profileIdentityFields hsecond
    · exact h
  simp only [profileIdentityFields, List.cons.injEq, Prod.mk.injEq, true_and,
    and_true, Json.string.injEq, Json.array.injEq] at hfields
  obtain ⟨haction, hbins, hdataset, hmethod, hversion, houtcome, hpolicy,
    hmodel, hscope, hstate, htask⟩ := hfields
  cases first
  cases second
  simp only [PolicyCalibrationProfileInput.mk.injEq]
  exact ⟨hpolicy, hmodel, hscope, htask, hdataset, hmethod, hversion, houtcome,
    hstate, haction, binInputs_inj L hfirst.1 hsecond.1 hbins⟩

-- === profiles

/-- What `create` has made a profile of. -/
theorem createProfile_ok {P : Platform} {L : LongDouble}
    {input : PolicyCalibrationProfileInput}
    {profile : PolicyCalibrationProfile}
    (h : createProfile P L input = .ok profile) :
    profileInput profile = input ∧ FiniteInput input
      ∧ profile.id = P.sha256 (profileDocument P.toLibc profile) := by
  rw [createProfile, ite_failure_eq_ok, ite_failure_eq_ok, bind_eq_ok] at h
  obtain ⟨-, hlength, count, hbins, hprofile⟩ := h
  cases hprofile
  obtain ⟨-, -, hall⟩ := admitBins_ok hbins (by decide)
  have hinput : (input.bins.map calibratedBin).map (fun bin =>
      ({ lowerConfidence := bin.lowerConfidence
         upperConfidence := bin.upperConfidence
         meanConfidence := bin.meanConfidence
         samples := bin.samples
         successes := bin.successes } : PolicyCalibrationBinInput))
      = input.bins := by
    rw [List.map_map]
    exact List.map_id _
  have hinput' : profileInput
      { id := P.sha256 (dump P.toLibc false 0 (profileIdentityJson input))
        policyId := input.policyId
        policyModelDigest := input.policyModelDigest
        scopeId := input.scopeId
        taskId := input.taskId
        datasetDigest := input.datasetDigest
        method := input.method
        methodVersion := input.methodVersion
        outcomeDefinition := input.outcomeDefinition
        stateUncertaintyUnit := input.stateUncertaintyUnit
        actionUncertaintyUnit := input.actionUncertaintyUnit
        bins := input.bins.map calibratedBin
        sampleCount := count
        expectedCalibrationError := meanError L
          ((input.bins.map calibratedBin).map fun bin =>
            (bin.samples, bin.absoluteCalibrationError)) count
        maximumCalibrationError := (input.bins.map calibratedBin).foldl
          (fun maximum bin =>
            Scalar.max maximum bin.absoluteCalibrationError) 0 } = input := by
    unfold profileInput
    rw [hinput]
  refine ⟨hinput', ⟨?_, by omega⟩, ?_⟩
  · intro bin hbin
    obtain ⟨-, previous, last, hvalid⟩ := hall bin hbin
    exact .of_validBin hvalid
  · rw [profileDocument, hinput']

/-- **Created profiles of the same identity are the same**, as long as
their documents have different digests where they differ. -/
theorem created_eq_of_id {P : Platform} {L : LongDouble}
    {input other : PolicyCalibrationProfileInput}
    {profile profile' : PolicyCalibrationProfile} {documents : Set Bytes}
    (hprofile : createProfile P L input = .ok profile)
    (hprofile' : createProfile P L other = .ok profile')
    (hdigests : Set.InjOn P.sha256 documents)
    (hdocument : profileDocument P.toLibc profile ∈ documents)
    (hdocument' : profileDocument P.toLibc profile' ∈ documents)
    (hid : profile.id = profile'.id) : profile = profile' := by
  obtain ⟨hinput, hfinite, hdigest⟩ := createProfile_ok hprofile
  obtain ⟨hinput', hfinite', hdigest'⟩ := createProfile_ok hprofile'
  rw [hdigest, hdigest'] at hid
  have hdocuments := hdigests hdocument hdocument' hid
  rw [profileDocument, profileDocument, hinput, hinput'] at hdocuments
  have hinputs := profileInput_of_identity P.toLibc hfinite hfinite' hdocuments
  rw [hinputs, hprofile'] at hprofile
  exact (Except.ok.inj hprofile).symm

end RbfSafe
