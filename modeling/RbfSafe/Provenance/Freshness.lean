/-
How fresh a subject is by external time: the assertions are verified and
grouped by source, each group must be one chain, and the intervals of the
last assertions are intersected and placed around the time of evaluation.
-/
import RbfSafe.Lib.Groups
import RbfSafe.Provenance.Types

namespace RbfSafe

open Lib.Groups (push)
open Lib.Sorting (Tie sort)

/-- `ProvenanceReplayOptions`; the cancellation token is read as cancelled
or not for the whole call. -/
structure ProvenanceReplayOptions where
  maximumStatements : Nat := 1000
  maximumTimeAssertions : Nat := 10000
  cancelled : Bool := false

/-- `saturating_add`. -/
def saturatingAdd (first second : UInt64) : UInt64 :=
  if second > 0xffffffffffffffff - first then 0xffffffffffffffff
  else first + second

/-- `time_source_allowed`: the search is over a sorted list. -/
def timeSourceAllowed (policy : ExternalTimeFreshnessPolicy)
    (assertion : ExternalTimeAssertion) : Bool :=
  policy.allowedSources.any fun source => source.sortKey == assertion.source

/-- The chains of the assertions, by source. -/
abbrev SourceChains := List (Tie Bytes Bytes × List ExternalTimeAssertion)

/-- The loop over the assertions of one source, in their order. -/
def checkSourceChain : Nat → Bytes → UInt64 → List ExternalTimeAssertion →
    Result Unit
  | _, _, _, [] => .ok ()
  | index, parent, previousTime, assertion :: rest =>
      if assertion.sourceSequence ≠ UInt64.ofNat (index + 1)
          ∨ assertion.parentAssertionId ≠ parent
          ∨ (index > 0 ∧ assertion.assertedTimeNs < previousTime) then
        failure .identityMismatch
          "external time source chain is not contiguous and monotonic"
          assertion.id
      else checkSourceChain (index + 1) assertion.id assertion.assertedTimeNs rest

/-- The loop over the sources: the last assertion of each. -/
def latestAssertions : SourceChains → Result (List ExternalTimeAssertion)
  | [] => .ok []
  | (_, chain) :: rest => do
      let ordered := sort ExternalTimeAssertion.chainKey chain
      checkSourceChain 0 [] 0 ordered
      let latest ← latestAssertions rest
      .ok (ordered.getLast?.toList ++ latest)

/-- How many sources the last assertions stand for. -/
def authenticatedSources (policy : ExternalTimeFreshnessPolicy)
    (latest : List ExternalTimeAssertion) : Nat :=
  if policy.requireDistinctServices then
    (latest.map fun assertion => assertion.sourceServiceId).dedup.length
  else latest.length

/-- One interval taken into the intersection. -/
def narrowIntersection (interval : UInt64 × UInt64)
    (assertion : ExternalTimeAssertion) : UInt64 × UInt64 :=
  let lower := if assertion.assertedTimeNs ≥ assertion.uncertaintyNs then
      assertion.assertedTimeNs - assertion.uncertaintyNs
    else 0
  let upper := saturatingAdd assertion.assertedTimeNs assertion.uncertaintyNs
  (if interval.1 < lower then lower else interval.1,
    if upper < interval.2 then upper else interval.2)

/-- The loop over the last assertions. -/
def intersectIntervals (latest : List ExternalTimeAssertion) : UInt64 × UInt64 :=
  latest.foldl narrowIntersection (0, 0xffffffffffffffff)

/-- The place of an intersection around the time of evaluation. -/
def freshnessStatus (policy : ExternalTimeFreshnessPolicy)
    (evaluatedAtNs : UInt64) (interval : UInt64 × UInt64) :
    ExternalTimeFreshnessStatus :=
  if interval.1 > interval.2 then .inconsistent
  else if interval.1 > saturatingAdd evaluatedAtNs policy.maximumFutureSkewNs then
    .future
  else if saturatingAdd interval.2 policy.maximumAgeNs < evaluatedAtNs then .stale
  else .fresh

section
variable (P : Platform)

/-- `active_publication_key`. -/
def Provenance.activePublicationKey (trustBundle : ServiceTrustBundle)
    (serviceId keyId : Bytes) : Result ServicePublicKey := do
  let trusted ← trustedServicePublicKey P trustBundle serviceId keyId .publish
    trustBundle.sequence
  if trusted.state ≠ .active then
    failure .identityMismatch "provenance signer key is not active" keyId
  else .ok trusted

/-- `verify_external_time_assertion`. -/
def verifyExternalTimeAssertion (assertion : ExternalTimeAssertion)
    (trustBundle : ServiceTrustBundle) : Result Unit :=
  if !assertion.valid P || !trustBundle.valid P then
    failure .invalidArgument
      "external time assertion verification input is invalid"
  else if assertion.trustBundleId ≠ trustBundle.id
      ∨ assertion.trustBundleSequence ≠ trustBundle.sequence then
    failure .identityMismatch "external time assertion trust binding mismatch"
      assertion.id
  else do
    let trusted ← Provenance.activePublicationKey P trustBundle
      assertion.sourceServiceId assertion.sourceKeyId
    let signature ← decodeHex assertion.authenticationTag kEd25519SignatureBytes
    ed25519Verify P (externalTimeAssertionMessage P assertion) signature
      trusted.publicKey.toList

/-- The loop over the assertions, with the ids seen so far and the chains
they make. -/
def groupAssertions (subjectId : Bytes) (trustBundle : ServiceTrustBundle)
    (policy : ExternalTimeFreshnessPolicy) (options : ProvenanceReplayOptions) :
    List Bytes → SourceChains → List ExternalTimeAssertion →
    Result (List Bytes × SourceChains)
  | ids, chains, [] => .ok (ids, chains)
  | ids, chains, assertion :: rest =>
      if options.cancelled then
        failure .cancelled "external time freshness evaluation was cancelled"
      else do
        verifyExternalTimeAssertion P assertion trustBundle
        if assertion.id ∈ ids then
          failure .invalidArgument
            "external time assertion set contains a duplicate" assertion.id
        else if assertion.subjectId ≠ subjectId
            ∨ assertion.clockId ≠ policy.clockId
            ∨ assertion.uncertaintyNs > policy.maximumUncertaintyNs
            ∨ timeSourceAllowed policy assertion = false then
          failure .identityMismatch
            "external time assertion is outside the explicit freshness policy"
            assertion.id
        else
          groupAssertions subjectId trustBundle policy options
            (assertion.id :: ids)
            (push ExternalTimeAssertion.source assertion chains) rest

/-- The report on a set of assertions, given the last of each source. -/
def freshnessReport (subjectId : Bytes) (trustBundle : ServiceTrustBundle)
    (policy : ExternalTimeFreshnessPolicy) (evaluatedAtNs : UInt64)
    (ids : List Bytes) (latest : List ExternalTimeAssertion) :
    ExternalTimeFreshnessReport :=
  let sourceCount := authenticatedSources policy latest
  let report : ExternalTimeFreshnessReport :=
    { subjectId, trustBundleId := trustBundle.id, policyId := policy.id
      clockId := policy.clockId, evaluatedAtNs
      authenticatedSourceCount := sourceCount
      assertionIds := sort (fun id => id) ids }
  let report :=
    if sourceCount < policy.minimumSources.toNat then
      { report with status := .incomplete }
    else
      let interval := intersectIntervals latest
      { report with
        intersectionLowerNs := interval.1
        intersectionUpperNs := interval.2
        status := freshnessStatus policy evaluatedAtNs interval }
  { report with id := externalTimeFreshnessReportIdentity P report }

/-- `evaluate_external_time_freshness`. -/
def evaluateExternalTimeFreshness (subjectId : Bytes)
    (assertions : List ExternalTimeAssertion) (trustBundle : ServiceTrustBundle)
    (policy : ExternalTimeFreshnessPolicy) (evaluatedAtNs : UInt64)
    (options : ProvenanceReplayOptions) : Result ExternalTimeFreshnessReport :=
  if !validSha256 subjectId || !trustBundle.valid P || !policy.valid P
      || options.maximumTimeAssertions == 0 then
    failure .invalidArgument "external time freshness input or options are invalid"
  else if assertions.length
      > min options.maximumTimeAssertions policy.maximumAssertions.toNat then
    failure .resourceLimit "external time assertion count exceeds configured limit"
  else if options.cancelled then
    failure .cancelled "external time freshness evaluation was cancelled"
  else do
    let (ids, chains) ← groupAssertions P subjectId trustBundle policy options
      [] [] assertions
    let latest ← latestAssertions chains
    let report := freshnessReport P subjectId trustBundle policy evaluatedAtNs
      ids latest
    if !report.valid P then
      failure .internalError "external time freshness report is not canonical"
    else .ok report

end

end RbfSafe
