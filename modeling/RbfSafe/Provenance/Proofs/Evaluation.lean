/-
The evaluation of external time as a whole.

`Evaluated` lists what an accepted set of assertions must satisfy, none of
it dependent on their order; the evaluation accepts exactly these sets
(`evaluate_iff`). The report it builds always passes its own check, so
the failure kept for one that does not is never returned
(`external_time_freshness`).
-/
import RbfSafe.Provenance.Proofs.Freshness

namespace RbfSafe

open Lib.Groups (push groups)
open Lib.Sorting (sort)

-- === failures

/-- A call that does not fail for an internal reason. -/
def NeverInternal {α : Type} (r : Result α) : Prop :=
  ∀ e, r = .error e → e.code ≠ .internalError

theorem neverInternal_ok {α : Type} (a : α) : NeverInternal (.ok a : Result α) := by
  intro e h
  cases h

theorem neverInternal_failure {α : Type} {code : StatusCode} {message : String}
    {context : Bytes} (h : code ≠ .internalError) :
    NeverInternal (failure code message context : Result α) := by
  intro e he
  rw [← Except.error.inj he]
  exact h

theorem neverInternal_bind {α β : Type} {r : Result α} {k : α → Result β}
    (hr : NeverInternal r) (hk : ∀ a, r = .ok a → NeverInternal (k a)) :
    NeverInternal (r >>= k) := by
  cases r with
  | error e' =>
      intro e he
      exact hr e (congrArg Except.error (Except.error.inj he))
  | ok a => exact hk a rfl

theorem neverInternal_check {α : Type} {c : Prop} [Decidable c] {code : StatusCode}
    {message : String} {context : Bytes} {r : Result α}
    (hcode : code ≠ .internalError) (hr : ¬c → NeverInternal r) :
    NeverInternal (if c then failure code message context else r) := by
  by_cases h : c
  · rw [if_pos h]
    exact neverInternal_failure hcode
  · rw [if_neg h]
    exact hr h

section
variable {P : Platform}

theorem neverInternal_trustedServicePublicKey {bundle : ServiceTrustBundle}
    {serviceId keyId : Bytes} {operation : ArtifactTransferOperation}
    {sequence : UInt64} :
    NeverInternal
      (trustedServicePublicKey P bundle serviceId keyId operation sequence) := by
  unfold trustedServicePublicKey
  apply neverInternal_check (by decide)
  intro _
  apply neverInternal_bind
  · unfold ServiceTrustBundle.key
    apply neverInternal_check (by decide)
    intro _
    exact neverInternal_ok _
  · intro found _
    cases found with
    | none => exact neverInternal_failure (by decide)
    | some key =>
        apply neverInternal_check (by decide)
        intro _
        exact neverInternal_ok _

theorem neverInternal_verifyExternalTimeAssertion {a : ExternalTimeAssertion}
    {trustBundle : ServiceTrustBundle} :
    NeverInternal (verifyExternalTimeAssertion P a trustBundle) := by
  unfold verifyExternalTimeAssertion
  apply neverInternal_check (by decide)
  intro _
  apply neverInternal_check (by decide)
  intro _
  apply neverInternal_bind
  · unfold Provenance.activePublicationKey
    apply neverInternal_bind neverInternal_trustedServicePublicKey
    intro trusted _
    apply neverInternal_check (by decide)
    intro _
    exact neverInternal_ok _
  · intro trusted _
    apply neverInternal_bind
    · unfold decodeHex
      apply neverInternal_check (by decide)
      intro _
      cases decodeNibbles a.authenticationTag with
      | none => exact neverInternal_failure (by decide)
      | some bytes => exact neverInternal_ok bytes
    · intro signature _
      unfold ed25519Verify
      apply neverInternal_check (by decide)
      intro _
      apply neverInternal_check (by decide)
      intro _
      exact neverInternal_ok _

-- === assertions

/-- An assertion the evaluation takes in. -/
structure AdmittedAssertion (P : Platform) (subjectId : Bytes)
    (trustBundle : ServiceTrustBundle) (policy : ExternalTimeFreshnessPolicy)
    (a : ExternalTimeAssertion) : Prop where
  verified : verifyExternalTimeAssertion P a trustBundle = .ok ()
  subject : a.subjectId = subjectId
  clock : a.clockId = policy.clockId
  uncertainty : a.uncertaintyNs ≤ policy.maximumUncertaintyNs
  source : timeSourceAllowed policy a = true

variable {subjectId : Bytes} {trustBundle : ServiceTrustBundle}
  {policy : ExternalTimeFreshnessPolicy} {options : ProvenanceReplayOptions}

/-- The loop over the assertions: it takes them all in, each once. -/
theorem groupAssertions_iff (hcancelled : options.cancelled = false) :
    ∀ {l : List ExternalTimeAssertion} {ids : List Bytes} {chains : SourceChains}
    {r : List Bytes × SourceChains},
    groupAssertions P subjectId trustBundle policy options ids chains l = .ok r
      ↔ (∀ a ∈ l, AdmittedAssertion P subjectId trustBundle policy a)
        ∧ (l.map fun a => a.id).Nodup ∧ (∀ a ∈ l, a.id ∉ ids)
        ∧ r = ((l.map fun a => a.id).reverse ++ ids,
          l.foldl (fun chains a => push ExternalTimeAssertion.source a chains)
            chains) := by
  intro l
  induction l with
  | nil =>
      intro ids chains r
      simp [groupAssertions, eq_comm]
  | cons a l ih =>
      intro ids chains r
      unfold groupAssertions
      rw [hcancelled, if_neg Bool.false_ne_true, check_eq_ok, ite_failure_eq_ok,
        ite_failure_eq_ok, ih]
      simp only [not_or, not_not, Bool.not_eq_false, gt_iff_lt, UInt64.not_lt,
        List.map_cons, List.nodup_cons, List.mem_cons, forall_eq_or_imp,
        List.reverse_cons, List.append_assoc, List.singleton_append,
        List.foldl_cons, List.mem_map, not_exists, not_and]
      constructor
      · intro h
        obtain ⟨hverified, hnew, ⟨hsubject, hclock, huncertainty, hsource⟩, hall,
          hnodup, hids, hr⟩ := h
        refine ⟨⟨⟨hverified, hsubject, hclock, huncertainty, hsource⟩, hall⟩,
          ⟨?_, hnodup⟩, ⟨hnew, fun b hb => (hids b hb).2⟩, hr⟩
        exact fun b hb => (hids b hb).1
      · intro h
        obtain ⟨⟨hadmitted, hall⟩, ⟨hfirst, hnodup⟩, ⟨hnew, hids⟩, hr⟩ := h
        exact ⟨hadmitted.verified, hnew, ⟨hadmitted.subject, hadmitted.clock,
          hadmitted.uncertainty, hadmitted.source⟩, hall, hnodup,
          fun b hb => ⟨hfirst b hb, hids b hb⟩, hr⟩

theorem neverInternal_groupAssertions :
    ∀ {l : List ExternalTimeAssertion} {ids : List Bytes} {chains : SourceChains},
    NeverInternal
      (groupAssertions P subjectId trustBundle policy options ids chains l) := by
  intro l
  induction l with
  | nil =>
      intro ids chains
      exact neverInternal_ok _
  | cons a l ih =>
      intro ids chains
      unfold groupAssertions
      apply neverInternal_check (by decide)
      intro _
      apply neverInternal_bind neverInternal_verifyExternalTimeAssertion
      intro _ _
      apply neverInternal_check (by decide)
      intro _
      apply neverInternal_check (by decide)
      intro _
      exact ih

theorem neverInternal_latestAssertions : ∀ {chains : SourceChains},
    NeverInternal (latestAssertions chains) := by
  have hchain : ∀ {l : List ExternalTimeAssertion} {index : Nat} {parent : Bytes}
      {previousTime : UInt64},
      NeverInternal (checkSourceChain index parent previousTime l) := by
    intro l
    induction l with
    | nil =>
        intro index parent previousTime
        exact neverInternal_ok _
    | cons a l ih =>
        intro index parent previousTime
        unfold checkSourceChain
        apply neverInternal_check (by decide)
        intro _
        exact ih
  intro chains
  induction chains with
  | nil => exact neverInternal_ok _
  | cons g chains ih =>
      obtain ⟨k, chain⟩ := g
      unfold latestAssertions
      apply neverInternal_bind hchain
      intro _ _
      apply neverInternal_bind ih
      intro latest _
      exact neverInternal_ok _

-- === reports

theorem sortedUnique_of_pairwise {α κ : Type} [LT κ] [DecidableLT κ] {key : α → κ} :
    ∀ {l : List α}, l.Pairwise (fun a b => key a < key b) →
    sortedUnique key l = true := by
  intro l
  induction l with
  | nil =>
      intro _
      rfl
  | cons a l ih =>
      intro h
      cases l with
      | nil => rfl
      | cons b l =>
          rw [sortedUnique, Bool.and_eq_true, decide_eq_true_eq]
          exact ⟨(List.pairwise_cons.mp h).1 b List.mem_cons_self,
            ih (List.pairwise_cons.mp h).2⟩

/-- **The report passes its own check.** -/
theorem valid_freshnessReport {evaluatedAtNs : UInt64} {ids : List Bytes}
    {latest : List ExternalTimeAssertion} (hsubject : validSha256 subjectId = true)
    (htrust : trustBundle.valid P = true) (hpolicy : policy.valid P = true)
    (hids : ∀ id ∈ ids, validSha256 id = true) (hnodup : ids.Nodup) :
    (freshnessReport P subjectId trustBundle policy evaluatedAtNs ids
      latest).valid P = true := by
  have hclock : validSha256 policy.id = true
      ∧ validIdentifier policy.clockId = true := by
    unfold ExternalTimeFreshnessPolicy.valid at hpolicy
    simp only [Bool.and_eq_true] at hpolicy
    obtain ⟨⟨⟨⟨⟨⟨⟨⟨⟨⟨⟨⟨-, hid⟩, hclock⟩, -⟩, -⟩, -⟩, -⟩, -⟩, -⟩, -⟩, -⟩, -⟩, -⟩ :=
      hpolicy
    exact ⟨hid, hclock⟩
  have hsorted : sortedUnique (fun id => id) (sort (fun id : Bytes => id) ids)
      = true := by
    apply sortedUnique_of_pairwise
    have hne := ((Lib.Sorting.sort_perm (fun id : Bytes => id) ids).nodup_iff).mpr hnodup
    exact (Lib.Sorting.pairwise_sort (fun id : Bytes => id) ids).imp₂
      (fun _ _ hle hne => Std.lt_of_le_of_ne hle hne) hne
  have hall : (sort (fun id : Bytes => id) ids).all validSha256 = true := by
    rw [List.all_eq_true]
    intro id hid
    exact hids id ((Lib.Sorting.mem_sort _).mp hid)
  have hinterval : ∀ interval : UInt64 × UInt64,
      (if freshnessStatus policy evaluatedAtNs interval = .inconsistent then
        decide (interval.1 > interval.2)
      else decide (interval.1 ≤ interval.2)) = true := by
    intro interval
    unfold freshnessStatus
    by_cases h : interval.1 > interval.2
    · rw [if_pos h]
      simpa using h
    · rw [if_neg h]
      have hle : interval.1 ≤ interval.2 := UInt64.not_lt.mp h
      rw [if_neg, decide_eq_true hle]
      split
      · exact nofun
      · split <;> exact nofun
  unfold freshnessReport ExternalTimeFreshnessReport.valid
  simp only [Bool.and_eq_true]
  by_cases hcount : authenticatedSources policy latest
      < policy.minimumSources.toNat
  · simp only [if_pos hcount]
    exact ⟨⟨⟨⟨⟨⟨⟨⟨P.validSha256_digest _, hsubject⟩, (bundle_valid htrust).1⟩,
      hclock.1⟩, hclock.2⟩, hsorted⟩, hall⟩, rfl⟩, beq_self_eq_true _⟩
  · simp only [if_neg hcount]
    exact ⟨⟨⟨⟨⟨⟨⟨⟨P.validSha256_digest _, hsubject⟩, (bundle_valid htrust).1⟩,
      hclock.1⟩, hclock.2⟩, hsorted⟩, hall⟩, hinterval _⟩, beq_self_eq_true _⟩

-- === evaluation

/-- What an accepted set of assertions satisfies. -/
structure Evaluated (P : Platform) (subjectId : Bytes)
    (trustBundle : ServiceTrustBundle) (policy : ExternalTimeFreshnessPolicy)
    (options : ProvenanceReplayOptions)
    (assertions latest : List ExternalTimeAssertion) : Prop where
  subject : validSha256 subjectId = true
  trust : trustBundle.valid P = true
  policyValid : policy.valid P = true
  limit : options.maximumTimeAssertions ≠ 0
  running : options.cancelled = false
  count : assertions.length
    ≤ min options.maximumTimeAssertions policy.maximumAssertions.toNat
  admitted : ∀ a ∈ assertions, AdmittedAssertion P subjectId trustBundle policy a
  ids : (assertions.map fun a => a.id).Nodup
  chains : latestAssertions (groups ExternalTimeAssertion.source assertions)
    = .ok latest

/-- Ids are reported in order, however they came. -/
theorem freshnessReport_congr {evaluatedAtNs : UInt64} {ids ids' : List Bytes}
    {latest : List ExternalTimeAssertion} (hperm : ids.Perm ids') :
    freshnessReport P subjectId trustBundle policy evaluatedAtNs ids latest
      = freshnessReport P subjectId trustBundle policy evaluatedAtNs ids'
        latest := by
  unfold freshnessReport
  rw [Lib.Sorting.sort_congr (fun id : Bytes => id) hperm
    fun _ _ _ _ hsame => hsame]

theorem valid_of_verified {a : ExternalTimeAssertion}
    (h : verifyExternalTimeAssertion P a trustBundle = .ok ()) :
    a.valid P = true := by
  unfold verifyExternalTimeAssertion at h
  rw [ite_failure_eq_ok] at h
  have hvalid := h.1
  simp only [Bool.or_eq_true, Bool.not_eq_true', not_or, Bool.not_eq_false]
    at hvalid
  exact hvalid.1

/-- The ids of admitted assertions can be reported. -/
theorem ids_valid {assertions : List ExternalTimeAssertion}
    (hadmitted : ∀ a ∈ assertions,
      AdmittedAssertion P subjectId trustBundle policy a) :
    ∀ id ∈ assertions.map (fun a => a.id), validSha256 id = true := by
  intro id hid
  obtain ⟨a, ha, rfl⟩ := List.mem_map.mp hid
  have hvalid := valid_of_verified (hadmitted a ha).verified
  unfold ExternalTimeAssertion.valid at hvalid
  simp only [Bool.and_eq_true] at hvalid
  obtain ⟨⟨⟨⟨⟨⟨⟨⟨⟨⟨⟨⟨-, hid⟩, -⟩, -⟩, -⟩, -⟩, -⟩, -⟩, -⟩, -⟩, -⟩, -⟩, -⟩ := hvalid
  exact hid

/-- **What the evaluation accepts**, and what it reports. -/
theorem evaluate_iff {assertions : List ExternalTimeAssertion}
    {evaluatedAtNs : UInt64} {report : ExternalTimeFreshnessReport} :
    evaluateExternalTimeFreshness P subjectId assertions trustBundle policy
        evaluatedAtNs options = .ok report
      ↔ ∃ latest, Evaluated P subjectId trustBundle policy options assertions latest
        ∧ report = freshnessReport P subjectId trustBundle policy evaluatedAtNs
          (assertions.map fun a => a.id) latest := by
  have hreverse : ∀ latest, freshnessReport P subjectId trustBundle policy
      evaluatedAtNs ((assertions.map fun a => a.id).reverse ++ []) latest
      = freshnessReport P subjectId trustBundle policy evaluatedAtNs
        (assertions.map fun a => a.id) latest := by
    intro latest
    rw [List.append_nil]
    exact freshnessReport_congr (List.reverse_perm _)
  unfold evaluateExternalTimeFreshness
  rw [ite_failure_eq_ok, ite_failure_eq_ok, ite_failure_eq_ok, bind_eq_ok]
  simp only [Bool.or_eq_true, Bool.not_eq_true', not_or, Bool.not_eq_false,
    beq_iff_eq, gt_iff_lt, not_lt, Bool.not_eq_true]
  constructor
  · intro h
    obtain ⟨⟨⟨⟨hsubject, htrust⟩, hpolicy⟩, hlimit⟩, hcount, hrunning, ⟨ids, chains⟩,
      hgroup, h⟩ := h
    rw [groupAssertions_iff hrunning] at hgroup
    obtain ⟨hadmitted, hnodup, -, hr⟩ := hgroup
    rw [Prod.mk.injEq] at hr
    obtain ⟨rfl, rfl⟩ := hr
    rw [bind_eq_ok] at h
    obtain ⟨latest, hlatest, h⟩ := h
    dsimp only at h
    rw [ite_failure_eq_ok, hreverse] at h
    exact ⟨latest, ⟨hsubject, htrust, hpolicy, hlimit, hrunning, hcount, hadmitted,
      hnodup, hlatest⟩, (Except.ok.inj h.2).symm⟩
  · intro h
    obtain ⟨latest, h, rfl⟩ := h
    have hgroup := (groupAssertions_iff h.running).mpr
      ⟨h.admitted, h.ids, fun _ _ => List.not_mem_nil, Eq.refl
        ((assertions.map fun a => a.id).reverse ++ [],
          assertions.foldl
            (fun chains a => push ExternalTimeAssertion.source a chains) [])⟩
    refine ⟨⟨⟨⟨h.subject, h.trust⟩, h.policyValid⟩, h.limit⟩, h.count, h.running, _,
      hgroup, ?_⟩
    dsimp only
    rw [bind_eq_ok]
    refine ⟨latest, h.chains, ?_⟩
    rw [ite_failure_eq_ok, hreverse]
    refine ⟨?_, rfl⟩
    rw [valid_freshnessReport h.subject h.trust h.policyValid (ids_valid h.admitted) h.ids]
    exact Bool.noConfusion

/-- What is accepted is accepted in any order. -/
theorem Evaluated.perm {assertions assertions' latest : List ExternalTimeAssertion}
    (h : Evaluated P subjectId trustBundle policy options assertions latest)
    (hperm : assertions.Perm assertions') :
    Evaluated P subjectId trustBundle policy options assertions' latest := by
  refine ⟨h.subject, h.trust, h.policyValid, h.limit, h.running, ?_, ?_, ?_, ?_⟩
  · rw [← hperm.length_eq]
    exact h.count
  · exact fun a ha => h.admitted a (hperm.mem_iff.mpr ha)
  · exact ((hperm.map _).nodup_iff).mp h.ids
  · rw [← latestAssertions_congr (chains_perm hperm h.ids)]
    exact h.chains

theorem evaluate_perm {assertions assertions' : List ExternalTimeAssertion}
    {evaluatedAtNs : UInt64} {report : ExternalTimeFreshnessReport}
    (hperm : assertions.Perm assertions')
    (h : evaluateExternalTimeFreshness P subjectId assertions trustBundle policy
      evaluatedAtNs options = .ok report) :
    evaluateExternalTimeFreshness P subjectId assertions' trustBundle policy
      evaluatedAtNs options = .ok report := by
  obtain ⟨latest, hevaluated, hreport⟩ := evaluate_iff.mp h
  refine evaluate_iff.mpr ⟨latest, hevaluated.perm hperm, ?_⟩
  rw [hreport]
  exact freshnessReport_congr (hperm.map _)

theorem neverInternal_evaluate {assertions : List ExternalTimeAssertion}
    {evaluatedAtNs : UInt64} :
    NeverInternal (evaluateExternalTimeFreshness P subjectId assertions trustBundle
      policy evaluatedAtNs options) := by
  unfold evaluateExternalTimeFreshness
  apply neverInternal_check (by decide)
  intro hinput
  apply neverInternal_check (by decide)
  intro _
  apply neverInternal_check (by decide)
  intro hcancelled
  rw [Bool.not_eq_true] at hcancelled
  simp only [Bool.or_eq_true, Bool.not_eq_true', not_or, Bool.not_eq_false]
    at hinput
  obtain ⟨⟨⟨hsubject, htrust⟩, hpolicy⟩, -⟩ := hinput
  apply neverInternal_bind neverInternal_groupAssertions
  intro r hgroup
  rw [groupAssertions_iff hcancelled] at hgroup
  obtain ⟨hadmitted, hnodup, -, rfl⟩ := hgroup
  apply neverInternal_bind neverInternal_latestAssertions
  intro latest _
  -- the report is valid, so the last failure is out of reach
  have hvalid : (freshnessReport P subjectId trustBundle policy evaluatedAtNs
      ((assertions.map fun a => a.id).reverse ++ []) latest).valid P = true := by
    apply valid_freshnessReport hsubject htrust hpolicy
    · intro id hid
      rw [List.append_nil, List.mem_reverse] at hid
      exact ids_valid hadmitted id hid
    · rw [List.append_nil, List.nodup_reverse]
      exact hnodup
  dsimp only
  rw [hvalid]
  exact neverInternal_ok _

-- === the result

theorem PlacedAs.fresh {evaluatedAtNs : UInt64} {times : Set ℤ}
    {status : ExternalTimeFreshnessStatus}
    (h : PlacedAs policy evaluatedAtNs times status) :
    status = .fresh ↔ times ≠ ∅
      ∧ ¬(∀ x ∈ times,
        (evaluatedAtNs.toNat + policy.maximumFutureSkewNs.toNat : ℤ) < x)
      ∧ ¬∀ x ∈ times, x + policy.maximumAgeNs.toNat < evaluatedAtNs.toNat := by
  have hinconsistent := h.inconsistent
  have hfuture := h.future
  have hstale := h.stale
  rw [Set.nonempty_iff_ne_empty] at hfuture hstale
  cases status with
  | incomplete => exact absurd rfl h.complete
  | fresh =>
      have hsome : times ≠ ∅ := fun hnone => nomatch hinconsistent.mpr hnone
      refine ⟨fun _ => ⟨hsome, ?_, ?_⟩, fun _ => rfl⟩
      · exact fun hall => nomatch hfuture.mpr ⟨hsome, hall⟩
      · exact fun hall => nomatch hstale.mpr ⟨hsome, hall⟩
  | stale => exact ⟨nofun, fun hnot => absurd (hstale.mp rfl).2 hnot.2.2⟩
  | future => exact ⟨nofun, fun hnot => absurd (hfuture.mp rfl).2 hnot.2.1⟩
  | inconsistent => exact ⟨nofun, fun hnot => absurd (hinconsistent.mp rfl) hnot.1⟩

/-- The status of a set of assertions, over the integers. -/
structure FreshnessOf (policy : ExternalTimeFreshnessPolicy)
    (evaluatedAtNs : UInt64) (assertions : List ExternalTimeAssertion)
    (status : ExternalTimeFreshnessStatus) : Prop where
  incomplete : status = .incomplete
    ↔ contributing policy assertions < policy.minimumSources.toNat
  placed : policy.minimumSources.toNat ≤ contributing policy assertions →
    PlacedAs policy evaluatedAtNs (commonTimes {a | LatestIn assertions a}) status

theorem freshness_of_evaluated {assertions latest : List ExternalTimeAssertion}
    (h : Evaluated P subjectId trustBundle policy options assertions latest)
    (evaluatedAtNs : UInt64) :
    FreshnessOf policy evaluatedAtNs assertions
      (freshnessReport P subjectId trustBundle policy evaluatedAtNs
        (assertions.map fun a => a.id) latest).status := by
  have hlength : assertions.length < 2 ^ 64 := by
    have hcount := h.count
    have hmaximum := policy.maximumAssertions.toNat_lt
    omega
  have hsources := authenticatedSources_eq hlength h.chains policy
  have hlatest : {a | a ∈ latest} = {a | LatestIn assertions a} :=
    Set.ext (mem_latest hlength h.chains)
  have hplaced : PlacedAs policy evaluatedAtNs (commonTimes {a | a ∈ latest})
      (freshnessStatus policy evaluatedAtNs (intersectIntervals latest)) :=
    placed_freshnessStatus (ends_intersectIntervals latest)
  rw [hlatest] at hplaced
  unfold freshnessReport
  dsimp only
  rw [hsources]
  by_cases hcount : contributing policy assertions < policy.minimumSources.toNat
  · simp only [if_pos hcount]
    exact ⟨⟨fun _ => hcount, fun _ => rfl⟩,
      fun hle => absurd hcount (not_lt.mpr hle)⟩
  · simp only [if_neg hcount]
    exact ⟨⟨fun heq => absurd heq hplaced.complete, fun hlt => absurd hlt hcount⟩,
      fun _ => hplaced⟩

/-- The assertions of each source, put in order, are one chain. -/
theorem chains_of_evaluated {assertions latest : List ExternalTimeAssertion}
    (h : Evaluated P subjectId trustBundle policy options assertions latest)
    (a : ExternalTimeAssertion) (ha : a ∈ assertions) :
    ∃ chain, chain.Perm (assertions.filter fun b => b.source = a.source)
      ∧ SourceChain chain := by
  have hlength : assertions.length < 2 ^ 64 := by
    have hcount := h.count
    have hmaximum := policy.maximumAssertions.toNat_lt
    omega
  have hholds := Lib.Groups.holds_groups ExternalTimeAssertion.source assertions
  obtain ⟨g, hg, hkey⟩ := List.mem_map.mp ((hholds.keys a.source).mpr ⟨a, ha, rfl⟩)
  obtain ⟨hchain, -⟩ := chain_of_group hlength h.chains hg
  refine ⟨sort ExternalTimeAssertion.chainKey g.2, ?_, hchain⟩
  rw [← hkey, ← hholds.items g hg]
  exact Lib.Sorting.sort_perm _ _

end

/-- **External time is evaluated exactly, and in any order.** The
evaluation succeeds on a permutation just as well, with the same report.
Where it succeeds the assertions of each source make one chain, numbered
from one, and the status is the one the integers give: too few sources,
no common time, all common times later than the skew allows, all of them
older than the age allows, or none of these. It never fails for an
internal reason. -/
theorem external_time_freshness (P : Platform) (subjectId : Bytes)
    (trustBundle : ServiceTrustBundle) (policy : ExternalTimeFreshnessPolicy)
    (evaluatedAtNs : UInt64) (options : ProvenanceReplayOptions)
    (assertions : List ExternalTimeAssertion) :
    (∀ assertions', assertions.Perm assertions' → ∀ report,
      (evaluateExternalTimeFreshness P subjectId assertions trustBundle policy
          evaluatedAtNs options = .ok report
        ↔ evaluateExternalTimeFreshness P subjectId assertions' trustBundle policy
          evaluatedAtNs options = .ok report))
    ∧ (∀ report, evaluateExternalTimeFreshness P subjectId assertions trustBundle
        policy evaluatedAtNs options = .ok report →
      (∀ a ∈ assertions, ∃ chain,
        chain.Perm (assertions.filter fun b => b.source = a.source)
          ∧ SourceChain chain)
      ∧ (report.status = .incomplete
        ↔ contributing policy assertions < policy.minimumSources.toNat)
      ∧ (policy.minimumSources.toNat ≤ contributing policy assertions →
        let times := commonTimes {a | LatestIn assertions a}
        (report.status = .inconsistent ↔ times = ∅)
        ∧ (report.status = .future ↔ times.Nonempty ∧ ∀ x ∈ times,
          (evaluatedAtNs.toNat + policy.maximumFutureSkewNs.toNat : ℤ) < x)
        ∧ (report.status = .stale ↔ times.Nonempty ∧ ∀ x ∈ times,
          x + policy.maximumAgeNs.toNat < evaluatedAtNs.toNat)
        ∧ (report.status = .fresh ↔ times ≠ ∅
          ∧ ¬(∀ x ∈ times,
            (evaluatedAtNs.toNat + policy.maximumFutureSkewNs.toNat : ℤ) < x)
          ∧ ¬∀ x ∈ times,
            x + policy.maximumAgeNs.toNat < evaluatedAtNs.toNat)))
    ∧ ∀ e, evaluateExternalTimeFreshness P subjectId assertions trustBundle policy
        evaluatedAtNs options = .error e → e.code ≠ .internalError := by
  refine ⟨?_, ?_, neverInternal_evaluate⟩
  · intro assertions' hperm report
    exact ⟨evaluate_perm hperm, evaluate_perm hperm.symm⟩
  · intro report h
    obtain ⟨latest, hevaluated, rfl⟩ := evaluate_iff.mp h
    have hstatus := freshness_of_evaluated hevaluated evaluatedAtNs
    refine ⟨chains_of_evaluated hevaluated, hstatus.incomplete, ?_⟩
    intro henough
    have hplaced := hstatus.placed henough
    exact ⟨hplaced.inconsistent, hplaced.future, hplaced.stale, hplaced.fresh⟩

end RbfSafe
