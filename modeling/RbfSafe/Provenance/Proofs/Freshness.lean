/-
External time, exactly and in any order.

The specification is over the integers and over sets: a time is common to
the assertions if no interval of a latest one leaves it out, and the
status places the common times around the time of evaluation
(`FreshnessOf`). The code keeps two 64-bit ends that saturate; `Ends`
says what they are worth, and that is enough to tell the five statuses
apart. The chains are those of `Lib.Groups`, which do not depend on the
order the assertions come in (`external_time_freshness`).
-/
import RbfSafe.Identity.Proofs.Lifecycle
import RbfSafe.Provenance.Freshness

namespace RbfSafe

open Lib.Groups (push groups)
open Lib.Sorting (Tie sort)

-- === intervals

theorem toNat_saturatingAdd (first second : UInt64) :
    (saturatingAdd first second).toNat
      = min (first.toNat + second.toNat) (2 ^ 64 - 1) := by
  have hfirst := first.toNat_lt
  have hsecond := second.toNat_lt
  have hmax : (0xffffffffffffffff : UInt64).toNat = 2 ^ 64 - 1 := rfl
  have hle : first ≤ 0xffffffffffffffff := by
    rw [UInt64.le_iff_toNat_le, hmax]
    omega
  have hroom : ((0xffffffffffffffff : UInt64) - first).toNat
      = 2 ^ 64 - 1 - first.toNat := by
    rw [UInt64.toNat_sub_of_le _ _ hle, hmax]
  unfold saturatingAdd
  by_cases h : second > 0xffffffffffffffff - first
  · rw [if_pos h, hmax]
    rw [gt_iff_lt, UInt64.lt_iff_toNat_lt, hroom] at h
    omega
  · rw [if_neg h, UInt64.toNat_add]
    rw [gt_iff_lt, UInt64.lt_iff_toNat_lt, hroom] at h
    omega

/-- `std::max` and `std::min` on 64 bits. -/
theorem toNat_larger (a b : UInt64) :
    (if a < b then b else a).toNat = max a.toNat b.toNat := by
  by_cases h : a < b
  · rw [if_pos h]
    rw [UInt64.lt_iff_toNat_lt] at h
    omega
  · rw [if_neg h]
    rw [UInt64.lt_iff_toNat_lt] at h
    omega

theorem toNat_smaller (a b : UInt64) :
    (if b < a then b else a).toNat = min a.toNat b.toNat := by
  by_cases h : b < a
  · rw [if_pos h]
    rw [UInt64.lt_iff_toNat_lt] at h
    omega
  · rw [if_neg h]
    rw [UInt64.lt_iff_toNat_lt] at h
    omega

/-- The ends of the interval of an assertion. -/
def ExternalTimeAssertion.lower (a : ExternalTimeAssertion) : ℤ :=
  a.assertedTimeNs.toNat - a.uncertaintyNs.toNat

def ExternalTimeAssertion.upper (a : ExternalTimeAssertion) : ℤ :=
  a.assertedTimeNs.toNat + a.uncertaintyNs.toNat

/-- What the two 64-bit ends say of intervals that may reach beyond. -/
structure Ends (latest : List ExternalTimeAssertion) (interval : UInt64 × UInt64) :
    Prop where
  lower : ∀ x : ℤ, 0 ≤ x →
    ((interval.1.toNat : ℤ) ≤ x ↔ ∀ a ∈ latest, a.lower ≤ x)
  upper : ∀ x : ℤ, x ≤ 2 ^ 64 - 1 →
    (x ≤ (interval.2.toNat : ℤ) ↔ ∀ a ∈ latest, x ≤ a.upper)

theorem ends_nil : Ends [] (0, 0xffffffffffffffff) := by
  constructor
  · intro x hx
    simpa using hx
  · intro x hx
    have hmax : ((0xffffffffffffffff : UInt64).toNat : ℤ) = 2 ^ 64 - 1 := rfl
    simpa [hmax] using hx

theorem ends_narrow {latest : List ExternalTimeAssertion}
    {interval : UInt64 × UInt64} (h : Ends latest interval)
    (a : ExternalTimeAssertion) :
    Ends (latest ++ [a]) (narrowIntersection interval a) := by
  have hlower : ∀ x : ℤ, 0 ≤ x →
      (((if a.assertedTimeNs ≥ a.uncertaintyNs then
        a.assertedTimeNs - a.uncertaintyNs else 0 : UInt64).toNat : ℤ) ≤ x
        ↔ a.lower ≤ x) := by
    intro x hx
    unfold ExternalTimeAssertion.lower
    by_cases hle : a.assertedTimeNs ≥ a.uncertaintyNs
    · rw [if_pos hle, UInt64.toNat_sub_of_le _ _ hle]
      rw [ge_iff_le, UInt64.le_iff_toNat_le] at hle
      omega
    · rw [if_neg hle, UInt64.toNat_zero]
      rw [ge_iff_le, UInt64.le_iff_toNat_le] at hle
      omega
  have hupper : ∀ x : ℤ, x ≤ 2 ^ 64 - 1 →
      (x ≤ ((saturatingAdd a.assertedTimeNs a.uncertaintyNs).toNat : ℤ)
        ↔ x ≤ a.upper) := by
    intro x hx
    unfold ExternalTimeAssertion.upper
    rw [toNat_saturatingAdd]
    omega
  constructor
  · intro x hx
    rw [List.forall_mem_append, ← h.lower x hx, List.forall_mem_singleton,
      ← hlower x hx]
    unfold narrowIntersection
    dsimp only
    rw [toNat_larger]
    omega
  · intro x hx
    rw [List.forall_mem_append, ← h.upper x hx, List.forall_mem_singleton,
      ← hupper x hx]
    unfold narrowIntersection
    dsimp only
    rw [toNat_smaller]
    omega

/-- The intersection the loop computes. -/
theorem ends_intersectIntervals (latest : List ExternalTimeAssertion) :
    Ends latest (intersectIntervals latest) := by
  have hfold : ∀ (rest seen : List ExternalTimeAssertion)
      (interval : UInt64 × UInt64), Ends seen interval →
      Ends (seen ++ rest) (rest.foldl narrowIntersection interval) := by
    intro rest
    induction rest with
    | nil =>
        intro seen interval h
        rw [List.append_nil]
        exact h
    | cons a rest ih =>
        intro seen interval h
        have hnext := ih (seen ++ [a]) _ (ends_narrow h a)
        rw [List.append_assoc] at hnext
        exact hnext
  exact hfold latest [] _ ends_nil

/-- The times no interval leaves out. -/
def commonTimes (latest : Set ExternalTimeAssertion) : Set ℤ :=
  {x | 0 ≤ x ∧ ∀ a ∈ latest, a.lower ≤ x ∧ x ≤ a.upper}

/-- Where common times are, around a time of evaluation: the statuses of a
set of sources that is large enough. -/
structure PlacedAs (policy : ExternalTimeFreshnessPolicy) (evaluatedAtNs : UInt64)
    (times : Set ℤ) (status : ExternalTimeFreshnessStatus) : Prop where
  inconsistent : status = .inconsistent ↔ times = ∅
  future : status = .future ↔ times.Nonempty
    ∧ ∀ x ∈ times,
      (evaluatedAtNs.toNat + policy.maximumFutureSkewNs.toNat : ℤ) < x
  stale : status = .stale ↔ times.Nonempty
    ∧ ∀ x ∈ times, x + policy.maximumAgeNs.toNat < evaluatedAtNs.toNat
  complete : status ≠ .incomplete

/-- **The status is exact**: whatever the 64-bit ends, it says where the
common times are. -/
theorem placed_freshnessStatus {policy : ExternalTimeFreshnessPolicy}
    {evaluatedAtNs : UInt64} {latest : List ExternalTimeAssertion}
    {interval : UInt64 × UInt64} (h : Ends latest interval) :
    PlacedAs policy evaluatedAtNs (commonTimes {a | a ∈ latest})
      (freshnessStatus policy evaluatedAtNs interval) := by
  obtain ⟨lo, hi⟩ := interval
  have hlo := lo.toNat_lt
  have hhi := hi.toNat_lt
  have heval := evaluatedAtNs.toNat_lt
  have hlower := h.lower
  have hupper := h.upper
  simp only at hlower hupper
  -- every common time is between the ends, as far as 64 bits reach
  have hmem : ∀ x ∈ commonTimes {a | a ∈ latest}, (lo.toNat : ℤ) ≤ x
      ∧ (x ≤ (hi.toNat : ℤ) ∨ (hi.toNat : ℤ) = 2 ^ 64 - 1) := by
    intro x hx
    refine ⟨(hlower x hx.1).mpr fun a ha => (hx.2 a ha).1, ?_⟩
    by_cases hle : x ≤ 2 ^ 64 - 1
    · exact .inl ((hupper x hle).mpr fun a ha => (hx.2 a ha).2)
    · have hmax := (hupper (2 ^ 64 - 1) le_rfl).mpr fun a ha =>
        (not_le.mp hle).le.trans (hx.2 a ha).2
      exact .inr (by omega)
  have hends : ∀ x : ℤ, (lo.toNat : ℤ) ≤ x → x ≤ hi.toNat →
      x ∈ commonTimes {a | a ∈ latest} := by
    intro x hx hx'
    refine ⟨by omega, fun a ha => ⟨?_, ?_⟩⟩
    · exact (hlower x (by omega)).mp hx a ha
    · exact (hupper x (by omega)).mp hx' a ha
  have hnonempty : (commonTimes {a | a ∈ latest}).Nonempty
      ↔ lo.toNat ≤ hi.toNat := by
    constructor
    · intro ⟨x, hx⟩
      have hx' := hmem x hx
      omega
    · intro hle
      exact ⟨lo.toNat, hends _ le_rfl (by omega)⟩
  have hinconsistent : lo > hi ↔ commonTimes {a | a ∈ latest} = ∅ := by
    rw [← Set.not_nonempty_iff_eq_empty, hnonempty, gt_iff_lt,
      UInt64.lt_iff_toNat_lt, not_le]
  have hfuture : lo.toNat ≤ hi.toNat →
      (lo > saturatingAdd evaluatedAtNs policy.maximumFutureSkewNs
      ↔ ∀ x ∈ commonTimes {a | a ∈ latest},
        (evaluatedAtNs.toNat + policy.maximumFutureSkewNs.toNat : ℤ) < x) := by
    intro hle
    rw [gt_iff_lt, UInt64.lt_iff_toNat_lt, toNat_saturatingAdd]
    constructor
    · intro hlt x hx
      have hx' := hmem x hx
      omega
    · intro hall
      have hlo' := hall lo.toNat (hends _ le_rfl (by omega))
      omega
  have hstale : lo.toNat ≤ hi.toNat →
      (saturatingAdd hi policy.maximumAgeNs < evaluatedAtNs
      ↔ ∀ x ∈ commonTimes {a | a ∈ latest},
        x + policy.maximumAgeNs.toNat < evaluatedAtNs.toNat) := by
    intro hle
    rw [UInt64.lt_iff_toNat_lt, toNat_saturatingAdd]
    constructor
    · intro hlt x hx
      have hx' := hmem x hx
      omega
    · intro hall
      have hhi' := hall hi.toNat (hends _ (by omega) le_rfl)
      omega
  have hapart : lo.toNat ≤ hi.toNat →
      lo > saturatingAdd evaluatedAtNs policy.maximumFutureSkewNs →
      ¬saturatingAdd hi policy.maximumAgeNs < evaluatedAtNs := by
    intro hle hlt hlt'
    rw [gt_iff_lt, UInt64.lt_iff_toNat_lt, toNat_saturatingAdd] at hlt
    rw [UInt64.lt_iff_toNat_lt, toNat_saturatingAdd] at hlt'
    omega
  unfold freshnessStatus
  by_cases hempty : lo > hi
  · have hnone := hinconsistent.mp hempty
    rw [if_pos hempty]
    refine ⟨by simp [hnone], ?_, ?_, by simp⟩
    · simp [hnone]
    · simp [hnone]
  · have hle : lo.toNat ≤ hi.toNat := by
      rw [gt_iff_lt, UInt64.lt_iff_toNat_lt] at hempty
      omega
    have hsome := hnonempty.mpr hle
    have hne : ¬commonTimes {a | a ∈ latest} = ∅ :=
      fun hnone => hempty (hinconsistent.mpr hnone)
    rw [if_neg hempty]
    by_cases hlate : lo > saturatingAdd evaluatedAtNs policy.maximumFutureSkewNs
    · rw [if_pos hlate]
      refine ⟨by simp [hne], ?_, ?_, by simp⟩
      · simpa [hsome] using (hfuture hle).mp hlate
      · have hnot := fun hall => hapart hle hlate ((hstale hle).mpr hall)
        simpa [hsome] using hnot
    · have hnotFuture := fun hall => hlate ((hfuture hle).mpr hall)
      rw [if_neg hlate]
      by_cases hold : saturatingAdd hi policy.maximumAgeNs < evaluatedAtNs
      · rw [if_pos hold]
        refine ⟨by simp [hne], ?_, ?_, by simp⟩
        · simpa [hsome] using hnotFuture
        · simpa [hsome] using (hstale hle).mp hold
      · have hnotStale := fun hall => hold ((hstale hle).mpr hall)
        rw [if_neg hold]
        refine ⟨by simp [hne], ?_, ?_, by simp⟩
        · simpa [hsome] using hnotFuture
        · simpa [hsome] using hnotStale

-- === chains

/-- The assertions of one source: numbered from one, each naming the one
before it, at times that do not decrease. -/
structure SourceChain (chain : List ExternalTimeAssertion) : Prop where
  sequences : ∀ i a, chain[i]? = some a → a.sourceSequence.toNat = i + 1
  root : ∀ a, chain[0]? = some a → a.parentAssertionId = []
  linked : ∀ i a b, chain[i]? = some a → chain[i + 1]? = some b →
    b.parentAssertionId = a.id ∧ a.assertedTimeNs ≤ b.assertedTimeNs

/-- The loop over a chain, from any place in it. -/
theorem linked_of_checkSourceChain : ∀ {l : List ExternalTimeAssertion} {index : Nat}
    {parent : Bytes} {previousTime : UInt64}, index + l.length < 2 ^ 64 →
    checkSourceChain index parent previousTime l = .ok () →
    (∀ i a, l[i]? = some a → a.sourceSequence.toNat = index + i + 1)
      ∧ (∀ a, l[0]? = some a → a.parentAssertionId = parent
        ∧ (0 < index → previousTime ≤ a.assertedTimeNs))
      ∧ ∀ i a b, l[i]? = some a → l[i + 1]? = some b →
        b.parentAssertionId = a.id ∧ a.assertedTimeNs ≤ b.assertedTimeNs := by
  intro l
  induction l with
  | nil =>
      intro index parent previousTime _ _
      simp
  | cons first l ih =>
      intro index parent previousTime hlength h
      rw [List.length_cons] at hlength
      unfold checkSourceChain at h
      rw [ite_failure_eq_ok] at h
      obtain ⟨hfirst, hrest⟩ := h
      simp only [not_or, not_not, not_and, UInt64.not_lt] at hfirst
      obtain ⟨hsequence, hparent, htime⟩ := hfirst
      obtain ⟨hsequences, hhead, hlinked⟩ := ih (by omega) hrest
      refine ⟨?_, ?_, ?_⟩
      · intro i a ha
        cases i with
        | zero =>
            rw [List.getElem?_cons_zero, Option.some.injEq] at ha
            rw [← ha, hsequence, UInt64.toNat_ofNat']
            exact Nat.mod_eq_of_lt (by omega)
        | succ i =>
            rw [List.getElem?_cons_succ] at ha
            rw [hsequences i a ha]
            omega
      · intro a ha
        rw [List.getElem?_cons_zero, Option.some.injEq] at ha
        rw [← ha]
        exact ⟨hparent, htime⟩
      · intro i a b ha hb
        rw [List.getElem?_cons_succ] at hb
        cases i with
        | zero =>
            rw [List.getElem?_cons_zero, Option.some.injEq] at ha
            obtain ⟨hparent', htime'⟩ := hhead b hb
            rw [← ha]
            exact ⟨hparent', htime' (Nat.succ_pos index)⟩
        | succ i =>
            rw [List.getElem?_cons_succ] at ha
            exact hlinked i a b ha hb

theorem sourceChain_of_check {chain : List ExternalTimeAssertion}
    (hlength : chain.length < 2 ^ 64)
    (h : checkSourceChain 0 [] 0 chain = .ok ()) : SourceChain chain := by
  obtain ⟨hsequences, hhead, hlinked⟩ :=
    linked_of_checkSourceChain (by omega) h
  refine ⟨?_, fun a ha => (hhead a ha).1, hlinked⟩
  intro i a ha
  rw [hsequences i a ha]
  omega

/-- The last of a chain has the greatest number. -/
theorem sequence_le_last {chain : List ExternalTimeAssertion}
    (h : SourceChain chain) {a b : ExternalTimeAssertion}
    (hlast : chain.getLast? = some a) (hb : b ∈ chain) :
    b.sourceSequence.toNat ≤ a.sourceSequence.toNat := by
  obtain ⟨i, hi, rfl⟩ := List.mem_iff_getElem.mp hb
  rw [List.getLast?_eq_getElem?] at hlast
  rw [h.sequences _ _ hlast, h.sequences i _ (List.getElem?_eq_getElem hi)]
  omega

theorem latestAssertions_ok : ∀ {chains : SourceChains}
    {latest : List ExternalTimeAssertion}, latestAssertions chains = .ok latest →
    (∀ g ∈ chains, checkSourceChain 0 [] 0
        (sort ExternalTimeAssertion.chainKey g.2) = .ok ())
      ∧ latest = chains.flatMap fun g =>
        (sort ExternalTimeAssertion.chainKey g.2).getLast?.toList := by
  intro chains
  induction chains with
  | nil =>
      intro latest h
      rw [latestAssertions, Except.ok.injEq] at h
      exact ⟨by simp, h.symm⟩
  | cons g chains ih =>
      intro latest h
      obtain ⟨k, chain⟩ := g
      unfold latestAssertions at h
      rw [check_eq_ok, bind_eq_ok] at h
      obtain ⟨hcheck, rest, hrest, hlatest⟩ := h
      obtain ⟨hall, heq⟩ := ih hrest
      refine ⟨List.forall_mem_cons.mpr ⟨hcheck, hall⟩, ?_⟩
      rw [← Except.ok.inj hlatest, heq, List.flatMap_cons]

/-- The last assertions depend on the sorted chains alone. -/
theorem latestAssertions_congr : ∀ {chains chains' : SourceChains},
    chains.map (fun g => sort ExternalTimeAssertion.chainKey g.2)
      = chains'.map (fun g => sort ExternalTimeAssertion.chainKey g.2) →
    latestAssertions chains = latestAssertions chains' := by
  intro chains
  induction chains with
  | nil =>
      intro chains' h
      cases chains' with
      | nil => rfl
      | cons g chains' => cases h
  | cons g chains ih =>
      intro chains' h
      cases chains' with
      | nil => cases h
      | cons g' chains' =>
          rw [List.map_cons, List.map_cons, List.cons.injEq] at h
          obtain ⟨k, chain⟩ := g
          obtain ⟨k', chain'⟩ := g'
          unfold latestAssertions
          rw [ih h.2]
          dsimp only at h
          rw [h.1]

/-- Assertions of different ids make the same chains in any order. -/
theorem chains_perm {l l' : List ExternalTimeAssertion} (hperm : l.Perm l')
    (hids : (l.map fun a => a.id).Nodup) :
    (groups ExternalTimeAssertion.source l).map
        (fun g => sort ExternalTimeAssertion.chainKey g.2)
      = (groups ExternalTimeAssertion.source l').map
        (fun g => sort ExternalTimeAssertion.chainKey g.2) := by
  rw [Lib.Groups.groups_eq _ l, Lib.Groups.groups_eq _ l',
    Lib.Groups.keys_congr _ hperm]
  generalize (groups ExternalTimeAssertion.source l').map (·.1) = keys
  rw [List.map_map, List.map_map]
  apply List.map_congr_left
  intro k _
  apply Lib.Sorting.sort_congr
  · exact hperm.filter _
  · intro a ha b hb hkey
    have hid : a.id = b.id := congrArg Tie.second hkey
    exact List.inj_on_of_nodup_map hids (List.mem_of_mem_filter ha)
      (List.mem_of_mem_filter hb) hid

-- === sources

/-- The latest assertion of a source. -/
def LatestIn (assertions : List ExternalTimeAssertion)
    (a : ExternalTimeAssertion) : Prop :=
  a ∈ assertions ∧ ∀ b ∈ assertions, b.source = a.source →
    b.sourceSequence ≤ a.sourceSequence

/-- How many sources assert a time, or how many services of sources. -/
def contributing (policy : ExternalTimeFreshnessPolicy)
    (assertions : List ExternalTimeAssertion) : Nat :=
  if policy.requireDistinctServices then
    (assertions.map fun a => a.sourceServiceId).toFinset.card
  else (assertions.map fun a => a.source).toFinset.card

section
variable {assertions latest : List ExternalTimeAssertion}

/-- The chain of a source, as it is checked. -/
theorem chain_of_group (hlength : assertions.length < 2 ^ 64)
    (h : latestAssertions (groups ExternalTimeAssertion.source assertions)
      = .ok latest) {g : Tie Bytes Bytes × List ExternalTimeAssertion}
    (hg : g ∈ groups ExternalTimeAssertion.source assertions) :
    SourceChain (sort ExternalTimeAssertion.chainKey g.2)
      ∧ (∀ a, a ∈ sort ExternalTimeAssertion.chainKey g.2
        ↔ a ∈ assertions ∧ a.source = g.1) := by
  obtain ⟨hchecks, -⟩ := latestAssertions_ok h
  have hitems : g.2 = assertions.filter fun a => a.source = g.1 :=
    (Lib.Groups.holds_groups _ assertions).items g hg
  constructor
  · apply sourceChain_of_check _ (hchecks g hg)
    have hle := List.length_filter_le (fun a => decide (a.source = g.1)) assertions
    have hsort := (Lib.Sorting.sort_perm ExternalTimeAssertion.chainKey g.2).length_eq
    rw [← hitems] at hle
    omega
  · intro a
    rw [Lib.Sorting.mem_sort, hitems, List.mem_filter, decide_eq_true_eq]

/-- Each source has a group, and a last assertion in it. -/
theorem last_of_group (hlength : assertions.length < 2 ^ 64)
    (h : latestAssertions (groups ExternalTimeAssertion.source assertions)
      = .ok latest) {g : Tie Bytes Bytes × List ExternalTimeAssertion}
    (hg : g ∈ groups ExternalTimeAssertion.source assertions) :
    ∃ last, (sort ExternalTimeAssertion.chainKey g.2).getLast? = some last
      ∧ last.source = g.1 ∧ LatestIn assertions last := by
  obtain ⟨hchain, hmem⟩ := chain_of_group hlength h hg
  obtain ⟨a, ha, hkey⟩ := ((Lib.Groups.holds_groups ExternalTimeAssertion.source
    assertions).keys g.1).mp (List.mem_map_of_mem hg)
  cases hlast : (sort ExternalTimeAssertion.chainKey g.2).getLast? with
  | none =>
      have ha' := (hmem a).mpr ⟨ha, hkey⟩
      rw [List.getLast?_eq_none_iff.mp hlast] at ha'
      exact absurd ha' List.not_mem_nil
  | some last =>
      obtain ⟨hlastMem, hsource⟩ := (hmem last).mp (List.mem_of_getLast? hlast)
      refine ⟨last, rfl, hsource, hlastMem, ?_⟩
      intro b hb hsame
      rw [UInt64.le_iff_toNat_le]
      exact sequence_le_last hchain hlast ((hmem b).mpr ⟨hb, hsame.trans hsource⟩)

/-- One latest assertion for each source, in the order of the sources. -/
theorem sources_latest (hlength : assertions.length < 2 ^ 64)
    (h : latestAssertions (groups ExternalTimeAssertion.source assertions)
      = .ok latest) :
    latest.map (fun a => a.source)
      = (groups ExternalTimeAssertion.source assertions).map (·.1) := by
  obtain ⟨-, hlatest⟩ := latestAssertions_ok h
  have hone : ∀ g ∈ groups ExternalTimeAssertion.source assertions,
      ((sort ExternalTimeAssertion.chainKey g.2).getLast?.toList).map
        (fun a => a.source) = [g.1] := by
    intro g hg
    obtain ⟨last, hlast, hsource, -⟩ := last_of_group hlength h hg
    rw [hlast, ← hsource]
    rfl
  rw [hlatest, List.map_flatMap, List.flatMap_congr hone]
  exact List.flatMap_pure_eq_map _ _

/-- The latest assertions are those no other of the source comes after. -/
theorem mem_latest (hlength : assertions.length < 2 ^ 64)
    (h : latestAssertions (groups ExternalTimeAssertion.source assertions)
      = .ok latest) (a : ExternalTimeAssertion) :
    a ∈ latest ↔ LatestIn assertions a := by
  obtain ⟨-, hlatest⟩ := latestAssertions_ok h
  rw [hlatest, List.mem_flatMap]
  constructor
  · intro hmem
    obtain ⟨g, hg, ha⟩ := hmem
    obtain ⟨last, hlast, -, hlatestIn⟩ := last_of_group hlength h hg
    rw [hlast, Option.toList_some, List.mem_singleton] at ha
    rw [ha]
    exact hlatestIn
  · intro hlatestIn
    obtain ⟨g, hg, hkey⟩ := List.mem_map.mp
      (((Lib.Groups.holds_groups ExternalTimeAssertion.source assertions).keys
        a.source).mpr ⟨a, hlatestIn.1, rfl⟩)
    obtain ⟨hchain, hmem⟩ := chain_of_group hlength h hg
    obtain ⟨last, hlast, hsource, hlastIn⟩ := last_of_group hlength h hg
    have hsame : last.source = a.source := hsource.trans hkey
    have hle := UInt64.le_iff_toNat_le.mp (hlatestIn.2 last hlastIn.1 hsame)
    have hge := UInt64.le_iff_toNat_le.mp (hlastIn.2 a hlatestIn.1 hsame.symm)
    -- the same number in one chain is the same place
    obtain ⟨i, hi, hai⟩ := List.mem_iff_getElem.mp
      ((hmem a).mpr ⟨hlatestIn.1, hkey.symm⟩)
    obtain ⟨j, hj, hlj⟩ := List.mem_iff_getElem.mp (List.mem_of_getLast? hlast)
    have hseq := hchain.sequences i a (by rw [List.getElem?_eq_getElem hi, hai])
    have hseq' := hchain.sequences j last (by rw [List.getElem?_eq_getElem hj, hlj])
    have hij : i = j := by omega
    subst hij
    refine ⟨g, hg, ?_⟩
    rw [hlast, Option.toList_some, List.mem_singleton, ← hai, ← hlj]

/-- The count of the report is the number of sources, or of services. -/
theorem authenticatedSources_eq (hlength : assertions.length < 2 ^ 64)
    (h : latestAssertions (groups ExternalTimeAssertion.source assertions)
      = .ok latest) (policy : ExternalTimeFreshnessPolicy) :
    authenticatedSources policy latest = contributing policy assertions := by
  have hsources := sources_latest hlength h
  have hholds := Lib.Groups.holds_groups ExternalTimeAssertion.source assertions
  have hset : (latest.map fun a => a.source).toFinset
      = (assertions.map fun a => a.source).toFinset := by
    ext k
    rw [List.mem_toFinset, List.mem_toFinset, hsources, hholds.keys, List.mem_map]
  have hnodup : (latest.map fun a => a.source).Nodup := by
    rw [hsources]
    apply List.Pairwise.imp _ hholds.sorted
    intro k k' hlt heq
    rw [heq] at hlt
    exact Std.lt_irrefl hlt
  unfold authenticatedSources contributing
  by_cases hdistinct : policy.requireDistinctServices = true
  · rw [if_pos hdistinct, if_pos hdistinct, ← List.card_toFinset]
    have hservices : ∀ l : List ExternalTimeAssertion,
        (l.map fun a => a.sourceServiceId).toFinset
          = (l.map fun a => a.source).toFinset.image Tie.first := by
      intro l
      ext service
      simp [ExternalTimeAssertion.source]
    rw [hservices, hservices, hset]
  · rw [if_neg hdistinct, if_neg hdistinct, ← hset,
      List.toFinset_card_of_nodup hnodup, List.length_map]

end

end RbfSafe
