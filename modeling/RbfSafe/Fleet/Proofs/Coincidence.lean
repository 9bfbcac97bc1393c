/-
Conflicts as what they mean, and the coincidence of the two traversals.

Two windows meet when they share a tick; two reservations interfere when
they are of one deployment, overlap in space or are closer than the
larger margin. Neither depends on the order the two are named in, and
the list of the analysis has one entry for each two reservations that
meet and interfere (`ConflictsExact`).
-/
import RbfSafe.Core.Proofs.Sha256
import RbfSafe.Fleet.Proofs.Report

namespace RbfSafe

open Lib
open Float.Model.UnpackedFloat

-- === interference

/-- The half-open windows have a tick in common. -/
def WindowsMeet (first second : FleetReservation) : Prop :=
  ∃ tick, (first.beginTick ≤ tick ∧ tick < first.endTick)
    ∧ second.beginTick ≤ tick ∧ tick < second.endTick

theorem timeOverlaps_iff {first second : FleetReservation}
    (hfirst : first.beginTick < first.endTick)
    (hsecond : second.beginTick < second.endTick) :
    timeOverlaps first second = true ↔ WindowsMeet first second := by
  unfold timeOverlaps
  rw [Bool.and_eq_true, decide_eq_true_eq, decide_eq_true_eq]
  constructor
  · intro ⟨h, h'⟩
    refine ⟨Nat.max first.beginTick second.beginTick, ⟨?_, ?_⟩, ?_, ?_⟩
    · exact Nat.le_max_left _ _
    · exact Nat.max_lt.mpr ⟨hfirst, h'⟩
    · exact Nat.le_max_right _ _
    · exact Nat.max_lt.mpr ⟨h, hsecond⟩
  · intro ⟨tick, ⟨h₁, h₂⟩, h₃, h₄⟩
    exact ⟨Nat.lt_of_le_of_lt h₁ h₄, Nat.lt_of_le_of_lt h₃ h₂⟩

theorem WindowsMeet.symm {first second : FleetReservation}
    (h : WindowsMeet first second) : WindowsMeet second first := by
  obtain ⟨tick, hfirst, hsecond⟩ := h
  exact ⟨tick, hsecond, hfirst⟩

/-- The distance of the two boxes is below one of the margins. -/
def TooClose (first second : FleetReservation) : Prop :=
  Scalar.lt (first.occupancy.distanceLowerBound second.occupancy)
      first.separationMargin = true
    ∨ Scalar.lt (first.occupancy.distanceLowerBound second.occupancy)
      second.separationMargin = true

/-- Two reservations that cannot share a tick. -/
def Interfere (first second : FleetReservation) : Prop :=
  first.deploymentId = second.deploymentId
    ∨ first.occupancy.overlaps second.occupancy Scalar.zero = true
    ∨ TooClose first second

/-- Below the larger of two margins. -/
theorem lt_max_iff_of_signed {a b c : Float}
    (hc : Signed .positive c.toModel.unpack)
    (ha : Scalar.isFinite a = true) (hb : Scalar.isFinite b = true) :
    Scalar.lt c (Scalar.max a b) = true
      ↔ Scalar.lt c a = true ∨ Scalar.lt c b = true := by
  rw [float_isFinite] at ha hb
  have hna := not_nan_of_finite ha
  have hnb := not_nan_of_finite hb
  have hnc := hc.not_nan
  unfold Scalar.max
  rw [float_lt c a, float_lt c b, lt_iff_place hnc hna, lt_iff_place hnc hnb]
  by_cases hab : Scalar.lt a b = true
  · rw [if_pos hab, float_lt c b, lt_iff_place hnc hnb]
    rw [float_lt, lt_iff_place hna hnb] at hab
    exact ⟨Or.inr, fun h => h.elim (fun h => h.trans hab) id⟩
  · rw [if_neg hab, float_lt c a, lt_iff_place hnc hna]
    rw [float_lt, lt_iff_place hna hnb, not_lt] at hab
    exact ⟨Or.inl, fun h => h.elim id fun h => h.trans_le hab⟩

section
variable {P : Platform} {fleet : FleetSnapshot}
  {first second : FleetReservation}

theorem Interfere.symm (hfirst : first.occupancy.valid = true)
    (hsecond : second.occupancy.valid = true) (h : Interfere first second) :
    Interfere second first := by
  rcases h with h | h | h
  · exact Or.inl h.symm
  · rw [WorkspaceAabb.overlaps_comm] at h
    exact Or.inr (Or.inl h)
  · unfold TooClose at h
    rw [WorkspaceAabb.distance_comm hfirst hsecond] at h
    exact Or.inr (Or.inr h.symm)

-- === entries

/-- The entry for two reservations, the first of them first in order. -/
structure ConflictEntry (first second : FleetReservation)
    (conflict : FleetConflict) : Prop where
  firstId : conflict.firstReservationId = first.id
  secondId : conflict.secondReservationId = second.id
  clearance : conflict.clearanceLowerBound
    = first.occupancy.distanceLowerBound second.occupancy
  margin : conflict.requiredMargin
    = Scalar.max first.separationMargin second.separationMargin
  duplicate : conflict.reason = .duplicateRobotWindow ↔
    first.deploymentId = second.deploymentId
  overlap : conflict.reason = .workspaceOverlap ↔
    first.deploymentId ≠ second.deploymentId
      ∧ first.occupancy.overlaps second.occupancy Scalar.zero = true
  close : conflict.reason = .separationMarginViolated ↔
    first.deploymentId ≠ second.deploymentId
      ∧ first.occupancy.overlaps second.occupancy Scalar.zero = false
      ∧ Scalar.lt (first.occupancy.distanceLowerBound second.occupancy)
        (Scalar.max first.separationMargin second.separationMargin) = true

theorem expectedReason_iff {reason : FleetConflictReason} :
    expectedReason first second = some reason ↔
      (reason = .duplicateRobotWindow ↔
        first.deploymentId = second.deploymentId)
      ∧ (reason = .workspaceOverlap ↔
        first.deploymentId ≠ second.deploymentId
          ∧ first.occupancy.overlaps second.occupancy Scalar.zero = true)
      ∧ (reason = .separationMarginViolated ↔
        first.deploymentId ≠ second.deploymentId
          ∧ first.occupancy.overlaps second.occupancy Scalar.zero = false
          ∧ Scalar.lt (first.occupancy.distanceLowerBound second.occupancy)
            (Scalar.max first.separationMargin second.separationMargin)
              = true) := by
  unfold expectedReason
  by_cases hsame : first.deploymentId = second.deploymentId
  · cases reason <;> simp [hsame]
  · cases hoverlaps : first.occupancy.overlaps second.occupancy Scalar.zero with
    | true => cases reason <;> simp [hsame]
    | false =>
        cases hclose : Scalar.lt
            (first.occupancy.distanceLowerBound second.occupancy)
            (Scalar.max first.separationMargin second.separationMargin) with
        | true => cases reason <;> simp [hsame]
        | false => cases reason <;> simp [hsame]

theorem conflictOf_eq_some {conflict : FleetConflict} :
    conflictOf first second = some conflict
      ↔ ConflictEntry first second conflict := by
  rw [conflictOf_eq, Option.map_eq_some_iff]
  constructor
  · intro ⟨reason, hreason, heq⟩
    subst heq
    obtain ⟨hduplicate, hoverlap, hclose⟩ := expectedReason_iff.mp hreason
    exact ⟨rfl, rfl, rfl, rfl, hduplicate, hoverlap, hclose⟩
  · intro h
    refine ⟨conflict.reason,
      expectedReason_iff.mpr ⟨h.duplicate, h.overlap, h.close⟩, ?_⟩
    rw [← h.firstId, ← h.secondId, ← h.clearance, ← h.margin]

/-- There is an entry for reservations that interfere. -/
theorem exists_entry_iff (hfirst : admissible P fleet first = true)
    (hsecond : admissible P fleet second = true) :
    (∃ conflict, ConflictEntry first second conflict)
      ↔ Interfere first second := by
  obtain ⟨_, -, -, hvalid, -, -, hfinite, -, -⟩ :=
    (admissible_iff P).mp hfirst
  obtain ⟨_, -, -, hvalid', -, -, hfinite', -, -⟩ :=
    (admissible_iff P).mp hsecond
  have hclose := lt_max_iff_of_signed
    (WorkspaceAabb.signed_distance hvalid hvalid') hfinite hfinite'
  simp only [← conflictOf_eq_some, conflictOf_eq]
  unfold expectedReason Interfere TooClose
  rw [← hclose]
  by_cases hsame : first.deploymentId = second.deploymentId
  · simp [hsame]
  · cases first.occupancy.overlaps second.occupancy Scalar.zero with
    | true => simp [hsame]
    | false => simp [hsame]

/-- The list of conflicts says exactly which reservations meet and
interfere. -/
structure ConflictsExact (reservations : List FleetReservation)
    (conflicts : List FleetConflict) : Prop where
  entries : ∀ conflict, conflict ∈ conflicts ↔ ∃ first ∈ reservations,
    ∃ second ∈ reservations, reservationLess first second = true
      ∧ WindowsMeet first second ∧ ConflictEntry first second conflict
  once : (conflicts.map fun conflict =>
    (conflict.firstReservationId, conflict.secondReservationId)).Nodup
  interfering : ∀ first ∈ reservations, ∀ second ∈ reservations,
    first.id ≠ second.id →
    ((∃ conflict ∈ conflicts,
        (conflict.firstReservationId = first.id
          ∧ conflict.secondReservationId = second.id)
        ∨ conflict.firstReservationId = second.id
          ∧ conflict.secondReservationId = first.id)
      ↔ WindowsMeet first second ∧ Interfere first second)

theorem mem_pairs_iff {ordered : List FleetReservation}
    (hordered : ordered.Pairwise fun a b => reservationLess a b = true) :
    (first, second) ∈ Sweep.pairs ordered ↔ first ∈ ordered
      ∧ second ∈ ordered ∧ reservationLess first second = true := by
  refine Sweep.mem_pairs hordered ?_ ?_
  · intro a
    simp [reservationLess, Std.lt_irrefl]
  · intro a b hab hba
    rw [reservationLess, decide_eq_true_eq] at hab hba
    exact Std.not_lt.mpr (Std.le_of_lt hab) hba

/-- Different ids make the order of sorted reservations strict. -/
theorem strict_inOrder {ordered : List FleetReservation}
    (h : ordered.Pairwise InOrder)
    (hdistinct : (ordered.map (·.id)).Nodup) :
    ordered.Pairwise fun a b => reservationLess a b = true := by
  have hne : ordered.Pairwise fun a b => a.id ≠ b.id :=
    List.pairwise_map.mp hdistinct
  refine (h.and hne).imp ?_
  intro a b ⟨hle, hid⟩
  rw [reservationLess, decide_eq_true_eq]
  refine Std.lt_of_le_of_ne hle fun heq => hid ?_
  exact congrArg (fun key => key.second.second) heq

/-- Of two reservations with different ids one comes first. -/
theorem reservationLess_total (h : first.id ≠ second.id) :
    reservationLess first second = true
      ∨ reservationLess second first = true := by
  unfold reservationLess
  rw [decide_eq_true_eq, decide_eq_true_eq]
  rcases Std.lt_trichotomy (reservationKey first) (reservationKey second)
    with hlt | heq | hlt
  · exact Or.inl hlt
  · exact absurd (congrArg (fun key => key.second.second) heq) h
  · exact Or.inr hlt

/-- The ids of the entries are those of the pairs that have one. -/
theorem ids_conflictsOf
    (pairs : List (FleetReservation × FleetReservation)) :
    (conflictsOf pairs).map (fun conflict =>
        (conflict.firstReservationId, conflict.secondReservationId))
      = (pairs.filter fun p => (conflictOf p.1 p.2).isSome).map
        fun p => (p.1.id, p.2.id) := by
  induction pairs with
  | nil => rfl
  | cons p pairs ih =>
      obtain ⟨a, b⟩ := p
      cases hconflict : conflictOf a b with
      | none =>
          rw [conflictsOf_cons_none hconflict, ih,
            List.filter_cons_of_neg (by simp [hconflict])]
      | some conflict =>
          have hentry := conflictOf_eq_some.mp hconflict
          rw [conflictsOf_cons_some hconflict, List.map_cons, ih,
            List.filter_cons_of_pos (by simp [hconflict]), List.map_cons,
            hentry.firstId, hentry.secondId]

/-- **Brute force lists the interfering reservations.** -/
theorem conflictsExact {reservations ordered : List FleetReservation}
    (hperm : ordered.Perm reservations) (hordered : ordered.Pairwise InOrder)
    (hdistinct : (reservations.map (·.id)).Nodup)
    (hadmissible : ∀ r ∈ reservations, admissible P fleet r = true) :
    ConflictsExact reservations (conflictsOf (overlapping ordered)) := by
  have hnodup : (ordered.map (·.id)).Nodup :=
    (hperm.map _).nodup_iff.mpr hdistinct
  have hstrict := strict_inOrder hordered hnodup
  have hticks : ∀ r ∈ reservations, r.beginTick < r.endTick := by
    intro r hr
    obtain ⟨_, -, -, -, -, hlt, -⟩ :=
      (admissible_iff P).mp (hadmissible r hr)
    exact hlt
  have hentries : ∀ conflict, conflict ∈ conflictsOf (overlapping ordered) ↔
      ∃ first ∈ reservations, ∃ second ∈ reservations,
        reservationLess first second = true ∧ WindowsMeet first second
          ∧ ConflictEntry first second conflict := by
    intro conflict
    unfold conflictsOf overlapping
    rw [List.mem_filterMap]
    constructor
    · intro ⟨⟨a, b⟩, hmem, hconflict⟩
      obtain ⟨hpair, hmeet⟩ := List.mem_filter.mp hmem
      obtain ⟨ha, hb, hless⟩ := (mem_pairs_iff hstrict).mp hpair
      have ha := hperm.mem_iff.mp ha
      have hb := hperm.mem_iff.mp hb
      exact ⟨a, ha, b, hb, hless,
        (timeOverlaps_iff (hticks a ha) (hticks b hb)).mp hmeet,
        conflictOf_eq_some.mp hconflict⟩
    · intro ⟨a, ha, b, hb, hless, hmeet, hentry⟩
      refine ⟨(a, b), List.mem_filter.mpr ⟨?_, ?_⟩,
        conflictOf_eq_some.mpr hentry⟩
      · exact (mem_pairs_iff hstrict).mpr
          ⟨hperm.mem_iff.mpr ha, hperm.mem_iff.mpr hb, hless⟩
      · exact (timeOverlaps_iff (hticks a ha) (hticks b hb)).mpr hmeet
  refine ⟨hentries, ?_, ?_⟩
  · -- the ids of an entry are those of its pair, and each pair comes once
    rw [ids_conflictsOf]
    have hpairs : (Sweep.pairs ordered).Nodup :=
      Sweep.nodup_pairs (List.Nodup.of_map _ hnodup)
    refine List.Nodup.map_on ?_ ((hpairs.filter _).filter _)
    intro p hp q hq heq
    have hmem : ∀ r ∈ (overlapping ordered).filter fun p =>
        (conflictOf p.1 p.2).isSome, r.1 ∈ ordered ∧ r.2 ∈ ordered :=
      fun r hr => Sweep.mem_of_mem_pairs
        (List.mem_filter.mp (List.mem_filter.mp hr).1).1
    obtain ⟨hfirst, hsecond⟩ := Prod.mk.inj heq
    exact Prod.ext
      (List.inj_on_of_nodup_map hnodup (hmem p hp).1 (hmem q hq).1 hfirst)
      (List.inj_on_of_nodup_map hnodup (hmem p hp).2 (hmem q hq).2 hsecond)
  · intro a ha b hb hid
    have hvalid : ∀ r ∈ reservations, r.occupancy.valid = true := by
      intro r hr
      obtain ⟨_, -, -, hvalid, -⟩ :=
        (admissible_iff P).mp (hadmissible r hr)
      exact hvalid
    have heq : ∀ r ∈ reservations, ∀ s ∈ reservations, r.id = s.id → r = s :=
      fun r hr s hs h => List.inj_on_of_nodup_map hdistinct hr hs h
    constructor
    · intro ⟨conflict, hconflict, hids⟩
      obtain ⟨r, hr, s, hs, -, hmeet, hentry⟩ := (hentries conflict).mp hconflict
      have hinterfere := (exists_entry_iff (hadmissible r hr)
        (hadmissible s hs)).mp ⟨conflict, hentry⟩
      rw [hentry.firstId, hentry.secondId] at hids
      rcases hids with ⟨hra, hsb⟩ | ⟨hrb, hsa⟩
      · cases heq r hr a ha hra
        cases heq s hs b hb hsb
        exact ⟨hmeet, hinterfere⟩
      · cases heq r hr b hb hrb
        cases heq s hs a ha hsa
        exact ⟨hmeet.symm, hinterfere.symm (hvalid b hb) (hvalid a ha)⟩
    · intro ⟨hmeet, hinterfere⟩
      rcases reservationLess_total hid with hless | hless
      · obtain ⟨conflict, hentry⟩ := (exists_entry_iff (hadmissible a ha)
          (hadmissible b hb)).mpr hinterfere
        exact ⟨conflict, (hentries conflict).mpr
          ⟨a, ha, b, hb, hless, hmeet, hentry⟩,
          Or.inl ⟨hentry.firstId, hentry.secondId⟩⟩
      · obtain ⟨conflict, hentry⟩ := (exists_entry_iff (hadmissible b hb)
          (hadmissible a ha)).mpr
            (hinterfere.symm (hvalid a ha) (hvalid b hb))
        exact ⟨conflict, (hentries conflict).mpr
          ⟨b, hb, a, ha, hless, hmeet.symm, hentry⟩,
          Or.inr ⟨hentry.firstId, hentry.secondId⟩⟩

end

-- === coincidence

/-- A conflict of an admissible pair is one the check takes for itself. -/
theorem sameConflict_refl {P : Platform} {fleet : FleetSnapshot}
    {first second : FleetReservation} {conflict : FleetConflict}
    (hfirst : admissible P fleet first = true)
    (hsecond : admissible P fleet second = true)
    (h : ConflictEntry first second conflict) :
    SameConflict conflict conflict := by
  obtain ⟨_, -, -, hvalid, -, -, hfinite, -, -⟩ :=
    (admissible_iff P).mp hfirst
  obtain ⟨_, -, -, hvalid', -, -, hfinite', -, -⟩ :=
    (admissible_iff P).mp hsecond
  refine ⟨rfl, rfl, rfl, ?_, ?_⟩
  · rw [h.clearance]
    exact WorkspaceAabb.distance_eq_self hvalid hvalid'
  · rw [h.margin]
    unfold Scalar.max
    split
    · exact LawfulScalar.eq_refl hfinite'
    · exact LawfulScalar.eq_refl hfinite

/-- The report of brute force passes the check. -/
theorem scheduleReport_accepted {P : Platform} {fleet : FleetSnapshot}
    {ordered : List FleetReservation} {maximum : Nat}
    (hfleet : validFleetSnapshot P fleet = true) (hpositive : 0 < maximum)
    (hadmissible : ∀ r ∈ ordered, admissible P fleet r = true)
    (hdistinct : (ordered.map (·.id)).Nodup)
    (hordered : ordered.Pairwise InOrder)
    (hbounded : (overlapping ordered).length ≤ maximum) :
    AcceptedReport P fleet (scheduleReport P fleet ordered) maximum := by
  refine ⟨hfleet, hpositive, rfl, hadmissible, hdistinct, hordered, ?_, rfl,
    hbounded, rfl, rfl⟩
  show List.Forall₂ SameConflict (conflictsOf (overlapping ordered))
    (conflictsOf (overlapping ordered))
  rw [List.forall₂_same]
  intro conflict hconflict
  obtain ⟨⟨a, b⟩, hmem, hof⟩ := List.mem_filterMap.mp hconflict
  obtain ⟨ha, hb⟩ := Sweep.mem_of_mem_pairs (List.mem_filter.mp hmem).1
  exact sameConflict_refl (hadmissible a ha) (hadmissible b hb)
    (conflictOf_eq_some.mp hof)

/-- Reports that differ at most in the sign of a zero in a conflict. -/
structure SameUpToZeros (report other : FleetScheduleReport) : Prop where
  snapshot : report.fleetSnapshotId = other.fleetSnapshotId
  status : report.status = other.status
  reservations : report.reservations = other.reservations
  pairs : report.pairEvaluations = other.pairEvaluations
  conflicts : List.Forall₂ SameConflict report.conflicts other.conflicts
  /-- With the zeros written alike it is one report. -/
  same : report.conflicts = other.conflicts → report = other

theorem scheduleStatus_congr {conflicts conflicts' : List FleetConflict}
    (h : List.Forall₂ SameConflict conflicts conflicts') :
    scheduleStatus conflicts = scheduleStatus conflicts' := by
  cases h <;> rfl

/-- **Analysis, check and brute force coincide**, as far as the check
looks: it asks no memory for the sources and takes the two zeros for
one. -/
theorem fleetSchedule_coincides (P : Platform) (fleet : FleetSnapshot) :
    (∀ (memory : SafetyMemory) (reservations : List FleetReservation)
      (options : FleetScheduleOptions) (report : FleetScheduleReport),
      analyzeFleetSchedule P fleet memory reservations options = .ok report →
      ConflictsExact reservations report.conflicts
        ∧ (∀ reservations', reservations.Perm reservations' →
          analyzeFleetSchedule P fleet memory reservations' options
            = .ok report)
        ∧ ∀ maximum, 0 < maximum → report.pairEvaluations ≤ maximum →
          validateFleetScheduleReport P fleet report maximum = .ok ())
    ∧ ∀ (report : FleetScheduleReport) (maximum : Nat),
      validateFleetScheduleReport P fleet report maximum = .ok () →
      ∀ (memory : SafetyMemory) (options : FleetScheduleOptions),
      (∀ r ∈ report.reservations, Supported fleet memory r) →
      0 < options.maximumReservations →
      report.reservations.length ≤ options.maximumReservations →
      0 < options.maximumPairEvaluations →
      report.pairEvaluations ≤ options.maximumPairEvaluations →
      ∃ analyzed, analyzeFleetSchedule P fleet memory report.reservations
          options = .ok analyzed ∧ SameUpToZeros analyzed report := by
  constructor
  · intro memory reservations options report hreport
    obtain ⟨h, heq⟩ := (analyzeFleetSchedule_iff P).mp hreport
    have hperm := Sorting.sort_perm reservationKey reservations
    have hordered := inOrder_sort reservations
    refine ⟨?_, fun reservations' hperm' =>
      analyzeFleetSchedule_perm P hperm' hreport, ?_⟩
    · rw [heq]
      exact conflictsExact hperm hordered h.distinct h.admissible
    · intro maximum hpositive hbounded
      rw [validateFleetScheduleReport_iff, heq]
      rw [heq] at hbounded
      exact scheduleReport_accepted h.valid hpositive
        (fun r hr => h.admissible r (hperm.mem_iff.mp hr))
        ((hperm.map _).nodup_iff.mpr h.distinct) hordered hbounded
  · intro report maximum haccepted memory options hsupported hpositive hsize
      hpositivePairs hpairs
    have h := (validateFleetScheduleReport_iff P).mp haccepted
    have hsort : Sorting.sort reservationKey report.reservations
        = report.reservations := Sorting.sort_eq_self _ h.ordered
    refine ⟨scheduleReport P fleet report.reservations, ?_, ?_⟩
    · rw [analyzeFleetSchedule_iff, hsort]
      refine ⟨⟨h.valid, hpositive, hpositivePairs, hsize, h.admissible,
        hsupported, h.distinct, ?_⟩, rfl⟩
      rw [hsort, ← h.pairs]
      exact hpairs
    · have hstatus := scheduleStatus_congr h.conflicts
      rw [← h.status] at hstatus
      refine ⟨h.snapshot.symm, hstatus, rfl, h.pairs.symm, h.conflicts, ?_⟩
      intro hconflicts
      refine FleetScheduleReport.ext ?_ h.snapshot.symm hstatus rfl hconflicts
        h.pairs.symm
      rw [← h.identity]
      unfold fleetScheduleIdentity
      rw [h.snapshot, ← hstatus, h.pairs, ← hconflicts]
      rfl

/-- A platform for the samples. -/
abbrev sampleHost : Platform := host fun _ _ _ => true

theorem sampleHost_eq : sampleHost = quickHost fun _ _ _ => true :=
  host_eq _

/-- The cell of side one. -/
def unitBox : WorkspaceAabb Float where
  lower _ := Scalar.zero
  upper _ := Scalar.one

/-- A fleet of one member. -/
def sampleFleet : FleetSnapshot where
  id := ascii
    "c6bd8ce1e386a54e435d91d10b20ea031019a7777ce2b4cfec2f047f3284b0b0"
  fleetId := ascii "fleet"
  sceneDigest := zeroDigest
  members := [⟨ascii "cell", zeroDigest, unitBox⟩]

/-- An atlas certified for the member. -/
def certifiedArtifact : MemoryArtifact where
  id := ascii
    "178418af81b5c795ee930f00c412e7f0fd2354ed51fd45b42de9fde64194434b"
  deploymentId := ascii "cell"
  robotDigest := zeroDigest
  sceneDigest := zeroDigest
  taskId := ascii "pick"
  contentDigest := zeroDigest
  locator := ascii "atlas"
  evidence := .certifiedRegion
  generation := 1
  registeredSequence := 1

/-- Its registration. -/
def certifiedRegistration : MemoryEvent where
  id := ascii
    "58ce5016df41169e4a6bb4d8165f028646da7208910e3b03df78421cbedea6a9"
  sequence := 1
  artifactId := certifiedArtifact.id
  taskId := ascii "pick"
  detail := ascii "registered"

/-- The memory that registered it. -/
def certifiedMemory : SafetyMemory where
  artifacts := [certifiedArtifact]
  events := [certifiedRegistration]
  nextSequence := 2

/-- A reservation of the member. -/
def earlyReservation : FleetReservation where
  id := ascii
    "3e9dde7143bfd6544b3a634b0de5281ee249dc3cfd06ed27cc81fa6538595c7e"
  deploymentId := ascii "cell"
  sourceArtifactId := certifiedArtifact.id
  occupancy := unitBox
  beginTick := 0
  endTick := 10
  separationMargin := Scalar.zero

/-- Another one, which it meets. -/
def lateReservation : FleetReservation where
  id := ascii
    "f8de497039a9b021146fadbc62a49c59e9e12a244e9ab60db09df77342c75fa9"
  deploymentId := ascii "cell"
  sourceArtifactId := certifiedArtifact.id
  occupancy := unitBox
  beginTick := 5
  endTick := 15
  separationMargin := Scalar.zero

/-- Both of them. -/
def sampleReservations : List FleetReservation :=
  [earlyReservation, lateReservation]

theorem sort_sampleReservations :
    Sorting.sort reservationKey sampleReservations = sampleReservations := by
  apply Sorting.sort_eq_self
  simp only [sampleReservations, List.pairwise_cons, List.mem_cons,
    List.not_mem_nil, or_false, forall_eq, false_imp_iff, implies_true,
    List.Pairwise.nil, and_true]
  exact Or.inl (by decide)

theorem sample_analyzable :
    Analyzable sampleHost sampleFleet certifiedMemory
      sampleReservations {} := by
  have hsupported : ∀ r ∈ sampleReservations, stillSupported sampleFleet r
      (lookupArtifact certifiedMemory.artifacts r.sourceArtifactId) = true := by
    rw [← List.all_eq_true]
    decide
  rw [sampleHost_eq]
  refine ⟨by decide +kernel, by decide, by decide, by decide, ?_, hsupported,
    by decide +kernel, ?_⟩
  · rw [← List.all_eq_true]
    decide +kernel
  · rw [sort_sampleReservations]
    decide +kernel

theorem fleetSchedule_coincides_sample :
    ∃ report, analyzeFleetSchedule sampleHost sampleFleet
        certifiedMemory sampleReservations {} = .ok report
      ∧ ConflictsExact sampleReservations report.conflicts
      ∧ validateFleetScheduleReport sampleHost sampleFleet report
        1 = .ok ()
      ∧ ∃ analyzed, analyzeFleetSchedule sampleHost sampleFleet
          certifiedMemory report.reservations {} = .ok analyzed
        ∧ SameUpToZeros analyzed report := by
  obtain ⟨hanalysis, hcheck⟩ :=
    fleetSchedule_coincides sampleHost sampleFleet
  have hreport : analyzeFleetSchedule sampleHost sampleFleet
      certifiedMemory sampleReservations {}
      = .ok (scheduleReport sampleHost sampleFleet sampleReservations) := by
    rw [analyzeFleetSchedule_iff, sort_sampleReservations]
    exact ⟨sample_analyzable, rfl⟩
  obtain ⟨hexact, -, haccepted⟩ := hanalysis _ _ _ _ hreport
  have hpairs : (overlapping sampleReservations).length ≤ 1 := by
    decide
  have hvalid := haccepted 1 Nat.one_pos hpairs
  refine ⟨_, hreport, hexact, hvalid, hcheck _ _ hvalid certifiedMemory {}
    sample_analyzable.supported (by decide) (by decide) (by decide) ?_⟩
  exact hpairs.trans (by decide)

/-- Their conflict. -/
def sampleConflict : FleetConflict where
  firstReservationId := earlyReservation.id
  secondReservationId := lateReservation.id
  reason := .duplicateRobotWindow
  clearanceLowerBound := unitBox.distanceLowerBound unitBox
  requiredMargin := Scalar.max Scalar.zero Scalar.zero

theorem conflictsOf_sampleReservations :
    conflictsOf (overlapping sampleReservations) = [sampleConflict] := by
  have hpairs : overlapping sampleReservations
      = [(earlyReservation, lateReservation)] := rfl
  have hconflict : conflictOf earlyReservation lateReservation
      = some sampleConflict := by
    unfold conflictOf
    exact if_pos rfl
  rw [hpairs]
  exact conflictsOf_cons_some hconflict []

/-- A conflict with the zero of the other sign. -/
def flipZero (conflict : FleetConflict) : FleetConflict :=
  { conflict with
    clearanceLowerBound := Scalar.neg conflict.clearanceLowerBound }

/-- The report on both reservations, with the zero of the other sign. -/
def negativeZeroReport (P : Platform) : FleetScheduleReport :=
  let report : FleetScheduleReport :=
    { fleetSnapshotId := sampleFleet.id
      status := .conflicted
      reservations := sampleReservations
      conflicts := (conflictsOf (overlapping sampleReservations)).map flipZero
      pairEvaluations := (overlapping sampleReservations).length }
  { report with id := fleetScheduleIdentity P report }

theorem negativeZeroReport_identity (P : Platform) :
    fleetScheduleIdentity P (negativeZeroReport P)
      = (negativeZeroReport P).id := rfl

/-- **The check accepts more than analysis answers**: a report whose
sources the memory does not know, and one with a zero of the other
sign. -/
theorem fleetSchedule_accepts_more :
    (SafetyMemory.valid sampleHost {} = true
      ∧ certifiedMemory.valid sampleHost = true)
    ∧ (∃ report, validateFleetScheduleReport sampleHost sampleFleet
        report 1 = .ok ()
      ∧ ∀ options, analyzeFleetSchedule sampleHost sampleFleet {}
        report.reservations options ≠ .ok report)
    ∧ ∃ report, validateFleetScheduleReport sampleHost
        sampleFleet report 1 = .ok ()
      ∧ (∀ r ∈ report.reservations, Supported sampleFleet certifiedMemory r)
      ∧ ∀ options, analyzeFleetSchedule sampleHost sampleFleet
        certifiedMemory report.reservations options ≠ .ok report := by
  have hordered : sampleReservations.Pairwise InOrder := by
    rw [← sort_sampleReservations]
    exact inOrder_sort _
  have hpairs : (overlapping sampleReservations).length ≤ 1 := by
    decide
  have haccepted : AcceptedReport sampleHost sampleFleet
      (scheduleReport sampleHost sampleFleet sampleReservations) 1 :=
    scheduleReport_accepted sample_analyzable.valid Nat.one_pos
      sample_analyzable.admissible sample_analyzable.distinct hordered hpairs
  refine ⟨⟨by rw [sampleHost_eq]; decide +kernel,
    by rw [sampleHost_eq]; decide +kernel⟩, ?_, ?_⟩
  · refine ⟨_, (validateFleetScheduleReport_iff _).mpr haccepted, ?_⟩
    intro options hreport
    have hsupported := ((analyzeFleetSchedule_iff _).mp hreport).1.supported
      earlyReservation List.mem_cons_self
    have hunknown : stillSupported sampleFleet earlyReservation none = true :=
      hsupported
    revert hunknown
    decide +kernel
  · refine ⟨negativeZeroReport sampleHost,
      (validateFleetScheduleReport_iff _).mpr
        ⟨haccepted.valid, Nat.one_pos, rfl, haccepted.admissible,
          haccepted.distinct, hordered, ?_, rfl, hpairs, ?_,
          negativeZeroReport_identity _⟩,
      sample_analyzable.supported, ?_⟩
    · show List.Forall₂ SameConflict
        (conflictsOf (overlapping sampleReservations))
        ((conflictsOf (overlapping sampleReservations)).map flipZero)
      rw [conflictsOf_sampleReservations]
      exact .cons ⟨rfl, rfl, rfl, by decide +kernel, by decide +kernel⟩ .nil
    · show FleetScheduleStatus.conflicted
        = scheduleStatus ((conflictsOf (overlapping sampleReservations)).map flipZero)
      rw [conflictsOf_sampleReservations]
      rfl
    · intro options hreport
      obtain ⟨-, heq⟩ := (analyzeFleetSchedule_iff _).mp hreport
      have hlist := congrArg FleetScheduleReport.conflicts heq
      have hsort : (negativeZeroReport sampleHost).reservations
          = sampleReservations := rfl
      rw [hsort, sort_sampleReservations] at hlist
      have hlist : (conflictsOf (overlapping sampleReservations)).map flipZero
          = conflictsOf (overlapping sampleReservations) := hlist
      rw [conflictsOf_sampleReservations, List.map_singleton] at hlist
      have hbits := congrArg (fun conflict => conflict.clearanceLowerBound.toBits)
        (List.singleton_inj.mp hlist)
      revert hbits
      decide +kernel

end RbfSafe
