/-
Reports of a fleet schedule: what the analysis answers, what the check
accepts and how the two fit together.

`Analyzable` and `AcceptedReport` are what the two functions ask for; the rest
is the comparison. The check has no memory at hand: it accepts a report
whose sources have since lost their support, which the analysis of the
same reservations would refuse.
-/
import RbfSafe.Fleet.Proofs.Schedule
import RbfSafe.Memory.Proofs.Invariant

namespace RbfSafe

open Lib

section
variable (P : Platform)

-- === reservations

/-- The memory supports the source of a reservation. -/
def Supported (fleet : FleetSnapshot) (memory : SafetyMemory)
    (reservation : FleetReservation) : Prop :=
  stillSupported fleet reservation
    (lookupArtifact memory.artifacts reservation.sourceArtifactId) = true

/-- Looking an artifact up by a valid id. -/
theorem artifact_eq_ok {memory : SafetyMemory} {id : Bytes}
    {source : Option MemoryArtifact} :
    memory.artifact id = .ok source ↔
      validSha256 id = true ∧ lookupArtifact memory.artifacts id = source := by
  unfold SafetyMemory.artifact
  rw [ite_failure_eq_ok, Bool.not_eq_false, Except.ok.injEq]

theorem admissible_iff {fleet : FleetSnapshot}
    {reservation : FleetReservation} :
    admissible P fleet reservation = true ↔
      ∃ member, findMember fleet reservation.deploymentId = some member
        ∧ validSha256 reservation.sourceArtifactId = true
        ∧ reservation.occupancy.valid = true
        ∧ containsBox member.operatingEnvelope reservation.occupancy = true
        ∧ reservation.beginTick < reservation.endTick
        ∧ Scalar.isFinite reservation.separationMargin = true
        ∧ Scalar.lt reservation.separationMargin Scalar.zero = false
        ∧ fleetReservationIdentity P fleet reservation = reservation.id := by
  unfold admissible
  cases findMember fleet reservation.deploymentId with
  | none => simp
  | some member =>
      simp only [Bool.and_eq_true, Bool.not_eq_true', decide_eq_true_eq,
        Option.some.injEq, exists_eq_left', and_assoc]

/-- The reservation loop of the analysis. -/
theorem checkReservations_iff {fleet : FleetSnapshot} {memory : SafetyMemory} :
    ∀ {seen : List Bytes} {reservations : List FleetReservation},
    checkReservations P fleet memory seen reservations = .ok () ↔
      (∀ r ∈ reservations, admissible P fleet r = true
        ∧ Supported fleet memory r)
      ∧ (reservations.map (·.id)).Nodup ∧ ∀ r ∈ reservations, r.id ∉ seen := by
  intro seen reservations
  induction reservations generalizing seen with
  | nil => simp [checkReservations]
  | cons r rest ih =>
      rw [checkReservations, ite_failure_eq_ok]
      constructor
      · intro ⟨hhead, h⟩
        obtain ⟨source, hsource, h⟩ := bind_eq_ok.mp h
        obtain ⟨hsupports, h⟩ := ite_failure_eq_ok.mp h
        obtain ⟨hrest, hnodup, hseen⟩ := ih.mp h
        rw [not_or] at hhead
        obtain ⟨-, rfl⟩ := artifact_eq_ok.mp hsource
        refine ⟨?_, ?_, ?_⟩
        · intro s hs
          rcases List.mem_cons.mp hs with rfl | hs
          · exact ⟨by simpa using hhead.1, eq_true_of_ne_false hsupports⟩
          · exact hrest s hs
        · rw [List.map_cons, List.nodup_cons]
          refine ⟨?_, hnodup⟩
          intro hmem
          obtain ⟨s, hs, hid⟩ := List.mem_map.mp hmem
          exact hseen s hs (hid ▸ List.mem_cons_self)
        · intro s hs
          rcases List.mem_cons.mp hs with rfl | hs
          · exact hhead.2
          · exact fun hmem => hseen s hs (List.mem_cons_of_mem _ hmem)
      · intro ⟨hall, hnodup, hseen⟩
        obtain ⟨hadmissible, hsupported⟩ := hall r List.mem_cons_self
        rw [List.map_cons, List.nodup_cons] at hnodup
        obtain ⟨member, -, hsource, -⟩ := (admissible_iff P).mp hadmissible
        refine ⟨?_, ?_⟩
        · rw [not_or]
          exact ⟨by simp [hadmissible], hseen r List.mem_cons_self⟩
        · rw [bind_eq_ok]
          refine ⟨lookupArtifact memory.artifacts r.sourceArtifactId,
            artifact_eq_ok.mpr ⟨hsource, rfl⟩, ?_⟩
          rw [ite_failure_eq_ok]
          refine ⟨ne_false_of_eq_true hsupported,
            ih.mpr ⟨?_, hnodup.2, ?_⟩⟩
          · exact fun s hs => hall s (List.mem_cons_of_mem _ hs)
          · intro s hs hmem
            rcases List.mem_cons.mp hmem with hid | hmem
            · exact hnodup.1 (hid ▸ List.mem_map_of_mem hs)
            · exact hseen s (List.mem_cons_of_mem _ hs) hmem

theorem reservationLess_eq_false {first second : FleetReservation} :
    reservationLess second first = false ↔ InOrder first second := by
  unfold reservationLess InOrder
  rw [decide_eq_false_iff_not, Std.not_lt]

/-- The reservation loop of the check. -/
theorem validateReservations_iff {fleet : FleetSnapshot} :
    ∀ {seen : List Bytes} {previous : Option FleetReservation}
      {reservations : List FleetReservation},
    validateReservations P fleet seen previous reservations = .ok () ↔
      (∀ r ∈ reservations, admissible P fleet r = true)
      ∧ (reservations.map (·.id)).Nodup ∧ (∀ r ∈ reservations, r.id ∉ seen)
      ∧ (previous.toList ++ reservations).IsChain InOrder := by
  intro seen previous reservations
  induction reservations generalizing seen previous with
  | nil => cases previous <;> simp [validateReservations]
  | cons r rest ih =>
      have hchain : (previous.toList ++ r :: rest).IsChain InOrder ↔
          previous.any (reservationLess r) = false
            ∧ ((some r).toList ++ rest).IsChain InOrder := by
        cases previous with
        | none => simp
        | some p =>
            rw [Option.any_some, reservationLess_eq_false]
            exact List.isChain_cons_cons
      rw [validateReservations, ite_failure_eq_ok, ih, hchain]
      simp only [not_or, Bool.not_eq_false, Bool.not_eq_true]
      constructor
      · intro ⟨⟨hadmissible, _, hnew, hless⟩, hall, hnodup, hseen, hrest⟩
        refine ⟨?_, ?_, ?_, hless, hrest⟩
        · intro s hs
          rcases List.mem_cons.mp hs with rfl | hs
          · exact hadmissible
          · exact hall s hs
        · rw [List.map_cons, List.nodup_cons]
          refine ⟨?_, hnodup⟩
          intro hmem
          obtain ⟨s, hs, hid⟩ := List.mem_map.mp hmem
          exact hseen s hs (hid ▸ List.mem_cons_self)
        · intro s hs
          rcases List.mem_cons.mp hs with rfl | hs
          · exact hnew
          · exact fun hmem => hseen s hs (List.mem_cons_of_mem _ hmem)
      · intro ⟨hall, hnodup, hseen, hless, hrest⟩
        have hadmissible := hall r List.mem_cons_self
        rw [List.map_cons, List.nodup_cons] at hnodup
        obtain ⟨member, -, -, -, -, -, -, -, hid⟩ :=
          (admissible_iff P).mp hadmissible
        refine ⟨⟨hadmissible, ?_, hseen r List.mem_cons_self, hless⟩,
          fun s hs => hall s (List.mem_cons_of_mem _ hs), hnodup.2, ?_, hrest⟩
        · rw [← hid]
          exact P.validSha256_digest _
        · intro s hs hmem
          rcases List.mem_cons.mp hmem with hid | hmem
          · exact hnodup.1 (hid ▸ List.mem_map_of_mem hs)
          · exact hseen s (List.mem_cons_of_mem _ hs) hmem

-- === analysis

/-- What the analysis asks for. -/
structure Analyzable (fleet : FleetSnapshot) (memory : SafetyMemory)
    (reservations : List FleetReservation) (options : FleetScheduleOptions) :
    Prop where
  valid : validFleetSnapshot P fleet = true
  positive : 0 < options.maximumReservations
  positivePairs : 0 < options.maximumPairEvaluations
  size : reservations.length ≤ options.maximumReservations
  admissible : ∀ r ∈ reservations, admissible P fleet r = true
  supported : ∀ r ∈ reservations, Supported fleet memory r
  distinct : (reservations.map (·.id)).Nodup
  pairs : (overlapping (Sorting.sort reservationKey reservations)).length
    ≤ options.maximumPairEvaluations

theorem inOrder_sort (reservations : List FleetReservation) :
    (Sorting.sort reservationKey reservations).Pairwise InOrder :=
  Sorting.pairwise_sort reservationKey reservations

/-- **The analysis answers with the report of brute force.** -/
theorem analyzeFleetSchedule_iff {fleet : FleetSnapshot}
    {memory : SafetyMemory} {reservations : List FleetReservation}
    {options : FleetScheduleOptions} {report : FleetScheduleReport} :
    analyzeFleetSchedule P fleet memory reservations options = .ok report ↔
      Analyzable P fleet memory reservations options
        ∧ report = scheduleReport P fleet
          (Sorting.sort reservationKey reservations) := by
  have hperm := Sorting.sort_perm reservationKey reservations
  have hrows := @analyzeRows_spec options.maximumPairEvaluations
    (Sorting.sort reservationKey reservations) {} (Nat.zero_le _)
  rw [sweep_eq_overlapping (inOrder_sort reservations), Nat.zero_add,
    List.nil_append] at hrows
  unfold analyzeFleetSchedule
  rw [ite_failure_eq_ok, ite_failure_eq_ok, ite_failure_eq_ok]
  simp only [bind_eq_ok]
  constructor
  · intro ⟨hfleet, hpositive, hsize, _, hcheck, swept, hswept, hreport⟩
    obtain ⟨hall, hdistinct, -⟩ := (checkReservations_iff P).mp hcheck
    rw [hrows] at hswept
    split at hswept
    case isFalse => cases hswept
    case isTrue hpairs =>
      cases hswept
      refine ⟨⟨by simpa using hfleet, by omega, by omega, by omega, ?_, ?_,
        (hperm.map _).nodup_iff.mp hdistinct, hpairs⟩, ?_⟩
      · exact fun r hr => (hall r (hperm.mem_iff.mpr hr)).1
      · exact fun r hr => (hall r (hperm.mem_iff.mpr hr)).2
      · rw [Except.ok.injEq] at hreport
        exact hreport.symm
  · intro ⟨h, hreport⟩
    have hpositive := h.positive
    have hpositivePairs := h.positivePairs
    have hsize := h.size
    refine ⟨by simp [h.valid], by omega, by omega, (),
      (checkReservations_iff P).mpr ⟨?_, ?_, ?_⟩, _,
      hrows.trans (if_pos (by simpa using h.pairs)), ?_⟩
    · intro r hr
      have hr := hperm.mem_iff.mp hr
      exact ⟨h.admissible r hr, h.supported r hr⟩
    · exact (hperm.map _).nodup_iff.mpr h.distinct
    · exact fun _ _ => List.not_mem_nil
    · rw [hreport, Except.ok.injEq]
      rfl

/-- Reservations with different ids have different places. -/
theorem reservationKey_injOn {reservations : List FleetReservation}
    (h : (reservations.map (·.id)).Nodup) :
    Set.InjOn reservationKey {r | r ∈ reservations} := by
  intro r hr s hs hkey
  refine List.inj_on_of_nodup_map h hr hs ?_
  exact congrArg (fun key => key.second.second) hkey

/-- **The order the reservations come in does not matter.** -/
theorem analyzeFleetSchedule_perm {fleet : FleetSnapshot}
    {memory : SafetyMemory} {reservations reservations' : List FleetReservation}
    {options : FleetScheduleOptions} {report : FleetScheduleReport}
    (hperm : reservations.Perm reservations')
    (h : analyzeFleetSchedule P fleet memory reservations options
      = .ok report) :
    analyzeFleetSchedule P fleet memory reservations' options = .ok report := by
  rw [analyzeFleetSchedule_iff] at h ⊢
  obtain ⟨h, hreport⟩ := h
  have hsort := Sorting.sort_congr reservationKey hperm
    (reservationKey_injOn h.distinct)
  rw [hsort] at hreport
  refine ⟨⟨h.valid, h.positive, h.positivePairs, ?_, ?_, ?_, ?_, ?_⟩, hreport⟩
  · rw [← hperm.length_eq]
    exact h.size
  · exact fun r hr => h.admissible r (hperm.mem_iff.mpr hr)
  · exact fun r hr => h.supported r (hperm.mem_iff.mpr hr)
  · exact (hperm.map _).nodup_iff.mp h.distinct
  · rw [← hsort]
    exact h.pairs

-- === check

/-- What the check asks for. -/
structure AcceptedReport (fleet : FleetSnapshot) (report : FleetScheduleReport)
    (maximum : Nat) : Prop where
  valid : validFleetSnapshot P fleet = true
  positive : 0 < maximum
  snapshot : report.fleetSnapshotId = fleet.id
  admissible : ∀ r ∈ report.reservations, admissible P fleet r = true
  distinct : (report.reservations.map (·.id)).Nodup
  ordered : report.reservations.Pairwise InOrder
  conflicts : List.Forall₂ SameConflict
    (conflictsOf (overlapping report.reservations)) report.conflicts
  pairs : report.pairEvaluations = (overlapping report.reservations).length
  bounded : report.pairEvaluations ≤ maximum
  status : report.status = scheduleStatus report.conflicts
  identity : fleetScheduleIdentity P report = report.id

theorem isChain_inOrder {reservations : List FleetReservation} :
    reservations.IsChain InOrder ↔ reservations.Pairwise InOrder := by
  have htrans : IsTrans FleetReservation InOrder :=
    ⟨fun _ _ _ hab hbc => Std.le_trans hab hbc⟩
  exact List.isChain_iff_pairwise

/-- **The check accepts the list of brute force.** -/
theorem validateFleetScheduleReport_iff {fleet : FleetSnapshot}
    {report : FleetScheduleReport} {maximum : Nat} :
    validateFleetScheduleReport P fleet report maximum = .ok () ↔
      AcceptedReport P fleet report maximum := by
  unfold validateFleetScheduleReport
  rw [ite_failure_eq_ok, check_eq_ok, bind_eq_ok, validateReservations_iff,
    Option.toList_none, List.nil_append, isChain_inOrder]
  constructor
  · intro ⟨hmeta, ⟨hadmissible, hdistinct, _, hordered⟩, state, hrows,
      hfinal⟩
    obtain ⟨hderived, -⟩ := ite_failure_eq_ok.mp hfinal
    simp only [not_or, Bool.not_eq_false, ne_eq, not_not, not_lt]
      at hmeta hderived
    obtain ⟨hfleet, hpositive, hsnapshot, -, hbounded⟩ := hmeta
    obtain ⟨hcount, hremaining, hstatus, hidentity⟩ := hderived
    rw [validateRows_iff _ _ _ (Nat.zero_le _),
      sweep_eq_overlapping hordered] at hrows
    obtain ⟨listed, hlisted, hsame⟩ := hrows.listed
    rw [hremaining, List.append_nil] at hlisted
    have hlisted : report.conflicts = listed := hlisted
    rw [← hlisted] at hsame
    refine ⟨hfleet, Nat.pos_of_ne_zero hpositive, hsnapshot, hadmissible,
      hdistinct, hordered, hsame, ?_, hbounded, hstatus, hidentity⟩
    rw [← hcount, hrows.count, Nat.zero_add]
  · intro h
    have hvalid : validSha256 report.id = true := by
      rw [← h.identity]
      exact P.validSha256_digest _
    have hpositive := h.positive
    have hbounded := h.bounded
    refine ⟨?_, ⟨h.admissible, h.distinct, fun _ _ => List.not_mem_nil,
      h.ordered⟩, ⟨report.pairEvaluations, []⟩, ?_, ?_⟩
    · simp only [not_or, Bool.not_eq_false, ne_eq, not_not, not_lt]
      exact ⟨h.valid, by omega, h.snapshot, hvalid, hbounded⟩
    · rw [validateRows_iff _ _ _ (Nat.zero_le _),
        sweep_eq_overlapping h.ordered]
      refine ⟨?_, hbounded, report.conflicts, ?_, h.conflicts⟩
      · rw [Nat.zero_add]
        exact h.pairs
      · exact (List.append_nil _).symm
    · rw [ite_failure_eq_ok]
      simp [h.status, h.identity]

end

end RbfSafe
