/-
The analysis of a fleet schedule, its check and brute force.

Brute force goes through every pair of the sorted reservations
(`scheduleReport`). The analysis is a sweep of the same list: its inner
loop stops at the first reservation that begins too late, after which,
in the order of the begin ticks, all do (`overlapping_eq`). Its report
is the one of brute force, or an error; the check accepts a report when
its list is, entry by entry, the list of brute force, where doubles are
compared as doubles: a zero may carry either sign.
-/
import RbfSafe.Fleet.Schedule
import RbfSafe.Lib.Sweep
import RbfSafe.Core.Proofs.Workspace

namespace RbfSafe

open Lib

-- === brute force

/-- The window ends before the other one begins. -/
def endsBefore (first second : FleetReservation) : Bool :=
  decide (first.endTick ≤ second.beginTick)

/-- The pairs whose windows intersect, of all pairs. -/
def overlapping (ordered : List FleetReservation) :
    List (FleetReservation × FleetReservation) :=
  (Sweep.pairs ordered).filter fun p => timeOverlaps p.1 p.2

/-- Their conflicts. -/
def conflictsOf (pairs : List (FleetReservation × FleetReservation)) :
    List FleetConflict :=
  pairs.filterMap fun p => conflictOf p.1 p.2

/-- The report of brute force. -/
def scheduleReport (P : Platform) (fleet : FleetSnapshot)
    (ordered : List FleetReservation) : FleetScheduleReport :=
  let report : FleetScheduleReport :=
    { fleetSnapshotId := fleet.id
      status := scheduleStatus (conflictsOf (overlapping ordered))
      reservations := ordered
      conflicts := conflictsOf (overlapping ordered)
      pairEvaluations := (overlapping ordered).length }
  { report with id := fleetScheduleIdentity P report }

/-- The order of the reservations. -/
def InOrder (first second : FleetReservation) : Prop :=
  reservationKey first ≤ reservationKey second

theorem InOrder.begin_le {first second : FleetReservation}
    (h : InOrder first second) : first.beginTick ≤ second.beginTick := by
  rcases h with h | ⟨h, -⟩
  · exact Nat.le_of_lt h
  · exact Nat.le_of_eq h

/-- **Breaking off at a late begin tick loses no pair.** -/
theorem sweep_eq_overlapping {ordered : List FleetReservation}
    (h : ordered.Pairwise InOrder) :
    Sweep.sweep endsBefore timeOverlaps ordered = overlapping ordered := by
  refine Sweep.sweep_eq_filter_pairs h ?_ ?_
  · intro a _ b _ hstop
    have hstop : a.endTick ≤ b.beginTick := by simpa [endsBefore] using hstop
    simp [timeOverlaps, Nat.not_lt.mpr hstop]
  · intro a _ b _ c _ hbc hstop
    have hstop : a.endTick ≤ b.beginTick := by simpa [endsBefore] using hstop
    simp [timeOverlaps, Nat.not_lt.mpr (hstop.trans hbc.begin_le)]

-- === the two sweeps

section Analysis

variable {maximum : Nat}

/-- The inner loop visits its row. -/
theorem analyzeRow_spec (first : FleetReservation)
    (rest : List FleetReservation) : ∀ report : ScheduleSweep,
    report.pairEvaluations ≤ maximum →
    analyzeRow maximum first rest report =
      if report.pairEvaluations
          + (Sweep.row endsBefore timeOverlaps first rest).length ≤ maximum then
        .ok ⟨report.pairEvaluations
            + (Sweep.row endsBefore timeOverlaps first rest).length,
          report.conflicts
            ++ (Sweep.row endsBefore timeOverlaps first rest).filterMap
              (conflictOf first)⟩
      else failure .resourceLimit "fleet pair-evaluation limit reached" := by
  induction rest with
  | nil =>
      intro report hcount
      simp [analyzeRow, Sweep.row, hcount]
  | cons second rest ih =>
      intro report hcount
      rw [analyzeRow]
      by_cases hstop : first.endTick ≤ second.beginTick
      · rw [if_pos hstop, Sweep.row_cons_of_stop (by simpa [endsBefore])]
        simp [hcount]
      have hstops : endsBefore first second = false := by
        simpa [endsBefore] using hstop
      rw [if_neg hstop]
      cases hmeets : timeOverlaps first second with
      | false =>
          rw [if_pos rfl, Sweep.row_cons_of_not_meets hstops hmeets]
          exact ih report hcount
      | true =>
          rw [if_neg (by simp), Sweep.row_cons_of_meets hstops hmeets,
            List.length_cons]
          by_cases hlimit : maximum ≤ report.pairEvaluations
          · rw [if_pos hlimit, if_neg (by omega)]
          · have hnext : report.pairEvaluations + 1 ≤ maximum := by omega
            rw [if_neg hlimit, ih _ hnext]
            dsimp only
            have hcomm : report.pairEvaluations + 1
                + (Sweep.row endsBefore timeOverlaps first rest).length
                = report.pairEvaluations
                  + ((Sweep.row endsBefore timeOverlaps first rest).length
                    + 1) := by omega
            rw [hcomm, List.append_assoc]
            cases hconflict : conflictOf first second <;> simp [hconflict]

theorem conflictsOf_append
    (pairs pairs' : List (FleetReservation × FleetReservation)) :
    conflictsOf (pairs ++ pairs') = conflictsOf pairs ++ conflictsOf pairs' :=
  List.filterMap_append

theorem conflictsOf_cons_none {first second : FleetReservation}
    (h : conflictOf first second = none)
    (pairs : List (FleetReservation × FleetReservation)) :
    conflictsOf ((first, second) :: pairs) = conflictsOf pairs :=
  List.filterMap_cons_none h

theorem conflictsOf_cons_some {first second : FleetReservation}
    {conflict : FleetConflict} (h : conflictOf first second = some conflict)
    (pairs : List (FleetReservation × FleetReservation)) :
    conflictsOf ((first, second) :: pairs) = conflict :: conflictsOf pairs :=
  List.filterMap_cons_some h

theorem filterMap_row (first : FleetReservation)
    (row : List FleetReservation) :
    row.filterMap (conflictOf first)
      = conflictsOf (row.map fun second => (first, second)) := by
  rw [conflictsOf, List.filterMap_map]
  rfl

/-- The outer loop visits the sweep. -/
theorem analyzeRows_spec (ordered : List FleetReservation) :
    ∀ report : ScheduleSweep, report.pairEvaluations ≤ maximum →
    analyzeRows maximum ordered report =
      if report.pairEvaluations
          + (Sweep.sweep endsBefore timeOverlaps ordered).length ≤ maximum then
        .ok ⟨report.pairEvaluations
            + (Sweep.sweep endsBefore timeOverlaps ordered).length,
          report.conflicts
            ++ conflictsOf (Sweep.sweep endsBefore timeOverlaps ordered)⟩
      else failure .resourceLimit "fleet pair-evaluation limit reached" := by
  induction ordered with
  | nil =>
      intro report hcount
      simp [analyzeRows, Sweep.sweep, conflictsOf, hcount]
  | cons first rest ih =>
      intro report hcount
      rw [analyzeRows, analyzeRow_spec first rest report hcount, Sweep.sweep,
        List.length_append, List.length_map]
      by_cases hrow : report.pairEvaluations
          + (Sweep.row endsBefore timeOverlaps first rest).length ≤ maximum
      · rw [if_pos hrow, ok_bind, ih _ hrow, conflictsOf_append]
        dsimp only
        rw [filterMap_row, List.append_assoc, Nat.add_assoc]
      · rw [if_neg hrow, if_neg (by omega)]
        rfl

end Analysis

section Check

/-- A listed conflict that the check takes for the expected one. -/
structure SameConflict (expected actual : FleetConflict) : Prop where
  first : actual.firstReservationId = expected.firstReservationId
  second : actual.secondReservationId = expected.secondReservationId
  reason : actual.reason = expected.reason
  clearance : Scalar.eq actual.clearanceLowerBound
    expected.clearanceLowerBound = true
  margin : Scalar.eq actual.requiredMargin expected.requiredMargin = true

variable {maximum : Nat} {reportId : Bytes}

/-- The check expects what the analysis records. -/
theorem conflictMatches_iff {first second : FleetReservation}
    {reason : FleetConflictReason} {actual : FleetConflict} :
    conflictMatches first second reason actual = true ↔
      SameConflict
        { firstReservationId := first.id
          secondReservationId := second.id
          reason
          clearanceLowerBound :=
            first.occupancy.distanceLowerBound second.occupancy
          requiredMargin :=
            Scalar.max first.separationMargin second.separationMargin }
        actual := by
  unfold conflictMatches
  simp only [Bool.and_eq_true, decide_eq_true_eq]
  constructor
  · intro ⟨⟨⟨⟨h₁, h₂⟩, h₃⟩, h₄⟩, h₅⟩
    exact ⟨h₁, h₂, h₃, h₄, h₅⟩
  · intro h
    exact ⟨⟨⟨⟨h.first, h.second⟩, h.reason⟩, h.clearance⟩, h.margin⟩

theorem conflictOf_eq (first second : FleetReservation) :
    conflictOf first second = (expectedReason first second).map fun reason =>
      { firstReservationId := first.id
        secondReservationId := second.id
        reason
        clearanceLowerBound :=
          first.occupancy.distanceLowerBound second.occupancy
        requiredMargin :=
          Scalar.max first.separationMargin second.separationMargin } := by
  unfold conflictOf expectedReason
  dsimp only
  split
  · rfl
  · split
    · rfl
    · split <;> rfl

/-- What the check has passed when it goes on with `after`. -/
structure Passed (maximum : Nat)
    (pairs : List (FleetReservation × FleetReservation))
    (before after : ScheduleCheck) : Prop where
  count : after.pairEvaluations = before.pairEvaluations + pairs.length
  bounded : after.pairEvaluations ≤ maximum
  listed : ∃ listed, before.remaining = listed ++ after.remaining
    ∧ List.Forall₂ SameConflict (conflictsOf pairs) listed

theorem Passed.trans {pairs pairs' : List (FleetReservation × FleetReservation)}
    {before middle after : ScheduleCheck}
    (h : Passed maximum pairs before middle)
    (h' : Passed maximum pairs' middle after) :
    Passed maximum (pairs ++ pairs') before after := by
  obtain ⟨listed, hlisted, hsame⟩ := h.listed
  obtain ⟨listed', hlisted', hsame'⟩ := h'.listed
  refine ⟨?_, h'.bounded, listed ++ listed', ?_, ?_⟩
  · rw [h'.count, h.count, List.length_append, Nat.add_assoc]
  · rw [hlisted, hlisted', List.append_assoc]
  · rw [conflictsOf_append]
    exact List.rel_append hsame hsame'

theorem Passed.split
    {pairs pairs' : List (FleetReservation × FleetReservation)}
    {before after : ScheduleCheck}
    (h : Passed maximum (pairs ++ pairs') before after) :
    ∃ middle, Passed maximum pairs before middle
      ∧ Passed maximum pairs' middle after := by
  obtain ⟨listed, hlisted, hsame⟩ := h.listed
  rw [conflictsOf_append] at hsame
  have hflip : List.Forall₂ (flip SameConflict) listed
      (conflictsOf pairs ++ conflictsOf pairs') := hsame.flip
  have hleft : List.Forall₂ SameConflict (conflictsOf pairs)
      (listed.take (conflictsOf pairs).length) :=
    (List.forall₂_take_append _ _ _ hflip).flip
  have hright : List.Forall₂ SameConflict (conflictsOf pairs')
      (listed.drop (conflictsOf pairs).length) :=
    (List.forall₂_drop_append _ _ _ hflip).flip
  have hcount := h.count
  have hbounded := h.bounded
  rw [List.length_append] at hcount
  refine ⟨⟨before.pairEvaluations + pairs.length,
    listed.drop (conflictsOf pairs).length ++ after.remaining⟩,
    ⟨rfl, ?_, _, ?_, hleft⟩, ⟨?_, hbounded, _, rfl, hright⟩⟩
  · show before.pairEvaluations + pairs.length ≤ maximum
    omega
  · rw [hlisted, ← List.append_assoc, List.take_append_drop]
  · show after.pairEvaluations
      = before.pairEvaluations + pairs.length + pairs'.length
    omega

theorem passed_nil {before after : ScheduleCheck} :
    Passed maximum [] before after
      ↔ before.pairEvaluations ≤ maximum ∧ before = after := by
  constructor
  · intro h
    obtain ⟨listed, hlisted, hsame⟩ := h.listed
    cases hsame
    have hcount := h.count
    have hbounded := h.bounded
    cases before
    cases after
    rw [List.length_nil, Nat.add_zero] at hcount
    cases hcount
    cases hlisted
    exact ⟨hbounded, rfl⟩
  · intro ⟨hbounded, heq⟩
    subst heq
    exact ⟨rfl, hbounded, [], rfl, .nil⟩

theorem passed_cons_none {first second : FleetReservation}
    (hnone : conflictOf first second = none)
    {pairs : List (FleetReservation × FleetReservation)}
    {before after : ScheduleCheck} :
    Passed maximum ((first, second) :: pairs) before after ↔ Passed maximum
      pairs { before with pairEvaluations := before.pairEvaluations + 1 }
      after := by
  have hconflicts := conflictsOf_cons_none hnone pairs
  constructor
  · intro h
    refine ⟨?_, h.bounded, ?_⟩
    · rw [h.count, List.length_cons]
      show _ = before.pairEvaluations + 1 + _
      omega
    · rw [← hconflicts]
      exact h.listed
  · intro h
    refine ⟨?_, h.bounded, ?_⟩
    · rw [h.count, List.length_cons]
      show before.pairEvaluations + 1 + _ = _
      omega
    · rw [hconflicts]
      exact h.listed

theorem passed_cons_some {first second : FleetReservation}
    {expected : FleetConflict} (hsome : conflictOf first second = some expected)
    {pairs : List (FleetReservation × FleetReservation)}
    {before after : ScheduleCheck} :
    Passed maximum ((first, second) :: pairs) before after ↔
      ∃ actual remaining, before.remaining = actual :: remaining
        ∧ SameConflict expected actual
        ∧ Passed maximum pairs ⟨before.pairEvaluations + 1, remaining⟩
          after := by
  have hconflicts := conflictsOf_cons_some hsome pairs
  constructor
  · intro h
    obtain ⟨listed, hlisted, hsame⟩ := h.listed
    rw [hconflicts] at hsame
    cases hsame with
    | @cons _ actual _ listed hfirst hrest =>
        refine ⟨actual, listed ++ after.remaining, hlisted, hfirst, ?_,
          h.bounded, listed, rfl, hrest⟩
        rw [h.count, List.length_cons]
        show _ = before.pairEvaluations + 1 + _
        omega
  · intro ⟨actual, remaining, hremaining, hfirst, h⟩
    obtain ⟨listed, hlisted, hsame⟩ := h.listed
    refine ⟨?_, h.bounded, actual :: listed, ?_, ?_⟩
    · rw [h.count, List.length_cons]
      show before.pairEvaluations + 1 + _ = _
      omega
    · have hlisted : remaining = listed ++ after.remaining := hlisted
      rw [hremaining, hlisted, List.cons_append]
    · rw [hconflicts]
      exact .cons hfirst hsame

/-- The inner loop of the check goes through its row. -/
theorem validateRow_iff (first : FleetReservation)
    (rest : List FleetReservation) : ∀ before after : ScheduleCheck,
    before.pairEvaluations ≤ maximum →
    (validateRow maximum reportId first rest before = .ok after ↔
      Passed maximum ((Sweep.row endsBefore timeOverlaps first rest).map
        fun second => (first, second)) before after) := by
  induction rest with
  | nil =>
      intro before after hcount
      show Except.ok before = Except.ok after ↔ Passed maximum [] before after
      rw [passed_nil, Except.ok.injEq]
      exact (and_iff_right hcount).symm
  | cons second rest ih =>
      intro before after hcount
      rw [validateRow]
      by_cases hstop : first.endTick ≤ second.beginTick
      · rw [if_pos hstop, Sweep.row_cons_of_stop (by simpa [endsBefore]),
          List.map_nil, passed_nil, Except.ok.injEq]
        exact (and_iff_right hcount).symm
      have hstops : endsBefore first second = false := by
        simpa [endsBefore] using hstop
      rw [if_neg hstop]
      cases hmeets : timeOverlaps first second with
      | false =>
          rw [if_pos rfl, Sweep.row_cons_of_not_meets hstops hmeets]
          exact ih before after hcount
      | true =>
          rw [if_neg (by simp), Sweep.row_cons_of_meets hstops hmeets,
            List.map_cons]
          by_cases hlimit : maximum ≤ before.pairEvaluations
          · rw [if_pos hlimit]
            constructor
            · intro h
              cases h
            · intro h
              have hbounded := h.bounded
              rw [h.count, List.length_cons] at hbounded
              omega
          have hnext : before.pairEvaluations + 1 ≤ maximum := by omega
          rw [if_neg hlimit]
          cases hreason : expectedReason first second with
          | none =>
              have hnone : conflictOf first second = none := by
                rw [conflictOf_eq, hreason]
                rfl
              rw [passed_cons_none hnone]
              exact ih _ after hnext
          | some reason =>
              have hsome := conflictOf_eq first second
              rw [hreason, Option.map_some] at hsome
              rw [passed_cons_some hsome]
              cases hremaining : before.remaining with
              | nil =>
                  constructor
                  · intro h
                    cases h
                  · intro ⟨actual, remaining, hcons, _⟩
                    cases hcons
              | cons actual remaining =>
                  dsimp only
                  cases hmatches : conflictMatches first second reason actual with
                  | false =>
                      rw [if_pos rfl]
                      constructor
                      · intro h
                        cases h
                      · intro ⟨actual', remaining', hcons, hsame, _⟩
                        cases hcons
                        rw [← conflictMatches_iff, hmatches] at hsame
                        cases hsame
                  | true =>
                      rw [if_neg (by simp), ih ⟨_, remaining⟩ after hnext]
                      constructor
                      · exact fun h => ⟨actual, remaining, rfl,
                          conflictMatches_iff.mp hmatches, h⟩
                      · intro ⟨actual', remaining', hcons, _, h⟩
                        cases hcons
                        exact h

/-- The outer loop of the check goes through the sweep. -/
theorem validateRows_iff (ordered : List FleetReservation) :
    ∀ before after : ScheduleCheck, before.pairEvaluations ≤ maximum →
    (validateRows maximum reportId ordered before = .ok after ↔
      Passed maximum (Sweep.sweep endsBefore timeOverlaps ordered) before
        after) := by
  induction ordered with
  | nil =>
      intro before after hcount
      show Except.ok before = Except.ok after ↔ Passed maximum [] before after
      rw [passed_nil, Except.ok.injEq]
      exact (and_iff_right hcount).symm
  | cons first rest ih =>
      intro before after hcount
      rw [validateRows, bind_eq_ok, Sweep.sweep]
      constructor
      · intro h
        obtain ⟨middle, hrow, hrows⟩ := h
        rw [validateRow_iff first rest before middle hcount] at hrow
        exact hrow.trans ((ih middle after hrow.bounded).mp hrows)
      · intro h
        obtain ⟨middle, hrow, hrows⟩ := h.split
        exact ⟨middle, (validateRow_iff first rest before middle hcount).mpr
          hrow, (ih middle after hrow.bounded).mpr hrows⟩

end Check

end RbfSafe
