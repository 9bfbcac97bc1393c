/-
Fleet schedules: the analysis and the check of a finished report.

Both walk over the sorted reservations with an inner loop that breaks at
the first reservation beginning too late. They are written separately in
the source and here: the analysis collects the conflicts it finds, the
check compares them one by one with the list it is given and counts the
pairs anew.
-/
import RbfSafe.Fleet.Types

namespace RbfSafe

open Json

/-- `time_overlaps`. -/
def timeOverlaps (first second : FleetReservation) : Bool :=
  decide (first.beginTick < second.endTick)
    && decide (second.beginTick < first.endTick)

/-- What `reservation_less` compares, in order. -/
def reservationKey (reservation : FleetReservation) :
    Lib.Sorting.Tie Nat (Lib.Sorting.Tie Nat Bytes) :=
  ⟨reservation.beginTick, reservation.endTick, reservation.id⟩

/-- `reservation_less`. -/
def reservationLess (first second : FleetReservation) : Bool :=
  decide (reservationKey first < reservationKey second)

section
variable (P : Platform)

/-- The conditions on one reservation that the analysis and the check
share. -/
def admissible (fleet : FleetSnapshot) (reservation : FleetReservation) :
    Bool :=
  match findMember fleet reservation.deploymentId with
  | none => false
  | some member =>
      validSha256 reservation.sourceArtifactId && reservation.occupancy.valid
        && containsBox member.operatingEnvelope reservation.occupancy
        && decide (reservation.beginTick < reservation.endTick)
        && Scalar.isFinite reservation.separationMargin
        && !Scalar.lt reservation.separationMargin Scalar.zero
        && decide (fleetReservationIdentity P fleet reservation
          = reservation.id)

-- === analysis

/-- Whether the memory still supports a reservation of the fleet. -/
def stillSupported (fleet : FleetSnapshot) (reservation : FleetReservation)
    (source : Option MemoryArtifact) : Bool :=
  match findMember fleet reservation.deploymentId, source with
  | some member, some artifact =>
      sourceSupports fleet member reservation.deploymentId artifact
  | _, _ => false

/-- The reservation loop of `analyze_fleet_schedule`, with the ids seen
before. -/
def checkReservations (fleet : FleetSnapshot) (memory : SafetyMemory) :
    List Bytes → List FleetReservation → Result Unit
  | _, [] => .ok ()
  | seen, reservation :: rest =>
      if admissible P fleet reservation = false ∨ reservation.id ∈ seen then
        failure .invalidArgument "fleet reservation is invalid or duplicated"
      else do
        let source ← memory.artifact reservation.sourceArtifactId
        if stillSupported fleet reservation source = false then
          failure .identityMismatch
            "fleet reservation source is no longer active and compatible"
            reservation.sourceArtifactId
        else checkReservations fleet memory (reservation.id :: seen) rest

/-- The conflict of two reservations whose windows intersect, as
`analyze_fleet_schedule` records it. -/
def conflictOf (first second : FleetReservation) : Option FleetConflict :=
  let conflict (reason : FleetConflictReason) : FleetConflict :=
    { firstReservationId := first.id
      secondReservationId := second.id
      reason
      clearanceLowerBound :=
        first.occupancy.distanceLowerBound second.occupancy
      requiredMargin :=
        Scalar.max first.separationMargin second.separationMargin }
  if first.deploymentId = second.deploymentId then
    some (conflict .duplicateRobotWindow)
  else if first.occupancy.overlaps second.occupancy Scalar.zero then
    some (conflict .workspaceOverlap)
  else if Scalar.lt
      (first.occupancy.distanceLowerBound second.occupancy)
      (Scalar.max first.separationMargin second.separationMargin) then
    some (conflict .separationMarginViolated)
  else none

/-- The counter and the list the analysis fills. -/
structure ScheduleSweep where
  pairEvaluations : Nat := 0
  conflicts : List FleetConflict := []

/-- The inner loop of `analyze_fleet_schedule`. -/
def analyzeRow (maximum : Nat) (first : FleetReservation) :
    List FleetReservation → ScheduleSweep → Result ScheduleSweep
  | [], report => .ok report
  | second :: rest, report =>
      if first.endTick ≤ second.beginTick then .ok report
      else if timeOverlaps first second = false then
        analyzeRow maximum first rest report
      else if maximum ≤ report.pairEvaluations then
        failure .resourceLimit "fleet pair-evaluation limit reached"
      else analyzeRow maximum first rest
        { pairEvaluations := report.pairEvaluations + 1
          conflicts := report.conflicts ++ (conflictOf first second).toList }

/-- The outer loop of `analyze_fleet_schedule`. -/
def analyzeRows (maximum : Nat) :
    List FleetReservation → ScheduleSweep → Result ScheduleSweep
  | [], report => .ok report
  | first :: rest, report => do
      let report ← analyzeRow maximum first rest report
      analyzeRows maximum rest report

/-- The status a list of conflicts stands for. -/
def scheduleStatus (conflicts : List FleetConflict) : FleetScheduleStatus :=
  if conflicts.isEmpty then .conflictFreeUnderDeclaredEnvelopes
  else .conflicted

/-- `analyze_fleet_schedule`. -/
def analyzeFleetSchedule (fleet : FleetSnapshot) (memory : SafetyMemory)
    (reservations : List FleetReservation) (options : FleetScheduleOptions) :
    Result FleetScheduleReport :=
  if validFleetSnapshot P fleet = false then
    failure .invalidArgument "fleet snapshot is invalid"
  else if options.maximumReservations = 0
      ∨ options.maximumPairEvaluations = 0 then
    failure .invalidArgument "fleet schedule limits must be positive"
  else if options.maximumReservations < reservations.length then
    failure .resourceLimit "fleet reservation count exceeds limit"
  else do
    let ordered := Lib.Sorting.sort reservationKey reservations
    let _ ← checkReservations P fleet memory [] ordered
    let swept ← analyzeRows options.maximumPairEvaluations ordered {}
    let report : FleetScheduleReport :=
      { fleetSnapshotId := fleet.id
        status := scheduleStatus swept.conflicts
        reservations := ordered
        conflicts := swept.conflicts
        pairEvaluations := swept.pairEvaluations }
    .ok { report with id := fleetScheduleIdentity P report }

-- === check

/-- The reservation loop of `validate_fleet_schedule_report`, with the ids
seen before and the neighbour. -/
def validateReservations (fleet : FleetSnapshot) :
    List Bytes → Option FleetReservation → List FleetReservation → Result Unit
  | _, _, [] => .ok ()
  | seen, previous, reservation :: rest =>
      if admissible P fleet reservation = false
          ∨ validSha256 reservation.id = false ∨ reservation.id ∈ seen
          ∨ previous.any (reservationLess reservation) = true then
        failure .invalidArgument "fleet schedule reservation is invalid"
          reservation.id
      else validateReservations fleet (reservation.id :: seen)
        (some reservation) rest

/-- The reason `validate_fleet_schedule_report` expects of two
reservations whose windows intersect. -/
def expectedReason (first second : FleetReservation) :
    Option FleetConflictReason :=
  if first.deploymentId = second.deploymentId then some .duplicateRobotWindow
  else if first.occupancy.overlaps second.occupancy Scalar.zero then
    some .workspaceOverlap
  else if Scalar.lt
      (first.occupancy.distanceLowerBound second.occupancy)
      (Scalar.max first.separationMargin second.separationMargin) then
    some .separationMarginViolated
  else none

/-- Whether a listed conflict is the expected one. -/
def conflictMatches (first second : FleetReservation)
    (reason : FleetConflictReason) (actual : FleetConflict) : Bool :=
  decide (actual.firstReservationId = first.id)
    && decide (actual.secondReservationId = second.id)
    && decide (actual.reason = reason)
    && Scalar.eq actual.clearanceLowerBound
      (first.occupancy.distanceLowerBound second.occupancy)
    && Scalar.eq actual.requiredMargin
      (Scalar.max first.separationMargin second.separationMargin)

/-- The counter of the check and the conflicts it has not reached. -/
structure ScheduleCheck where
  pairEvaluations : Nat
  remaining : List FleetConflict

/-- The inner loop of `validate_fleet_schedule_report`. -/
def validateRow (maximum : Nat) (reportId : Bytes) (first : FleetReservation) :
    List FleetReservation → ScheduleCheck → Result ScheduleCheck
  | [], state => .ok state
  | second :: rest, state =>
      if first.endTick ≤ second.beginTick then .ok state
      else if timeOverlaps first second = false then
        validateRow maximum reportId first rest state
      else if maximum ≤ state.pairEvaluations then
        failure .resourceLimit
          "fleet schedule pair count exceeds validation limit"
      else match expectedReason first second with
        | none => validateRow maximum reportId first rest
            { state with pairEvaluations := state.pairEvaluations + 1 }
        | some reason => match state.remaining with
            | [] =>
                failure .invalidArgument
                  "fleet schedule conflict list is incomplete" reportId
            | actual :: remaining =>
                if conflictMatches first second reason actual = false then
                  failure .invalidArgument
                    "fleet schedule conflict content is inconsistent" reportId
                else validateRow maximum reportId first rest
                  { pairEvaluations := state.pairEvaluations + 1
                    remaining }

/-- The outer loop of `validate_fleet_schedule_report`. -/
def validateRows (maximum : Nat) (reportId : Bytes) :
    List FleetReservation → ScheduleCheck → Result ScheduleCheck
  | [], state => .ok state
  | first :: rest, state => do
      let state ← validateRow maximum reportId first rest state
      validateRows maximum reportId rest state

/-- `validate_fleet_schedule_report`. -/
def validateFleetScheduleReport (fleet : FleetSnapshot)
    (report : FleetScheduleReport) (maximumPairEvaluations : Nat) :
    Result Unit :=
  if validFleetSnapshot P fleet = false ∨ maximumPairEvaluations = 0
      ∨ report.fleetSnapshotId ≠ fleet.id ∨ validSha256 report.id = false
      ∨ maximumPairEvaluations < report.pairEvaluations then
    failure .invalidArgument "fleet schedule report metadata is invalid"
      report.id
  else do
    let _ ← validateReservations P fleet [] none report.reservations
    let state ← validateRows maximumPairEvaluations report.id
      report.reservations ⟨0, report.conflicts⟩
    if state.pairEvaluations ≠ report.pairEvaluations
        ∨ state.remaining ≠ []
        ∨ report.status ≠ scheduleStatus report.conflicts
        ∨ fleetScheduleIdentity P report ≠ report.id then
      failure .identityMismatch
        "fleet schedule report identity or derived values are invalid"
        report.id
    else .ok ()

end

end RbfSafe
