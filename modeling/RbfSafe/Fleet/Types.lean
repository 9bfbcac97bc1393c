/-
Fleets: the members that share a scene, and the workspace windows they
reserve.

A snapshot names its members in the order of their deployments, and a
reservation is tied to one snapshot by its identity. Ticks are counted
by natural numbers: the schedule only compares them.
-/
import RbfSafe.Memory.Operations
import RbfSafe.Core.Workspace

namespace RbfSafe

open Json

-- === records

/-- `kMaximumFleetMembers`. -/
def kMaximumFleetMembers : Nat := 10000

/-- `FleetMember`. -/
structure FleetMember where
  deploymentId : Bytes
  robotDigest : Bytes
  operatingEnvelope : WorkspaceAabb Float

/-- `FleetSnapshot`. -/
structure FleetSnapshot where
  id : Bytes := []
  fleetId : Bytes
  sceneDigest : Bytes
  members : List FleetMember

/-- `FleetReservation`. -/
structure FleetReservation where
  id : Bytes := []
  deploymentId : Bytes
  sourceArtifactId : Bytes
  occupancy : WorkspaceAabb Float
  beginTick : Nat
  endTick : Nat
  separationMargin : Float

/-- `FleetConflictReason`. -/
inductive FleetConflictReason where
  | duplicateRobotWindow
  | workspaceOverlap
  | separationMarginViolated
deriving DecidableEq, Repr

def FleetConflictReason.toNat : FleetConflictReason → Nat
  | .duplicateRobotWindow => 0
  | .workspaceOverlap => 1
  | .separationMarginViolated => 2

/-- `FleetConflict`. -/
structure FleetConflict where
  firstReservationId : Bytes
  secondReservationId : Bytes
  reason : FleetConflictReason
  clearanceLowerBound : Float
  requiredMargin : Float

/-- `FleetScheduleStatus`. -/
inductive FleetScheduleStatus where
  | conflictFreeUnderDeclaredEnvelopes
  | conflicted
deriving DecidableEq, Repr

def FleetScheduleStatus.toNat : FleetScheduleStatus → Nat
  | .conflictFreeUnderDeclaredEnvelopes => 0
  | .conflicted => 1

/-- `FleetScheduleOptions`. -/
structure FleetScheduleOptions where
  maximumReservations : Nat := 100000
  maximumPairEvaluations : Nat := 1000000

/-- `FleetScheduleReport`. -/
@[ext]
structure FleetScheduleReport where
  id : Bytes := []
  fleetSnapshotId : Bytes
  status : FleetScheduleStatus := .conflicted
  reservations : List FleetReservation
  conflicts : List FleetConflict
  pairEvaluations : Nat

-- === identities

section
variable (P : Platform)

/-- `fleet_snapshot_identity`. -/
def fleetSnapshotIdentity (fleet : FleetSnapshot) : Bytes :=
  P.sha256 (dump P.toLibc false 0 (.object (obj
    [("fleet_id", .string fleet.fleetId),
      ("members", .array (fleet.members.map fun member => .object (obj
        [("deployment_id", .string member.deploymentId),
          ("operating_envelope", member.operatingEnvelope.json),
          ("robot_digest", .string member.robotDigest)]))),
      ("scene_digest", .string fleet.sceneDigest)])))

/-- `fleet_reservation_identity`. -/
def fleetReservationIdentity (fleet : FleetSnapshot)
    (reservation : FleetReservation) : Bytes :=
  P.sha256 (dump P.toLibc false 0 (.object (obj
    [("begin_tick", uint reservation.beginTick),
      ("deployment_id", .string reservation.deploymentId),
      ("end_tick", uint reservation.endTick),
      ("fleet_snapshot_id", .string fleet.id),
      ("occupancy", reservation.occupancy.json),
      ("separation_margin", double reservation.separationMargin),
      ("source_artifact_id", .string reservation.sourceArtifactId)])))

/-- The entry of one conflict in `fleet_schedule_identity`. -/
def fleetConflictJson (conflict : FleetConflict) : Json :=
  .object (obj
    [("clearance_lower_bound", double conflict.clearanceLowerBound),
      ("first_reservation_id", .string conflict.firstReservationId),
      ("reason", num conflict.reason.toNat),
      ("required_margin", double conflict.requiredMargin),
      ("second_reservation_id", .string conflict.secondReservationId)])

/-- `fleet_schedule_identity`. -/
def fleetScheduleIdentity (report : FleetScheduleReport) : Bytes :=
  P.sha256 (dump P.toLibc false 0 (.object (obj
    [("conflicts", .array (report.conflicts.map fleetConflictJson)),
      ("fleet_snapshot_id", .string report.fleetSnapshotId),
      ("pair_evaluations", uint report.pairEvaluations),
      ("reservations", .array (report.reservations.map fun reservation =>
        .string reservation.id)),
      ("status", num report.status.toNat)])))

-- === snapshots

/-- `contains_box`. -/
def containsBox (outer inner : WorkspaceAabb Float) : Bool :=
  (List.finRange 3).all fun axis =>
    !(Scalar.lt (inner.lower axis) (outer.lower axis)
      || Scalar.lt (outer.upper axis) (inner.upper axis))

/-- `find_member`. -/
def findMember (fleet : FleetSnapshot) (deploymentId : Bytes) :
    Option FleetMember :=
  let place := fleet.members.findIdx fun candidate =>
    !decide (candidate.deploymentId < deploymentId)
  fleet.members[place]?.filter fun member =>
    member.deploymentId = deploymentId

/-- The member loop of `valid_fleet_snapshot`. -/
def validMembers : Bytes → List FleetMember → Bool
  | _, [] => true
  | previous, member :: members =>
      validIdentifier member.deploymentId && validSha256 member.robotDigest
        && member.operatingEnvelope.valid
        && (previous.isEmpty || decide (previous < member.deploymentId))
        && validMembers member.deploymentId members

/-- `valid_fleet_snapshot`. -/
def validFleetSnapshot (fleet : FleetSnapshot) : Bool :=
  validIdentifier fleet.fleetId && validSha256 fleet.sceneDigest
    && !fleet.members.isEmpty
    && decide (fleet.members.length ≤ kMaximumFleetMembers)
    && validSha256 fleet.id
    && validMembers [] fleet.members
    && decide (fleetSnapshotIdentity P fleet = fleet.id)

/-- `source_type_supports_reservation`. -/
def sourceTypeSupportsReservation : MemoryArtifactType → Bool
  | .safeAtlas | .regionDatabase | .safeCorridor | .trajectoryAudit => true
  | _ => false

/-- What a reservation asks of its source artifact. -/
def sourceSupports (fleet : FleetSnapshot) (member : FleetMember)
    (deploymentId : Bytes) (artifact : MemoryArtifact) : Bool :=
  artifact.state = .active && artifact.deploymentId = deploymentId
    && artifact.robotDigest = member.robotDigest
    && artifact.sceneDigest = fleet.sceneDigest
    && decide (EvidenceLevel.certifiedRegion.toNat ≤ artifact.evidence.toNat)
    && sourceTypeSupportsReservation artifact.type

end

end RbfSafe
