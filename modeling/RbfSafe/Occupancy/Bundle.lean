/-
The bundle of a fleet's occupancies and their report.

A bundle is valid if its report and all its occupancies are, if these are
sorted by deployment, one for each, and if the report is about exactly
them.
-/
import RbfSafe.Occupancy.Fleet

namespace RbfSafe

open Json

/-- `ContinuousFleetOccupancyBundle`. -/
structure ContinuousFleetOccupancyBundle (α : Type) where
  storageSchema : Nat
  id : Bytes := []
  occupancies : List (RobotTrajectoryOccupancy α)
  report : ContinuousFleetOccupancyReport α

/-- `emplace` of the id into an object. -/
def withId (id : Bytes) : Json → Json
  | .object fields => .object (emplace (ascii "id") (.string id) fields)
  | document => document

section
variable {α : Type} [MetricScalar α]

/-- `continuous_fleet_occupancy_report_json`, without the id. -/
def continuousFleetOccupancyReportJson
    (report : ContinuousFleetOccupancyReport α) : Json :=
  .object (obj
    [("conflicts",
        .array (report.conflicts.map continuousOccupancyConflictJson)),
      ("link_pair_evaluations", uint report.linkPairEvaluations),
      ("minimum_separation", MetricScalar.json report.minimumSeparation),
      ("occupancy_ids", .array (report.occupancyIds.map .string)),
      ("slice_pair_evaluations", uint report.slicePairEvaluations),
      ("status", num report.status.toNat),
      ("timeline_id", .string report.timelineId),
      ("workspace_frame_id", .string report.workspaceFrameId)])

/-- `continuous_fleet_occupancy_bundle_payload_json`, without the id. -/
def continuousFleetOccupancyBundlePayloadJson
    (bundle : ContinuousFleetOccupancyBundle α) : Json :=
  .object (obj
    [("occupancies", .array (bundle.occupancies.map fun occupancy =>
        withId occupancy.id (robotTrajectoryOccupancyJson occupancy))),
      ("report", withId bundle.report.id
        (continuousFleetOccupancyReportJson bundle.report)),
      ("storage_schema", uint bundle.storageSchema)])

variable (P : Platform)

/-- `continuous_fleet_occupancy_bundle_identity`. -/
def continuousFleetOccupancyBundleIdentity
    (bundle : ContinuousFleetOccupancyBundle α) : Bytes :=
  P.sha256 (dump P.toLibc false 0
    (continuousFleetOccupancyBundlePayloadJson bundle))

/-- What the occupancies of a bundle are sorted by. -/
def bundleKey (occupancy : RobotTrajectoryOccupancy α) :
    Lib.Sorting.Tie Bytes Bytes :=
  ⟨occupancy.deploymentId, occupancy.id⟩

/-- `std::is_sorted` of the occupancies, and the loop's test that no two
neighbours are of one deployment. -/
def deploymentsSorted : List (RobotTrajectoryOccupancy α) → Bool
  | first :: second :: rest =>
      !decide (bundleKey second < bundleKey first)
        && decide (first.deploymentId ≠ second.deploymentId)
        && deploymentsSorted (second :: rest)
  | _ => true

/-- `ContinuousFleetOccupancyBundle::valid`. -/
def ContinuousFleetOccupancyBundle.valid
    (bundle : ContinuousFleetOccupancyBundle α) : Bool :=
  let containsSchema2 := bundle.occupancies.any fun occupancy =>
    decide (2 ≤ occupancy.storageSchema)
  (decide (bundle.storageSchema = 1) || decide (bundle.storageSchema = 2))
    && validSha256 bundle.id && decide (2 ≤ bundle.occupancies.length)
    && bundle.report.valid P && deploymentsSorted bundle.occupancies
    && bundle.occupancies.all (fun occupancy => occupancy.valid P)
    && !(decide (bundle.storageSchema = 1) && containsSchema2
      || decide (bundle.storageSchema = 2) && !containsSchema2)
    && bundle.occupancies.all (fun occupancy =>
      decide (occupancy.timelineId = bundle.report.timelineId)
        && decide (occupancy.workspaceFrameId = bundle.report.workspaceFrameId))
    && decide (Lib.Sorting.sort (fun id => id)
        (bundle.occupancies.map fun occupancy => occupancy.id)
      = bundle.report.occupancyIds)
    && decide (continuousFleetOccupancyBundleIdentity P bundle = bundle.id)

end

end RbfSafe
