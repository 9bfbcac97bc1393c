/-
`shield.cpp`: the monitor that compares states with an armed decision.

A monitor is armed with a decision of the shield that it audits once more.
Each state it then observes is compared with the polyline of the decision
and with the regions of the atlas.

The smallest distance starts at infinity, which is `none`.
-/
import RbfSafe.Shield.Shield

namespace RbfSafe.Atlas

-- === distances

section
variable {α : Type} [Scalar α]

/-- The first loop of `distance_to_segment_squared`: where the nearest point
of the segment is. -/
def segmentFraction (point start finish : List α) : α :=
  let sums := (point.zip (start.zip finish)).foldl (fun sums ends =>
    let direction := Scalar.sub ends.2.2 ends.2.1
    (Scalar.add sums.1 (Scalar.mul direction direction),
      Scalar.add sums.2 (Scalar.mul (Scalar.sub ends.1 ends.2.1) direction)))
    (Scalar.zero, Scalar.zero)
  if Scalar.eq sums.1 Scalar.zero then Scalar.zero
  else Scalar.clamp (Scalar.div sums.2 sums.1) Scalar.zero Scalar.one

/-- The point of a segment at a fraction of it. -/
def pointOnSegment (start finish : List α) (fraction : α) : List α :=
  (start.zip finish).map fun ends =>
    Scalar.add ends.1 (Scalar.mul fraction (Scalar.sub ends.2 ends.1))

/-- `distance_to_segment_squared`. -/
def distanceToSegmentSquared (point start finish : List α) : α :=
  squaredDistance point
    (pointOnSegment start finish (segmentFraction point start finish))

end

/-- The loop of `distance_to_trajectory`, before the root. -/
def leastDistanceSquared {α : Type} [Scalar α] (point : List α) :
    List (List α × List α) → Option α → Option α
  | [], best => best
  | (start, finish) :: rest, best =>
      leastDistanceSquared point rest
        (leastClearance best (distanceToSegmentSquared point start finish))

/-- `distance_to_trajectory`. -/
def distanceToTrajectory {α : Type} [MetricScalar α] (point : List α)
    (trajectory : List (List α)) : Option α :=
  (leastDistanceSquared point (TrajectoryAuditor.segments trajectory) none).map
    MetricScalar.sqrt

-- === types

/-- `MonitorState`. -/
inductive MonitorState where
  | inactive
  | onCertifiedPlan
  | certifiedDeviation
  | uncertifiedState
deriving DecidableEq, Repr

/-- `RuntimeMonitorOptions`. -/
structure RuntimeMonitorOptions (α : Type) where
  trackingTolerance : α
  maximumPlanWaypoints : Nat := 100000

/-- `MonitorObservation`. -/
structure MonitorObservation (α : Type) [Scalar α] where
  state : MonitorState := .inactive
  decisionId : Bytes := []
  timestamp : α
  distanceToPlan : Option α := some Scalar.zero
  evidence : EvidenceLevel := .unknown

/-- `RuntimeMonitorStats`. -/
structure RuntimeMonitorStats where
  observations : UInt64 := 0
  onPlan : UInt64 := 0
  certifiedDeviations : UInt64 := 0
  uncertifiedStates : UInt64 := 0

/-- What an observation adds to the statistics. -/
def RuntimeMonitorStats.count (stats : RuntimeMonitorStats) (state : MonitorState) :
    RuntimeMonitorStats :=
  let stats := { stats with observations := stats.observations + 1 }
  match state with
  | .inactive => stats
  | .onCertifiedPlan => { stats with onPlan := stats.onPlan + 1 }
  | .certifiedDeviation =>
      { stats with certifiedDeviations := stats.certifiedDeviations + 1 }
  | .uncertifiedState =>
      { stats with uncertifiedStates := stats.uncertifiedStates + 1 }

/-- `RuntimeShieldMonitor`, with the query index of its atlas. -/
structure RuntimeShieldMonitor (α : Type) [Scalar α] where
  atlas : Option (SafeAtlas α)
  queryIndex : Option (RegionQueryIndex α)
  options : RuntimeMonitorOptions α
  active : Option (ShieldDecision α) := none
  lastTimestamp : Option α := none
  stats : RuntimeMonitorStats := {}

-- === monitor

namespace RuntimeShieldMonitor

section
variable {α : Type} [MetricScalar α] (P : Platform)

/-- What `arm` asks of a decision, before it audits its polyline. -/
def compatible (options : RuntimeMonitorOptions α) (atlas : SafeAtlas α)
    (decision : ShieldDecision α) : Bool :=
  decide (decision.outcome ≠ .reject)
    && decide (2 ≤ decision.outputTrajectory.length)
    && decide (decision.outputTrajectory.length ≤ options.maximumPlanWaypoints)
    && decision.audit.any (fun audit => decide (audit.status = .certified))
    && decision.connectivityCertificate.any (fun certificate =>
      decide (certificate.level = .certifiedConnectivity
        ∧ certificate.robotDigest = atlas.robotDigest
        ∧ certificate.sceneDigest = atlas.sceneDigest))
    && decide (decision.evidence = .certifiedConnectivity)
    && decide (decision.actionDigest.length = 64)
    && decide (decision.id = decisionId P decision)
    && decide (decision.robotDigest = atlas.robotDigest)
    && decide (decision.sceneDigest = atlas.sceneDigest)

/-- The checks of `arm`. -/
def checkArm (monitor : RuntimeShieldMonitor α) (decision : ShieldDecision α) :
    Result Unit :=
  match monitor.atlas with
  | none => failure .invalidArgument "runtime monitor Atlas is null"
      (ascii "runtime monitor")
  | some atlas =>
      if Scalar.isFinite monitor.options.trackingTolerance = false
          ∨ Scalar.lt monitor.options.trackingTolerance Scalar.zero = true
          ∨ monitor.options.maximumPlanWaypoints < 2 then
        failure .invalidArgument "runtime monitor tolerance is invalid"
          (ascii "runtime monitor")
      else if compatible P monitor.options atlas decision = false then
        failure .invalidArgument
          "runtime monitor requires a compatible certified shield decision"
          (ascii "runtime monitor")
      else do
        let audit ← TrajectoryAuditor.audit atlas decision.outputTrajectory {}
        if audit.status ≠ .certified then
          failure .invalidArgument
            "runtime monitor decision trajectory is not certified"
            (ascii "runtime monitor")
        else .ok ()

/-- `RuntimeShieldMonitor::arm`, and the monitor after it. -/
def arm (monitor : RuntimeShieldMonitor α) (decision : ShieldDecision α) :
    Result Unit × RuntimeShieldMonitor α :=
  match checkArm P monitor decision with
  | .error e => (.error e, monitor)
  | .ok () => (.ok (),
      { monitor with active := some decision, lastTimestamp := none })

/-- `RuntimeShieldMonitor::disarm`. -/
def disarm (monitor : RuntimeShieldMonitor α) : RuntimeShieldMonitor α :=
  { monitor with active := none, lastTimestamp := none }

/-- The checks of `observe`, which return the atlas. -/
def checkObservation (monitor : RuntimeShieldMonitor α) (configuration : List α)
    (timestamp : α) : Result (SafeAtlas α) :=
  match monitor.atlas with
  | none => failure .invalidArgument "runtime monitor Atlas is null"
      (ascii "runtime monitor")
  | some atlas => do
      validateConfiguration configuration atlas.dimension
        (ascii "runtime monitor observation")
      if Scalar.isFinite timestamp = false
          ∨ monitor.lastTimestamp.any (Scalar.le timestamp) = true then
        failure .invalidArgument "runtime monitor timestamps must increase"
          (ascii "runtime monitor")
      else .ok atlas

/-- What is observed of a state, once the checks have passed. -/
def observation (monitor : RuntimeShieldMonitor α) (atlas : SafeAtlas α)
    (configuration : List α) (timestamp : α) : MonitorObservation α :=
  match monitor.active with
  | none => { timestamp := timestamp }
  | some decision =>
      let distance := distanceToTrajectory configuration decision.outputTrajectory
      let state : MonitorState :=
        if atlas.contains monitor.queryIndex configuration = false then
          .uncertifiedState
        else if distance.any fun distance =>
            Scalar.le distance monitor.options.trackingTolerance then
          .onCertifiedPlan
        else .certifiedDeviation
      { state := state
        decisionId := decision.id
        timestamp := timestamp
        distanceToPlan := distance
        evidence := match state with
          | .onCertifiedPlan => .certifiedConnectivity
          | .certifiedDeviation => .certifiedRegion
          | _ => .unknown }

/-- `RuntimeShieldMonitor::observe`, and the monitor after it. -/
def observe (monitor : RuntimeShieldMonitor α) (configuration : List α)
    (timestamp : α) : Result (MonitorObservation α) × RuntimeShieldMonitor α :=
  match checkObservation monitor configuration timestamp with
  | .error e => (.error e, monitor)
  | .ok atlas =>
      let observation := monitor.observation atlas configuration timestamp
      (.ok observation,
        { monitor with
          lastTimestamp := some timestamp
          stats := monitor.stats.count observation.state })

end

end RuntimeShieldMonitor

end RbfSafe.Atlas
