/-
What a monitor reports, over all of its calls.

The events of a monitor tell what it is armed with, when it was last asked
and how often it reported what: the fields of the monitor are read off them,
whatever the calls were (`Followed`). A state is on the plan if it is in a
region and no further than the tolerance from a point of the polyline, which
the auditor has certified when the monitor was armed.

The second audit of a polyline asks what the first one asked, so a decision
of the shield is armed if the budget of that audit suffices.
-/
import RbfSafe.Core.Kinematics
import RbfSafe.Atlas.Proofs.Audit
import RbfSafe.Core.Host
import RbfSafe.Shield.Monitor
import RbfSafe.Shield.Proofs.Decision

namespace RbfSafe.Atlas

open TrajectoryAuditor

-- === distances

section
variable {α : Type} [Scalar α]

theorem leastClearance_cases {best : Option α} {value least : α}
    (h : leastClearance best value = some least) :
    best = some least ∨ value = least := by
  unfold leastClearance at h
  cases best with
  | none =>
      dsimp only at h
      split at h
      · exact .inr (Option.some.inj h)
      · cases h
  | some first =>
      dsimp only [Scalar.min] at h
      split at h
      · exact .inr (Option.some.inj h)
      · exact .inl h

/-- The least distance is that of a segment. -/
theorem leastDistanceSquared_cases {point : List α} {least : α} :
    ∀ {segments : List (List α × List α)} {best : Option α},
      leastDistanceSquared point segments best = some least →
      best = some least ∨ ∃ segment ∈ segments,
        distanceToSegmentSquared point segment.1 segment.2 = least := by
  intro segments
  induction segments with
  | nil => exact fun h => .inl h
  | cons segment rest ih =>
      intro best h
      rcases ih h with hbest | hrest
      · rcases leastClearance_cases hbest with hbest | hvalue
        · exact .inl hbest
        · exact .inr ⟨segment, List.mem_cons_self, hvalue⟩
      · obtain ⟨other, hother, hvalue⟩ := hrest
        exact .inr ⟨other, List.mem_cons_of_mem _ hother, hvalue⟩

end

-- === regions

/-- What is contained is in a region, within the tolerance of the query. -/
theorem region_of_contains {α : Type} [Scalar α] {atlas : SafeAtlas α}
    {queryIndex : Option (RegionQueryIndex α)} {configuration : List α}
    (h : atlas.contains queryIndex configuration = true) :
    ∃ region ∈ atlas.regions,
      region.bounds.contains configuration Scalar.tolerance = true := by
  have hcollect : ∀ {indices : List Nat} {node : RegionQueryIndex.Node α} {index : Nat},
      index ∈ RegionQueryIndex.collect atlas.regions indices configuration node →
      (RegionQueryIndex.boundsAt atlas.regions index).contains configuration
        Scalar.tolerance = true := by
    intro indices node
    induction node with
    | leaf bounds first last =>
        intro index hindex
        unfold RegionQueryIndex.collect at hindex
        split at hindex
        · exact (List.mem_filter.mp hindex).2
        · cases hindex
    | branch bounds left right ihleft ihright =>
        intro index hindex
        unfold RegionQueryIndex.collect at hindex
        split at hindex
        · rcases List.mem_append.mp hindex with hleft | hright
          · exact ihleft hleft
          · exact ihright hright
        · cases hindex
  unfold SafeAtlas.contains at h
  cases hfound : atlas.regionsAt queryIndex configuration with
  | error e =>
      rw [hfound] at h
      cases h
  | ok found =>
      rw [hfound] at h
      cases found with
      | nil => cases h
      | cons region rest =>
          unfold SafeAtlas.regionsAt at hfound
          obtain ⟨-, hfound⟩ := check_eq_ok.mp hfound
          cases queryIndex with
          | none =>
              have hmem : region ∈ atlas.regions.filter fun region =>
                  region.bounds.contains configuration Scalar.tolerance := by
                rw [Except.ok.inj hfound]
                exact List.mem_cons_self
              exact ⟨region, List.mem_filter.mp hmem⟩
          | some index =>
              have hmem : region ∈ (index.containing configuration
                  atlas.regions).filterMap fun found => atlas.regions[found]? := by
                rw [Except.ok.inj hfound]
                exact List.mem_cons_self
              obtain ⟨place, hplace, hregion⟩ := List.mem_filterMap.mp hmem
              refine ⟨region, List.mem_of_getElem? hregion, ?_⟩
              unfold RegionQueryIndex.containing at hplace
              rw [Lib.Sorting.mem_sort] at hplace
              cases hroot : index.root with
              | none =>
                  rw [hroot] at hplace
                  cases hplace
              | some node =>
                  rw [hroot] at hplace
                  have hbounds := hcollect hplace
                  unfold RegionQueryIndex.boundsAt at hbounds
                  rwa [hregion] at hbounds

-- === audits

section
variable {α : Type} [Scalar α] {options other : TrajectoryAuditOptions}

/-- What an audit finds does not depend on its options. -/
theorem testRegions_of_ok {index : Nat} {first second : List α} :
    ∀ {regions : List (SafeRegion α)} {tests : Nat}
      {result : List (RegionInterval α) × Nat},
      testRegions options index first second regions tests = .ok result →
      result = (regions.filterMap (regionInterval first second),
        tests + regions.length) := by
  intro regions
  induction regions with
  | nil =>
      intro tests result h
      exact (Except.ok.inj h).symm
  | cons region rest ih =>
      intro tests result h
      unfold testRegions at h
      obtain ⟨-, h⟩ := ite_failure_eq_ok.mp h
      obtain ⟨-, h⟩ := ite_failure_eq_ok.mp h
      obtain ⟨later, hlater, h⟩ := bind_eq_ok.mp h
      rw [ih hlater] at h
      rw [List.filterMap_cons, List.length_cons, Nat.add_comm rest.length, ← Nat.add_assoc]
      unfold regionInterval
      cases hoverlap : intersectSegment first second region.bounds with
      | none =>
          rw [hoverlap] at h
          exact (Except.ok.inj h).symm
      | some overlap =>
          rw [hoverlap] at h
          exact (Except.ok.inj h).symm

theorem auditSegments_of_ok (hcancelled : ∀ segment tests,
      other.cancelled segment tests = false) {regions : List (SafeRegion α)} :
    ∀ {segments : List (List α × List α)} {index : Nat} {state result : AuditState α},
      auditSegments options regions index segments state = .ok result →
      state.regionTests + regions.length * segments.length
        ≤ other.maximumRegionTests →
      auditSegments other regions index segments state = .ok result := by
  intro segments
  induction segments with
  | nil => exact fun h _ => h
  | cons segment rest ih =>
      intro index state result h hbudget
      rw [List.length_cons, Nat.mul_add, Nat.mul_one] at hbudget
      unfold auditSegments at h ⊢
      obtain ⟨next, hnext, h⟩ := bind_eq_ok.mp h
      unfold auditSegment at hnext ⊢
      obtain ⟨-, hnext⟩ := ite_failure_eq_ok.mp hnext
      obtain ⟨tested, htested, hnext⟩ := bind_eq_ok.mp hnext
      rw [testRegions_of_ok htested] at hnext
      rw [if_neg (by simp [hcancelled]),
        testRegions_eq hcancelled (by omega : state.regionTests + regions.length ≤ _)]
      cases hnext
      exact ih h (by dsimp only; omega)

theorem audit_of_ok (hcancelled : ∀ segment tests,
      other.cancelled segment tests = false) {atlas : SafeAtlas α}
    {trajectory : List (List α)} {report : TrajectoryAuditReport α}
    (h : audit atlas trajectory options = .ok report)
    (hpositive : other.maximumRegionTests ≠ 0)
    (hbudget : atlas.regions.length * (segments trajectory).length
      ≤ other.maximumRegionTests) :
    audit atlas trajectory other = .ok report := by
  unfold audit at h ⊢
  rw [ite_failure_eq_ok, ite_failure_eq_ok, check_eq_ok, check_eq_ok, check_eq_ok] at h ⊢
  obtain ⟨hlength, -, hcertificates, hwaypoints, hdeltas, h⟩ := h
  obtain ⟨state, hstate, hreport⟩ := bind_eq_ok.mp h
  refine ⟨hlength, hpositive, hcertificates, hwaypoints, hdeltas, ?_⟩
  rw [bind_eq_ok]
  refine ⟨state, auditSegments_of_ok hcancelled hstate ?_, hreport⟩
  rw [Nat.zero_add]
  exact hbudget

theorem two_le_of_audit {atlas : SafeAtlas α} {trajectory : List (List α)}
    {report : TrajectoryAuditReport α}
    (h : audit atlas trajectory options = .ok report) : 2 ≤ trajectory.length :=
  Nat.not_lt.mp (ite_failure_eq_ok.mp h).1

end

-- === calls

namespace RuntimeShieldMonitor

section
variable {α : Type} [MetricScalar α]

/-- What is done with a monitor. -/
inductive MonitorCall (α : Type) [Scalar α] where
  | arm (decision : ShieldDecision α)
  | disarm
  | observe (configuration : List α) (timestamp : α)

/-- A call with what it returned. -/
inductive MonitorEvent (α : Type) [Scalar α] where
  | armed (decision : ShieldDecision α) (status : Result Unit)
  | disarmed
  | observed (configuration : List α) (timestamp : α)
      (answer : Result (MonitorObservation α))

/-- The monitor after a call, and the event. -/
def MonitorCall.run (P : Platform) (monitor : RuntimeShieldMonitor α) :
    MonitorCall α → RuntimeShieldMonitor α × MonitorEvent α
  | .arm decision =>
      ((monitor.arm P decision).2, .armed decision (monitor.arm P decision).1)
  | .disarm => (monitor.disarm, .disarmed)
  | .observe configuration timestamp =>
      ((monitor.observe configuration timestamp).2,
        .observed configuration timestamp (monitor.observe configuration timestamp).1)

/-- The monitors that calls lead to, with their events, the last one first. -/
inductive Reached (P : Platform) (initial : RuntimeShieldMonitor α) :
    List (MonitorEvent α) → RuntimeShieldMonitor α → Prop where
  | start : Reached P initial [] initial
  | call {events : List (MonitorEvent α)} {monitor : RuntimeShieldMonitor α}
      (h : Reached P initial events monitor) (call : MonitorCall α) :
      Reached P initial ((call.run P monitor).2 :: events) (call.run P monitor).1

/-- The decision of the last arming that succeeded, if the monitor was not
disarmed since. -/
def armedBy : List (MonitorEvent α) → Option (ShieldDecision α)
  | [] => none
  | .armed decision (.ok _) :: _ => some decision
  | .armed _ (.error _) :: events => armedBy events
  | .disarmed :: _ => none
  | .observed _ _ _ :: events => armedBy events

/-- The times of the states observed since, the last one first. -/
def timesSince : List (MonitorEvent α) → List α
  | [] => []
  | .armed _ (.ok _) :: _ => []
  | .armed _ (.error _) :: events => timesSince events
  | .disarmed :: _ => []
  | .observed _ timestamp (.ok _) :: events => timestamp :: timesSince events
  | .observed _ _ (.error _) :: events => timesSince events

/-- What was observed, the last one first. -/
def reportedStates : List (MonitorEvent α) → List MonitorState
  | [] => []
  | .observed _ _ (.ok observation) :: events =>
      observation.state :: reportedStates events
  | .observed _ _ (.error _) :: events => reportedStates events
  | .armed _ _ :: events => reportedStates events
  | .disarmed :: events => reportedStates events

/-- Counters that count what was observed. -/
structure Counts (stats : RuntimeMonitorStats) (states : List MonitorState) : Prop where
  observations : stats.observations = states.length.toUInt64
  onPlan : stats.onPlan = (states.count .onCertifiedPlan).toUInt64
  certifiedDeviations :
    stats.certifiedDeviations = (states.count .certifiedDeviation).toUInt64
  uncertifiedStates :
    stats.uncertifiedStates = (states.count .uncertifiedState).toUInt64

/-- A polyline that the auditor certifies for an atlas. -/
def CertifiedPlan (atlas : SafeAtlas α) (trajectory : List (List α)) : Prop :=
  ∃ report, audit atlas trajectory {} = .ok report ∧ report.status = .certified

/-- A monitor whose fields are what its events say. -/
structure Followed (initial : RuntimeShieldMonitor α)
    (events : List (MonitorEvent α)) (monitor : RuntimeShieldMonitor α) : Prop where
  same : monitor.atlas = initial.atlas ∧ monitor.queryIndex = initial.queryIndex
    ∧ monitor.options = initial.options
  active : monitor.active = armedBy events
  plan : ∀ decision, monitor.active = some decision →
    ∃ atlas, initial.atlas = some atlas ∧ CertifiedPlan atlas decision.outputTrajectory
  last : monitor.lastTimestamp = (timesSince events).head?
  finite : ∀ timestamp ∈ timesSince events, Scalar.isFinite timestamp = true
  increasing : (timesSince events).Pairwise fun later earlier =>
    Scalar.lt earlier later = true
  counts : Counts monitor.stats (reportedStates events)

/-- A monitor that was just made. -/
def Fresh (monitor : RuntimeShieldMonitor α) : Prop :=
  monitor.active = none ∧ monitor.lastTimestamp = none ∧ monitor.stats = {}

theorem Fresh.followed {initial : RuntimeShieldMonitor α} (h : Fresh initial) :
    Followed initial [] initial where
  same := ⟨rfl, rfl, rfl⟩
  active := h.1
  plan := by
    intro decision hdecision
    rw [h.1] at hdecision
    cases hdecision
  last := h.2.1
  finite := by
    intro timestamp hmem
    cases hmem
  increasing := .nil
  counts := by
    rw [h.2.2]
    exact ⟨rfl, rfl, rfl, rfl⟩

/-- One more observation is counted. -/
theorem Counts.count {stats : RuntimeMonitorStats} {states : List MonitorState}
    (h : Counts stats states) (state : MonitorState) :
    Counts (stats.count state) (state :: states) := by
  have hsucc : ∀ n : Nat, (n + 1).toUInt64 = n.toUInt64 + 1 := by
    intro n
    rw [Nat.toUInt64_eq, Nat.toUInt64_eq, UInt64.ofNat_add]
    rfl
  have hobservations : stats.observations + 1 = (state :: states).length.toUInt64 := by
    rw [List.length_cons, hsucc, h.observations]
  cases state with
  | inactive => exact ⟨hobservations, h.onPlan, h.certifiedDeviations, h.uncertifiedStates⟩
  | onCertifiedPlan =>
      refine ⟨hobservations, ?_, h.certifiedDeviations, h.uncertifiedStates⟩
      rw [List.count_cons_self, hsucc, ← h.onPlan]
      rfl
  | certifiedDeviation =>
      refine ⟨hobservations, h.onPlan, ?_, h.uncertifiedStates⟩
      rw [List.count_cons_self, hsucc, ← h.certifiedDeviations]
      rfl
  | uncertifiedState =>
      refine ⟨hobservations, h.onPlan, h.certifiedDeviations, ?_⟩
      rw [List.count_cons_self, hsucc, ← h.uncertifiedStates]
      rfl

theorem checkArm_ok {P : Platform} {monitor : RuntimeShieldMonitor α}
    {decision : ShieldDecision α} (h : checkArm P monitor decision = .ok ()) :
    ∃ atlas, monitor.atlas = some atlas ∧ CertifiedPlan atlas decision.outputTrajectory := by
  unfold checkArm at h
  cases hatlas : monitor.atlas with
  | none =>
      rw [hatlas] at h
      cases h
  | some atlas =>
      rw [hatlas] at h
      obtain ⟨-, h⟩ := ite_failure_eq_ok.mp h
      obtain ⟨-, h⟩ := ite_failure_eq_ok.mp h
      obtain ⟨report, hreport, h⟩ := bind_eq_ok.mp h
      exact ⟨atlas, rfl, report, hreport, not_not.mp (ite_failure_eq_ok.mp h).1⟩

theorem checkObservation_ok {monitor : RuntimeShieldMonitor α}
    {configuration : List α} {timestamp : α} {atlas : SafeAtlas α}
    (h : checkObservation monitor configuration timestamp = .ok atlas) :
    monitor.atlas = some atlas ∧ Scalar.isFinite timestamp = true
      ∧ ∀ last, monitor.lastTimestamp = some last → Scalar.le timestamp last = false := by
  unfold checkObservation at h
  cases hatlas : monitor.atlas with
  | none =>
      rw [hatlas] at h
      cases h
  | some held =>
      rw [hatlas] at h
      obtain ⟨-, h⟩ := check_eq_ok.mp h
      obtain ⟨htime, h⟩ := ite_failure_eq_ok.mp h
      cases h
      simp only [not_or, Bool.not_eq_false, Bool.not_eq_true] at htime
      refine ⟨rfl, htime.1, ?_⟩
      intro last hlast
      rw [hlast] at htime
      exact htime.2

variable {P : Platform} {initial monitor : RuntimeShieldMonitor α}
  {events : List (MonitorEvent α)}

theorem Followed.arm (h : Followed initial events monitor)
    (decision : ShieldDecision α) :
    Followed initial (.armed decision (monitor.arm P decision).1 :: events)
      (monitor.arm P decision).2 := by
  unfold RuntimeShieldMonitor.arm
  cases hcheck : checkArm P monitor decision with
  | error e => exact ⟨h.same, h.active, h.plan, h.last, h.finite, h.increasing, h.counts⟩
  | ok value =>
      obtain ⟨atlas, hatlas, hplan⟩ := checkArm_ok hcheck
      refine ⟨h.same, rfl, ?_, rfl, ?_, .nil, h.counts⟩
      · intro held hheld
        cases hheld
        exact ⟨atlas, h.same.1 ▸ hatlas, hplan⟩
      · intro timestamp hmem
        cases hmem

theorem Followed.disarm (h : Followed initial events monitor) :
    Followed initial (.disarmed :: events) monitor.disarm := by
  refine ⟨h.same, rfl, ?_, rfl, ?_, .nil, h.counts⟩
  · intro held hheld
    cases hheld
  · intro timestamp hmem
    cases hmem

variable [LawfulScalar α]

theorem Followed.observe (h : Followed initial events monitor)
    (configuration : List α) (timestamp : α) :
    Followed initial
      (.observed configuration timestamp (monitor.observe configuration timestamp).1
        :: events)
      (monitor.observe configuration timestamp).2 := by
  unfold RuntimeShieldMonitor.observe
  cases hcheck : checkObservation monitor configuration timestamp with
  | error e => exact ⟨h.same, h.active, h.plan, h.last, h.finite, h.increasing, h.counts⟩
  | ok atlas =>
      obtain ⟨-, hfinite, hlater⟩ := checkObservation_ok hcheck
      refine ⟨h.same, h.active, h.plan, rfl, ?_, ?_, h.counts.count _⟩
      · exact List.forall_mem_cons.mpr ⟨hfinite, h.finite⟩
      · refine List.pairwise_cons.mpr ⟨?_, h.increasing⟩
        -- the last time is the greatest
        have hlast := h.last
        have hincreasing := h.increasing
        have hall := h.finite
        intro earlier hearlier
        cases htimes : timesSince events with
        | nil =>
            rw [htimes] at hearlier
            cases hearlier
        | cons last rest =>
            rw [htimes] at hearlier hlast hincreasing hall
            have hlastFinite := hall last List.mem_cons_self
            have hlt : Scalar.lt last timestamp = true :=
              (LawfulScalar.lt_iff hlastFinite hfinite).mpr (hlater last hlast)
            rcases List.mem_cons.mp hearlier with rfl | hrest
            · exact hlt
            · exact LawfulScalar.lt_of_lt_of_le (hall earlier hearlier) hlastFinite hfinite
                (List.rel_of_pairwise_cons hincreasing hrest) (LawfulScalar.le_of_lt hlt)

/-- **The fields of a monitor follow its events**, after any calls. -/
theorem Reached.followed (hfresh : Fresh initial) (h : Reached P initial events monitor) :
    Followed initial events monitor := by
  induction h with
  | start => exact hfresh.followed
  | call h call ih =>
      cases call with
      | arm decision => exact ih.arm decision
      | disarm => exact ih.disarm
      | observe configuration timestamp => exact ih.observe configuration timestamp

/-- A state that is on the plan the events tell of. -/
def OnPlan (initial : RuntimeShieldMonitor α) (events : List (MonitorEvent α))
    (configuration : List α) : Prop :=
  ∃ atlas decision, initial.atlas = some atlas ∧ armedBy events = some decision
    ∧ CertifiedPlan atlas decision.outputTrajectory
    ∧ (∃ region ∈ atlas.regions,
      region.bounds.contains configuration Scalar.tolerance = true)
    ∧ ∃ segment ∈ segments decision.outputTrajectory,
      Scalar.le (MetricScalar.sqrt
        (distanceToSegmentSquared configuration segment.1 segment.2))
        initial.options.trackingTolerance = true

omit [LawfulScalar α] in
theorem Followed.onPlan (h : Followed initial events monitor) {configuration : List α}
    {timestamp : α} {observation : MonitorObservation α}
    (hanswer : (monitor.observe configuration timestamp).1 = .ok observation)
    (hstate : observation.state = .onCertifiedPlan) :
    OnPlan initial events configuration := by
  unfold RuntimeShieldMonitor.observe at hanswer
  cases hcheck : checkObservation monitor configuration timestamp with
  | error e =>
      rw [hcheck] at hanswer
      cases hanswer
  | ok atlas =>
      rw [hcheck] at hanswer
      have hatlas := (checkObservation_ok hcheck).1
      rw [← Except.ok.inj hanswer] at hstate
      unfold RuntimeShieldMonitor.observation at hstate
      cases hactive : monitor.active with
      | none =>
          rw [hactive] at hstate
          cases hstate
      | some decision =>
          rw [hactive] at hstate
          dsimp only at hstate
          split at hstate
          · cases hstate
          rename_i hcontains
          split at hstate
          · rename_i hnear
            obtain ⟨held, hheld, hplan⟩ := h.plan decision hactive
            have hsame : held = atlas :=
              Option.some.inj (hheld.symm.trans (h.same.1.symm.trans hatlas))
            subst hsame
            unfold distanceToTrajectory at hnear
            cases hleast : leastDistanceSquared configuration
                (segments decision.outputTrajectory) none with
            | none =>
                rw [hleast] at hnear
                cases hnear
            | some least =>
              rw [hleast] at hnear
              rcases leastDistanceSquared_cases hleast with hnone | ⟨segment, hmem, rfl⟩
              · cases hnone
              refine ⟨held, decision, hheld, h.active ▸ hactive, hplan,
                region_of_contains (by simpa using hcontains), segment, hmem, ?_⟩
              rw [← h.same.2.2]
              exact hnear
          · cases hstate

/-- Whenever a state was reported on the plan, it was. -/
theorem Reached.onPlan (hfresh : Fresh initial) (h : Reached P initial events monitor)
    {later earlier : List (MonitorEvent α)} {configuration : List α} {timestamp : α}
    {observation : MonitorObservation α}
    (hevents : events
      = later ++ .observed configuration timestamp (.ok observation) :: earlier)
    (hstate : observation.state = .onCertifiedPlan) :
    OnPlan initial earlier configuration := by
  induction h generalizing later with
  | start =>
      rw [eq_comm, List.append_eq_nil_iff] at hevents
      cases hevents.2
  | call h call ih =>
      cases later with
      | cons event later =>
          rw [List.cons_append, List.cons.injEq] at hevents
          exact ih hevents.2
      | nil =>
          rw [List.nil_append, List.cons.injEq] at hevents
          obtain ⟨hevent, rfl⟩ := hevents
          cases call with
          | arm decision => cases hevent
          | disarm => cases hevent
          | observe observed time =>
              unfold MonitorCall.run at hevent
              dsimp only at hevent
              rw [MonitorEvent.observed.injEq] at hevent
              obtain ⟨rfl, rfl, hanswer⟩ := hevent
              exact (h.followed hfresh).onPlan hanswer hstate

omit [LawfulScalar α] in
/-- Every state that is observed is counted once. -/
theorem Counts.total {stats : RuntimeMonitorStats} {states : List MonitorState}
    (h : Counts stats states) : stats.observations = (states.count .inactive).toUInt64
      + stats.onPlan + stats.certifiedDeviations + stats.uncertifiedStates := by
  have hlength : states.length = states.count .inactive + states.count .onCertifiedPlan
      + states.count .certifiedDeviation + states.count .uncertifiedState := by
    clear h
    induction states with
    | nil => rfl
    | cons state rest ih =>
        rw [List.length_cons, ih]
        cases state <;> simp <;> omega
  rw [h.observations, h.onPlan, h.certifiedDeviations, h.uncertifiedStates, hlength]
  simp only [Nat.toUInt64_eq, UInt64.ofNat_add]

end

section
variable {α : Type} [InverseScalar α] [NumberScalar α] {P : Platform}

/-- A decision of the shield, not a rejection, is armed where it fits. -/
theorem arm_of_checkAction {situation : RuntimeShield.Situation α}
    {robot : SerialRobotModel α} {scene : SceneSnapshot α} {action : ShieldAction α}
    {decision : ShieldDecision α} {monitor : RuntimeShieldMonitor α}
    (h : Returns (RuntimeShield.checkAction P situation robot scene action) decision)
    (hreject : decision.outcome ≠ .reject)
    (hatlas : monitor.atlas = some situation.atlas)
    (hfinite : Scalar.isFinite monitor.options.trackingTolerance = true)
    (hpositive : Scalar.lt monitor.options.trackingTolerance Scalar.zero = false)
    (hfits : decision.outputTrajectory.length ≤ monitor.options.maximumPlanWaypoints)
    (hbudget : situation.atlas.regions.length
        * (segments decision.outputTrajectory).length
      ≤ ({} : TrajectoryAuditOptions).maximumRegionTests) :
    (monitor.arm P decision).1 = .ok () := by
  obtain ⟨hreported, hdigest, hid⟩ := reported_checkAction h
  rcases hreported.answer with ⟨houtcome, -⟩ | ⟨-, hevidence, hcertified, hconnects⟩
  · exact absurd houtcome hreject
  obtain ⟨options, report, hsome, hstatus, haudit⟩ := hcertified
  obtain ⟨certificate, hcertificate, hlevel, hrobot, hscene⟩ := hconnects
  have hlength := two_le_of_audit haudit
  have hagain : audit situation.atlas decision.outputTrajectory {} = .ok report :=
    audit_of_ok (fun _ _ => rfl) haudit (by decide) hbudget
  have haction : decision.actionDigest.length = 64 := by
    have hvalid : validSha256 (shieldActionDigest P action) = true :=
      P.validSha256_digest _
    unfold validSha256 at hvalid
    rw [Bool.and_eq_true, beq_iff_eq] at hvalid
    rw [hdigest]
    exact hvalid.1
  have hcompatible : compatible P monitor.options situation.atlas decision = true := by
    unfold compatible
    simp only [hreject, hlength, hfits, hsome, hstatus, hcertificate, hlevel, hrobot, hscene,
      hevidence, haction, ← hid, hreported.digests, Option.any_some, decide_true,
      Bool.and_self, ne_eq, not_false_eq_true, and_self]
  have hcheck : checkArm P monitor decision = .ok () := by
    unfold checkArm
    rw [hatlas]
    dsimp only
    rw [ite_failure_eq_ok, ite_failure_eq_ok, bind_eq_ok]
    refine ⟨?_, by simp [hcompatible], report, hagain, ?_⟩
    · simp only [hfinite, hpositive, Bool.true_eq_false, Bool.false_eq_true, false_or]
      omega
    · rw [ite_failure_eq_ok]
      exact ⟨not_not.mpr hstatus, rfl⟩
  unfold RuntimeShieldMonitor.arm
  rw [hcheck]

end

-- === a monitor

section
attribute [local instance] sampleInverse

/-- A monitor of the robot in its atlas. -/
def gateMonitor (P : Platform) : RuntimeShieldMonitor Float where
  atlas := some (gateAtlas P)
  queryIndex := none
  options := { trackingTolerance := Scalar.tolerance }

end

end RuntimeShieldMonitor

end RbfSafe.Atlas
