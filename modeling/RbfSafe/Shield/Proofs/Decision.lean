/-
What a decision of the shield is made of.

The shield answers in many places, and in two ways: it rejects, with a
target it was asked for, or it certifies a polyline that its last audit has
gone over, waypoint by waypoint. So whatever the action, the request and the
last waypoint are configurations of the atlas, the distance of a repair is
finite, since it was compared with a limit, and the evidence says whether a
polyline was certified.

A solution of the solver is a projection to the box of its region, however
many steps led to it, so it lies in the box where its values are numbers.

The distances are sums of squares of what may overflow: `NumberScalar` has
what is needed of them.
-/
import RbfSafe.Core.Kinematics
import RbfSafe.Core.Host
import RbfSafe.Core.Numbers
import RbfSafe.Shield.Policy

namespace RbfSafe.Atlas

-- === answers

section
variable {β γ : Type} {x : ExceptT Error Option β}

/-- A computation that may lack an answer has this one. -/
def Returns (x : ExceptT Error Option β) (b : β) : Prop := x.run = some (.ok b)

theorem returns_pure {a b : β} :
    Returns (pure a : ExceptT Error Option β) b ↔ a = b := by
  unfold Returns
  simp

theorem not_returns_throw {e : Error} {b : β} :
    ¬Returns (throw e : ExceptT Error Option β) b := by
  unfold Returns
  simp

theorem returns_bind {f : β → ExceptT Error Option γ} {c : γ} :
    Returns (x >>= f) c ↔ ∃ b, Returns x b ∧ Returns (f b) c := by
  unfold Returns
  rw [ExceptT.run_bind]
  cases hrun : x.run with
  | none => simp
  | some result =>
      cases result with
      | error e => simp
      | ok b => simp

theorem returns_lift {r : Result β} {b : β} :
    Returns (liftM r : ExceptT Error Option β) b ↔ r = .ok b := by
  show some r = some (Except.ok b) ↔ r = .ok b
  rw [Option.some.injEq]

theorem returns_mk {o : Option (Result β)} {b : β} :
    Returns (ExceptT.mk o) b ↔ o = some (.ok b) :=
  Iff.rfl

theorem returns_ite {c : Prop} [Decidable c] {y : ExceptT Error Option β} {b : β} :
    Returns (if c then x else y) b ↔ c ∧ Returns x b ∨ ¬c ∧ Returns y b := by
  by_cases h : c
  · simp [h]
  · simp [h]

end

-- === configurations

section
variable {α : Type} [Scalar α]

/-- A configuration that the atlas may be asked about. -/
def Configuration (dimension : Nat) (configuration : List α) : Prop :=
  configuration.length = dimension ∧ configuration.all Scalar.isFinite = true

theorem validateConfiguration_ok {configuration : List α} {dimension : Nat}
    {context : Bytes} :
    validateConfiguration configuration dimension context = .ok ()
      ↔ Configuration dimension configuration := by
  unfold validateConfiguration Configuration
  rw [ite_failure_eq_ok, ite_failure_eq_ok]
  simp

theorem nonNegativeNumber_iff {value : α} : nonNegativeNumber value = true
    ↔ Scalar.isFinite value = true ∧ Scalar.lt value Scalar.zero = false := by
  unfold nonNegativeNumber
  simp

/-- A loop that checks configurations, each with a context of its own. -/
theorem configuration_of_loop {dimension : Nat} {context : Nat → Bytes}
    {check : Nat → List (List α) → Result Unit}
    (hcons : ∀ index waypoint rest, check index (waypoint :: rest)
      = (validateConfiguration waypoint dimension (context index)
        >>= fun _ => check (index + 1) rest)) :
    ∀ {waypoints : List (List α)} {index : Nat}, check index waypoints = .ok () →
      ∀ waypoint ∈ waypoints, Configuration dimension waypoint := by
  intro waypoints
  induction waypoints with
  | nil =>
      intro index _ waypoint hmem
      cases hmem
  | cons first rest ih =>
      intro index h waypoint hmem
      rw [hcons] at h
      obtain ⟨hfirst, hrest⟩ := check_eq_ok.mp h
      rcases List.mem_cons.mp hmem with rfl | hmem
      · exact validateConfiguration_ok.mp hfirst
      · exact ih hrest waypoint hmem

/-- What is asked for, or nothing. -/
def Requested (dimension : Nat) (target : List α) : Prop :=
  target = [] ∨ Configuration dimension target

theorem Requested.finite {dimension : Nat} {target : List α}
    (h : Requested dimension target) : target.all Scalar.isFinite = true := by
  rcases h with rfl | h
  · rfl
  · exact h.2

theorem Requested.length_le {dimension : Nat} {target : List α}
    (h : Requested dimension target) : target.length ≤ dimension := by
  rcases h with rfl | h
  · exact Nat.zero_le _
  · exact Nat.le_of_eq h.1

/-- The last of some configurations. -/
theorem requested_getLastD {dimension : Nat} {waypoints : List (List α)}
    (h : ∀ waypoint ∈ waypoints, Configuration dimension waypoint) :
    Requested dimension (waypoints.getLastD []) := by
  cases waypoints with
  | nil => exact .inl rfl
  | cons first rest =>
      apply Or.inr
      apply h
      rw [List.getLastD_cons]
      exact List.getLastD_mem_cons

/-- An audit goes over every waypoint. -/
theorem requested_of_audit {atlas : SafeAtlas α} {trajectory : List (List α)}
    {options : TrajectoryAuditOptions} {report : TrajectoryAuditReport α}
    (h : TrajectoryAuditor.audit atlas trajectory options = .ok report) :
    Requested atlas.dimension (trajectory.getLastD []) := by
  unfold TrajectoryAuditor.audit at h
  obtain ⟨-, h⟩ := ite_failure_eq_ok.mp h
  obtain ⟨-, h⟩ := ite_failure_eq_ok.mp h
  obtain ⟨-, h⟩ := check_eq_ok.mp h
  obtain ⟨hwaypoints, -⟩ := check_eq_ok.mp h
  exact requested_getLastD (configuration_of_loop (fun _ _ _ => rfl) hwaypoints)

end

-- === distances

section
variable {α : Type} [MetricScalar α] [NumberScalar α]

theorem nonNegativeNumber_zero : nonNegativeNumber (Scalar.zero : α) = true :=
  nonNegativeNumber_iff.mpr ⟨NumberScalar.zero_finite,
    NumberScalar.not_negative (LawfulScalar.le_refl NumberScalar.zero_finite)⟩

/-- What no limit was exceeded by. -/
theorem nonNegativeNumber_of_bounded {value bound : α}
    (hbound : Scalar.isFinite bound = true)
    (h : Scalar.le Scalar.zero value = true)
    (hlt : Scalar.lt bound value = false) : nonNegativeNumber value = true :=
  nonNegativeNumber_iff.mpr ⟨NumberScalar.finite_of_bounded hbound h hlt,
    NumberScalar.not_negative h⟩

/-- A sum of squares of differences, whether it overflows or not. -/
theorem zero_le_squaredDistance {first second : List α}
    (hfirst : ∀ a ∈ first, Scalar.isFinite a = true)
    (hsecond : ∀ b ∈ second, Scalar.le b b = true) :
    Scalar.le Scalar.zero (squaredDistance first second) = true := by
  have hloop : ∀ (pairs : List (α × α)) (sum : α),
      Scalar.le Scalar.zero sum = true →
      (∀ p ∈ pairs, Scalar.isFinite p.1 = true ∧ Scalar.le p.2 p.2 = true) →
      Scalar.le Scalar.zero (pairs.foldl (fun squared ends =>
        let difference := Scalar.sub ends.1 ends.2
        Scalar.add squared (Scalar.mul difference difference)) sum) = true := by
    intro pairs
    induction pairs with
    | nil => exact fun sum hsum _ => hsum
    | cons pair rest ih =>
        intro sum hsum hpairs
        obtain ⟨hfinite, hnumber⟩ := hpairs pair List.mem_cons_self
        apply ih
        · apply NumberScalar.add_nonneg hsum
          apply NumberScalar.square_nonneg
          exact NumberScalar.sub_number hfinite hnumber
        · exact fun p hp => hpairs p (List.mem_cons_of_mem _ hp)
  apply hloop
  · exact LawfulScalar.le_refl NumberScalar.zero_finite
  · intro p hp
    have hmem := List.of_mem_zip (show (p.1, p.2) ∈ first.zip second from hp)
    exact ⟨hfirst _ hmem.1, hsecond _ hmem.2⟩

/-- The distance of a configuration from what it is moved to. -/
theorem zero_le_projection {target : List α} {box : CspaceAabb α}
    (h : target.all Scalar.isFinite = true) :
    Scalar.le Scalar.zero (MetricScalar.sqrt
      (squaredDistance target (projectToBox target box))) = true := by
  have hfinite := List.all_eq_true.mp h
  apply NumberScalar.sqrt_nonneg
  apply zero_le_squaredDistance hfinite
  intro b hb
  obtain ⟨p, hp, rfl⟩ := List.mem_map.mp hb
  have hmem := List.of_mem_zip (show (p.1, p.2) ∈ target.zip box.axes from hp)
  exact NumberScalar.clamp_number (LawfulScalar.le_refl (hfinite _ hmem.1))

end

-- === routes

section
variable {α : Type} [InverseScalar α] {P : Platform}

/-- A route is looked for between configurations. -/
theorem configuration_of_route {atlas : SafeAtlas α} {first second : List α}
    {found : Option (AtlasRoute α)}
    (h : atlas.route P first second = some (.ok found)) :
    Configuration atlas.dimension second := by
  unfold SafeAtlas.route at h
  split at h
  · cases h
  · rename_i hchecked
    obtain ⟨-, hchecked⟩ := check_eq_ok.mp hchecked
    obtain ⟨hsecond, -⟩ := check_eq_ok.mp hchecked
    exact validateConfiguration_ok.mp hsecond

end

-- === solutions

namespace SafeIkSolver

section
variable {α : Type} [InverseScalar α] {attempt : Attempt α}

/-- A configuration as the solver makes them. -/
def Projected (region : CspaceAabb α) (configuration : List α) : Prop :=
  ∃ origin, configuration = projectToBox origin region

theorem projected_lineSearch {configuration step candidate : List α}
    {objective : α} {after : SafeIkStats} :
    ∀ {halvings : List Nat} {stats : SafeIkStats},
      lineSearch attempt configuration step objective halvings stats
        = .ok (some candidate, after) → Projected attempt.region candidate := by
  intro halvings
  induction halvings with
  | nil =>
      intro stats h
      cases h
  | cons first rest ih =>
      intro stats h
      unfold lineSearch at h
      dsimp only at h
      split at h
      · exact ih h
      · obtain ⟨pose, -, h⟩ := bind_eq_ok.mp h
        split at h
        · cases h
          exact ⟨_, rfl⟩
        · exact ih h

theorem projected_advance {configuration candidate : List α} {pose : Pose3d α}
    {current : PoseResidual α} {stats after : SafeIkStats}
    (h : advance attempt configuration pose current stats
      = .ok (some candidate, after)) : Projected attempt.region candidate := by
  unfold advance at h
  obtain ⟨jacobian, -, h⟩ := bind_eq_ok.mp h
  dsimp only at h
  split at h
  · cases h
  · split at h
    · cases h
    · exact projected_lineSearch h

/-- The pose of a configuration is the target, within the tolerances. -/
structure Reaches (robot : SerialRobotModel α) (target : Pose3d α)
    (options : SafeIkOptions α) (configuration : List α)
    (positionError orientationError : α) : Prop where
  pose : ∃ pose, robot.endEffectorPose configuration = .ok pose
    ∧ positionError = (residual pose target).positionNorm
    ∧ orientationError = (residual pose target).orientationNorm
  position : Scalar.le positionError options.positionTolerance = true
  orientation : Scalar.le orientationError options.orientationTolerance = true

/-- The loop goes from projection to projection. -/
theorem solved_iterate {result : IterationResult α × SafeIkStats} :
    ∀ {fuel iteration : Nat} {configuration : List α} {stats : SafeIkStats},
      Projected attempt.region configuration →
      iterate attempt fuel iteration configuration stats = .ok result →
      result.1.converged = true →
      Projected attempt.region result.1.configuration
        ∧ Reaches attempt.robot attempt.target attempt.options
          result.1.configuration result.1.residual.positionNorm
          result.1.residual.orientationNorm := by
  intro fuel
  induction fuel with
  | zero =>
      intro iteration configuration stats _ h
      cases h
  | succ fuel ih =>
      intro iteration configuration stats hprojected h hconverged
      unfold iterate at h
      split at h
      · cases h
      obtain ⟨pose, hpose, h⟩ := bind_eq_ok.mp h
      dsimp only at h
      split at h
      · rename_i hwithin
        cases h
        rw [Bool.and_eq_true] at hwithin
        exact ⟨hprojected, ⟨pose, hpose, rfl, rfl⟩, hwithin.1, hwithin.2⟩
      split at h
      · cases h
        cases hconverged
      obtain ⟨⟨next, after⟩, hnext, h⟩ := bind_eq_ok.mp h
      cases next with
      | none =>
          cases h
          cases hconverged
      | some candidate => exact ih (projected_advance hnext) h hconverged

end

section
variable {α : Type} [InverseScalar α] {P : Platform} {problem : Problem α}
  {report : SafeIkReport α}

/-- A report of a solution inside a region of the atlas. -/
structure SolvedIn (P : Platform) (problem : Problem α) (region : SafeRegion α)
    (report : SafeIkReport α) : Prop where
  member : region ∈ problem.atlas.regions ∧ report.regionId = region.id
  certificate : ∃ certificate, report.regionCertificate = some certificate
    ∧ regionCertificate problem.atlas region = .ok certificate
  projected : Projected region.bounds report.solution
  reaches : Reaches problem.robot problem.target problem.options report.solution
    report.positionError report.orientationError
  route : problem.atlas.route P problem.current report.solution
    = some (.ok report.connectivityRoute)
  status : report.status = if report.connectivityRoute.isSome then .safeConnected
    else .safeUnconnected

theorem solvedIn_tryAttempts :
    ∀ {attempts : List (SafeRegion α × List α)} {stats : SafeIkStats}
      {disconnected : Option (SafeIkReport α)},
      (∀ attempt ∈ attempts, attempt.1 ∈ problem.atlas.regions) →
      (∀ earlier ∈ disconnected, ∃ region, SolvedIn P problem region earlier) →
      Returns (tryAttempts P problem attempts stats disconnected) report →
      (∃ stats, report = { status := .noSolution, stats })
        ∨ ∃ region, SolvedIn P problem region report := by
  have hfinish : ∀ {stats : SafeIkStats} {disconnected : Option (SafeIkReport α)},
      (∀ earlier ∈ disconnected, ∃ region, SolvedIn P problem region earlier) →
      Returns (pure (finish stats disconnected)) report →
      (∃ stats, report = { status := .noSolution, stats })
        ∨ ∃ region, SolvedIn P problem region report := by
    intro stats disconnected hearlier h
    rw [← returns_pure.mp h]
    cases disconnected with
    | none => exact .inl ⟨stats, rfl⟩
    | some earlier =>
        obtain ⟨region, hsolved⟩ := hearlier earlier rfl
        exact .inr ⟨region, hsolved.member, hsolved.certificate, hsolved.projected,
          hsolved.reaches, hsolved.route, hsolved.status⟩
  intro attempts
  induction attempts with
  | nil =>
      intro stats disconnected _ hearlier h
      exact hfinish hearlier h
  | cons attempt rest ih =>
      intro stats disconnected hregions hearlier h
      obtain ⟨hregion, hrest⟩ := List.forall_mem_cons.mp hregions
      unfold tryAttempts at h
      rcases returns_ite.mp h with ⟨-, h⟩ | ⟨-, h⟩
      · exact hfinish hearlier h
      obtain ⟨⟨solved, stats⟩, hsolved, h⟩ := returns_bind.mp h
      rcases returns_ite.mp h with ⟨-, h⟩ | ⟨hconverged, h⟩
      · exact ih hrest hearlier h
      obtain ⟨hprojected, hreaches⟩ := solved_iterate ⟨_, rfl⟩
        (returns_lift.mp hsolved) (Bool.not_eq_false _ ▸ hconverged)
      obtain ⟨certificate, hcertificate, h⟩ := returns_bind.mp h
      obtain ⟨route, hroute, h⟩ := returns_bind.mp h
      have hcandidate : ∀ stats, SolvedIn P problem attempt.1
          { solution attempt.1 certificate solved with
            status := if route.isSome then .safeConnected else .safeUnconnected
            connectivityRoute := route
            stats := stats } := fun stats =>
        ⟨⟨hregion, rfl⟩, ⟨certificate, rfl, returns_lift.mp hcertificate⟩, hprojected,
          hreaches, returns_mk.mp hroute, rfl⟩
      cases route with
      | some route =>
          rw [← returns_pure.mp h]
          exact .inr ⟨_, hcandidate _⟩
      | none =>
          rcases returns_ite.mp h with ⟨-, h⟩ | ⟨-, h⟩
          · rw [← returns_pure.mp h]
            exact .inr ⟨_, hcandidate _⟩
          · apply ih hrest _ h
            intro earlier hmem
            cases disconnected with
            | none =>
                cases hmem
                exact ⟨_, hcandidate _⟩
            | some first =>
                cases hmem
                exact hearlier _ rfl

theorem solvedIn_solve {scene : SceneSnapshot α}
    {queryIndex : Option (RegionQueryIndex α)}
    (h : Returns (solve P problem.robot scene problem.atlas queryIndex problem.target
      problem.current problem.options problem.cancelled) report) :
    (report = { status := .seedNotCertified }
        ∧ problem.options.requireConnectivity = true
        ∧ problem.atlas.contains queryIndex problem.current = false)
      ∨ (∃ stats, report = { status := .noSolution, stats })
      ∨ ∃ region, SolvedIn P problem region report := by
  unfold solve at h
  obtain ⟨-, -, h⟩ := returns_bind.mp h
  rcases returns_ite.mp h with ⟨-, h⟩ | ⟨-, h⟩
  · exact .inr (.inl ⟨{}, (returns_pure.mp h).symm⟩)
  rcases returns_ite.mp h with ⟨hseed, h⟩ | ⟨-, h⟩
  · rw [Bool.and_eq_true, Bool.not_eq_true'] at hseed
    exact .inl ⟨(returns_pure.mp h).symm, hseed⟩
  · refine .inr (solvedIn_tryAttempts ?_ (fun _ hmem => by cases hmem) h)
    intro attempt hmem
    obtain ⟨region, hregion, hmem⟩ := List.mem_flatMap.mp hmem
    obtain ⟨seed, -, rfl⟩ := List.mem_map.mp hmem
    exact List.mem_mergeSort.mp hregion

end

end SafeIkSolver

section
variable {α : Type} [InverseScalar α] {P : Platform}

theorem requested_of_solve {robot : SerialRobotModel α} {scene : SceneSnapshot α}
    {atlas : SafeAtlas α} {queryIndex : Option (RegionQueryIndex α)}
    {target : Pose3d α} {current : List α} {options : SafeIkOptions α}
    {cancelled : Nat → Nat → Bool} {report : SafeIkReport α}
    (h : Returns (SafeIkSolver.solve P robot scene atlas queryIndex target current
      options cancelled) report) : Requested atlas.dimension report.solution := by
  rcases @SafeIkSolver.solvedIn_solve α _ P
      { robot, atlas, target, current, options, cancelled } report scene queryIndex h with
    ⟨rfl, -⟩ | ⟨stats, rfl⟩ | ⟨region, hsolved⟩
  · exact .inl rfl
  · exact .inl rfl
  · exact .inr (configuration_of_route hsolved.route)

end

-- === decisions

section
variable {α : Type} [InverseScalar α] [NumberScalar α] {P : Platform}

/-- A certificate that the ends of a route are connected. -/
def Connects (atlas : SafeAtlas α) (certificate : Certificate α) : Prop :=
  certificate.level = .certifiedConnectivity
    ∧ certificate.robotDigest = atlas.robotDigest
    ∧ certificate.sceneDigest = atlas.sceneDigest

/-- What is known of an answer of the shield. -/
structure Reported (atlas : SafeAtlas α) (decision : ShieldDecision α) : Prop where
  requested : Requested atlas.dimension decision.requestedTarget
  output : Requested atlas.dimension (decision.outputTrajectory.getLastD [])
  distance : nonNegativeNumber decision.repairDistance = true
  digests : decision.robotDigest = atlas.robotDigest
    ∧ decision.sceneDigest = atlas.sceneDigest
  answer : decision.outcome = .reject ∧ decision.evidence = .unknown
    ∨ decision.outcome ≠ .reject ∧ decision.evidence = .certifiedConnectivity
      ∧ (∃ options audit, decision.audit = some audit ∧ audit.status = .certified
        ∧ TrajectoryAuditor.audit atlas decision.outputTrajectory options = .ok audit)
      ∧ ∃ certificate, decision.connectivityCertificate = some certificate
        ∧ Connects atlas certificate

omit [NumberScalar α] in
theorem Reported.evidence {atlas : SafeAtlas α} {decision : ShieldDecision α}
    (h : Reported atlas decision) : decision.evidence
      = if decision.outcome = .reject then .unknown else .certifiedConnectivity := by
  rcases h.answer with ⟨houtcome, hevidence⟩ | ⟨houtcome, hevidence, -⟩
  · rw [if_pos houtcome, hevidence]
  · rw [if_neg houtcome, hevidence]

omit [NumberScalar α] in
/-- The certificate of a route. -/
theorem connects_of_route {atlas : SafeAtlas α} {first second : List α}
    {route : AtlasRoute α} (h : atlas.route P first second = some (.ok (some route))) :
    Connects atlas route.certificate := by
  unfold SafeAtlas.route at h
  split at h
  · cases h
  dsimp only at h
  split at h
  · cases h
  split at h
  · cases h
  split at h
  · cases h
  · obtain ⟨indices, -, hthrough⟩ := Option.map_eq_some_iff.mp h
    obtain ⟨through, hthrough, hroute⟩ := bind_eq_ok.mp hthrough
    cases hroute
    unfold SafeAtlas.routeThrough at hthrough
    obtain ⟨witnesses, -, hthrough⟩ := bind_eq_ok.mp hthrough
    obtain ⟨totals, -, hthrough⟩ := bind_eq_ok.mp hthrough
    obtain ⟨certificate, hcertificate, hthrough⟩ := bind_eq_ok.mp hthrough
    obtain ⟨-, hcertificate⟩ := ite_failure_eq_ok.mp hcertificate
    cases hthrough
    cases hcertificate
    exact ⟨rfl, rfl, rfl⟩

namespace RuntimeShield

variable {situation : Situation α} {decision : ShieldDecision α}

theorem reported_rejected {type : ShieldActionType} {reason : ShieldReason}
    {target : List α} (htarget : Requested situation.atlas.dimension target)
    (h : Returns (rejected P situation type reason target) decision) :
    Reported situation.atlas decision := by
  rw [← returns_pure.mp h]
  exact ⟨htarget, .inl rfl, nonNegativeNumber_zero, ⟨rfl, rfl⟩, .inl ⟨rfl, rfl⟩⟩

omit [NumberScalar α] in
theorem reported_certified {base : ShieldDecision α} {trajectory : List (List α)}
    (htarget : Requested situation.atlas.dimension base.requestedTarget)
    (hdistance : nonNegativeNumber base.repairDistance = true)
    (houtcome : base.outcome ≠ .reject)
    (hdigests : base.robotDigest = situation.atlas.robotDigest
      ∧ base.sceneDigest = situation.atlas.sceneDigest)
    (h : Returns (certifiedDecision P situation base trajectory) decision) :
    Reported situation.atlas decision := by
  unfold certifiedDecision at h
  rcases returns_ite.mp h with ⟨-, h⟩ | ⟨-, h⟩
  · exact (not_returns_throw h).elim
  obtain ⟨audit, haudit, h⟩ := returns_bind.mp h
  have haudit := returns_lift.mp haudit
  rcases returns_ite.mp h with ⟨-, h⟩ | ⟨hcertified, h⟩
  · exact (not_returns_throw h).elim
  obtain ⟨certificate, hcertificate, h⟩ := returns_bind.mp h
  cases certificate with
  | none => exact (not_returns_throw h).elim
  | some certificate =>
      obtain ⟨route, hroute, hcertificate⟩ := returns_bind.mp hcertificate
      obtain ⟨through, rfl, rfl⟩ :=
        Option.map_eq_some_iff.mp (returns_pure.mp hcertificate)
      rw [← returns_pure.mp h]
      exact ⟨htarget, requested_of_audit haudit, hdistance, hdigests,
        .inr ⟨houtcome, rfl, ⟨_, audit, rfl, not_not.mp hcertified, haudit⟩,
          _, rfl, connects_of_route (returns_mk.mp hroute)⟩⟩

-- === repairs

/-- The distance of the best projection. -/
theorem zero_le_projectThrough {target : List α}
    (htarget : target.all Scalar.isFinite = true) :
    ∀ {regions : List (SafeRegion α)} {best : Option (Projection α)} {tests : Nat}
      {result : Option (Projection α) × Nat},
      (∀ p ∈ best, Scalar.le Scalar.zero p.distance = true) →
      projectThrough situation target regions best tests = .ok result →
      ∀ p ∈ result.1, Scalar.le Scalar.zero p.distance = true := by
  intro regions
  induction regions with
  | nil =>
      intro best tests result hbest h
      cases h
      exact hbest
  | cons region rest ih =>
      intro best tests result hbest h
      unfold projectThrough at h
      obtain ⟨-, h⟩ := ite_failure_eq_ok.mp h
      obtain ⟨-, h⟩ := ite_failure_eq_ok.mp h
      split at h
      · exact ih hbest h
      · apply ih _ h
        intro p hp
        split at hp
        · cases hp
          exact zero_le_projection htarget
        · exact hbest p hp

/-- The total of the repairs stays within its limit. -/
theorem nonNegative_repairTargets
    (hlimit : Scalar.isFinite situation.options.maximumTotalRepairDistance = true) :
    ∀ {waypoints : List (List α)} {index : Nat} {total : α} {tests : Nat}
      {repaired : List (List α) × α},
      (∀ waypoint ∈ waypoints, waypoint.all Scalar.isFinite = true) →
      nonNegativeNumber total = true →
      repairTargets situation index waypoints total tests = .ok (some repaired) →
      nonNegativeNumber repaired.2 = true := by
  intro waypoints
  induction waypoints with
  | nil =>
      intro index total tests repaired _ htotal h
      cases h
      exact htotal
  | cons waypoint rest ih =>
      intro index total tests repaired hfinite htotal h
      unfold repairTargets at h
      obtain ⟨-, h⟩ := ite_failure_eq_ok.mp h
      obtain ⟨⟨projection, tests⟩, hprojection, h⟩ := bind_eq_ok.mp h
      cases projection with
      | none => cases h
      | some projection =>
          have hdistance : Scalar.le Scalar.zero projection.distance = true := by
            have hwaypoint := hfinite waypoint List.mem_cons_self
            apply zero_le_projectThrough hwaypoint _ hprojection projection rfl
            intro p hp
            cases hp
          dsimp only at h
          split at h
          · cases h
          split at h
          · cases h
          · rename_i hbounded
            obtain ⟨later, hlater, h⟩ := bind_eq_ok.mp h
            cases later with
            | none => cases h
            | some later =>
                cases h
                apply ih (fun w hw => hfinite w (List.mem_cons_of_mem _ hw)) _ hlater
                obtain ⟨htotal, hpositive⟩ := nonNegativeNumber_iff.mp htotal
                apply nonNegativeNumber_of_bounded hlimit
                · exact NumberScalar.add_nonneg
                    (NumberScalar.nonneg_of_not_negative htotal hpositive) hdistance
                · simpa using hbounded

-- === actions

omit [NumberScalar α] in
/-- A target that a delta leads to. -/
theorem configuration_of_jointTarget {dimension : Nat} {current delta target : List α}
    (hcurrent : Configuration dimension current)
    (hdelta : Configuration dimension delta)
    (h : jointTarget current delta = .ok target) :
    Configuration dimension target := by
  unfold jointTarget at h
  dsimp only at h
  split at h
  · rename_i hfinite
    cases h
    refine ⟨?_, hfinite⟩
    rw [List.length_map, List.length_zip, hcurrent.1, hdelta.1, Nat.min_self]
  · cases h

variable (hcurrent : Configuration situation.atlas.dimension situation.current)
  (hoptions : situation.options.validate = .ok ())
include hcurrent hoptions

omit [NumberScalar α] hcurrent in
theorem finite_limit :
    Scalar.isFinite situation.options.maximumTotalRepairDistance = true := by
  unfold ShieldOptions.validate at hoptions
  have hnot := (ite_failure_eq_ok.mp hoptions).1
  simp only [not_or] at hnot
  simpa using hnot.2.2.1

theorem reported_checkJoint {delta : List α}
    (h : Returns (checkJoint P situation delta) decision) :
    Reported situation.atlas decision := by
  unfold checkJoint at h
  obtain ⟨target, htarget, h⟩ := returns_bind.mp h
  obtain ⟨hdelta, htarget⟩ := check_eq_ok.mp (returns_lift.mp htarget)
  have hrequested : Configuration situation.atlas.dimension target :=
    configuration_of_jointTarget hcurrent (validateConfiguration_ok.mp hdelta) htarget
  rcases returns_ite.mp h with ⟨-, h⟩ | ⟨-, h⟩
  · exact reported_rejected (.inr hrequested) h
  obtain ⟨audit, -, h⟩ := returns_bind.mp h
  rcases returns_ite.mp h with ⟨-, h⟩ | ⟨-, h⟩
  · exact reported_certified (.inr hrequested) nonNegativeNumber_zero (by simp)
      ⟨rfl, rfl⟩ h
  rcases returns_ite.mp h with ⟨-, h⟩ | ⟨-, h⟩
  · exact reported_rejected (.inr hrequested) h
  obtain ⟨⟨projection, tests⟩, hprojection, h⟩ := returns_bind.mp h
  cases projection with
  | none => exact reported_rejected (.inr hrequested) h
  | some projection =>
      rcases returns_ite.mp h with ⟨-, h⟩ | ⟨hbounded, h⟩
      · exact reported_rejected (.inr hrequested) h
      obtain ⟨route, -, h⟩ := returns_bind.mp h
      cases route with
      | none => exact reported_rejected (.inr hrequested) h
      | some route =>
          apply reported_certified (.inr hrequested) _ (by simp) ⟨rfl, rfl⟩ h
          simp only [Bool.or_eq_true, not_or, Bool.not_eq_true] at hbounded
          apply nonNegativeNumber_of_bounded (finite_limit hoptions) _ hbounded.2
          apply zero_le_projectThrough hrequested.2 _ (returns_lift.mp hprojection)
            projection rfl
          intro p hp
          cases hp

theorem reported_checkEndEffector {robot : SerialRobotModel α}
    {scene : SceneSnapshot α} {target : Pose3d α}
    (h : Returns (checkEndEffector P situation robot scene target) decision) :
    Reported situation.atlas decision := by
  unfold checkEndEffector at h
  rcases returns_ite.mp h with ⟨-, h⟩ | ⟨-, h⟩
  · exact (not_returns_throw h).elim
  rcases returns_ite.mp h with ⟨-, h⟩ | ⟨-, h⟩
  · exact reported_rejected (.inl rfl) h
  rcases returns_ite.mp h with ⟨-, h⟩ | ⟨-, h⟩
  · exact reported_rejected (.inl rfl) h
  obtain ⟨report, hreport, h⟩ := returns_bind.mp h
  have hsolution := requested_of_solve hreport
  rcases returns_ite.mp h with ⟨-, h⟩ | ⟨-, h⟩
  · exact reported_rejected (.inl rfl) h
  split at h
  · rcases returns_ite.mp h with ⟨-, h⟩ | ⟨hbounded, h⟩
    · exact reported_rejected hsolution h
    · apply reported_certified hsolution _ _ ⟨rfl, rfl⟩ h
      · apply nonNegativeNumber_of_bounded (finite_limit hoptions)
        · apply NumberScalar.sqrt_nonneg
          apply zero_le_squaredDistance (List.all_eq_true.mp hcurrent.2)
          exact fun b hb => LawfulScalar.le_refl
            (List.all_eq_true.mp hsolution.finite b hb)
        · simpa using hbounded
      · dsimp only
        split
        · decide
        · decide
  · exact reported_rejected hsolution h

omit hcurrent in
theorem reported_checkTrajectory {waypoints : List (List α)}
    (h : Returns (checkTrajectory P situation waypoints) decision) :
    Reported situation.atlas decision := by
  unfold checkTrajectory at h
  obtain ⟨⟨⟩, hchecked, h⟩ := returns_bind.mp h
  obtain ⟨-, hchecked⟩ := ite_failure_eq_ok.mp (returns_lift.mp hchecked)
  obtain ⟨-, hchecked⟩ := ite_failure_eq_ok.mp hchecked
  have hwaypoints : ∀ waypoint ∈ waypoints,
      Configuration situation.atlas.dimension waypoint :=
    configuration_of_loop (fun _ _ _ => rfl) hchecked
  have hrequested := requested_getLastD hwaypoints
  rcases returns_ite.mp h with ⟨-, h⟩ | ⟨-, h⟩
  · exact reported_rejected hrequested h
  obtain ⟨audit, -, h⟩ := returns_bind.mp h
  rcases returns_ite.mp h with ⟨-, h⟩ | ⟨-, h⟩
  · exact reported_certified hrequested nonNegativeNumber_zero (by simp)
      ⟨rfl, rfl⟩ h
  rcases returns_ite.mp h with ⟨-, h⟩ | ⟨-, h⟩
  · exact reported_rejected hrequested h
  obtain ⟨repaired, hrepaired, h⟩ := returns_bind.mp h
  cases repaired with
  | none => exact reported_rejected hrequested h
  | some repaired =>
      obtain ⟨output, -, h⟩ := returns_bind.mp h
      cases output with
      | none => exact reported_rejected hrequested h
      | some output =>
          apply reported_certified hrequested _ (by simp) ⟨rfl, rfl⟩ h
          exact nonNegative_repairTargets (finite_limit hoptions)
            (fun w hw => (hwaypoints w hw).2) nonNegativeNumber_zero
            (returns_lift.mp hrepaired)

end RuntimeShield

/-- **What is known of every decision of the shield**, and how it is named. -/
theorem reported_checkAction {situation : RuntimeShield.Situation α}
    {robot : SerialRobotModel α} {scene : SceneSnapshot α} {action : ShieldAction α}
    {decision : ShieldDecision α}
    (h : Returns (RuntimeShield.checkAction P situation robot scene action) decision) :
    Reported situation.atlas decision
      ∧ decision.actionDigest = shieldActionDigest P action
      ∧ decision.id = decisionId P decision := by
  unfold RuntimeShield.checkAction at h
  obtain ⟨⟨⟩, hchecked, h⟩ := returns_bind.mp h
  obtain ⟨-, hchecked⟩ := check_eq_ok.mp (returns_lift.mp hchecked)
  obtain ⟨hcurrent, hchecked⟩ := check_eq_ok.mp hchecked
  obtain ⟨hoptions, -⟩ := check_eq_ok.mp hchecked
  have hcurrent := validateConfiguration_ok.mp hcurrent
  -- each of the three answers is given a digest in the same way
  obtain ⟨answer, hreported, hdecision⟩ : ∃ answer : ShieldDecision α,
      Reported situation.atlas answer ∧ decision =
        { answer with
          actionDigest := shieldActionDigest P action
          id := decisionId P
            { answer with actionDigest := shieldActionDigest P action } } := by
    cases action with
    | jointDelta delta =>
        obtain ⟨answer, hanswer, h⟩ := returns_bind.mp h
        exact ⟨answer, RuntimeShield.reported_checkJoint hcurrent hoptions hanswer,
          (returns_pure.mp h).symm⟩
    | endEffector target =>
        obtain ⟨answer, hanswer, h⟩ := returns_bind.mp h
        exact ⟨answer, RuntimeShield.reported_checkEndEffector hcurrent hoptions
          hanswer, (returns_pure.mp h).symm⟩
    | trajectory waypoints =>
        obtain ⟨answer, hanswer, h⟩ := returns_bind.mp h
        exact ⟨answer, RuntimeShield.reported_checkTrajectory hoptions hanswer,
          (returns_pure.mp h).symm⟩
  rw [hdecision]
  exact ⟨⟨hreported.requested, hreported.output, hreported.distance,
    hreported.digests, hreported.answer⟩, rfl, rfl⟩

end

-- === samples

/-- Doubles, with functions that are right at zero. -/
@[reducible] def sampleInverse : InverseScalar Float where
  cos _ := Scalar.one
  sin _ := Scalar.zero
  atan2 _ _ := Scalar.zero

/-- A robot of one joint. -/
def gateRobot : SerialRobotModel Float where
  name := ascii "arm"
  joints := [⟨Scalar.zero, Scalar.zero, Scalar.zero, Scalar.zero, .revolute⟩]
  jointLimits := [⟨Scalar.zero, Scalar.one⟩]
  linkRadii := [Scalar.zero]
  toolFrame := none

def gateScene : SceneSnapshot Float where
  obstacles := []
  version := ascii "v1"

/-- The one region of its atlas. -/
def gateRegions : List (SafeRegion Float) :=
  [{ id := 1, bounds := ⟨[⟨Scalar.zero, Scalar.one⟩]⟩, certificateIndex := 0
     component := 1, sourceNode := .root }]

def gateAtlas (P : Platform) : SafeAtlas Float where
  dimension := 1
  robotDigest := gateRobot.digest P
  sceneDigest := gateScene.digest P
  regions := gateRegions
  certificates :=
    [{ level := .certifiedRegion
       robotDigest := gateRobot.digest P
       sceneDigest := gateScene.digest P
       policy := ⟨ascii "link-aabb", ascii "1", Scalar.zero⟩
       clearanceLowerBound := Scalar.zero }]
  adjacency := [[]]

def gateShieldOptions : ShieldOptions Float where
  maximumWaypointRepairDistance := Scalar.one
  maximumTotalRepairDistance := Scalar.one
  safeIk :=
    { positionTolerance := Scalar.one
      orientationTolerance := Scalar.one
      orientationWeight := Scalar.one
      damping := Scalar.one
      finiteDifferenceStep := Scalar.one
      maximumStepNorm := Scalar.one
      minimumStepNorm := Scalar.one }

/-- The atlas is that of the robot in the scene. -/
theorem compatible_gateAtlas (P : Platform) :
    (gateAtlas P).verifyCompatible P gateRobot gateScene = .ok () := by
  unfold SafeAtlas.verifyCompatible
  rw [check_eq_ok, check_eq_ok, ite_failure_eq_ok, ite_failure_eq_ok]
  exact ⟨rfl, rfl, not_not.mpr rfl, not_not.mpr rfl, rfl⟩

-- === one solution

namespace SafeIkSolver

section
variable {α : Type} [InverseScalar α] [LawfulScalar α] {P : Platform}

/-- A clamped value is between its bounds, if it is a number. -/
theorem between_clamp {value lower upper : α} (hlower : Scalar.isFinite lower = true)
    (hupper : Scalar.isFinite upper = true) (hordered : Scalar.le lower upper = true)
    (h : Scalar.isFinite (Scalar.clamp value lower upper) = true) :
    Scalar.le lower (Scalar.clamp value lower upper) = true
      ∧ Scalar.le (Scalar.clamp value lower upper) upper = true := by
  unfold Scalar.clamp at h ⊢
  by_cases hbelow : Scalar.lt value lower = true
  · rw [if_pos hbelow]
    exact ⟨LawfulScalar.le_refl hlower, hordered⟩
  rw [if_neg hbelow] at h ⊢
  by_cases habove : Scalar.lt upper value = true
  · rw [if_pos habove]
    exact ⟨hordered, LawfulScalar.le_refl hupper⟩
  rw [if_neg habove] at h ⊢
  rw [LawfulScalar.lt_iff h hlower, Bool.not_eq_false] at hbelow
  rw [LawfulScalar.lt_iff hupper h, Bool.not_eq_false] at habove
  exact ⟨hbelow, habove⟩

/-- Clamping leaves the box where a value is not a number, and nowhere else. -/
theorem holds_of_projected {region : CspaceAabb α} {configuration : List α}
    (hvalid : region.valid = true) (h : Projected region configuration)
    (hconfiguration : Configuration region.dimension configuration) :
    region.Holds configuration := by
  obtain ⟨origin, rfl⟩ := h
  refine ⟨hconfiguration.1, ?_⟩
  intro i axis value haxis hvalue
  have hfinite := List.all_eq_true.mp hconfiguration.2 value (List.mem_of_getElem? hvalue)
  obtain ⟨hlower, hupper, hordered⟩ := CspaceAabb.valid_axis hvalid haxis
  unfold projectToBox at hvalue
  rw [List.getElem?_map] at hvalue
  obtain ⟨p, hp, rfl⟩ := Option.map_eq_some_iff.mp hvalue
  obtain ⟨-, hp⟩ := List.getElem?_zip_eq_some.mp hp
  rw [haxis] at hp
  cases hp
  exact between_clamp hlower hupper hordered hfinite

/-- **What the solver reports**: that the seed is not certified, that there is
no solution, or a solution inside a region of the atlas. -/
theorem solve_sound {problem : Problem α} {scene : SceneSnapshot α}
    {queryIndex : Option (RegionQueryIndex α)} {report : SafeIkReport α}
    (h : Returns (solve P problem.robot scene problem.atlas queryIndex problem.target
      problem.current problem.options problem.cancelled) report) :
    (report = { status := .seedNotCertified }
        ∧ problem.options.requireConnectivity = true
        ∧ problem.atlas.contains queryIndex problem.current = false)
      ∨ (∃ stats, report = { status := .noSolution, stats })
      ∨ ∃ region, SolvedIn P problem region report
        ∧ Configuration problem.atlas.dimension report.solution
        ∧ (region.bounds.valid = true →
          region.bounds.dimension = problem.atlas.dimension →
          region.bounds.Holds report.solution)
        ∧ ∀ route ∈ report.connectivityRoute, Connects problem.atlas route.certificate := by
  rcases solvedIn_solve h with hseed | hnone | ⟨region, hsolved⟩
  · exact .inl hseed
  · exact .inr (.inl hnone)
  · have hconfiguration := configuration_of_route hsolved.route
    refine .inr (.inr ⟨region, hsolved, hconfiguration, ?_, ?_⟩)
    · intro hvalid hdimension
      exact holds_of_projected hvalid hsolved.projected (hdimension ▸ hconfiguration)
    · intro route hroute
      exact connects_of_route (Option.mem_def.mp hroute ▸ hsolved.route)

end

section

attribute [local instance] sampleInverse

/-- The pose of no rotation at the origin. -/
def gateTarget : Pose3d Float :=
  ⟨fun _ => Scalar.zero, ![Scalar.zero, Scalar.zero, Scalar.zero, Scalar.one]⟩

def gateSafeIk : SafeIkOptions Float :=
  { gateShieldOptions.safeIk with minimumStepNorm := Scalar.zero }

/-- The lower half of the region of the atlas. -/
def lowerRegions : List (SafeRegion Float) :=
  gateRegions.map fun region =>
    { region with bounds := ⟨[⟨Scalar.zero, Scalar.half⟩]⟩ }

/-- A seed above it. -/
def gateProblem (P : Platform) : Problem Float where
  robot := gateRobot
  atlas := { gateAtlas P with regions := lowerRegions }
  target := gateTarget
  current := [Scalar.one]
  options := gateSafeIk
  cancelled _ _ := false

theorem returns_gateProblem (P : Platform) :
    Returns (solve P gateRobot gateScene (gateProblem P).atlas none gateTarget
      [Scalar.one] gateSafeIk fun _ _ => false) { status := .seedNotCertified } := by
  refine returns_bind.mpr ⟨(), returns_lift.mpr ?_, returns_ite.mpr (.inr
    ⟨List.cons_ne_nil _ _, returns_ite.mpr (.inl ⟨?_, returns_pure.mpr rfl⟩)⟩)⟩
  · unfold SafeAtlas.verifyCompatible
    simp only [check_eq_ok, ite_failure_eq_ok]
    exact ⟨rfl, rfl, ⟨rfl, rfl, not_not.mpr rfl, not_not.mpr rfl, trivial⟩, rfl,
      ite_failure_eq_ok.mpr ⟨by decide, rfl⟩, by decide +kernel, by decide, trivial⟩
  · exact (by decide : (true && !!(lowerRegions.filter fun region =>
      region.bounds.contains [Scalar.one] Scalar.tolerance).isEmpty) = true)

/-- The solver looks no further. -/
theorem solve_sound_gate : (gateProblem (host fun _ _ _ => false)).atlas.contains none
    [Scalar.one] = false := by
  rcases @solve_sound Float _ _ _ (gateProblem _) _ _ _ (returns_gateProblem _) with
    ⟨-, -, hcontains⟩ | ⟨stats, hreport⟩ | ⟨region, hsolved, -⟩
  · exact hcontains
  · cases hreport
  · have hstatus := hsolved.status
    split at hstatus <;> cases hstatus

end

end SafeIkSolver

end RbfSafe.Atlas
