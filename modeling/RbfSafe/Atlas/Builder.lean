/-
`atlas.cpp`: `AtlasBuilder::build`.

The domain of the robot is halved breadth-first. A node whose box the
validator certifies becomes a pending region; a node that holds no sample
or may not be split any further becomes a repair domain. The pending
regions are merged where the union of two boxes is a box the validator
certifies as well. Each region then gets a certificate and an id, and the
graph of the regions closes the atlas.

# Caches

With more than one thread the two halves of a node are validated when
they are queued, and the answers travel with the work items; with one
thread a node is validated when it leaves the queue.

# What stands for the rest

The validator is the one in effect: the builder's own, or the default
one. A cancellation token is what its polls answer, by the number of
nodes visited before. The queue has fuel, and `none` when it runs out.
-/
import RbfSafe.Atlas.Certificate
import RbfSafe.Atlas.Connectivity

namespace RbfSafe.Atlas

open Json

-- === options

/-- `kAtlasSchemaVersion`. -/
def kAtlasSchemaVersion : Nat := 2

/-- `BuildOptions`. -/
structure BuildOptions (α : Type) [Scalar α] where
  maximumDepth : Nat := 24
  maximumNodes : Nat := 1000000
  minimumNormalizedWidth : α := Scalar.decimal 1 3
  adjacencyTolerance : α := Scalar.tolerance
  obstaclePadding : α := Scalar.zero
  threads : Int := 1
  cancellation : Nat → Bool := fun _ => false

/-- `BuildStats`. -/
structure BuildStats where
  inputSamples : Nat := 0
  uniqueSamples : Nat := 0
  nodesVisited : Nat := 0
  certifiedNodes : Nat := 0
  unresolvedNodes : Nat := 0
  mergedRegions : Nat := 0
deriving DecidableEq

/-- `PendingRegion`. -/
structure PendingRegion (α : Type) where
  bounds : CspaceAabb α
  source : LectNodeKey
  clearance : α
  envelope : LinkEnvelope α

/-- `WorkItem`. -/
structure WorkItem (α : Type) where
  key : LectNodeKey
  samples : List Nat
  maySplit : Bool := true
  cachedValidation : Option (RegionValidation α) := none

/-- What the first loop of `build` works on. -/
structure BuildState (α : Type) where
  tree : LectTree α
  work : List (WorkItem α)
  pending : List (PendingRegion α) := []
  unresolvedDomains : List (AtlasRepairDomain α) := []
  stats : BuildStats := {}

/-- `AtlasBuildResult`. -/
structure AtlasBuildResult (α : Type) [DecodedScalar α] where
  atlas : SafeAtlas α
  stats : BuildStats

-- === samples

section
variable {α : Type} [Scalar α]

/-- `operator<` of two configurations. -/
def configurationLess : List α → List α → Bool
  | _, [] => false
  | [], _ :: _ => true
  | a :: rest, b :: others =>
      Scalar.lt a b || (!Scalar.lt b a && configurationLess rest others)

/-- `operator==` of two configurations. -/
def configurationEq (left right : List α) : Bool :=
  left.length == right.length
    && (left.zip right).all fun p => Scalar.eq p.1 p.2

/-- `std::sort` and `std::unique` of the samples. -/
def uniqueSamples (samples : List (List α)) : List (List α) :=
  (samples.mergeSort fun a b => !configurationLess b a).destutter
    fun a b => configurationEq a b = false

/-- The checks of the samples, whose errors speak of `kind`. -/
def checkSamples (dimension : Nat) (domain : CspaceAabb α) (kind : Bytes)
    (outside : String) : Nat → List (List α) → Result Unit
  | _, [] => .ok ()
  | index, sample :: rest => do
      validateConfiguration sample dimension
        (kind ++ [32] ++ stdToString index)
      if domain.contains sample Scalar.tolerance = false then
        failure .invalidArgument outside (stdToString index)
      else checkSamples dimension domain kind outside (index + 1) rest

-- === union

/-- The loop of `rectangular_union`, where `differs` says whether an axis
before differed. -/
def unionAxes (tolerance : α) :
    Bool → List (Interval α × Interval α) → Option (List (Interval α))
  | _, [] => some []
  | differs, (a, b) :: rest =>
      let axis : Interval α :=
        ⟨Scalar.min a.lower b.lower, Scalar.max a.upper b.upper⟩
      if Scalar.le (Scalar.abs (Scalar.sub a.lower b.lower)) tolerance
          && Scalar.le (Scalar.abs (Scalar.sub a.upper b.upper))
            tolerance then
        (unionAxes tolerance differs rest).map (axis :: ·)
      else if differs || !a.overlaps b tolerance then none
      else (unionAxes tolerance true rest).map (axis :: ·)

/-- `rectangular_union`. -/
def rectangularUnion (left right : CspaceAabb α) (tolerance : α) :
    Option (CspaceAabb α) :=
  if left.dimension ≠ right.dimension then none
  else (unionAxes tolerance false (left.axes.zip right.axes)).map .mk

end

-- === ids

section
variable {α : Type} [MetricScalar α] (P : Platform)

/-- `box_identity`. -/
def boxIdentity (box : CspaceAabb α) : Bytes :=
  dump P.toLibc false 0 (cspaceBoxJson box)

/-- The first sixteen digits of a digest, and 1 for 0. -/
def idOfDigest (digest : Bytes) : RegionId :=
  let result : UInt64 := (digest.take 16).foldl
    (fun (result : UInt64) (digit : UInt8) => (result <<< 4)
      ||| (if 48 ≤ digit ∧ digit ≤ 57 then digit - 48
        else digit - 97 + 10).toUInt64) 0
  if result = 0 then 1 else result

/-- `stable_region_id`. -/
def stableRegionId (robotDigest sceneDigest : Bytes)
    (bounds : CspaceAabb α) (source : LectNodeKey) : RegionId :=
  idOfDigest (P.sha256 (robotDigest ++ [124] ++ sceneDigest ++ [124]
    ++ boxIdentity P bounds ++ [124] ++ source.path))

/-- `stable_repair_domain_id`. -/
def stableRepairDomainId (robotDigest sceneDigest : Bytes)
    (bounds : CspaceAabb α) (source : LectNodeKey) : RegionId :=
  idOfDigest (P.sha256 (robotDigest ++ [124] ++ sceneDigest
    ++ ascii "|repair-domain|" ++ boxIdentity P bounds ++ [124]
    ++ source.path))

/-- `while (!ids.insert(id).second) ++id;`, which ends after as many
steps as there are ids. -/
def freeIdFrom (ids : List RegionId) : Nat → RegionId → RegionId
  | 0, id => id
  | fuel + 1, id =>
      if id ∈ ids then freeIdFrom ids fuel (id + 1) else id

/-- The first id from `id` on that is not taken. -/
def freeId (ids : List RegionId) (id : RegionId) : RegionId :=
  freeIdFrom ids ids.length id

/-- The repair domains with their ids. -/
def numberDomains (robotDigest sceneDigest : Bytes) :
    List RegionId → List (AtlasRepairDomain α) →
      List (AtlasRepairDomain α)
  | _, [] => []
  | ids, domain :: rest =>
      let id := freeId ids (stableRepairDomainId P robotDigest sceneDigest
        domain.bounds domain.sourceNode)
      { domain with id } :: numberDomains robotDigest sceneDigest
        (id :: ids) rest

end

section
variable {α : Type} [DecodedScalar α]

-- === splits

/-- What the work on nodes depends on. -/
structure BuildInput (α : Type) [DecodedScalar α] where
  robot : SerialRobotModel α
  scene : SceneSnapshot α
  validator : RegionValidator α
  samples : List (List α)
  options : BuildOptions α

namespace BuildInput

/-- The answer of the validator on a box. -/
def validate (input : BuildInput α) (box : CspaceAabb α) :
    Result (RegionValidation α) :=
  input.validator.validate input.robot input.scene box

/-- Whether a sample goes to the left half: its coordinate is at most the
midpoint. -/
def goesLeft (input : BuildInput α) (dimension : Nat) (midpoint : α)
    (index : Nat) : Bool :=
  ((input.samples[index]?).bind (·[dimension]?)).any fun value =>
    Scalar.le value midpoint

/-- The two halves are validated when they are queued, with more than one
thread. An error of the left half is reported first. -/
def validateChildren (input : BuildInput α) (tree : LectTree α)
    (children : LectNodeKey × LectNodeKey) :
    Result (Option (RegionValidation α) × Option (RegionValidation α)) :=
  if input.options.threads > 1 then do
    let left ← tree.node children.1
    let right ← tree.node children.2
    let leftResult ← input.validate left.box
    let rightResult ← input.validate right.box
    .ok (some leftResult, some rightResult)
  else .ok (none, none)

/-- The halves of a node that was split go to the end of the queue, with
the samples they hold. -/
def pushChildren (input : BuildInput α) (state : BuildState α)
    (current : WorkItem α) (tree : LectTree α)
    (children : LectNodeKey × LectNodeKey) : Result (BuildState α) := do
  let parent ← tree.node current.key
  match parent.box.axes[parent.splitDimension]? with
  | none => LectTree.outOfRange
  | some axis =>
      let goes := input.goesLeft parent.splitDimension axis.center
      let leftSamples := current.samples.filter goes
      let rightSamples := current.samples.filter fun index => !goes index
      let cached ← input.validateChildren tree children
      .ok { state with
            tree
            work := state.work ++
              [⟨children.1, leftSamples, !leftSamples.isEmpty, cached.1⟩,
                ⟨children.2, rightSamples, !rightSamples.isEmpty,
                  cached.2⟩] }

/-- A node that stays as it is becomes a repair domain. -/
def leaveUnresolved (state : BuildState α) (node : LectNode α) :
    BuildState α :=
  { state with
    unresolvedDomains := state.unresolvedDomains ++ [⟨0, node.box, node.key⟩]
    stats := { state.stats with
      unresolvedNodes := state.stats.unresolvedNodes + 1 } }

/-- A node the validator certifies becomes a pending region. -/
def admitPending (state : BuildState α) (node : LectNode α)
    (validation : RegionValidation α) : BuildState α :=
  { state with
    pending := state.pending ++
      [⟨node.box, node.key, validation.clearanceLowerBound,
        validation.envelope⟩]
    stats := { state.stats with
      certifiedNodes := state.stats.certifiedNodes + 1 } }

/-- A node that is not certified is split, or left unresolved. -/
def refine (input : BuildInput α) (state : BuildState α)
    (current : WorkItem α) (node : LectNode α) : Result (BuildState α) :=
  if current.maySplit = false ∨ current.samples = []
      ∨ current.key.depth ≥ input.options.maximumDepth then
    .ok (leaveUnresolved state node)
  else if state.tree.nodes.length + 2 > input.options.maximumNodes then
    failure .resourceLimit "Atlas build reached maximum node count"
      (stdToString input.options.maximumNodes)
  else
    match state.tree.split current.key with
    | (.ok children, tree) => input.pushChildren state current tree children
    | (.error e, tree) =>
        if e.code = .resourceLimit then
          .ok (leaveUnresolved { state with tree } node)
        else .error e

/-- One turn of the first loop of `build`, for the item taken from the
queue. -/
def step (input : BuildInput α) (state : BuildState α)
    (current : WorkItem α) : Result (BuildState α) := do
  let node ← state.tree.node current.key
  let visited := { state with
    stats := { state.stats with
      nodesVisited := state.stats.nodesVisited + 1 } }
  let validation ← match current.cachedValidation with
    | some validation => .ok validation
    | none => input.validate node.box
  if validation.disposition = .certifiedFree then
    .ok (admitPending visited node validation)
  else input.refine visited current node

/-- The first loop of `build`. -/
def loop (input : BuildInput α) :
    Nat → BuildState α → Option (Result (BuildState α))
  | fuel, state =>
      match state.work, fuel with
      | [], _ => some (.ok state)
      | _ :: _, 0 => none
      | current :: work, fuel + 1 =>
          if input.options.cancellation state.stats.nodesVisited then
            some (failure .cancelled "Atlas build was cancelled")
          else
            match input.step { state with work } current with
            | .error e => some (.error e)
            | .ok next => loop input fuel next

/-- The state before the first loop. -/
def start (input : BuildInput α) (inputSamples : Nat) (tree : LectTree α) :
    BuildState α :=
  { tree
    work := [⟨.root, List.range input.samples.length, true, none⟩]
    stats := { inputSamples, uniqueSamples := input.samples.length } }

end BuildInput

-- === merge

section
variable (validate : CspaceAabb α → Result (RegionValidation α))
  (tolerance : α)

/-- The search for a region right of `left` to merge it with, past the
regions in `between`. -/
def mergeRight (left : PendingRegion α) :
    List (PendingRegion α) → List (PendingRegion α) →
      Result (Option (List (PendingRegion α)))
  | _, [] => .ok none
  | between, right :: rest =>
      match rectangularUnion left.bounds right.bounds tolerance with
      | none => mergeRight left (between ++ [right]) rest
      | some bounds => do
          let validation ← validate bounds
          if validation.disposition ≠ .certifiedFree then
            mergeRight left (between ++ [right]) rest
          else
            .ok (some (⟨bounds,
              if right.source.path < left.source.path then right.source
              else left.source,
              validation.clearanceLowerBound, validation.envelope⟩
              :: (between ++ rest)))

/-- One turn of the second loop of `build`: the first two regions that
can be merged are. -/
def mergeOnce : List (PendingRegion α) →
    Result (Option (List (PendingRegion α)))
  | [] => .ok none
  | left :: rest => do
      match ← mergeRight validate tolerance left [] rest with
      | some merged => .ok (some merged)
      | none =>
          let later ← mergeOnce rest
          .ok (later.map (left :: ·))

variable {validate tolerance}

theorem length_mergeRight {left : PendingRegion α} :
    ∀ (rest between : List (PendingRegion α))
      {merged : List (PendingRegion α)},
      mergeRight validate tolerance left between rest = .ok (some merged) →
        merged.length = between.length + rest.length := by
  intro rest
  induction rest with
  | nil =>
      intro between merged h
      cases h
  | cons right rest ih =>
      intro between merged h
      have hskip : mergeRight validate tolerance left (between ++ [right])
          rest = .ok (some merged) →
          merged.length = between.length + (right :: rest).length := by
        intro hrest
        have hlength := ih _ hrest
        rw [List.length_append, List.length_singleton] at hlength
        rw [List.length_cons, hlength]
        omega
      rw [mergeRight] at h
      cases hunion : rectangularUnion left.bounds right.bounds tolerance with
      | none =>
          rw [hunion] at h
          exact hskip h
      | some bounds =>
          rw [hunion] at h
          obtain ⟨validation, -, h⟩ := bind_eq_ok.mp h
          by_cases hfree : validation.disposition ≠ .certifiedFree
          · rw [if_pos hfree] at h
            exact hskip h
          · rw [if_neg hfree] at h
            rw [← Option.some_inj.mp (Except.ok.inj h), List.length_cons,
              List.length_cons, List.length_append]
            omega

/-- A merge leaves one region less. -/
theorem length_mergeOnce :
    ∀ (pending : List (PendingRegion α)) {merged : List (PendingRegion α)},
      mergeOnce validate tolerance pending = .ok (some merged) →
        merged.length + 1 = pending.length := by
  intro pending
  induction pending with
  | nil =>
      intro merged h
      cases h
  | cons left rest ih =>
      intro merged h
      rw [mergeOnce] at h
      obtain ⟨found, hfound, h⟩ := bind_eq_ok.mp h
      cases found with
      | some regions =>
          cases h
          rw [length_mergeRight rest [] hfound, List.length_nil,
            List.length_cons]
          omega
      | none =>
          obtain ⟨later, hlater, h⟩ := bind_eq_ok.mp h
          have hmap := Except.ok.inj h
          rw [Option.map_eq_some_iff] at hmap
          obtain ⟨regions, rfl, rfl⟩ := hmap
          rw [List.length_cons, List.length_cons, ih hlater]

variable (validate tolerance)

/-- The second loop of `build`, with the number of merges. -/
def mergeAll (pending : List (PendingRegion α)) :
    Result (List (PendingRegion α) × Nat) :=
  match h : mergeOnce validate tolerance pending with
  | .error e => .error e
  | .ok none => .ok (pending, 0)
  | .ok (some merged) => do
      let result ← mergeAll merged
      .ok (result.1, result.2 + 1)
termination_by pending.length
decreasing_by
  have := length_mergeOnce pending h
  omega

end

-- === assembly

/-- A region that was given an id and a certificate. -/
structure AdmittedRegion (α : Type) where
  id : RegionId
  region : PendingRegion α
  certificate : Certificate α

/-- Each pending region gets a certificate and an id. -/
def admitRegions (P : Platform) (robot : SerialRobotModel α)
    (scene : SceneSnapshot α) (validator : RegionValidator α)
    (obstaclePadding : α) :
    List RegionId → List (PendingRegion α) →
      Result (List (AdmittedRegion α))
  | _, [] => .ok []
  | ids, region :: rest => do
      let certificate ← makeRegionCertificate P robot scene region.bounds
        validator ⟨.certifiedFree, region.clearance, region.envelope⟩
        obstaclePadding
      let id := freeId ids (stableRegionId P (robot.digest P)
        (scene.digest P) region.bounds region.source)
      let admitted ← admitRegions P robot scene validator obstaclePadding
        (id :: ids) rest
      .ok (⟨id, region, certificate⟩ :: admitted)

/-- The regions of an atlas, where the certificate of each stands at the
place of the region. -/
def atlasRegions (admitted : List (AdmittedRegion α)) :
    List (SafeRegion α) :=
  admitted.zipIdx.map fun p =>
    ⟨p.1.id, p.1.region.bounds, p.2, 0, p.1.region.source⟩

/-- The atlas of the regions and the repair domains. -/
def assemble (P : Platform) (input : BuildInput α) (tree : LectTree α)
    (admitted : List (AdmittedRegion α))
    (unresolvedDomains : List (AtlasRepairDomain α)) : SafeAtlas α :=
  let sorted := Lib.Sorting.sort (fun region => region.id.toNat) admitted
  let graph := rebuildGraph (atlasRegions sorted)
    input.options.adjacencyTolerance
  let atlas : SafeAtlas α :=
    { dimension := input.robot.dimension
      robotDigest := input.robot.digest P
      sceneDigest := input.scene.digest P
      lect := some tree
      regions := graph.1
      certificates := sorted.map (·.certificate)
      dependencies := sorted.map fun region =>
        ⟨region.id, region.region.envelope⟩
      repairDomains := Lib.Sorting.sort (fun domain => domain.id.toNat)
        (numberDomains P (input.robot.digest P) (input.scene.digest P) []
          unresolvedDomains)
      adjacency := graph.2
      versionInfo :=
        { sequence := 0, sceneVersion := input.scene.version
          sceneDigest := input.scene.digest P }
      storageSchema := kAtlasSchemaVersion }
  { atlas with
    versionInfo := { atlas.versionInfo with
      id := atlasVersionIdentity P atlas } }

/-- `build`, from the result of its first loop on. -/
def BuildInput.finish (P : Platform) (input : BuildInput α)
    (state : BuildState α) : Result (AtlasBuildResult α) := do
  let merged ← mergeAll input.validate input.options.adjacencyTolerance
    (Lib.Sorting.sort (·.source.path) state.pending)
  let admitted ← admitRegions P input.robot input.scene input.validator
    input.options.obstaclePadding [] merged.1
  .ok { atlas := assemble P input state.tree admitted
          state.unresolvedDomains
        stats := { state.stats with
          mergedRegions := state.stats.mergedRegions + merged.2 } }

/-- The checks of the options. -/
def BuildOptions.valid (options : BuildOptions α) : Bool :=
  options.maximumDepth != 0 && options.maximumDepth ≤ 4096
    && 1 ≤ options.maximumNodes
    && Scalar.isFinite options.minimumNormalizedWidth
    && !Scalar.lt options.minimumNormalizedWidth Scalar.zero
    && !Scalar.le Scalar.one options.minimumNormalizedWidth
    && nonNegative options.adjacencyTolerance
    && nonNegative options.obstaclePadding
    && 1 ≤ options.threads

/-- The checks of `build`, and the tree it starts from. -/
def prepare (robot : SerialRobotModel α) (scene : SceneSnapshot α)
    (samples : List (List α)) (options : BuildOptions α) :
    Result (LectTree α) := do
  robot.validate
  scene.validate
  if samples = [] then
    failure .invalidArgument "AtlasBuilder requires at least one sample"
  else if options.valid = false then
    failure .invalidArgument "invalid AtlasBuilder options"
  else do
    checkSamples robot.dimension ⟨robot.jointLimits⟩ (ascii "sample")
      "sample lies outside robot joint limits" 0 samples
    LectTree.create ⟨robot.jointLimits⟩
      ⟨.normalizedLongestAxis, options.minimumNormalizedWidth⟩

/-- `AtlasBuilder::build`. -/
def build (P : Platform) (validator : RegionValidator α)
    (robot : SerialRobotModel α) (scene : SceneSnapshot α)
    (samples : List (List α)) (options : BuildOptions α) :
    Option (Result (AtlasBuildResult α)) :=
  match prepare robot scene samples options with
  | .error e => some (.error e)
  | .ok tree =>
      let input : BuildInput α :=
        { robot, scene, validator, samples := uniqueSamples samples
          options }
      (input.loop options.maximumNodes
        (input.start samples.length tree)).map fun result =>
          result.bind (input.finish P)

end

end RbfSafe.Atlas
