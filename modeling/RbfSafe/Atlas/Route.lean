/-
`atlas.cpp`: `SafeAtlas::route`.

A breadth-first search over the regions, from those that hold the start
to one that holds the goal, along neighbors whose boxes intersect. The
route goes through a point of each intersection, and its certificate
carries the smallest clearance of the regions it passes.

# What stands for the rest

`npos` in a table of predecessors is `none`. The clearance starts at
infinity, which is `none` too. The way back along the predecessors has
fuel, and `none` when it runs out.
-/
import RbfSafe.Atlas.Builder

namespace RbfSafe.Atlas

open Json

/-- `AtlasRoute`. -/
structure AtlasRoute (α : Type) where
  regionSequence : List RegionId := []
  waypoints : List (List α) := []
  certificate : Certificate α

section
variable {α : Type} [Scalar α]

/-- The loop of `intersection_witness`. -/
def witnessAxes : List (Interval α × Interval α) → Option (List α)
  | [] => some []
  | (a, b) :: rest =>
      let lower := Scalar.max a.lower b.lower
      let upper := Scalar.min a.upper b.upper
      if Scalar.lt upper lower then none
      else (witnessAxes rest).map
        (Scalar.mul Scalar.half (Scalar.add lower upper) :: ·)

/-- `intersection_witness`. -/
def intersectionWitness (left right : CspaceAabb α) : Option (List α) :=
  if left.dimension ≠ right.dimension then none
  else witnessAxes (left.axes.zip right.axes)

-- === search

/-- The neighbors of a region are given it as predecessor and queued,
unless they have one. -/
def relax (current : Nat) : List Nat → List (Option Nat) → List Nat →
    List (Option Nat) × List Nat
  | [], predecessor, frontier => (predecessor, frontier)
  | neighbor :: rest, predecessor, frontier =>
      if predecessor[neighbor]? = some none then
        relax current rest (predecessor.set neighbor (some current))
          (frontier ++ [neighbor])
      else relax current rest predecessor frontier

theorem count_none_set {predecessor : List (Option Nat)} {index : Nat}
    (h : predecessor[index]? = some none) (current : Nat) :
    (predecessor.set index (some current)).count none + 1
      = predecessor.count none := by
  induction predecessor generalizing index with
  | nil => cases h
  | cons first rest ih =>
      cases index with
      | zero =>
          rw [List.getElem?_cons_zero, Option.some_inj] at h
          rw [List.set_cons_zero, h]
          simp
      | succ index =>
          rw [List.getElem?_cons_succ] at h
          rw [List.set_cons_succ, List.count_cons, List.count_cons, ← ih h]
          omega

/-- What is queued no longer lacks a predecessor. -/
theorem count_relax (current : Nat) : ∀ (neighbors : List Nat)
    (predecessor : List (Option Nat)) (frontier : List Nat),
    (relax current neighbors predecessor frontier).1.count none
        + (relax current neighbors predecessor frontier).2.length
      = predecessor.count none + frontier.length := by
  intro neighbors
  induction neighbors with
  | nil => intro _ _; rfl
  | cons neighbor rest ih =>
      intro predecessor frontier
      rw [relax]
      by_cases h : predecessor[neighbor]? = some none
      · rw [if_pos h, ih, List.length_append, List.length_singleton,
          ← count_none_set h current]
        omega
      · rw [if_neg h, ih]

/-- The search: the first goal that leaves the frontier, and the table of
predecessors. -/
def searchGoal (isGoal : List Bool) (adjacency : List (List Nat)) :
    List Nat → List (Option Nat) → Option Nat × List (Option Nat)
  | [], predecessor => (none, predecessor)
  | current :: frontier, predecessor =>
      if isGoal[current]? = some true then (some current, predecessor)
      else
        searchGoal isGoal adjacency
          (relax current ((adjacency[current]?).getD []) predecessor
            frontier).2
          (relax current ((adjacency[current]?).getD []) predecessor
            frontier).1
termination_by frontier predecessor =>
  predecessor.count none + frontier.length
decreasing_by
  rw [count_relax, List.length_cons]
  omega

/-- The loop back along the predecessors, to a start. -/
def wayBack (predecessor : List (Option Nat)) : Nat → Nat → Option (List Nat)
  | 0, _ => none
  | fuel + 1, index =>
      match (predecessor[index]?).join with
      | none => none
      | some previous =>
          if previous = index then some [index]
          else (wayBack predecessor fuel previous).map (index :: ·)

/-- The regions from a start to the selected goal. -/
def routeIndices (predecessor : List (Option Nat)) (selected : Nat) :
    Option (List Nat) :=
  (wayBack predecessor predecessor.length selected).map List.reverse

namespace SafeAtlas

-- === graph

/-- The regions that hold a configuration, ordered by id. -/
def holding (atlas : SafeAtlas α) (configuration : List α) : List Nat :=
  Lib.Sorting.sort
    (fun index => ((atlas.regions[index]?).elim 0 (·.id)).toNat)
    ((List.range atlas.regions.length).filter fun index =>
      (atlas.regions[index]?).any fun region =>
        region.bounds.contains configuration Scalar.zero)

/-- Whether the boxes of two regions have a point in common. -/
def intersect (atlas : SafeAtlas α) (left right : Nat) : Bool :=
  (atlas.regions[left]?).any fun first =>
    (atlas.regions[right]?).any fun second =>
      (intersectionWitness first.bounds second.bounds).isSome

/-- A row of `certified_adjacency`. -/
def certifiedRow (atlas : SafeAtlas α) (index : Nat)
    (neighbors : List Nat) : Result (List Nat) :=
  if neighbors.any fun neighbor => atlas.regions.length ≤ neighbor then
    failure .internalError "Atlas adjacency references an unknown region"
  else
    .ok ((Lib.Sorting.sort
      (fun neighbor => ((atlas.regions[neighbor]?).elim 0 (·.id)).toNat)
      (neighbors.filter (atlas.intersect index))).destutter (· ≠ ·))

/-- `certified_adjacency`. -/
def certifiedAdjacency (atlas : SafeAtlas α) : Result (List (List Nat)) :=
  atlas.adjacency.zipIdx.mapM fun row => atlas.certifiedRow row.2 row.1

/-- The points where consecutive boxes intersect. -/
def witnesses : List (CspaceAabb α) → Result (List (List α))
  | [] => .ok []
  | [_] => .ok []
  | first :: second :: rest =>
      match intersectionWitness first second with
      | none => failure .internalError
          "Atlas route lost its intersection witness"
      | some witness => do
          let later ← witnesses (second :: rest)
          .ok (witness :: later)

end SafeAtlas

-- === certificates

/-- `std::min`, where `none` is infinity. -/
def leastClearance (clearance : Option α) (value : α) : Option α :=
  match clearance with
  | some least => some (Scalar.min least value)
  | none =>
      if Scalar.isFinite value || Scalar.lt value Scalar.zero
        then some value else none

/-- The loop over the certificates of a route: the smallest clearance and
the padding. -/
def chainCertificates (robotDigest sceneDigest : Bytes) :
    List (Option (Certificate α)) → Option α → Option α →
      Result (Option α × Option α)
  | [], clearance, padding => .ok (clearance, padding)
  | none :: _, _, _ =>
      failure .internalError "Atlas route region has no certificate"
  | some certificate :: rest, clearance, padding =>
      if certificate.level ≠ .certifiedRegion
          ∨ certificate.robotDigest ≠ robotDigest
          ∨ certificate.sceneDigest ≠ sceneDigest then
        failure .internalError "Atlas route region certificate is invalid"
      else if padding.any fun value =>
          !Scalar.eq certificate.policy.obstaclePadding value then
        failure .internalError
          "Atlas route certificate padding policies differ"
      else
        chainCertificates robotDigest sceneDigest rest
          (leastClearance clearance certificate.clearanceLowerBound)
          (some (padding.getD certificate.policy.obstaclePadding))

end

-- === route

section
variable {α : Type} [MetricScalar α] (P : Platform)

/-- The subject of a route. -/
def routeSubject (regions : List (SafeRegion α))
    (certificateIds : List Bytes) (waypoints : List (List α)) : Bytes :=
  P.sha256 (dump P.toLibc false 0 (.object (obj
    [("region_bounds", .array (regions.map fun region =>
        .string (boxIdentity P region.bounds))),
      ("region_certificates", .array (certificateIds.map .string)),
      ("region_sequence", .array (regions.map fun region =>
        .string (stdToString region.id.toNat))),
      ("type", .string (ascii "atlas-convex-aabb-chain")),
      ("waypoints", .array (waypoints.map fun waypoint =>
        .array (waypoint.map MetricScalar.json)))])))

namespace SafeAtlas

/-- The route through a chain of regions. -/
def routeThrough (atlas : SafeAtlas α) (first second : List α)
    (indices : List Nat) : Result (AtlasRoute α) := do
  let regions := indices.filterMap fun index => atlas.regions[index]?
  let witnesses ← witnesses (regions.map (·.bounds))
  let waypoints := [first] ++ witnesses ++ [second]
  let certificates := regions.map fun region =>
    atlas.certificates[region.certificateIndex]?
  let totals ← chainCertificates atlas.robotDigest atlas.sceneDigest
    certificates none none
  let clearance := match totals.1 with
    | some value => if Scalar.isFinite value then value else Scalar.zero
    | none => Scalar.zero
  let certificate ← makeSubjectCertificate P .certifiedConnectivity
    atlas.robotDigest atlas.sceneDigest
    ⟨ascii "atlas-convex-aabb-chain", ascii "1",
      totals.2.getD Scalar.zero⟩
    (routeSubject P regions
      (certificates.filterMap fun certificate => certificate.map (·.id))
      waypoints) clearance
  .ok { regionSequence := regions.map (·.id), waypoints, certificate }

/-- `SafeAtlas::route`. -/
def route (atlas : SafeAtlas α) (first second : List α) :
    Option (Result (Option (AtlasRoute α))) :=
  match (do
    validateConfiguration first atlas.dimension (ascii "Atlas route start")
    validateConfiguration second atlas.dimension (ascii "Atlas route goal")
    if atlas.adjacency.length ≠ atlas.regions.length then
      failure .internalError "Atlas adjacency size does not match regions"
    else .ok () : Result Unit) with
  | .error e => some (.error e)
  | .ok () =>
      let starts := atlas.holding first
      let goals := atlas.holding second
      if starts = [] ∨ goals = [] then some (.ok none)
      else
        match atlas.certifiedAdjacency with
        | .error e => some (.error e)
        | .ok adjacency =>
            let isGoal := goals.foldl (fun table goal => table.set goal true)
              (List.replicate atlas.regions.length false)
            let predecessor := starts.foldl
              (fun table start => table.set start (some start))
              (List.replicate atlas.regions.length none)
            match searchGoal isGoal adjacency starts predecessor with
            | (none, _) => some (.ok none)
            | (some selected, predecessor) =>
                (routeIndices predecessor selected).map fun indices =>
                  (atlas.routeThrough P first second indices).map some

/-- `SafeAtlas::connected`. -/
def connected (atlas : SafeAtlas α) (first second : List α) :
    Option (Result Bool) :=
  (atlas.route P first second).map fun result =>
    result.map Option.isSome

end SafeAtlas

end

end RbfSafe.Atlas
