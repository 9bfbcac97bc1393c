/-
`region_index.cpp`: the tree of boxes a point query goes through.

`build_node` sorts its part of `indices_` by the centers along the axis
of greatest spread, halves it, and builds a node for each half; a node
holds the box that encloses its regions. `indices_` is one vector that
every call reorders in place, each in its own range: here a call takes
its range and returns it reordered, and a leaf remembers where its range
stands. The vector `nodes_` is the tree its subscripts describe.

The infinities from which the source starts a minimum or a maximum are
neutral: the ranges are not empty, and the fold starts from their first
element. A region or an axis that is not there is subscripted without a
check in the source and adds nothing here.
-/
import RbfSafe.Atlas.Types

namespace RbfSafe.Atlas

variable {α : Type} [Scalar α]

/-- `leaf_capacity`. -/
def leafCapacity : Nat := 8

namespace RegionQueryIndex

/-- `RegionQueryIndex::Node`. -/
inductive Node (α : Type) where
  | leaf (bounds : CspaceAabb α) (first last : Nat)
  | branch (bounds : CspaceAabb α) (left right : Node α)

/-- `Node::bounds`. -/
def Node.bounds : Node α → CspaceAabb α
  | leaf bounds _ _ => bounds
  | branch bounds _ _ => bounds

/-- `regions[index].bounds`. -/
def boundsAt (regions : List (SafeRegion α)) (index : Nat) :
    CspaceAabb α :=
  (regions[index]?).elim ⟨[]⟩ (·.bounds)

/-- An axis of the regions of a range. -/
def axesOf (regions : List (SafeRegion α)) (range : List Nat)
    (axis : Nat) : List (Interval α) :=
  range.filterMap fun index => (boundsAt regions index).axes[axis]?

/-- An axis of `enclosing_box`. -/
def enclosingAxis : List (Interval α) → Interval α
  | [] => ⟨Scalar.zero, Scalar.zero⟩
  | first :: rest => rest.foldl (fun enclosing axis =>
      { lower := Scalar.min enclosing.lower axis.lower
        upper := Scalar.max enclosing.upper axis.upper }) first

/-- `enclosing_box`. -/
def enclosingBox (regions : List (SafeRegion α)) (range : List Nat)
    (dimension : Nat) : CspaceAabb α :=
  ⟨(List.range dimension).map fun axis =>
    enclosingAxis (axesOf regions range axis)⟩

/-- The spread of the centers along an axis. -/
def spread (rootWidth : α) : List α → α
  | [] => Scalar.zero
  | first :: rest =>
      Scalar.div
        (Scalar.sub (rest.foldl Scalar.max first)
          (rest.foldl Scalar.min first))
        (if Scalar.lt Scalar.zero rootWidth then rootWidth else Scalar.one)

/-- The loop of `build_node` that selects the axis. -/
def chooseAxis (regions : List (SafeRegion α)) (range : List Nat) :
    List α → Nat → Nat → α → Nat
  | [], _, splitAxis, _ => splitAxis
  | rootWidth :: rest, axis, splitAxis, bestSpread =>
      let here := spread rootWidth
        ((axesOf regions range axis).map Interval.center)
      if Scalar.lt bestSpread here then
        chooseAxis regions range rest (axis + 1) axis here
      else chooseAxis regions range rest (axis + 1) splitAxis bestSpread

/-- The comparator of `build_node`. -/
def before (regions : List (SafeRegion α)) (splitAxis left right : Nat) :
    Bool :=
  match (boundsAt regions left).axes[splitAxis]?,
      (boundsAt regions right).axes[splitAxis]? with
  | some leftAxis, some rightAxis =>
      if !Scalar.eq leftAxis.center rightAxis.center then
        Scalar.lt leftAxis.center rightAxis.center
      else (regions[left]?).any fun first =>
        (regions[right]?).any fun second => decide (first.id < second.id)
  | _, _ => false

/-- The range of a node, sorted along the axis of greatest spread. -/
def sortRange (regions : List (SafeRegion α)) (rootWidths : List α)
    (range : List Nat) : List Nat :=
  let splitAxis :=
    chooseAxis regions range rootWidths 0 0 (Scalar.neg Scalar.one)
  range.mergeSort fun left right => !before regions splitAxis right left

theorem length_sortRange (regions : List (SafeRegion α))
    (rootWidths : List α) (range : List Nat) :
    (sortRange regions rootWidths range).length = range.length :=
  List.length_mergeSort _

/-- `build_node` on the range that starts at `first`, with the range it
leaves. -/
def buildNode (regions : List (SafeRegion α)) (dimension : Nat)
    (rootWidths : List α) (first : Nat) (range : List Nat) :
    Node α × List Nat :=
  let bounds := enclosingBox regions range dimension
  if range.length ≤ leafCapacity then
    (.leaf bounds first (first + range.length), range)
  else
    let sorted := sortRange regions rootWidths range
    let middle := range.length / 2
    let left := buildNode regions dimension rootWidths first
      (sorted.take middle)
    let right := buildNode regions dimension rootWidths (first + middle)
      (sorted.drop middle)
    (.branch bounds left.1 right.1, left.2 ++ right.2)
termination_by range.length
decreasing_by
  all_goals
    unfold leafCapacity at *
    simp only [List.length_take, List.length_drop, length_sortRange]
    omega

end RegionQueryIndex

/-- `RegionQueryIndex`, with the root of the tree if it has nodes. -/
structure RegionQueryIndex (α : Type) where
  dimension : Nat
  rootWidths : List α := []
  indices : List Nat
  root : Option (RegionQueryIndex.Node α) := none

namespace RegionQueryIndex

/-- `RegionQueryIndex::build`. -/
def build (regions : List (SafeRegion α)) (dimension : Nat) :
    RegionQueryIndex α :=
  let indices := List.range regions.length
  if regions.isEmpty ∨ dimension = 0 then { dimension, indices }
  else
    let rootWidths :=
      (enclosingBox regions indices dimension).axes.map Interval.width
    let built := buildNode regions dimension rootWidths 0 indices
    { dimension, rootWidths, indices := built.2, root := some built.1 }

/-- The part of `indices_` that belongs to a leaf. -/
def slice (indices : List Nat) (first last : Nat) : List Nat :=
  (indices.drop first).take (last - first)

/-- `RegionQueryIndex::collect`. -/
def collect (regions : List (SafeRegion α)) (indices : List Nat)
    (configuration : List α) : Node α → List Nat
  | .leaf bounds first last =>
      if bounds.contains configuration Scalar.tolerance then
        (slice indices first last).filter fun index =>
          (boundsAt regions index).contains configuration Scalar.tolerance
      else []
  | .branch bounds left right =>
      if bounds.contains configuration Scalar.tolerance then
        collect regions indices configuration left
          ++ collect regions indices configuration right
      else []

/-- `RegionQueryIndex::containing`. -/
def containing (index : RegionQueryIndex α) (configuration : List α)
    (regions : List (SafeRegion α)) : List Nat :=
  Lib.Sorting.sort (fun found : Nat => found)
    (index.root.elim [] (collect regions index.indices configuration))

/-- The id of `regions[index]`. -/
def idAt (regions : List (SafeRegion α)) (index : Nat) : RegionId :=
  (regions[index]?).elim 0 (·.id)

/-- A candidate against the region selected so far and its distance. -/
def improve (regions : List (SafeRegion α)) (configuration : List α)
    (best : Nat × α) (candidate : Nat) : Nat × α :=
  let distance :=
    pointBoxDistanceSquared configuration (boundsAt regions candidate)
  if Scalar.lt distance best.2
      || (Scalar.eq distance best.2
        && decide (idAt regions candidate < idAt regions best.1)) then
    (candidate, distance)
  else best

/-- `RegionQueryIndex::search_nearest`, with `selected` and
`best_distance` as a pair. -/
def searchNearest (regions : List (SafeRegion α)) (indices : List Nat)
    (configuration : List α) : Node α → Nat × α → Nat × α
  | .leaf bounds first last, best =>
      if Scalar.lt best.2 (pointBoxDistanceSquared configuration bounds) then
        best
      else (slice indices first last).foldl
        (improve regions configuration) best
  | .branch bounds left right, best =>
      if Scalar.lt best.2 (pointBoxDistanceSquared configuration bounds) then
        best
      else if Scalar.le
          (pointBoxDistanceSquared configuration left.bounds)
          (pointBoxDistanceSquared configuration right.bounds) then
        searchNearest regions indices configuration right
          (searchNearest regions indices configuration left best)
      else
        searchNearest regions indices configuration left
          (searchNearest regions indices configuration right best)

/-- `RegionQueryIndex::nearest`. -/
def nearest (index : RegionQueryIndex α) (configuration : List α)
    (regions : List (SafeRegion α)) : Option Nat :=
  match index.root, index.indices with
  | some root, front :: _ =>
      some (searchNearest regions index.indices configuration root
        (front, pointBoxDistanceSquared configuration
          (boundsAt regions front))).1
  | _, _ => none

end RegionQueryIndex

end RbfSafe.Atlas
