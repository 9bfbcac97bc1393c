/-
`atlas.cpp`: point queries on an atlas.

`regions_at` and `nearest_region` ask the query index, if the atlas has
one, and go through the regions otherwise.
-/
import RbfSafe.Atlas.RegionIndex

namespace RbfSafe.Atlas

open RegionQueryIndex

variable {α : Type} [Scalar α]

namespace SafeAtlas

/-- `rebuild_query_index`. -/
def queryIndex (atlas : SafeAtlas α) : RegionQueryIndex α :=
  RegionQueryIndex.build atlas.regions atlas.dimension

/-- `SafeAtlas::regions_at`, given `query_index_`. -/
def regionsAt (atlas : SafeAtlas α)
    (queryIndex : Option (RegionQueryIndex α)) (configuration : List α) :
    Result (List (SafeRegion α)) := do
  validateConfiguration configuration atlas.dimension
    (ascii "configuration")
  match queryIndex with
  | some index =>
      .ok ((index.containing configuration atlas.regions).filterMap
        fun found => atlas.regions[found]?)
  | none =>
      .ok (atlas.regions.filter fun region =>
        region.bounds.contains configuration Scalar.tolerance)

/-- `SafeAtlas::contains`. -/
def contains (atlas : SafeAtlas α)
    (queryIndex : Option (RegionQueryIndex α)) (configuration : List α) :
    Bool :=
  match atlas.regionsAt queryIndex configuration with
  | .ok found => !found.isEmpty
  | .error _ => false

/-- The scan of `nearest_region`. -/
def scanNearest (regions : List (SafeRegion α))
    (configuration : List α) : Nat :=
  ((List.range' 1 (regions.length - 1)).foldl
    (improve regions configuration)
    (0, pointBoxDistanceSquared configuration (boundsAt regions 0))).1

/-- `SafeAtlas::nearest_region`, given `query_index_`. -/
def nearestRegion (atlas : SafeAtlas α)
    (queryIndex : Option (RegionQueryIndex α)) (configuration : List α) :
    Result (Option (SafeRegion α)) := do
  validateConfiguration configuration atlas.dimension
    (ascii "configuration")
  if atlas.regions.isEmpty then .ok none
  else
    match queryIndex with
    | some index =>
        .ok ((index.nearest configuration atlas.regions).bind
          fun selected => atlas.regions[selected]?)
    | none => .ok atlas.regions[scanNearest atlas.regions configuration]?

end SafeAtlas

end RbfSafe.Atlas
