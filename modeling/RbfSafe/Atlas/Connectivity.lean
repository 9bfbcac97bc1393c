/-
The graph of the regions: which are adjacent, and the components.

`rebuild_graph` of `dynamic.cpp` and the end of `AtlasBuilder::build` are
the same two loops. The first connects the regions whose boxes overlap
within a tolerance; the second labels the regions, component by
component, by a breadth-first search from the first region that is not
visited yet.
-/
import RbfSafe.Atlas.Types

namespace RbfSafe.Atlas

-- === adjacency

/-- The pairs `left < right`, in the order of the nested loops. -/
def indexPairs (count : Nat) : List (Nat × Nat) :=
  (List.range count).flatMap fun left =>
    (List.range' (left + 1) (count - (left + 1))).map fun right =>
      (left, right)

/-- Two regions get to know each other. -/
def connect (adjacency : List (List Nat)) (left right : Nat) :
    List (List Nat) :=
  (adjacency.modify left (· ++ [right])).modify right (· ++ [left])

/-- The first loop of `rebuild_graph`, given which boxes overlap. -/
def connectAll (overlap : Nat → Nat → Bool) (count : Nat) :
    List (List Nat) :=
  (indexPairs count).foldl (fun adjacency pair =>
    if overlap pair.1 pair.2 then connect adjacency pair.1 pair.2
    else adjacency) (List.replicate count [])

/-- Whether the boxes of two regions overlap. -/
def regionsOverlap {α : Type} [Scalar α] (regions : List (SafeRegion α))
    (tolerance : α) (left right : Nat) : Bool :=
  (regions[left]?).any fun first =>
    (regions[right]?).any fun second =>
      first.bounds.overlaps second.bounds tolerance

-- === components

/-- The neighbors of a region are put on the frontier, unless they have
been visited. -/
def enqueue : List Nat → List Bool → List Nat → List Bool × List Nat
  | [], visited, frontier => (visited, frontier)
  | neighbor :: rest, visited, frontier =>
      if visited[neighbor]? = some false then
        enqueue rest (visited.set neighbor true) (frontier ++ [neighbor])
      else enqueue rest visited frontier

theorem count_false_set {visited : List Bool} {index : Nat}
    (h : visited[index]? = some false) :
    (visited.set index true).count false + 1 = visited.count false := by
  induction visited generalizing index with
  | nil => cases h
  | cons first rest ih =>
      cases index with
      | zero =>
          rw [List.getElem?_cons_zero, Option.some_inj] at h
          rw [List.set_cons_zero, h]
          simp
      | succ index =>
          rw [List.getElem?_cons_succ] at h
          rw [List.set_cons_succ, List.count_cons, List.count_cons, ← ih h]
          omega

/-- What is put on the frontier is no longer to be visited. -/
theorem count_enqueue : ∀ (neighbors : List Nat) (visited : List Bool)
    (frontier : List Nat),
    (enqueue neighbors visited frontier).1.count false
        + (enqueue neighbors visited frontier).2.length
      = visited.count false + frontier.length := by
  intro neighbors
  induction neighbors with
  | nil => intro _ _; rfl
  | cons neighbor rest ih =>
      intro visited frontier
      rw [enqueue]
      by_cases h : visited[neighbor]? = some false
      · rw [if_pos h, ih, List.length_append, List.length_singleton,
          ← count_false_set h]
        omega
      · rw [if_neg h, ih]

/-- The search from one region: `component` is given to every region that
leaves the frontier. -/
def search (adjacency : List (List Nat)) (component : ComponentId) :
    List Nat → List Bool → List ComponentId →
      List Bool × List ComponentId
  | [], visited, components => (visited, components)
  | current :: frontier, visited, components =>
      search adjacency component
        (enqueue ((adjacency[current]?).getD []) visited frontier).2
        (enqueue ((adjacency[current]?).getD []) visited frontier).1
        (components.set current component)
termination_by frontier visited => visited.count false + frontier.length
decreasing_by
  rw [count_enqueue, List.length_cons]
  omega

/-- The second loop of `rebuild_graph`, over the regions a search may
start from. -/
def label (adjacency : List (List Nat)) : List Nat → ComponentId →
    List Bool → List ComponentId → List ComponentId
  | [], _, _, components => components
  | start :: rest, component, visited, components =>
      if visited[start]? = some false then
        let found := search adjacency (component + 1) [start]
          (visited.set start true) components
        label adjacency rest (component + 1) found.1 found.2
      else label adjacency rest component visited components

/-- The components of a graph. -/
def labelAll (adjacency : List (List Nat)) : List ComponentId :=
  label adjacency (List.range adjacency.length) 0
    (List.replicate adjacency.length false)
    (List.replicate adjacency.length 0)

/-- `rebuild_graph`: the regions with their components, and the graph. -/
def rebuildGraph {α : Type} [Scalar α] (regions : List (SafeRegion α))
    (tolerance : α) : List (SafeRegion α) × List (List Nat) :=
  let adjacency := connectAll (regionsOverlap regions tolerance)
    regions.length
  (List.zipWith (fun region component => { region with component })
    regions (labelAll adjacency), adjacency)

end RbfSafe.Atlas
