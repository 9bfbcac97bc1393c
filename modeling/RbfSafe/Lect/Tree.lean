/-
`lect.cpp`: the binary partition of a configuration-space box.

A node table with an index by key. `split` halves a leaf across its
relatively widest axis and appends the two children; `locate` descends
from the root, comparing one coordinate with the center of the stored
box at each branch; `restore` admits a table that was read from a file.

# Indices

The source subscripts its vectors without a check. Where an index is
outside the vector the model answers with an internal error, which is
not a behaviour of the source; the invariant of `Lect/Proofs` excludes
it. The loop of `locate` has fuel, and `none` when it runs out.
-/
import RbfSafe.Core.Box

namespace RbfSafe

variable {α : Type}

/-- `LectNodeKey`. -/
@[ext] structure LectNodeKey where
  path : Bytes
deriving DecidableEq, Repr

namespace LectNodeKey

/-- `LectNodeKey::depth`. -/
def depth (key : LectNodeKey) : Nat := key.path.length

/-- `LectNodeKey::root`. -/
def root : LectNodeKey := ⟨[]⟩

/-- `LectNodeKey::to_string`. -/
def toString (key : LectNodeKey) : Bytes :=
  if key.path.isEmpty then ascii "root" else key.path

/-- `LectNodeKey::valid`: a path of the characters `0` and `1`. -/
def valid (key : LectNodeKey) : Bool :=
  key.path.all fun value => value == 48 || value == 49

/-- `LectNodeKey(path + "0")`. -/
def leftChild (key : LectNodeKey) : LectNodeKey := ⟨key.path ++ [48]⟩

/-- `LectNodeKey(path + "1")`. -/
def rightChild (key : LectNodeKey) : LectNodeKey := ⟨key.path ++ [49]⟩

end LectNodeKey

/-- `SplitStrategy`: an enumeration over `uint8_t`, which a cast can give
any value of eight bits. -/
structure SplitStrategy where
  value : UInt8
deriving DecidableEq, Repr

/-- `SplitStrategy::NormalizedLongestAxis`. -/
def SplitStrategy.normalizedLongestAxis : SplitStrategy := ⟨0⟩

/-- `SplitPolicy`. -/
structure SplitPolicy (α : Type) where
  strategy : SplitStrategy
  minimumNormalizedWidth : α
deriving DecidableEq

/-- `LectNode`. -/
structure LectNode (α : Type) where
  key : LectNodeKey
  box : CspaceAabb α
  leaf : Bool
  splitDimension : Nat
  left : LectNodeKey
  right : LectNodeKey
deriving DecidableEq

/-- `LectTree`. -/
structure LectTree (α : Type) where
  root : CspaceAabb α
  policy : SplitPolicy α
  nodes : List (LectNode α)
  indices : List (Bytes × Nat)
deriving DecidableEq

/-- `unordered_map::emplace`: an entry that exists is kept. -/
def emplaceIndex (indices : List (Bytes × Nat)) (path : Bytes)
    (index : Nat) : List (Bytes × Nat) :=
  if indices.any (fun entry => entry.1 == path) then indices
  else indices ++ [(path, index)]

variable [Scalar α]

/-- `validate_policy`. -/
def validatePolicy (policy : SplitPolicy α) : Result Unit :=
  if policy.strategy ≠ .normalizedLongestAxis then
    failure .invalidArgument "unsupported LECT split strategy"
  else if !Scalar.isFinite policy.minimumNormalizedWidth
      || Scalar.lt policy.minimumNormalizedWidth Scalar.zero
      || Scalar.le Scalar.one policy.minimumNormalizedWidth then
    failure .invalidArgument "minimum normalized width must be in [0, 1)"
  else .ok ()

/-- A node that has not been split. -/
def LectNode.unsplit (key : LectNodeKey) (box : CspaceAabb α) : LectNode α where
  key := key
  box := box
  leaf := true
  splitDimension := 0
  left := key.leftChild
  right := key.rightChild

namespace LectTree

/-- `kMaximumDimension`. -/
def kMaximumDimension : Nat := 64

/-- `LectTree::create`. -/
def create (root : CspaceAabb α) (policy : SplitPolicy α) :
    Result (LectTree α) :=
  if root.valid = false ∨ root.dimension > kMaximumDimension then
    failure .invalidArgument "LECT root domain is invalid"
  else do
    validatePolicy policy
    if root.axes.any fun axis => Scalar.le axis.width Scalar.zero then
      failure .invalidArgument "LECT root axes must have positive width"
    else
      .ok { root := root
            policy := policy
            nodes := [LectNode.unsplit .root root]
            indices := [([], 0)] }

/-- The loop of `restore` over the node table: each row is checked, its
key entered into the index and its children named. -/
def restoreRows (dimension : Nat) :
    List (LectNode α) → Nat → List (Bytes × Nat) →
      Result (List (LectNode α) × List (Bytes × Nat))
  | [], _, indices => .ok ([], indices)
  | node :: rest, index, indices =>
      if node.key.valid = false ∨ node.box.valid = false
          ∨ node.box.dimension ≠ dimension then
        failure .corruptData "invalid LECT node" node.key.toString
      else if indices.any (fun entry => entry.1 == node.key.path) then
        failure .corruptData "duplicate LECT node key" node.key.toString
      else if node.leaf = false ∧ node.splitDimension ≥ dimension then
        failure .corruptData "invalid LECT split dimension" node.key.toString
      else do
        let table ← restoreRows dimension rest (index + 1)
          (emplaceIndex indices node.key.path index)
        .ok ({ node with left := node.key.leftChild
                         right := node.key.rightChild } :: table.1, table.2)

/-- Whether `indices_` has a key. -/
def hasKey (indices : List (Bytes × Nat)) (key : LectNodeKey) : Bool :=
  indices.any fun entry => entry.1 == key.path

/-- The last loop of `restore`. -/
def checkChildren (indices : List (Bytes × Nat)) :
    List (LectNode α) → Result Unit
  | [] => .ok ()
  | node :: rest =>
      if node.leaf = false ∧ (hasKey indices node.left = false
          ∨ hasKey indices node.right = false) then
        failure .corruptData "LECT branch is missing a child"
          node.key.toString
      else checkChildren indices rest

/-- `LectTree::restore`. -/
def restore (root : CspaceAabb α) (policy : SplitPolicy α)
    (nodes : List (LectNode α)) : Result (LectTree α) := do
  let created ← create root policy
  match nodes with
  | [] => failure .corruptData "LECT node table has no root"
  | front :: _ =>
      if front.key ≠ .root then
        failure .corruptData "LECT node table has no root"
      else
        let table ← restoreRows created.root.dimension nodes 0 []
        if axesEq front.box.axes created.root.axes = false then
          failure .corruptData "LECT root node does not match root domain"
        else
          checkChildren table.2 table.1
          .ok { root := created.root
                policy := policy
                nodes := table.1
                indices := table.2 }

/-- `LectTree::index_of`. -/
def indexOf (tree : LectTree α) (key : LectNodeKey) : Result Nat :=
  if key.valid = false then
    failure .invalidArgument "invalid LECT node key"
  else match tree.indices.find? fun entry => entry.1 == key.path with
    | none => failure .invalidArgument "LECT node key does not exist"
        key.toString
    | some entry => .ok entry.2

/-- A subscript outside its vector. -/
def outOfRange {β : Type} : Result β :=
  failure .internalError "vector subscript out of range"

/-- `LectTree::node`. -/
def node (tree : LectTree α) (key : LectNodeKey) : Result (LectNode α) := do
  let index ← tree.indexOf key
  match tree.nodes[index]? with
  | none => outOfRange
  | some node => .ok node

/-- The loop of `choose_split_dimension`: the first axis whose relative
width exceeds all before it. -/
def chooseLoop : List (Interval α × Interval α) → Nat → Nat → α → Nat
  | [], _, selected, _ => selected
  | (axis, rootAxis) :: rest, dimension, selected, selectedWidth =>
      let normalized := Scalar.div axis.width rootAxis.width
      if Scalar.lt selectedWidth normalized then
        chooseLoop rest (dimension + 1) dimension normalized
      else chooseLoop rest (dimension + 1) selected selectedWidth

/-- `LectTree::choose_split_dimension`. -/
def chooseSplitDimension (tree : LectTree α) (box : CspaceAabb α) : Nat :=
  chooseLoop (box.axes.zip tree.root.axes) 0 0 (Scalar.neg Scalar.one)

/-- The nodes after a leaf has been halved at a point of one axis. -/
def splitNodes (tree : LectTree α) (key : LectNodeKey) (index : Nat)
    (node : LectNode α) (dimension : Nat) (midpoint : α) : LectTree α :=
  let leftBox : CspaceAabb α := ⟨node.box.axes.modify dimension
    fun axis => { axis with upper := midpoint }⟩
  let rightBox : CspaceAabb α := ⟨node.box.axes.modify dimension
    fun axis => { axis with lower := midpoint }⟩
  let left := key.leftChild
  let right := key.rightChild
  { tree with
    nodes := (tree.nodes ++ [LectNode.unsplit left leftBox]
        ++ [LectNode.unsplit right rightBox]).set index
          { node with leaf := false, splitDimension := dimension,
                      left := left, right := right }
    indices := emplaceIndex
      (emplaceIndex tree.indices left.path tree.nodes.length)
      right.path (tree.nodes.length + 1) }

/-- `LectTree::split`, with the tree it leaves. -/
def split (tree : LectTree α) (key : LectNodeKey) :
    Result (LectNodeKey × LectNodeKey) × LectTree α :=
  match tree.indexOf key with
  | .error e => (.error e, tree)
  | .ok index =>
      match tree.nodes[index]? with
      | none => (outOfRange, tree)
      | some node =>
          if node.leaf = false then (.ok (node.left, node.right), tree)
          else
            let dimension := tree.chooseSplitDimension node.box
            match node.box.axes[dimension]?, tree.root.axes[dimension]? with
            | some axis, some rootAxis =>
                if Scalar.le (Scalar.div axis.width rootAxis.width)
                    tree.policy.minimumNormalizedWidth then
                  (failure .resourceLimit
                    "LECT node reached minimum normalized width"
                    key.toString, tree)
                else if !(Scalar.lt axis.lower axis.center
                    && Scalar.lt axis.center axis.upper) then
                  (failure .resourceLimit
                    "LECT node cannot be split numerically"
                    key.toString, tree)
                else
                  (.ok (key.leftChild, key.rightChild),
                    tree.splitNodes key index node dimension axis.center)
            | _, _ => (outOfRange, tree)

/-- The loop of `locate`. -/
def locateFrom (tree : LectTree α) (configuration : List α) :
    Nat → Nat → Option (Result LectNodeKey)
  | 0, _ => none
  | fuel + 1, index =>
      match tree.nodes[index]? with
      | none => some outOfRange
      | some current =>
          if current.leaf then some (.ok current.key)
          else
            match current.box.axes[current.splitDimension]?,
                configuration[current.splitDimension]? with
            | some axis, some value =>
                let nextKey := if Scalar.le value axis.center
                  then current.left else current.right
                match tree.indexOf nextKey with
                | .error _ =>
                    some (failure .corruptData "LECT branch is incomplete")
                | .ok next => locateFrom tree configuration fuel next
            | _, _ => some outOfRange

/-- `LectTree::locate`. -/
def locate (tree : LectTree α) (configuration : List α) :
    Option (Result LectNodeKey) :=
  match validateConfiguration configuration tree.root.dimension
      (ascii "configuration") with
  | .error e => some (.error e)
  | .ok () =>
      if tree.root.contains configuration Scalar.tolerance = false then
        some (failure .invalidArgument "configuration lies outside LECT root")
      else tree.locateFrom configuration tree.nodes.length 0

/-- The tree after a sequence of `split` calls, failing ones included. -/
def run (tree : LectTree α) (keys : List LectNodeKey) : LectTree α :=
  keys.foldl (fun tree key => (tree.split key).2) tree

end LectTree

end RbfSafe
