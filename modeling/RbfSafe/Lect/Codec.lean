/-
`encode_lect_tree` and `decode_lect_tree`: the payload of `nodes.bin`.

A header (magic, schema, dimension, node count, policy, root axes), then
a row for each node. The children of a node are not written; the reader
names them from the key. A leaf flag is written as 0 or 1 and read as
false or, from any other byte, true; `encodeWith` writes given flag
bytes, so that what a reader accepts can be written down again.
-/
import RbfSafe.Core.Binary
import RbfSafe.Lect.Tree

namespace RbfSafe

namespace LectTree

/-- `kLectMagic`. -/
def kLectMagic : Bytes := ascii "RBFLECT1"

/-- `kLectSchemaVersion`. -/
def kLectSchemaVersion : UInt32 := 1

/-- `kMaximumStoredNodes`. -/
def kMaximumStoredNodes : Nat := 10000000

/-- The limit of a stored path. -/
def kMaximumPathBytes : Nat := 4096

-- === writing

/-- The bounds of a box. -/
def writeAxes (axes : List (Interval Float)) : Bytes :=
  axes.flatMap fun axis => writeF64 axis.lower ++ writeF64 axis.upper

/-- The row of a node, its leaf flag written as the given byte. -/
def writeRow (row : UInt8 × LectNode Float) : Bytes :=
  writeString row.2.key.path ++ writeU8 row.1
    ++ writeU32 (UInt32.ofNat row.2.splitDimension)
    ++ writeAxes row.2.box.axes

/-- What stands before the rows. -/
def writeHeader (tree : LectTree Float) : Bytes :=
  kLectMagic ++ writeU32 kLectSchemaVersion
    ++ writeU32 (UInt32.ofNat tree.root.dimension)
    ++ writeU64 (UInt64.ofNat tree.nodes.length)
    ++ writeU8 tree.policy.strategy.value
    ++ writeF64 tree.policy.minimumNormalizedWidth
    ++ writeAxes tree.root.axes

/-- The payload with given leaf bytes. -/
def encodeWith (leafBytes : List UInt8) (tree : LectTree Float) : Bytes :=
  writeHeader tree ++ (leafBytes.zip tree.nodes).flatMap writeRow

/-- The byte of a leaf flag. -/
def leafByte (node : LectNode Float) : UInt8 := if node.leaf then 1 else 0

/-- `encode_lect_tree`. -/
def encodeLectTree (tree : LectTree Float) : Bytes :=
  encodeWith (tree.nodes.map leafByte) tree

-- === reading

/-- The bounds of one axis. -/
def readInterval : BinaryReader (Interval Float) := do
  let lower ← readF64
  let upper ← readF64
  pure ⟨lower, upper⟩

/-- The loop over the axes of a box. -/
def readAxes : Nat → BinaryReader (List (Interval Float))
  | 0 => pure []
  | dimension + 1 => do
      let axis ← readInterval
      let rest ← readAxes dimension
      pure (axis :: rest)

/-- One turn of the loop over the nodes. -/
def readRow (dimension : Nat) : BinaryReader (LectNode Float) := do
  let path ← readString kMaximumPathBytes
  let leaf ← readU8
  let splitDimension ← readU32
  let axes ← readAxes dimension
  pure { key := ⟨path⟩
         box := ⟨axes⟩
         leaf := leaf != 0
         splitDimension := splitDimension.toNat
         left := ⟨path ++ [48]⟩
         right := ⟨path ++ [49]⟩ }

/-- The loop over the nodes. -/
def readRows (dimension : Nat) : Nat → BinaryReader (List (LectNode Float))
  | 0 => pure []
  | count + 1 => do
      let node ← readRow dimension
      let rest ← readRows dimension count
      pure (node :: rest)

/-- What is read before the tree is restored. -/
structure LectTable where
  root : CspaceAabb Float
  policy : SplitPolicy Float
  nodes : List (LectNode Float)

/-- The reading part of `decode_lect_tree`. -/
def readTable : BinaryReader LectTable := do
  let magic ← readFixedText kLectMagic.length
  if magic ≠ kLectMagic then
    BinaryReader.fail .incompatibleFormat "invalid LECT magic"
  else
    let schema ← readU32
    if schema ≠ kLectSchemaVersion then
      BinaryReader.fail .incompatibleFormat "unsupported LECT schema"
    else
      let dimension ← readU32
      if dimension.toNat = 0 ∨ dimension.toNat > kMaximumDimension then
        BinaryReader.fail .corruptData "invalid LECT dimension"
      else
        let nodeCount ← readU64
        if nodeCount.toNat = 0 ∨ nodeCount.toNat > kMaximumStoredNodes then
          BinaryReader.fail .resourceLimit "invalid LECT node count"
        else
          let strategy ← readU8
          let minimumWidth ← readF64
          let rootAxes ← readAxes dimension.toNat
          let nodes ← readRows dimension.toNat nodeCount.toNat
          pure { root := ⟨rootAxes⟩
                 policy := ⟨⟨strategy⟩, minimumWidth⟩
                 nodes := nodes }

/-- `decode_lect_tree`. -/
def decodeLectTree (bytes : Bytes) : Result (LectTree Float) := do
  let (table, rest) ← readTable bytes
  if rest ≠ [] then
    failure .corruptData "LECT payload has trailing bytes"
  else restore table.root table.policy table.nodes

end LectTree

end RbfSafe
