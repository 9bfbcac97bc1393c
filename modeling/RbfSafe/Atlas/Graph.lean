/-
`encode_graph` and `decode_graph`: the payload of `graph.bin`.

The adjacency of an atlas in compressed rows. After a header (magic,
schema, vertex count) stand the offsets of the rows, one more than there
are rows, then the edge count, then the rows one after the other. The
reader walks row by row from one offset to the next; an edge is a
position only through the difference of two offsets.
-/
import RbfSafe.Core.Binary

namespace RbfSafe

/-- `kGraphMagic`. -/
def kGraphMagic : Bytes := ascii "RBFGRPH1"

/-- `kMaximumRegions`. -/
def kMaximumRegions : Nat := 10000000

/-- `kMaximumEdges`. -/
def kMaximumEdges : Nat := 200000000

-- === writing

/-- A run of 64-bit words. -/
def writeWords (words : List Nat) : Bytes :=
  words.flatMap fun word => writeU64 (UInt64.ofNat word)

/-- The offsets of rows that begin at a position, and where the last one
ends. -/
def rowOffsets : Nat → List (List Nat) → List Nat
  | position, [] => [position]
  | position, neighbors :: rest =>
      position :: rowOffsets (position + neighbors.length) rest

/-- The edges of the rows. -/
def edgeCount (adjacency : List (List Nat)) : Nat :=
  (adjacency.map List.length).sum

/-- The payload of rows that begin at a position. -/
def encodeGraphFrom (position : Nat) (storageSchema : UInt32)
    (adjacency : List (List Nat)) : Bytes :=
  kGraphMagic ++ writeU32 storageSchema
    ++ writeU64 (UInt64.ofNat adjacency.length)
    ++ writeWords (rowOffsets position adjacency)
    ++ writeU64 (UInt64.ofNat (position + edgeCount adjacency))
    ++ writeWords adjacency.flatten

/-- `encode_graph`, of the schema and the adjacency of an atlas. -/
def encodeGraph (storageSchema : UInt32) (adjacency : List (List Nat)) :
    Bytes :=
  encodeGraphFrom 0 storageSchema adjacency

-- === reading

/-- The loop over the offsets. -/
def readWords : Nat → BinaryReader (List Nat)
  | 0 => pure []
  | count + 1 => do
      let word ← readU64
      let rest ← readWords count
      pure (word.toNat :: rest)

/-- The loop over the neighbors of a vertex: `previous` is the one before,
if there is one. -/
def readNeighbors (expectedVertices vertex : Nat) :
    Nat → Option Nat → BinaryReader (List Nat)
  | 0, _ => pure []
  | count + 1, previous => do
      let neighbor ← readU64
      if neighbor.toNat ≥ expectedVertices ∨ neighbor.toNat = vertex
          ∨ (∃ last ∈ previous, neighbor.toNat ≤ last) then
        BinaryReader.fail .corruptData "invalid graph neighbor list"
      else
        let rest ← readNeighbors expectedVertices vertex count
          (some neighbor.toNat)
        pure (neighbor.toNat :: rest)

/-- The loop over the vertices, from an offset to the next. -/
def readRowsFrom (expectedVertices : Nat) :
    Nat → List Nat → BinaryReader (List (List Nat))
  | vertex, start :: finish :: offsets => do
      let neighbors ← readNeighbors expectedVertices vertex
        (finish - start) none
      let rest ← readRowsFrom expectedVertices (vertex + 1)
        (finish :: offsets)
      pure (neighbors :: rest)
  | _, _ => pure []

/-- What is read before the payload must end. -/
def readGraph (expectedVertices : Nat) (expectedSchema : UInt32) :
    BinaryReader (List (List Nat)) := do
  let magic ← readFixedText kGraphMagic.length
  if magic ≠ kGraphMagic then
    BinaryReader.fail .incompatibleFormat "invalid graph payload magic"
  else
    let schema ← readU32
    if schema ≠ expectedSchema then
      BinaryReader.fail .incompatibleFormat
        "unsupported graph payload schema"
    else
      let vertices ← readU64
      if vertices.toNat ≠ expectedVertices
          ∨ vertices.toNat > kMaximumRegions then
        BinaryReader.fail .corruptData
          "graph vertex count does not match regions"
      else
        let offsets ← readWords (vertices.toNat + 1)
        let total ← readU64
        if total.toNat > kMaximumEdges
            ∨ offsets.getLast? ≠ some total.toNat then
          BinaryReader.fail .corruptData "invalid graph edge count"
        else if ¬ offsets.IsChain (· ≤ ·) then
          BinaryReader.fail .corruptData "graph offsets are not monotonic"
        else
          readRowsFrom expectedVertices 0 offsets

/-- `std::binary_search`, which on a sorted range finds what is there. -/
def binarySearch (range : List Nat) (value : Nat) : Bool :=
  range.contains value

/-- The last loop of `decode_graph`: a neighbor lists its neighbor. -/
def symmetricRows (graph : List (List Nat)) : Bool :=
  (graph.zipIdx).all fun row => row.1.all fun neighbor =>
    (graph[neighbor]?).any fun back => binarySearch back row.2

/-- `decode_graph`. -/
def decodeGraph (bytes : Bytes) (expectedVertices : Nat)
    (expectedSchema : UInt32) : Result (List (List Nat)) := do
  let (graph, rest) ← readGraph expectedVertices expectedSchema bytes
  if rest ≠ [] then
    failure .corruptData "graph payload has trailing bytes"
  else if symmetricRows graph = false then
    failure .corruptData "graph adjacency is not symmetric"
  else .ok graph

end RbfSafe
