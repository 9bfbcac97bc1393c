/-
What the graph payload says and which payloads say it.

The reader is inverted step by step: each loop returns a value exactly
where the bytes of that value stand and the checks of the loop hold.
The offsets it accepts are those of the rows it returns, counted from
wherever the first offset is: only differences of offsets are looked at.
A payload is the one that is written for its graph exactly if the first
offset is zero.
-/
import RbfSafe.Atlas.Graph

namespace RbfSafe

-- === the graphs

/-- A symmetric graph without loops, its rows strictly sorted. -/
structure Adjacency (graph : List (List Nat)) : Prop where
  sorted : ∀ row ∈ graph, row.Pairwise (· < ·)
  loopFree : ∀ (vertex : Nat) (row : List Nat),
    graph[vertex]? = some row → vertex ∉ row
  symmetric : ∀ (vertex : Nat) (row : List Nat) (neighbor : Nat),
    graph[vertex]? = some row → neighbor ∈ row →
      ∃ back, graph[neighbor]? = some back ∧ vertex ∈ back

/-- A neighbor is a vertex. -/
theorem Adjacency.lt_length {graph : List (List Nat)} (h : Adjacency graph)
    {row : List Nat} (hrow : row ∈ graph) {neighbor : Nat}
    (hneighbor : neighbor ∈ row) : neighbor < graph.length := by
  obtain ⟨vertex, hvertex⟩ := List.mem_iff_getElem?.mp hrow
  obtain ⟨back, hback, -⟩ := h.symmetric vertex row neighbor hvertex hneighbor
  exact (List.getElem?_eq_some_iff.mp hback).1

/-- What the loop over the neighbors of a vertex admits. -/
structure RowOf (expectedVertices vertex : Nat) (row : List Nat) : Prop where
  sorted : row.Pairwise (· < ·)
  vertices : ∀ neighbor ∈ row, neighbor < expectedVertices
  loopFree : vertex ∉ row

theorem symmetricRows_iff {graph : List (List Nat)} :
    symmetricRows graph = true ↔
      ∀ (vertex : Nat) (row : List Nat) (neighbor : Nat),
        graph[vertex]? = some row → neighbor ∈ row →
          ∃ back, graph[neighbor]? = some back ∧ vertex ∈ back := by
  unfold symmetricRows binarySearch
  simp only [List.all_eq_true, Option.any_eq_true, List.contains_eq_mem,
    decide_eq_true_eq]
  constructor
  · intro h vertex row neighbor hrow hneighbor
    have hmem : (row, vertex) ∈ graph.zipIdx := by
      rw [List.mk_mem_zipIdx_iff_getElem?]
      exact hrow
    exact h (row, vertex) hmem neighbor hneighbor
  · rintro h ⟨row, vertex⟩ hmem neighbor hneighbor
    rw [List.mk_mem_zipIdx_iff_getElem?] at hmem
    exact h vertex row neighbor hmem hneighbor

/-- The rows that were admitted one by one, and are symmetric, are an
adjacency. -/
theorem adjacency_of_rows {graph : List (List Nat)} {expectedVertices : Nat}
    (hrows : ∀ (vertex : Nat) (row : List Nat), graph[vertex]? = some row →
      RowOf expectedVertices vertex row)
    (hsymmetric : symmetricRows graph = true) : Adjacency graph where
  sorted row hrow := by
    obtain ⟨vertex, hvertex⟩ := List.mem_iff_getElem?.mp hrow
    exact (hrows vertex row hvertex).sorted
  loopFree vertex row hrow := (hrows vertex row hrow).loopFree
  symmetric := symmetricRows_iff.mp hsymmetric

-- === offsets

@[simp] theorem length_rowOffsets (graph : List (List Nat)) :
    ∀ position, (rowOffsets position graph).length = graph.length + 1 := by
  induction graph with
  | nil => intro position; rfl
  | cons row graph ih => intro position; simp [rowOffsets, ih]

theorem rowOffsets_eq_cons (position : Nat) (graph : List (List Nat)) :
    ∃ rest, rowOffsets position graph = position :: rest := by
  cases graph with
  | nil => exact ⟨[], rfl⟩
  | cons row graph => exact ⟨_, rfl⟩

theorem getLast?_rowOffsets (graph : List (List Nat)) : ∀ position,
    (rowOffsets position graph).getLast?
      = some (position + edgeCount graph) := by
  induction graph with
  | nil => intro position; rfl
  | cons row graph ih =>
      intro position
      obtain ⟨rest, hrest⟩ := rowOffsets_eq_cons (position + row.length) graph
      have h := ih (position + row.length)
      have hcount : edgeCount (row :: graph)
          = row.length + edgeCount graph := rfl
      rw [rowOffsets, List.getLast?_cons, h, Option.getD_some, hcount,
        Nat.add_assoc]

theorem isChain_rowOffsets (graph : List (List Nat)) : ∀ position,
    (rowOffsets position graph).IsChain (· ≤ ·) := by
  induction graph with
  | nil => intro position; exact .singleton _
  | cons row graph ih =>
      intro position
      have h := ih (position + row.length)
      rw [rowOffsets]
      obtain ⟨rest, hrest⟩ := rowOffsets_eq_cons (position + row.length) graph
      rw [hrest] at h ⊢
      exact .cons_cons (Nat.le_add_right _ _) h

/-- No offset exceeds the last. -/
theorem rowOffsets_le {graph : List (List Nat)} : ∀ {position offset : Nat},
    offset ∈ rowOffsets position graph →
      offset ≤ position + edgeCount graph := by
  induction graph with
  | nil =>
      intro position offset h
      rw [rowOffsets, List.mem_singleton] at h
      omega
  | cons row graph ih =>
      intro position offset h
      rw [rowOffsets, List.mem_cons] at h
      have hcount : edgeCount (row :: graph)
          = row.length + edgeCount graph := rfl
      rcases h with rfl | h
      · omega
      · have := ih h
        omega

-- === words

theorem toNat_ofNat_word {word : Nat} (h : word < 2 ^ 64) :
    (UInt64.ofNat word).toNat = word :=
  UInt64.toNat_ofNat_of_lt' (by simpa [UInt64.size] using h)

theorem readWords_eq_ok : ∀ {words : List Nat} {count : Nat}
    {data rest : Bytes},
    readWords count data = .ok (words, rest) ↔
      words.length = count ∧ (∀ word ∈ words, word < 2 ^ 64) ∧
        data = writeWords words ++ rest := by
  intro words
  induction words with
  | nil =>
      intro count data rest
      cases count with
      | zero => simp [readWords, reader_pure_eq_ok, writeWords]
      | succ count =>
          simp only [readWords, reader_bind_eq_ok, reader_pure_eq_ok]
          constructor
          · rintro ⟨value, tail, -, others, tail', -, habsurd, -⟩
            cases habsurd
          · rintro ⟨habsurd, -⟩
            cases habsurd
  | cons word words ih =>
      intro count data rest
      cases count with
      | zero => simp [readWords, reader_pure_eq_ok]
      | succ count =>
          simp only [readWords, reader_bind_eq_ok, reader_pure_eq_ok,
            List.cons.injEq, readU64_eq_ok]
          constructor
          · rintro ⟨value, tail, rfl, others, tail', hothers,
              ⟨rfl, rfl⟩, rfl⟩
            obtain ⟨hlen, hwords, rfl⟩ := ih.mp hothers
            refine ⟨by rw [List.length_cons, hlen], ?_, ?_⟩
            · intro other hother
              rcases List.mem_cons.mp hother with rfl | hother
              · exact value.toNat_lt
              · exact hwords other hother
            · simp [writeWords]
          · rintro ⟨hlen, hwords, rfl⟩
            have hword := hwords word List.mem_cons_self
            refine ⟨UInt64.ofNat word, writeWords words ++ rest, ?_, words,
              rest, ?_, ⟨toNat_ofNat_word hword, rfl⟩, rfl⟩
            · simp [writeWords]
            · apply ih.mpr
              refine ⟨by simpa using hlen, ?_, rfl⟩
              exact fun other h => hwords other (List.mem_cons_of_mem _ h)

/-- The neighbors are read where they stand, if each is admitted after the
one before it. -/
theorem readNeighbors_eq_ok {expectedVertices vertex : Nat}
    (hexpected : expectedVertices < 2 ^ 64) :
    ∀ {row : List Nat} {count : Nat} {previous : Option Nat}
      {data rest : Bytes},
      readNeighbors expectedVertices vertex count previous data
          = .ok (row, rest) ↔
        row.length = count ∧ RowOf expectedVertices vertex row ∧
          (∀ last ∈ previous, ∀ neighbor ∈ row, last < neighbor) ∧
          data = writeWords row ++ rest := by
  intro row
  induction row with
  | nil =>
      intro count previous data rest
      cases count with
      | zero =>
          rw [readNeighbors, reader_pure_eq_ok]
          constructor
          · rintro ⟨-, rfl⟩
            exact ⟨rfl, ⟨.nil, by simp, by simp⟩, by simp, rfl⟩
          · rintro ⟨-, -, -, rfl⟩
            exact ⟨rfl, rfl⟩
      | succ count =>
          simp only [readNeighbors, reader_bind_eq_ok, reader_pure_eq_ok,
            reader_check_eq_ok]
          constructor
          · rintro ⟨value, tail, -, -, others, tail', -, habsurd, -⟩
            cases habsurd
          · rintro ⟨habsurd, -⟩
            cases habsurd
  | cons neighbor row ih =>
      intro count previous data rest
      cases count with
      | zero => simp [readNeighbors, reader_pure_eq_ok]
      | succ count =>
          simp only [readNeighbors, reader_bind_eq_ok, reader_pure_eq_ok,
            reader_check_eq_ok, List.cons.injEq, readU64_eq_ok]
          constructor
          · rintro ⟨value, tail, rfl, hvalue, others, tail', hothers,
              ⟨rfl, rfl⟩, rfl⟩
            push Not at hvalue
            obtain ⟨hlen, hrow, hafter, rfl⟩ := ih.mp hothers
            have habove := hafter value.toNat rfl
            refine ⟨by rw [List.length_cons, hlen], ⟨?_, ?_, ?_⟩, ?_, ?_⟩
            · exact List.pairwise_cons.mpr ⟨habove, hrow.sorted⟩
            · intro other hother
              rcases List.mem_cons.mp hother with rfl | hother
              · exact hvalue.1
              · exact hrow.vertices other hother
            · rw [List.mem_cons, not_or]
              exact ⟨fun heq => hvalue.2.1 heq.symm, hrow.loopFree⟩
            · intro last hlast other hother
              have hfirst := hvalue.2.2 last hlast
              rcases List.mem_cons.mp hother with rfl | hother
              · exact hfirst
              · exact hfirst.trans (habove other hother)
            · simp [writeWords]
          · rintro ⟨hlen, hrow, hafter, rfl⟩
            obtain ⟨habove, hsorted⟩ := List.pairwise_cons.mp hrow.sorted
            have hbelow := hrow.vertices neighbor List.mem_cons_self
            have hword : (UInt64.ofNat neighbor).toNat = neighbor :=
              toNat_ofNat_word (hbelow.trans hexpected)
            have hloop := hrow.loopFree
            rw [List.mem_cons, not_or] at hloop
            refine ⟨UInt64.ofNat neighbor, writeWords row ++ rest, ?_, ?_,
              row, rest, ?_, ⟨hword, rfl⟩, rfl⟩
            · simp [writeWords]
            · rw [hword]
              push Not
              refine ⟨hbelow, fun heq => hloop.1 heq.symm, ?_⟩
              intro last hlast
              exact hafter last hlast neighbor List.mem_cons_self
            · apply ih.mpr
              refine ⟨by simpa using hlen, ⟨hsorted, ?_, hloop.2⟩, ?_, rfl⟩
              · exact fun other h =>
                  hrow.vertices other (List.mem_cons_of_mem _ h)
              · intro last hlast
                rw [Option.mem_some_iff] at hlast
                rw [← hlast, hword]
                exact habove

-- === rows

/-- The rows are read where they stand, one for each difference of
offsets. -/
theorem readRowsFrom_eq_ok {expectedVertices : Nat}
    (hexpected : expectedVertices < 2 ^ 64) :
    ∀ {offsets : List Nat} {start : Nat},
      (start :: offsets).IsChain (· ≤ ·) →
      ∀ {vertex : Nat} {graph : List (List Nat)} {data rest : Bytes},
        readRowsFrom expectedVertices vertex (start :: offsets) data
            = .ok (graph, rest) ↔
          start :: offsets = rowOffsets start graph ∧
            (∀ (i : Nat) (row : List Nat), graph[i]? = some row →
              RowOf expectedVertices (vertex + i) row) ∧
            data = writeWords graph.flatten ++ rest := by
  intro offsets
  induction offsets with
  | nil =>
      intro start _ vertex graph data rest
      simp only [readRowsFrom, reader_pure_eq_ok]
      constructor
      · rintro ⟨rfl, rfl⟩
        exact ⟨rfl, by simp, rfl⟩
      · rintro ⟨hoffsets, -, rfl⟩
        cases graph with
        | nil => exact ⟨rfl, rfl⟩
        | cons row graph =>
            have hlen := congrArg List.length hoffsets
            simp [rowOffsets] at hlen
  | cons finish offsets ih =>
      intro start hchain vertex graph data rest
      obtain ⟨hle, hchain'⟩ := List.isChain_cons_cons.mp hchain
      simp only [readRowsFrom, reader_bind_eq_ok, reader_pure_eq_ok]
      constructor
      · rintro ⟨row, tail, hrow, rows, tail', hrows, rfl, rfl⟩
        obtain ⟨hlen, hchecked, -, rfl⟩ :=
          (readNeighbors_eq_ok hexpected).mp hrow
        obtain ⟨hoffsets, hall, rfl⟩ := (ih hchain').mp hrows
        have hfinish : start + row.length = finish := by omega
        refine ⟨?_, ?_, ?_⟩
        · rw [rowOffsets, hfinish, hoffsets]
        · intro i other hother
          cases i with
          | zero =>
              rw [List.getElem?_cons_zero, Option.some_inj] at hother
              rw [← hother]
              exact hchecked
          | succ i =>
              rw [List.getElem?_cons_succ] at hother
              have := hall i other hother
              rwa [Nat.add_right_comm, Nat.add_assoc] at this
        · simp [writeWords]
      · rintro ⟨hoffsets, hall, rfl⟩
        cases graph with
        | nil => simp [rowOffsets] at hoffsets
        | cons row graph =>
            rw [rowOffsets, List.cons.injEq] at hoffsets
            obtain ⟨tail, htail⟩ :=
              rowOffsets_eq_cons (start + row.length) graph
            have hfinish : finish = start + row.length := by
              have := hoffsets.2
              rw [htail, List.cons.injEq] at this
              exact this.1
            refine ⟨row, writeWords graph.flatten ++ rest, ?_, graph, rest,
              ?_, rfl, rfl⟩
            · apply (readNeighbors_eq_ok hexpected).mpr
              refine ⟨by omega, hall 0 row rfl, by simp, ?_⟩
              simp [writeWords]
            · apply (ih hchain').mpr
              refine ⟨?_, ?_, rfl⟩
              · rw [hoffsets.2, ← hfinish]
              · intro i other hother
                have := hall (i + 1) other hother
                rwa [Nat.add_right_comm, Nat.add_assoc]

-- === payload

/-- A graph within the limits of the reader. -/
structure GraphLimits (graph : List (List Nat)) : Prop where
  vertices : graph.length ≤ kMaximumRegions
  edges : edgeCount graph ≤ kMaximumEdges

/-- The words of a graph of at most `kMaximumRegions` vertices fit. -/
theorem word_lt {vertices neighbor : Nat} (h : vertices ≤ kMaximumRegions)
    (hneighbor : neighbor ≤ vertices) : neighbor < 2 ^ 64 := by
  unfold kMaximumRegions at h
  omega

/-- The rows are read exactly from a payload of theirs, its offsets
counted from any position. -/
theorem readGraph_eq_ok {expectedVertices : Nat} {expectedSchema : UInt32}
    {graph : List (List Nat)} {data rest : Bytes} :
    readGraph expectedVertices expectedSchema data = .ok (graph, rest) ↔
      graph.length = expectedVertices ∧
        expectedVertices ≤ kMaximumRegions ∧
        (∀ (vertex : Nat) (row : List Nat), graph[vertex]? = some row →
          RowOf expectedVertices vertex row) ∧
        ∃ position, position + edgeCount graph ≤ kMaximumEdges ∧
          data = encodeGraphFrom position expectedSchema graph ++ rest := by
  have hedges : kMaximumEdges < 2 ^ 64 := by decide
  unfold readGraph
  simp only [reader_bind_eq_ok, reader_check_eq_ok, readFixedText_eq_ok,
    readU32_eq_ok, readU64_eq_ok, readWords_eq_ok]
  constructor
  · rintro ⟨magic, _, ⟨-, rfl⟩, hmagic, schema, _, rfl, hschema, vertices, _,
      rfl, hvertices, offsets, _, ⟨hlen, hwords, rfl⟩, total, _, rfl, htotal,
      hchain, hrows⟩
    push Not at hmagic hschema hvertices htotal hchain
    subst hmagic hschema
    obtain ⟨hcount, hmaximum⟩ := hvertices
    cases offsets with
    | nil => cases hlen
    | cons position offsets =>
        have hexpected : expectedVertices < 2 ^ 64 := by
          rw [← hcount]
          exact vertices.toNat_lt
        obtain ⟨hoffsets, hall, rfl⟩ :=
          (readRowsFrom_eq_ok hexpected hchain).mp hrows
        have hsize : graph.length = expectedVertices := by
          have := congrArg List.length hoffsets
          rw [length_rowOffsets, hlen] at this
          omega
        rw [hoffsets, getLast?_rowOffsets, Option.some_inj] at htotal
        refine ⟨hsize, hcount ▸ hmaximum, ?_, position, by omega, ?_⟩
        · intro vertex row hrow
          have := hall vertex row hrow
          rwa [Nat.zero_add] at this
        · have hfirst : UInt64.ofNat graph.length = vertices := by
            rw [hsize, ← hcount, UInt64.ofNat_toNat]
          have hlast : UInt64.ofNat (position + edgeCount graph) = total := by
            rw [htotal.2, UInt64.ofNat_toNat]
          unfold encodeGraphFrom
          rw [hfirst, hlast, hoffsets]
          simp only [List.append_assoc]
  · rintro ⟨hsize, hmaximum, hall, position, htotal, rfl⟩
    have hcast : (UInt64.ofNat graph.length).toNat = graph.length :=
      toNat_ofNat_word (word_lt hmaximum hsize.le)
    have hlast : (UInt64.ofNat (position + edgeCount graph)).toNat
        = position + edgeCount graph := toNat_ofNat_word (by omega)
    have hexpected : expectedVertices < 2 ^ 64 := word_lt hmaximum le_rfl
    unfold encodeGraphFrom
    simp only [List.append_assoc]
    refine ⟨kGraphMagic, _, ⟨rfl, rfl⟩, not_not.mpr rfl, expectedSchema, _,
      rfl, not_not.mpr rfl, UInt64.ofNat graph.length, _, rfl, ?_,
      rowOffsets position graph, _, ⟨?_, ?_, rfl⟩,
      UInt64.ofNat (position + edgeCount graph), _, rfl, ?_, ?_, ?_⟩
    · rw [hcast]
      omega
    · rw [hcast, length_rowOffsets]
    · intro word hword
      have := rowOffsets_le hword
      omega
    · rw [hlast, getLast?_rowOffsets]
      simp only [ne_eq, not_true_eq_false, or_false]
      omega
    · exact not_not.mpr (isChain_rowOffsets graph position)
    · obtain ⟨tail, htail⟩ := rowOffsets_eq_cons position graph
      have hchain := isChain_rowOffsets graph position
      rw [htail] at hchain ⊢
      apply (readRowsFrom_eq_ok hexpected hchain).mpr
      refine ⟨htail.symm, ?_, rfl⟩
      intro vertex row hrow
      rw [Nat.zero_add]
      exact hall vertex row hrow

/-- The decoder returns a graph exactly for the payloads of the graph. -/
theorem decodeGraph_eq_ok {bytes : Bytes} {expectedVertices : Nat}
    {expectedSchema : UInt32} {graph : List (List Nat)} :
    decodeGraph bytes expectedVertices expectedSchema = .ok graph ↔
      graph.length = expectedVertices ∧ Adjacency graph ∧
        graph.length ≤ kMaximumRegions ∧
        ∃ position, position + edgeCount graph ≤ kMaximumEdges ∧
          bytes = encodeGraphFrom position expectedSchema graph := by
  unfold decodeGraph
  rw [bind_eq_ok]
  constructor
  · rintro ⟨⟨rows, rest⟩, hread, h⟩
    dsimp only at h
    rw [ite_failure_eq_ok, ite_failure_eq_ok, Except.ok.injEq] at h
    obtain ⟨hrest, hsymmetric, rfl⟩ := h
    obtain rfl : rest = [] := not_not.mp hrest
    rw [Bool.not_eq_false] at hsymmetric
    obtain ⟨hsize, hmaximum, hall, position, hedges, hbytes⟩ :=
      readGraph_eq_ok.mp hread
    rw [List.append_nil] at hbytes
    exact ⟨hsize, adjacency_of_rows hall hsymmetric, hsize ▸ hmaximum,
      position, hedges, hbytes⟩
  · rintro ⟨hsize, hgraph, hmaximum, position, hedges, hbytes⟩
    refine ⟨(graph, []), ?_, ?_⟩
    · apply readGraph_eq_ok.mpr
      refine ⟨hsize, hsize ▸ hmaximum, ?_, position, hedges, ?_⟩
      · intro vertex row hrow
        have hmem : row ∈ graph := List.mem_of_getElem? hrow
        refine ⟨hgraph.sorted row hmem, ?_, hgraph.loopFree vertex row hrow⟩
        intro neighbor hneighbor
        rw [← hsize]
        exact hgraph.lt_length hmem hneighbor
      · rw [hbytes, List.append_nil]
    · dsimp only
      rw [ite_failure_eq_ok, ite_failure_eq_ok]
      refine ⟨not_not.mpr rfl, ?_, rfl⟩
      rw [Bool.not_eq_false]
      exact symmetricRows_iff.mpr hgraph.symmetric

-- === one payload a graph

/-- The first word of the offset table of a payload. -/
def firstOffset (bytes : Bytes) : Option Nat :=
  match readU64 (bytes.drop (kGraphMagic.length + 4 + 8)) with
  | .ok (word, _) => some word.toNat
  | .error _ => none

theorem firstOffset_encodeGraphFrom {position : Nat} (h : position < 2 ^ 64)
    (storageSchema : UInt32) (graph : List (List Nat)) :
    firstOffset (encodeGraphFrom position storageSchema graph)
      = some position := by
  obtain ⟨offsets, hoffsets⟩ := rowOffsets_eq_cons position graph
  have hsplit : encodeGraphFrom position storageSchema graph
      = (kGraphMagic ++ writeU32 storageSchema
          ++ writeU64 (UInt64.ofNat graph.length))
        ++ (writeU64 (UInt64.ofNat position) ++ (writeWords offsets
          ++ (writeU64 (UInt64.ofNat (position + edgeCount graph))
            ++ writeWords graph.flatten))) := by
    unfold encodeGraphFrom
    rw [hoffsets, writeWords, List.flatMap_cons]
    simp only [List.append_assoc, writeWords]
  have hhead : (kGraphMagic ++ writeU32 storageSchema
      ++ writeU64 (UInt64.ofNat graph.length)).length
        = kGraphMagic.length + 4 + 8 := by
    simp [writeU32, writeU64]
  unfold firstOffset
  rw [hsplit, List.drop_left' hhead, readU64_writeU64]
  simp only [toNat_ofNat_word h]

/-- What is encoded is decoded, what is decoded is an adjacency, and an
accepted payload is the one its graph is encoded as exactly if its first
offset is zero. -/
theorem graphCodec_iff (schema : UInt32) :
    (∀ graph : List (List Nat), Adjacency graph → GraphLimits graph →
      decodeGraph (encodeGraph schema graph) graph.length schema
        = .ok graph) ∧
    ∀ (bytes : Bytes) (expectedVertices : Nat) (graph : List (List Nat)),
      decodeGraph bytes expectedVertices schema = .ok graph →
        graph.length = expectedVertices ∧ Adjacency graph ∧
          (∀ row ∈ graph, ∀ neighbor ∈ row, neighbor < expectedVertices) ∧
          (encodeGraph schema graph = bytes ↔
            firstOffset bytes = some 0) := by
  constructor
  · intro graph hgraph hlimits
    rw [decodeGraph_eq_ok]
    refine ⟨rfl, hgraph, hlimits.vertices, 0, ?_, rfl⟩
    rw [Nat.zero_add]
    exact hlimits.edges
  · intro bytes expectedVertices graph hdecode
    obtain ⟨hsize, hgraph, -, position, hedges, rfl⟩ :=
      decodeGraph_eq_ok.mp hdecode
    have hword : position < 2 ^ 64 := by
      unfold kMaximumEdges at hedges
      omega
    refine ⟨hsize, hgraph, ?_, ?_⟩
    · intro row hrow neighbor hneighbor
      rw [← hsize]
      exact hgraph.lt_length hrow hneighbor
    · rw [firstOffset_encodeGraphFrom hword, Option.some_inj]
      constructor
      · intro h
        have hfirst := congrArg firstOffset h
        rw [encodeGraph, firstOffset_encodeGraphFrom (by decide),
          firstOffset_encodeGraphFrom hword, Option.some_inj] at hfirst
        exact hfirst.symm
      · rintro rfl
        rfl

/-- One vertex without an edge, its row from position 5 to position 5. -/
def shiftedPayload : Bytes := encodeGraphFrom 5 2 [[]]

/-- The decoder accepts it, and it is written otherwise. -/
theorem decodeGraph_admits_shifted :
    decodeGraph shiftedPayload 1 2 = .ok [[]] ∧
      encodeGraph 2 [[]] ≠ shiftedPayload := by
  decide +kernel

end RbfSafe
