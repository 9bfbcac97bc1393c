/-
Slices of a valid occupancy, and the worst pair of their links.

`validSlices` walks along the trajectory; what the merge of two robots
needs of it is that the windows follow one another (`Forward`). Of the
links of two slices the sweep keeps one pair in a single comparison that
mixes overlap and clearance; `BestOf` says what that pair stands for: an
overlap, if there is one, and otherwise a least clearance.

Every loop of the analysis counts against a budget. `Budgeted` is what
such a loop does: it answers exactly if what it comes to fits.
-/
import RbfSafe.Occupancy.Fleet
import RbfSafe.Lib.Merge
import RbfSafe.Core.Proofs.Workspace

namespace RbfSafe

open Lib

/-- What scalars obey that a clearance is compared in: what is above a
finite number and is not finite is above all of them. -/
class LawfulMetric (α : Type) [MetricScalar α] : Prop extends
    LawfulScalar α where
  finite_zero : Scalar.isFinite (Scalar.zero : α) = true
  le_infinite : ∀ {a b c : α}, Scalar.isFinite a = true →
    Scalar.isFinite b = true → Scalar.le a c = true →
    Scalar.isFinite c = false → Scalar.le b c = true

open Float.Model (UnpackedFloat) in
theorem le_infinite_unpacked {a b c : UnpackedFloat} (ha : a.isFinite = true)
    (hb : b.isFinite = true) (hac : a.le c = true)
    (hc : c.isFinite = false) : b.le c = true := by
  cases c with
  | finite s m e h => cases hc
  | zero s => cases hc
  | notANumber => cases (not_nan_of_le hac).2
  | infinity s =>
      cases s with
      | negative =>
          cases a with
          | notANumber => cases ha
          | infinity s => cases ha
          | zero s => cases hac
          | finite s m e h => cases s <;> cases hac
      | positive =>
          cases b with
          | notANumber => cases hb
          | infinity s => cases hb
          | zero s => rfl
          | finite s m e h => cases s <;> rfl

instance float_lawfulMetric : LawfulMetric Float where
  finite_zero := by decide
  le_infinite ha hb hac hc := by
    rw [float_isFinite] at ha hb hc
    rw [float_le] at hac ⊢
    exact le_infinite_unpacked ha hb hac hc

-- === budgets

/-- A computation that answers `value` if it fits, and names the limit
otherwise. -/
structure Budgeted {β : Type} (fits : Prop) (result : Result β) (value : β) :
    Prop where
  within : fits → result = .ok value
  beyond : ¬fits → ∃ message, result = failure .resourceLimit message

namespace Budgeted

variable {β γ : Type} {fits fits' : Prop} {result : Result β} {value : β}

theorem ok (h : fits) : Budgeted fits (.ok value : Result β) value :=
  ⟨fun _ => rfl, fun hno => absurd h hno⟩

theorem stop (h : ¬fits) (message : String) :
    Budgeted fits (failure .resourceLimit message : Result β) value :=
  ⟨fun hfits => absurd hfits h, fun _ => ⟨message, rfl⟩⟩

/-- A budget that is kept in the end has been kept before. -/
theorem bind (h : Budgeted fits result value) {next : β → Result γ}
    {final : γ} (hnext : fits → Budgeted fits' (next value) final)
    (hmono : fits' → fits) : Budgeted fits' (result >>= next) final := by
  by_cases hfits : fits
  · rw [h.within hfits, ok_bind]
    exact hnext hfits
  · obtain ⟨message, hmessage⟩ := h.beyond hfits
    rw [hmessage]
    exact stop (fun hfits' => hfits (hmono hfits')) message

end Budgeted

-- === slices

section
variable {α : Type} [MetricScalar α] (P : Platform)

/-- What the analysis uses of a slice. -/
structure SoundSlice (linkCount : Nat) (slice : SweptLinkOccupancySlice α) :
    Prop where
  id : validSha256 slice.id = true
  window : slice.beginTick < slice.endTick
  links : slice.linkEnvelopes.length = linkCount
  boxes : ∀ box ∈ slice.linkEnvelopes, box.valid = true

theorem validSlice_sound {occupancy : RobotTrajectoryOccupancy α}
    {dimension linkCount : Nat} {segmentBegin segmentEnd : TimedConfiguration α}
    {slice : SweptLinkOccupancySlice α}
    (h : validSlice P occupancy dimension linkCount segmentBegin segmentEnd
      slice = true) : SoundSlice linkCount slice := by
  unfold validSlice at h
  simp only [Bool.and_eq_true, decide_eq_true_eq, List.all_eq_true] at h
  obtain ⟨⟨⟨⟨⟨⟨⟨⟨⟨hid, -⟩, -⟩, hwindow⟩, -⟩, -⟩, hlinks⟩, hboxes⟩, -⟩, -⟩ := h
  exact ⟨hid, hwindow, hlinks, hboxes⟩

/-- **The slices of the loop follow one another.** -/
theorem validSlices_forward {occupancy : RobotTrajectoryOccupancy α}
    {dimension linkCount : Nat} :
    ∀ {slices : List (SweptLinkOccupancySlice α)}
      {previous : Option (SweptLinkOccupancySlice α)}
      {currentSegment expectedBegin : Nat},
    validSlices P occupancy dimension linkCount previous currentSegment
      expectedBegin slices = true →
    (∀ slice ∈ slices, SoundSlice linkCount slice
      ∧ expectedBegin ≤ slice.beginTick)
    ∧ slices.Pairwise fun a b => a.endTick ≤ b.beginTick := by
  intro slices
  induction slices with
  | nil =>
      exact fun _ => ⟨fun _ h => absurd h List.not_mem_nil, .nil⟩
  | cons slice rest ih =>
      intro previous currentSegment expectedBegin h
      rw [validSlices] at h
      split at h
      case h_2 => cases h
      case h_1 segmentBegin segmentEnd _ _ =>
        simp only [Bool.and_eq_true, decide_eq_true_eq] at h
        obtain ⟨⟨⟨⟨-, hslice⟩, -⟩, hbegin⟩, hrest⟩ := h
        have hsound := validSlice_sound P hslice
        have hlater : (∀ next ∈ rest, SoundSlice linkCount next
            ∧ slice.endTick ≤ next.beginTick)
            ∧ rest.Pairwise fun a b => a.endTick ≤ b.beginTick := by
          by_cases hend : slice.endTick = segmentEnd.tick
          · rw [if_pos hend, ← hend, ite_self] at hrest
            exact ih hrest
          · rw [if_neg hend] at hrest
            exact ih hrest
        refine ⟨?_, List.pairwise_cons.mpr ⟨fun next hnext =>
          (hlater.1 next hnext).2, hlater.2⟩⟩
        intro next hnext
        rcases List.mem_cons.mp hnext with rfl | hnext
        · exact ⟨hsound, hbegin.ge⟩
        · obtain ⟨hnextSound, hle⟩ := hlater.1 next hnext
          have hwindow := hsound.window
          exact ⟨hnextSound, by omega⟩

/-- What the analysis uses of an occupancy. -/
structure SoundOccupancy (occupancy : RobotTrajectoryOccupancy α) : Prop where
  id : validSha256 occupancy.id = true
  timeline : validIdentifier occupancy.timelineId = true
  frame : validIdentifier occupancy.workspaceFrameId = true
  algorithm : occupancy.algorithm = kOccupancyAlgorithm
  version : occupancy.algorithmVersion = kOccupancyAlgorithmVersion1
    ∨ occupancy.algorithmVersion = kOccupancyAlgorithmVersion2
  slices : ∃ linkCount, linkCount ≠ 0
    ∧ ∀ slice ∈ occupancy.slices, SoundSlice linkCount slice
  forward : Merge.Forward SweptLinkOccupancySlice.beginTick
    SweptLinkOccupancySlice.endTick occupancy.slices
  identity : P.sha256 (occupancyDocument P occupancy) = occupancy.id

theorem RobotTrajectoryOccupancy.valid_sound
    {occupancy : RobotTrajectoryOccupancy α} (h : occupancy.valid P = true) :
    SoundOccupancy P occupancy := by
  unfold valid at h
  simp only [Bool.and_eq_true, Bool.or_eq_true, decide_eq_true_eq] at h
  obtain ⟨⟨⟨⟨⟨⟨⟨⟨⟨⟨⟨⟨⟨hschema, hid⟩, htimeline⟩, hframe⟩, -⟩, -⟩, -⟩,
    halgorithm⟩, -⟩, -⟩, -⟩, -⟩, -⟩, hbody⟩ := h
  have hversion : occupancy.algorithmVersion = kOccupancyAlgorithmVersion1
      ∨ occupancy.algorithmVersion = kOccupancyAlgorithmVersion2 := by
    rcases hschema with ⟨⟨-, hversion⟩, -⟩ | ⟨-, hversion⟩
    · exact Or.inl hversion
    · exact Or.inr hversion
  split at hbody
  case h_2 => cases hbody
  case h_1 first second rest slice slices htrajectory hslices =>
    simp only [Bool.and_eq_true, decide_eq_true_eq] at hbody
    obtain ⟨⟨⟨-, hlinks⟩, hloop⟩, hidentity⟩ := hbody
    obtain ⟨hsound, happart⟩ := validSlices_forward P hloop
    rw [← hslices] at hsound happart
    exact ⟨hid, htimeline, hframe, halgorithm, hversion,
      ⟨_, hlinks, fun slice hslice => (hsound slice hslice).1⟩,
      ⟨fun slice hslice => (hsound slice hslice).1.window, happart⟩,
      hidentity⟩

end

-- === the worst pair

section
variable {α : Type} [MetricScalar α] [LawfulMetric α]

/-- What is raised to zero is not negative. -/
theorem zero_le_max_zero (a : α) :
    Scalar.le Scalar.zero (Scalar.max Scalar.zero a) = true := by
  unfold Scalar.max
  cases hlt : Scalar.lt Scalar.zero a with
  | true =>
      rw [if_pos rfl]
      exact LawfulScalar.le_of_lt hlt
  | false =>
      rw [if_neg Bool.false_ne_true]
      exact LawfulScalar.le_refl LawfulMetric.finite_zero

/-- A guarded clearance is not negative. -/
theorem zero_le_guardedClearance (first second : WorkspaceAabb α) :
    Scalar.le Scalar.zero (guardedClearance first second) = true := by
  unfold guardedClearance
  dsimp only
  by_cases hfinite : Scalar.isFinite (first.distanceLowerBound second) = true
  · rw [if_pos hfinite]
    exact zero_le_max_zero _
  · rw [if_neg hfinite]
    exact LawfulScalar.le_refl LawfulMetric.finite_zero

/-- A clearance below a finite number is finite. -/
theorem finite_of_lt {first second : WorkspaceAabb α} {bound : α}
    (hbound : Scalar.isFinite bound = true)
    (h : Scalar.lt (guardedClearance first second) bound = true) :
    Scalar.isFinite (guardedClearance first second) = true :=
  LawfulScalar.finite_between LawfulMetric.finite_zero hbound
    (zero_le_guardedClearance first second) (LawfulScalar.le_of_lt h)

/-- Not below a bound: at least it. -/
theorem guardedClearance_lt_eq_false {first second : WorkspaceAabb α}
    {bound : α} (hbound : Scalar.isFinite bound = true) :
    Scalar.lt (guardedClearance first second) bound = false
      ↔ Scalar.le bound (guardedClearance first second) = true := by
  cases hfinite : Scalar.isFinite (guardedClearance first second) with
  | true =>
      rw [← Bool.not_eq_true, LawfulScalar.lt_iff hfinite hbound,
        Bool.not_eq_false]
  | false =>
      have hle := LawfulMetric.le_infinite LawfulMetric.finite_zero hbound
        (zero_le_guardedClearance first second) hfinite
      refine ⟨fun _ => hle, fun _ => ?_⟩
      by_contra hlt
      rw [Bool.not_eq_false] at hlt
      rw [finite_of_lt hbound hlt] at hfinite
      cases hfinite

/-- The guarded clearance does not depend on the order of the boxes. -/
theorem guardedClearance_comm {first second : WorkspaceAabb α}
    (hfirst : first.valid = true) (hsecond : second.valid = true) :
    guardedClearance first second = guardedClearance second first := by
  unfold guardedClearance
  rw [WorkspaceAabb.distance_comm hfirst hsecond]

/-- The link boxes of one pair. -/
abbrev LinkPair (α : Type) := (WorkspaceAabb α × Nat) × WorkspaceAabb α × Nat

/-- What the worst of some pairs stands for. -/
structure BestOf (pairs : List (LinkPair α)) (best : BestPair α) : Prop where
  overlap : best.foundOverlap = true ↔
    ∃ p ∈ pairs, p.1.1.overlaps p.2.1 Scalar.zero = true
  finite : best.foundOverlap = false → ∀ clearance,
    best.clearance = some clearance → Scalar.isFinite clearance = true
      ∧ Scalar.le Scalar.zero clearance = true
  least : best.foundOverlap = false → ∀ bound : α,
    Scalar.isFinite bound = true →
    ((∃ clearance, best.clearance = some clearance
        ∧ Scalar.lt clearance bound = true)
      ↔ ∃ p ∈ pairs, Scalar.lt (guardedClearance p.1.1 p.2.1) bound = true)

omit [LawfulMetric α] in
theorem bestOf_nil : BestOf ([] : List (LinkPair α)) {} := by
  refine ⟨?_, ?_, ?_⟩
  · simp
  · intro _ clearance h
    cases h
  · intro _ bound _
    simp

/-- **One more pair of links.** -/
theorem BestOf.update {pairs : List (LinkPair α)} {best : BestPair α}
    (h : BestOf pairs best) (p : LinkPair α) :
    BestOf (pairs ++ [p]) (best.update p.1 p.2) := by
  have hmem : ∀ q, q ∈ pairs ++ [p] ↔ q ∈ pairs ∨ q = p := by
    intro q
    rw [List.mem_append, List.mem_singleton]
  unfold BestPair.update
  dsimp only
  cases hoverlaps : p.1.1.overlaps p.2.1 Scalar.zero with
  | true =>
      -- an overlap is kept, whichever it is
      have hfound : ∀ next : BestPair α, next.foundOverlap = true →
          BestOf (pairs ++ [p]) next := by
        intro next hnext
        refine ⟨⟨fun _ => ⟨p, (hmem p).mpr (Or.inr rfl), hoverlaps⟩,
          fun _ => hnext⟩, fun hno => ?_, fun hno => ?_⟩
        · rw [hnext] at hno
          cases hno
        · rw [hnext] at hno
          cases hno
      split
      case isTrue => exact hfound _ rfl
      case isFalse hkept =>
        refine hfound _ ?_
        cases hbest : best.foundOverlap with
        | true => rfl
        | false => exact absurd (Or.inl ⟨rfl, hbest⟩) hkept
  | false =>
      cases hbest : best.foundOverlap with
      | true =>
          rw [if_neg (by simp)]
          have hno : best.foundOverlap ≠ false := by simp [hbest]
          refine ⟨⟨fun _ => ?_, fun _ => hbest⟩, fun h => absurd h hno,
            fun h => absurd h hno⟩
          obtain ⟨q, hq, hover⟩ := h.overlap.mp hbest
          exact ⟨q, (hmem q).mpr (Or.inl hq), hover⟩
      | false =>
          have hnone : ¬∃ q ∈ pairs ++ [p],
              q.1.1.overlaps q.2.1 Scalar.zero = true := by
            intro ⟨q, hq, hover⟩
            rcases (hmem q).mp hq with hq | rfl
            · have hfound := h.overlap.mpr ⟨q, hq, hover⟩
              rw [hbest] at hfound
              cases hfound
            · rw [hoverlaps] at hover
              cases hover
          cases hbelow : clearanceBelow (guardedClearance p.1.1 p.2.1)
              best.clearance with
          | true =>
              rw [if_pos (Or.inr ⟨rfl, rfl⟩)]
              have hfinite : Scalar.isFinite (guardedClearance p.1.1 p.2.1)
                  = true := by
                unfold clearanceBelow at hbelow
                split at hbelow
                case h_1 => exact hbelow
                case h_2 old hold =>
                  exact finite_of_lt (h.finite hbest old hold).1 hbelow
              refine ⟨⟨fun h => Bool.noConfusion h,
                fun h => absurd h hnone⟩, ?_, ?_⟩
              · intro _ clearance hclearance
                cases hclearance
                exact ⟨hfinite, zero_le_guardedClearance _ _⟩
              · intro _ bound hbound
                constructor
                · intro ⟨clearance, hclearance, hlt⟩
                  cases hclearance
                  exact ⟨p, (hmem p).mpr (Or.inr rfl), hlt⟩
                · intro ⟨q, hq, hlt⟩
                  refine ⟨_, rfl, ?_⟩
                  rcases (hmem q).mp hq with hq | rfl
                  · obtain ⟨old, hold, hltOld⟩ :=
                      (h.least hbest bound hbound).mpr ⟨q, hq, hlt⟩
                    rw [hold] at hbelow
                    exact LawfulScalar.lt_of_lt_of_le hfinite
                      (h.finite hbest old hold).1 hbound hbelow
                      (LawfulScalar.le_of_lt hltOld)
                  · exact hlt
          | false =>
              rw [if_neg (by simp)]
              refine ⟨⟨fun hfound => absurd hfound (by simp [hbest]),
                fun h => absurd h hnone⟩, h.finite, ?_⟩
              intro _ bound hbound
              rw [h.least hbest bound hbound]
              constructor
              · intro ⟨q, hq, hlt⟩
                exact ⟨q, (hmem q).mpr (Or.inl hq), hlt⟩
              · intro ⟨q, hq, hlt⟩
                rcases (hmem q).mp hq with hq | rfl
                · exact ⟨q, hq, hlt⟩
                · -- the pair passed over is not below the least so far
                  have hfinite := finite_of_lt hbound hlt
                  rw [← h.least hbest bound hbound]
                  cases hold : best.clearance with
                  | none =>
                      rw [hold] at hbelow
                      have hinfinite : Scalar.isFinite
                          (guardedClearance q.1.1 q.2.1) = false := hbelow
                      rw [hfinite] at hinfinite
                      cases hinfinite
                  | some old =>
                      rw [hold] at hbelow
                      have hfiniteOld := (h.finite hbest old hold).1
                      have hle : Scalar.le old (guardedClearance q.1.1 q.2.1)
                          = true := by
                        by_contra hnot
                        rw [Bool.not_eq_true,
                          ← LawfulScalar.lt_iff hfinite hfiniteOld] at hnot
                        rw [show clearanceBelow (guardedClearance q.1.1 q.2.1)
                          (some old) = Scalar.lt _ old from rfl, hnot] at hbelow
                        cases hbelow
                      exact ⟨old, rfl, LawfulScalar.lt_of_le_of_lt hfiniteOld
                        hfinite hbound hle hlt⟩

/-- The worst pair after all of them. -/
theorem bestOf_foldl (pairs : List (LinkPair α)) :
    BestOf pairs (pairs.foldl (fun best p => best.update p.1 p.2) {}) := by
  induction pairs using List.reverseRecOn with
  | nil => exact bestOf_nil
  | append_singleton pairs p ih =>
      rw [List.foldl_append]
      exact ih.update p

-- === all links

omit [LawfulMetric α] in
theorem sweepLinkRow_budgeted (maximum : Nat) (first : WorkspaceAabb α × Nat)
    (row : List (WorkspaceAabb α × Nat)) : ∀ state : LinkSweep α,
    state.linkPairEvaluations ≤ maximum →
    Budgeted (state.linkPairEvaluations + row.length ≤ maximum)
      (sweepLinkRow maximum first row state)
      ⟨state.linkPairEvaluations + row.length,
        (row.map fun second => (first, second)).foldl
          (fun best p => best.update p.1 p.2) state.best⟩ := by
  induction row with
  | nil => exact fun state h => Budgeted.ok h
  | cons second row ih =>
      intro state h
      rw [sweepLinkRow, List.length_cons]
      by_cases hfull : maximum ≤ state.linkPairEvaluations
      · rw [if_pos hfull]
        exact Budgeted.stop (by omega) _
      · rw [if_neg hfull, ← Nat.add_assoc, Nat.add_right_comm]
        exact ih ⟨state.linkPairEvaluations + 1,
          state.best.update first second⟩ (Nat.not_le.mp hfull)

omit [LawfulMetric α] in
/-- **All pairs of links are compared**, if the budget allows. -/
theorem sweepLinks_budgeted (maximum : Nat)
    (seconds : List (WorkspaceAabb α × Nat))
    (firsts : List (WorkspaceAabb α × Nat)) : ∀ state : LinkSweep α,
    state.linkPairEvaluations ≤ maximum →
    Budgeted
      (state.linkPairEvaluations + (firsts ×ˢ seconds).length ≤ maximum)
      (sweepLinks maximum seconds firsts state)
      ⟨state.linkPairEvaluations + (firsts ×ˢ seconds).length,
        (firsts ×ˢ seconds).foldl (fun best p => best.update p.1 p.2)
          state.best⟩ := by
  induction firsts with
  | nil => exact fun state h => Budgeted.ok h
  | cons first firsts ih =>
      intro state h
      rw [sweepLinks, List.product_cons, List.length_append, List.length_map,
        List.foldl_append, ← Nat.add_assoc]
      refine (sweepLinkRow_budgeted maximum first seconds state h).bind ?_
        (by omega)
      intro hrow
      exact ih ⟨state.linkPairEvaluations + seconds.length, _⟩ hrow

end

end RbfSafe
