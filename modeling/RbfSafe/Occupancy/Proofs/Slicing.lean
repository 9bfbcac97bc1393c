/-
What the subdivision loop makes of a trajectory.

The parts on the stack follow one another from the last slice made to the
end of the segment (`Stacked`), and halving a part keeps them so. The
slices of a segment therefore tile its ticks (`Tiles`), those of all
segments the trajectory (`TilesFrom`), and their order is the one
`std::sort` would give them.
-/
import RbfSafe.Occupancy.Proofs.Interpolation

namespace RbfSafe

section
variable {α : Type}

/-- Slices that follow one another from a tick to a later one. -/
def Tiles (spec : SweptLinkOccupancySlice α → Prop) :
    Nat → List (SweptLinkOccupancySlice α) → Nat → Prop
  | tick, [], finish => tick = finish
  | tick, slice :: rest, finish =>
      slice.beginTick = tick ∧ slice.beginTick < slice.endTick ∧ spec slice
        ∧ Tiles spec slice.endTick rest finish

/-- Slices that follow one another from segment to segment. -/
def TilesFrom (spec : Nat → TimedConfiguration α → TimedConfiguration α →
      SweptLinkOccupancySlice α → Prop) :
    Nat → List (TimedConfiguration α) → List (SweptLinkOccupancySlice α) → Prop
  | segment, first :: last :: rest, slices =>
      ∃ front back, slices = front ++ back
        ∧ Tiles (spec segment first last) first.tick front last.tick
        ∧ TilesFrom spec (segment + 1) (last :: rest) back
  | _, _, slices => slices = []

variable {spec : SweptLinkOccupancySlice α → Prop}
  {front back : List (SweptLinkOccupancySlice α)} {tick middle finish : Nat}

theorem Tiles.le (h : Tiles spec tick front finish) : tick ≤ finish := by
  induction front generalizing tick with
  | nil => exact Nat.le_of_eq h
  | cons slice rest ih =>
      obtain ⟨hbegin, hlt, -, hrest⟩ := h
      have := ih hrest
      omega

theorem Tiles.mono {spec' : SweptLinkOccupancySlice α → Prop}
    (h : Tiles spec tick front finish)
    (himp : ∀ slice, slice ∈ front → tick ≤ slice.beginTick →
      slice.beginTick < slice.endTick → slice.endTick ≤ finish → spec slice →
      spec' slice) : Tiles spec' tick front finish := by
  induction front generalizing tick with
  | nil => exact h
  | cons slice rest ih =>
      obtain ⟨hbegin, hlt, hspec, hrest⟩ := h
      refine ⟨hbegin, hlt, himp slice List.mem_cons_self hbegin.ge hlt
        hrest.le hspec, ih hrest ?_⟩
      intro other hother hfrom
      exact himp other (List.mem_cons_of_mem _ hother) (by omega)

/-- The windows of a tiling. -/
theorem Tiles.mem (h : Tiles spec tick front finish)
    {slice : SweptLinkOccupancySlice α} (hslice : slice ∈ front) :
    tick ≤ slice.beginTick ∧ slice.beginTick < slice.endTick
      ∧ slice.endTick ≤ finish ∧ spec slice := by
  induction front generalizing tick with
  | nil => cases hslice
  | cons first rest ih =>
      obtain ⟨hbegin, hlt, hspec, hrest⟩ := h
      rcases List.mem_cons.mp hslice with rfl | hmem
      · exact ⟨hbegin.ge, hlt, hrest.le, hspec⟩
      · obtain ⟨hfrom, hrest'⟩ := ih hrest hmem
        exact ⟨by omega, hrest'⟩

/-- A tiling is in order. -/
theorem Tiles.sorted (h : Tiles spec tick front finish) :
    front.Pairwise fun slice slice' => slice.beginTick < slice'.beginTick := by
  induction front generalizing tick with
  | nil => exact List.Pairwise.nil
  | cons slice rest ih =>
      obtain ⟨-, hlt, -, hrest⟩ := h
      refine List.Pairwise.cons (fun other hother => ?_) (ih hrest)
      exact hlt.trans_le (hrest.mem hother).1

end

variable {K : Type} [Field K] [LinearOrder K] {R : Rounding K} {P : Platform}
  {E : LinkEnvelopes (Rounded R)} {robot : SerialRobotModel (Rounded R)}
  {metadata : OccupancyMetadata (Rounded R)}
  {trajectory : List (TimedConfiguration (Rounded R))}
  {options : ContinuousOccupancyBuildOptions (Rounded R)}

-- === slices

theorem mapM_ok {β γ : Type} {f : β → Result γ} {p : γ → Prop}
    (hf : ∀ b c, f b = .ok c → p c) {items : List β} {results : List γ}
    (h : items.mapM f = .ok results) :
    results.length = items.length ∧ ∀ result ∈ results, p result := by
  induction items generalizing results with
  | nil =>
      cases h
      exact ⟨rfl, fun result hresult => absurd hresult List.not_mem_nil⟩
  | cons item items ih =>
      rw [List.mapM_cons, bind_eq_ok] at h
      obtain ⟨result, hresult, h⟩ := h
      rw [bind_eq_ok] at h
      obtain ⟨rest, hrest, hall⟩ := h
      cases hall
      obtain ⟨hlength, hmem⟩ := ih hrest
      refine ⟨by rw [List.length_cons, List.length_cons, hlength], ?_⟩
      intro other hother
      rcases List.mem_cons.mp hother with rfl | hother
      · exact hf item other hresult
      · exact hmem other hother

/-- The boxes of a slice are those of the links, deployed and valid. -/
theorem deployedEnvelopes_ok {α : Type} [SteppedScalar α] {storageSchema : Nat}
    {frame : DeploymentFrameBounds α} {links boxes : List (WorkspaceAabb α)}
    (h : deployedEnvelopes storageSchema frame links = .ok boxes) :
    boxes.length = links.length ∧ ∀ box ∈ boxes, box.valid = true := by
  unfold deployedEnvelopes at h
  split at h
  · apply mapM_ok _ h
    intro box moved hmoved
    rw [translatedEnvelope, ite_failure_eq_ok, Bool.not_eq_false] at hmoved
    obtain ⟨hvalid, heq⟩ := hmoved
    cases heq
    exact hvalid
  · apply mapM_ok _ h
    intro box moved hmoved
    rw [transformedEnvelope, bind_eq_ok] at hmoved
    obtain ⟨expansion, -, hmoved⟩ := hmoved
    rw [bind_eq_ok] at hmoved
    obtain ⟨x, -, hmoved⟩ := hmoved
    rw [bind_eq_ok] at hmoved
    obtain ⟨y, -, hmoved⟩ := hmoved
    rw [bind_eq_ok] at hmoved
    obtain ⟨z, -, hmoved⟩ := hmoved
    rw [ite_failure_eq_ok, Bool.not_eq_false] at hmoved
    obtain ⟨hvalid, heq⟩ := hmoved
    cases heq
    exact hvalid

/-- A slice of the segment from `first` to `last`. -/
structure Sliced (P : Platform) (robot : SerialRobotModel (Rounded R))
    (metadata : OccupancyMetadata (Rounded R))
    (trajectory : List (TimedConfiguration (Rounded R)))
    (options : ContinuousOccupancyBuildOptions (Rounded R)) (segment : Nat)
    (first last : TimedConfiguration (Rounded R))
    (slice : SweptLinkOccupancySlice (Rounded R)) : Prop where
  segment : slice.trajectorySegmentIndex = segment
  domain : slice.configurationDomain
    = endpointDomain (plannedConfiguration first last slice.beginTick)
      (plannedConfiguration first last slice.endTick)
  links : slice.linkEnvelopes.length = robot.linkCount
  boxes : ∀ box ∈ slice.linkEnvelopes, box.valid = true
  id : sweptLinkOccupancySliceIdentity P
    (draftOccupancy P robot metadata trajectory options) slice = slice.id

/-- A part of the segment from `first` to `last`. -/
structure Pending (segment : Nat)
    (first last : TimedConfiguration (Rounded R))
    (candidate : PendingSlice (Rounded R)) : Prop where
  segment : candidate.trajectorySegmentIndex = segment
  lt : candidate.beginTick < candidate.endTick
  beginConfiguration : candidate.beginConfiguration
    = plannedConfiguration first last candidate.beginTick
  endConfiguration : candidate.endConfiguration
    = plannedConfiguration first last candidate.endTick

/-- The slice of a part. -/
theorem sliceOf_ok {segment : Nat} {first last : TimedConfiguration (Rounded R)}
    {candidate : PendingSlice (Rounded R)}
    {slice : SweptLinkOccupancySlice (Rounded R)}
    (hpending : Pending segment first last candidate)
    (h : sliceOf P E robot metadata trajectory options candidate = .ok slice) :
    slice.beginTick = candidate.beginTick ∧ slice.endTick = candidate.endTick
      ∧ Sliced P robot metadata trajectory options segment first last slice := by
  rw [sliceOf, bind_eq_ok] at h
  obtain ⟨links, hlinks, h⟩ := h
  rw [bind_eq_ok] at h
  obtain ⟨boxes, hboxes, hslice⟩ := h
  cases hslice
  obtain ⟨hlength, hvalid⟩ := deployedEnvelopes_ok hboxes
  refine ⟨rfl, rfl, hpending.segment, ?_,
    hlength.trans (E.length_compute hlinks), hvalid, rfl⟩
  show endpointDomain candidate.beginConfiguration candidate.endConfiguration
    = _
  rw [hpending.beginConfiguration, hpending.endConfiguration]

-- === subdivision

/-- The parts on the stack follow one another to the end of the segment. -/
def Stacked (segment : Nat) (first last : TimedConfiguration (Rounded R)) :
    Nat → List (PendingSlice (Rounded R)) → Prop
  | tick, [] => tick = last.tick
  | tick, candidate :: pending => candidate.beginTick = tick
      ∧ Pending segment first last candidate
      ∧ Stacked segment first last candidate.endTick pending

theorem Stacked.le {segment : Nat} {first last : TimedConfiguration (Rounded R)}
    {tick : Nat} {pending : List (PendingSlice (Rounded R))}
    (h : Stacked segment first last tick pending) : tick ≤ last.tick := by
  induction pending generalizing tick with
  | nil => exact Nat.le_of_eq h
  | cons candidate pending ih =>
      obtain ⟨hbegin, hcandidate, hrest⟩ := h
      have := ih hrest
      have := hcandidate.lt
      omega

/-- Halving keeps the parts following one another. -/
theorem Stacked.halves {segment : Nat}
    {first last : TimedConfiguration (Rounded R)} {tick : Nat}
    {candidate : PendingSlice (Rounded R)}
    {pending : List (PendingSlice (Rounded R))}
    (h : Stacked segment first last tick (candidate :: pending))
    (hhalves : RbfSafe.halves robot options candidate = true) :
    Stacked segment first last tick (earlierHalf first last candidate
      :: laterHalf first last candidate :: pending) := by
  obtain ⟨hbegin, hcandidate, hrest⟩ := h
  have hend := hrest.le
  rw [RbfSafe.halves, Bool.and_eq_true, decide_eq_true_eq] at hhalves
  have hmiddle : candidate.beginTick < midpointTick candidate
      ∧ midpointTick candidate < candidate.endTick := by
    unfold midpointTick
    omega
  have hplanned : configurationAt first last (midpointTick candidate)
      = plannedConfiguration first last (midpointTick candidate) :=
    (planned_before (hmiddle.2.trans_le hend)).symm
  exact ⟨hbegin, ⟨hcandidate.segment, hmiddle.1, hcandidate.beginConfiguration,
    hplanned⟩, rfl, ⟨hcandidate.segment, hmiddle.2, hplanned,
    hcandidate.endConfiguration⟩, hrest⟩

/-- **The loop tiles the segment**, from where the stack begins. -/
theorem subdivide_ok {segment : Nat}
    {first last : TimedConfiguration (Rounded R)}
    (pending : List (PendingSlice (Rounded R)))
    (state state' : BuildState (Rounded R)) {tick : Nat}
    (hstack : Stacked segment first last tick pending)
    (h : subdivide P E robot metadata trajectory options first last pending
      state = .ok state') :
    ∃ slices, state'.slices = state.slices ++ slices
      ∧ Tiles (Sliced P robot metadata trajectory options segment first last)
        tick slices last.tick
      ∧ state'.linkEnvelopeCount
        = state.linkEnvelopeCount + slices.length * robot.linkCount := by
  induction pending, state using subdivide.induct P E robot metadata trajectory
      options first last generalizing tick with
  | case1 state =>
      rw [subdivide] at h
      cases h
      exact ⟨[], (List.append_nil _).symm, hstack, by simp⟩
  | case2 candidate pending state hhalves ih =>
      rw [subdivide, dif_pos hhalves] at h
      exact ih (hstack.halves hhalves) h
  | case3 candidate pending state hhalves hslices =>
      rw [subdivide, dif_neg hhalves, if_pos hslices] at h
      cases h
  | case4 candidate pending state hhalves hslices hlinks =>
      rw [subdivide, dif_neg hhalves, if_neg hslices, if_pos hlinks] at h
      cases h
  | case5 candidate pending state hhalves hslices hlinks e he =>
      rw [subdivide, dif_neg hhalves, if_neg hslices, if_neg hlinks, he] at h
      cases h
  | case6 candidate pending state hhalves hslices hlinks slice hslice ih =>
      rw [subdivide, dif_neg hhalves, if_neg hslices, if_neg hlinks, hslice]
        at h
      obtain ⟨hbegin, hcandidate, hrest⟩ := hstack
      obtain ⟨hbegin', hend', hsliced⟩ := sliceOf_ok hcandidate hslice
      obtain ⟨slices, hmade, htiles, hcount⟩ := ih hrest h
      refine ⟨slice :: slices, ?_, ⟨hbegin'.trans hbegin, ?_, hsliced, ?_⟩, ?_⟩
      · rw [hmade, List.append_assoc, List.singleton_append]
      · rw [hbegin', hend']
        exact hcandidate.lt
      · rw [hend']
        exact htiles
      · rw [hcount, List.length_cons, Nat.succ_mul]
        simp only
        omega

end RbfSafe
