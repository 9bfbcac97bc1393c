/-
The continuous analysis of a fleet: complete, and independent of the
order of its input.

The robots of one fleet have ids of their own, since their deployments
differ. So the pairs of slices that share a tick are all evaluated, none
of them twice (`mem_evaluations_iff`, `evaluations_apart`); the conflicts
are told apart by their robots and windows, and the report passes its own
check.
-/
import RbfSafe.Occupancy.Proofs.Slices
import RbfSafe.Occupancy.Proofs.Identity

namespace RbfSafe

open Lib

section
variable {α : Type} [MetricScalar α] (P : Platform)

-- === fleets

/-- Occupancies to be analysed together: valid ones over one timeline and
frame, of different deployments, none of whose documents collide. -/
structure OneFleet (occupancies : List (RobotTrajectoryOccupancy α)) :
    Prop where
  valid : ∀ occupancy ∈ occupancies, occupancy.valid P = true
  timeline : ∀ first ∈ occupancies, ∀ second ∈ occupancies,
    first.timelineId = second.timelineId
  frame : ∀ first ∈ occupancies, ∀ second ∈ occupancies,
    first.workspaceFrameId = second.workspaceFrameId
  deployments : (occupancies.map (·.deploymentId)).Nodup
  collisionFree : Set.InjOn P.sha256
    {document | ∃ occupancy ∈ occupancies,
      occupancyDocument P occupancy = document}

variable {P} {occupancies ordered : List (RobotTrajectoryOccupancy α)}

namespace OneFleet

theorem perm (h : OneFleet P occupancies) (hperm : occupancies.Perm ordered) :
    OneFleet P ordered where
  valid o ho := h.valid o (hperm.mem_iff.mpr ho)
  timeline o ho o' ho' :=
    h.timeline o (hperm.mem_iff.mpr ho) o' (hperm.mem_iff.mpr ho')
  frame o ho o' ho' :=
    h.frame o (hperm.mem_iff.mpr ho) o' (hperm.mem_iff.mpr ho')
  deployments := (hperm.map _).nodup_iff.mp h.deployments
  collisionFree := by
    refine h.collisionFree.mono ?_
    intro document ⟨o, ho, hdocument⟩
    exact ⟨o, hperm.mem_iff.mpr ho, hdocument⟩

theorem sound (h : OneFleet P occupancies)
    {occupancy : RobotTrajectoryOccupancy α} (ho : occupancy ∈ occupancies) :
    SoundOccupancy P occupancy :=
  RobotTrajectoryOccupancy.valid_sound P (h.valid occupancy ho)

theorem nodup (h : OneFleet P occupancies) : occupancies.Nodup :=
  List.Nodup.of_map _ h.deployments

/-- A deployment has one robot. -/
theorem eq_of_deployment (h : OneFleet P occupancies)
    {first second : RobotTrajectoryOccupancy α} (hfirst : first ∈ occupancies)
    (hsecond : second ∈ occupancies)
    (heq : first.deploymentId = second.deploymentId) : first = second :=
  List.inj_on_of_nodup_map h.deployments hfirst hsecond heq

/-- An id is that of one robot. -/
theorem eq_of_id (h : OneFleet P occupancies)
    {first second : RobotTrajectoryOccupancy α} (hfirst : first ∈ occupancies)
    (hsecond : second ∈ occupancies) (heq : first.id = second.id) :
    first = second := by
  have hs := h.sound hfirst
  have hs' := h.sound hsecond
  have hdocument : occupancyDocument P first = occupancyDocument P second :=
    h.collisionFree ⟨first, hfirst, rfl⟩ ⟨second, hsecond, rfl⟩
      (hs.identity.trans (heq.trans hs'.identity.symm))
  apply h.eq_of_deployment hfirst hsecond
  exact deploymentId_of_document_eq P
    (hs.algorithm.trans hs'.algorithm.symm) hdocument

end OneFleet

-- === evaluations

/-- A slice of time covers a tick. -/
def CoversTick (slice : SweptLinkOccupancySlice α) (tick : Nat) : Prop :=
  slice.beginTick ≤ tick ∧ tick < slice.endTick

omit [MetricScalar α] in
theorem SlicePair.meets_iff {pair : SlicePair α} : pair.Meets ↔
    ∃ tick, CoversTick pair.firstSlice tick ∧ CoversTick pair.secondSlice tick := by
  unfold Meets overlapBegin overlapEnd CoversTick
  rw [Nat.max_lt, Nat.lt_min, Nat.lt_min]
  constructor
  · intro ⟨⟨hf, hfs⟩, hsf, hs⟩
    refine ⟨max pair.firstSlice.beginTick pair.secondSlice.beginTick, ?_, ?_⟩
    · omega
    · omega
  · intro ⟨tick, hfirst, hsecond⟩
    omega

omit [MetricScalar α] in
theorem SlicePair.meets_iff_merge {pair : SlicePair α} : pair.Meets ↔
    Merge.Meets SweptLinkOccupancySlice.beginTick
      SweptLinkOccupancySlice.endTick pair.firstSlice pair.secondSlice :=
  Iff.rfl

/-- A pair of slices of two robots, in order. -/
structure SlicesOf (occupancies : List (RobotTrajectoryOccupancy α))
    (pair : SlicePair α) : Prop where
  first : pair.first ∈ occupancies
  second : pair.second ∈ occupancies
  ordered : pair.first.id < pair.second.id
  firstSlice : pair.firstSlice ∈ pair.first.slices
  secondSlice : pair.secondSlice ∈ pair.second.slices

omit [MetricScalar α] in
/-- The cursors of two robots stand on their slices. -/
theorem mem_slicePairs {first second : RobotTrajectoryOccupancy α}
    {pair : SlicePair α} (h : pair ∈ slicePairs first second) :
    (pair.first = first ∧ pair.second = second ∧ ¬second.id < first.id
      ∨ pair.first = second ∧ pair.second = first ∧ second.id < first.id)
    ∧ (pair.firstSlice, pair.secondSlice) ∈
      Merge.merge SweptLinkOccupancySlice.endTick pair.first.slices
        pair.second.slices := by
  unfold slicePairs at h
  by_cases hless : second.id < first.id
  · rw [if_pos hless, List.mem_map] at h
    obtain ⟨p, hp, rfl⟩ := h
    exact ⟨Or.inr ⟨rfl, rfl, hless⟩, hp⟩
  · rw [if_neg hless, List.mem_map] at h
    obtain ⟨p, hp, rfl⟩ := h
    exact ⟨Or.inl ⟨rfl, rfl, hless⟩, hp⟩

/-- Whoever is evaluated is a pair of slices of two robots. -/
theorem OneFleet.slicesOf (h : OneFleet P ordered) {pair : SlicePair α}
    (hpair : pair ∈ evaluations ordered) : SlicesOf ordered pair := by
  obtain ⟨⟨first, second⟩, hp, hslices⟩ := List.mem_flatMap.mp hpair
  obtain ⟨hfirst, hsecond⟩ := Sweep.mem_of_mem_pairs hp
  have hne : first.id ≠ second.id := by
    intro heq
    have hsame : first = second := h.eq_of_id hfirst hsecond heq
    rw [hsame] at hp
    exact Sweep.not_mem_pairs_swap h.nodup hp hp
  obtain ⟨hends, hmerge⟩ := mem_slicePairs hslices
  have hmem := Merge.mem_of_mem_merge hmerge
  rcases hends with ⟨hf, hs, hless⟩ | ⟨hf, hs, hless⟩
  · refine ⟨by rwa [hf], by rwa [hs], ?_, hmem.1, hmem.2⟩
    rw [hf, hs]
    exact Std.lt_of_le_of_ne (Std.not_lt.mp hless) hne
  · refine ⟨by rwa [hf], by rwa [hs], ?_, hmem.1, hmem.2⟩
    rw [hf, hs]
    exact hless

/-- **Every two slices that share a tick are evaluated.** -/
theorem OneFleet.mem_evaluations (h : OneFleet P ordered) {pair : SlicePair α}
    (hpair : SlicesOf ordered pair) (hmeets : pair.Meets) :
    pair ∈ evaluations ordered := by
  have hmerge : (pair.firstSlice, pair.secondSlice) ∈
      Merge.merge SweptLinkOccupancySlice.endTick pair.first.slices
        pair.second.slices :=
    Merge.mem_merge (h.sound hpair.first).forward
      (h.sound hpair.second).forward hpair.firstSlice hpair.secondSlice
      (SlicePair.meets_iff_merge.mp hmeets)
  have hne : pair.first ≠ pair.second := by
    intro heq
    have hlt := hpair.ordered
    rw [heq] at hlt
    exact Std.lt_irrefl hlt
  unfold evaluations
  rw [List.mem_flatMap]
  cases Sweep.mem_pairs_or hpair.first hpair.second hne with
  | inl hp =>
      refine ⟨_, hp, ?_⟩
      unfold slicePairs
      rw [if_neg (Std.not_lt.mpr (Std.le_of_lt hpair.ordered)), List.mem_map]
      exact ⟨_, hmerge, rfl⟩
  | inr hp =>
      refine ⟨_, hp, ?_⟩
      unfold slicePairs
      rw [if_pos hpair.ordered, List.mem_map]
      exact ⟨_, hmerge, rfl⟩

/-- Two evaluations of the same robots from the same tick on. -/
structure SameWindow (p q : SlicePair α) : Prop where
  first : p.first.id = q.first.id
  second : p.second.id = q.second.id
  overlap : p.overlapBegin = q.overlapBegin

/-- **No two slices that share a tick are evaluated twice**: of the same
robots, the shared windows begin at different ticks. -/
theorem OneFleet.evaluations_apart (h : OneFleet P ordered) :
    (evaluations ordered).Pairwise fun p q =>
      p.Meets → ¬SameWindow p q := by
  unfold evaluations
  rw [List.pairwise_flatMap]
  constructor
  · -- of two robots: the shared windows follow one another
    intro ⟨first, second⟩ hp
    obtain ⟨hfirst, hsecond⟩ := Sweep.mem_of_mem_pairs hp
    have hforward : ∀ a ∈ ordered, ∀ b ∈ ordered,
        ((Merge.merge SweptLinkOccupancySlice.endTick a.slices b.slices).map
          fun p => (⟨a, b, p.1, p.2⟩ : SlicePair α)).Pairwise fun p q =>
            p.Meets → ¬SameWindow p q := by
      intro a ha b hb
      rw [List.pairwise_map]
      refine (Merge.merge_forward (h.sound ha).forward
        (h.sound hb).forward).imp ?_
      intro p q hle hmeets hsame
      have hlt : SlicePair.overlapBegin ⟨a, b, p.1, p.2⟩
          < SlicePair.overlapEnd ⟨a, b, p.1, p.2⟩ := hmeets
      have hbegin := hsame.overlap
      have hle : SlicePair.overlapEnd ⟨a, b, p.1, p.2⟩
          ≤ SlicePair.overlapBegin ⟨a, b, q.1, q.2⟩ := hle
      omega
    unfold slicePairs
    split
    · exact hforward second hsecond first hfirst
    · exact hforward first hfirst second hsecond
  · -- of different robots
    have hids : ∀ {a b : RobotTrajectoryOccupancy α}, a ∈ ordered →
        b ∈ ordered → a.id = b.id → a = b := h.eq_of_id
    have hnodup := Sweep.nodup_pairs h.nodup
    refine List.Pairwise.imp_of_mem ?_ hnodup
    intro ⟨a, b⟩ ⟨c, d⟩ hp hq hne p hpmem q hqmem _ hsame
    have ha : a ∈ ordered := (Sweep.mem_of_mem_pairs hp).1
    have hb : b ∈ ordered := (Sweep.mem_of_mem_pairs hp).2
    have hc : c ∈ ordered := (Sweep.mem_of_mem_pairs hq).1
    have hd : d ∈ ordered := (Sweep.mem_of_mem_pairs hq).2
    have hfirst := hsame.first
    have hsecond := hsame.second
    rcases (mem_slicePairs hpmem).1 with ⟨hpf, hps, -⟩ | ⟨hpf, hps, -⟩ <;>
      rcases (mem_slicePairs hqmem).1 with ⟨hqf, hqs, -⟩ | ⟨hqf, hqs, -⟩ <;>
      rw [hpf, hqf] at hfirst <;> rw [hps, hqs] at hsecond
    · exact hne (Prod.ext (hids ha hc hfirst) (hids hb hd hsecond))
    · rw [hids ha hd hfirst, hids hb hc hsecond] at hp
      exact Sweep.not_mem_pairs_swap h.nodup hq hp
    · rw [hids hb hc hfirst, hids ha hd hsecond] at hp
      exact Sweep.not_mem_pairs_swap h.nodup hq hp
    · exact hne (Prod.ext (hids ha hc hsecond) (hids hb hd hfirst))

end

end RbfSafe
