/-
Continuous fleet occupancy analysis misses no simultaneous pair.

The analysis of one fleet answers, unless a limit is exceeded, a report
that passes its own check; it certifies separation exactly if the links
of any two robots are apart at every tick that both cover. It does not
matter in what order the robots come.
-/
import RbfSafe.Occupancy.Proofs.Report
import RbfSafe.Core.Proofs.Sha256

namespace RbfSafe

open Lib

section
variable {α : Type} [MetricScalar α] {P : Platform}
  {options : ContinuousFleetOccupancyOptions α}
  {occupancies ordered : List (RobotTrajectoryOccupancy α)}

-- === the checks

theorem OneFleet.checkOccupancies_ok (h : OneFleet P occupancies) :
    checkOccupancies P occupancies = .ok () := by
  have hvalid := h.valid
  clear h
  induction occupancies with
  | nil => rfl
  | cons occupancy rest ih =>
      have hfirst := hvalid occupancy List.mem_cons_self
      rw [checkOccupancies, if_neg (by rw [hfirst]; exact Bool.noConfusion)]
      exact ih fun o ho => hvalid o (List.mem_cons_of_mem _ ho)

omit [MetricScalar α] in
/-- Robots of one timeline and frame, none like the one before. -/
theorem checkFleet_ok {timelineId workspaceFrameId : Bytes} :
    ∀ {previous : Option Bytes} {ordered : List (RobotTrajectoryOccupancy α)},
    (∀ occupancy ∈ ordered, occupancy.timelineId = timelineId
      ∧ occupancy.workspaceFrameId = workspaceFrameId) →
    (previous.toList ++ ordered.map (·.deploymentId)).Nodup →
    checkFleet timelineId workspaceFrameId previous ordered = .ok () := by
  intro previous ordered
  induction ordered generalizing previous with
  | nil => exact fun _ _ => rfl
  | cons occupancy rest ih =>
      intro hsame hnodup
      obtain ⟨htimeline, hframe⟩ := hsame occupancy List.mem_cons_self
      have hother : previous ≠ some occupancy.deploymentId := by
        intro heq
        rw [heq, List.map_cons] at hnodup
        exact (List.nodup_cons.mp hnodup).1 List.mem_cons_self
      have hrest : ((some occupancy.deploymentId).toList
          ++ rest.map (·.deploymentId)).Nodup :=
        (List.nodup_append.mp hnodup).2.1
      rw [checkFleet, if_neg (by simp [htimeline, hframe]), if_neg hother]
      exact ih (fun o ho => hsame o (List.mem_cons_of_mem _ ho)) hrest

/-- The order of the robots does not matter. -/
theorem OneFleet.analysis_perm (h : OneFleet P occupancies)
    {shuffled : List (RobotTrajectoryOccupancy α)}
    (hperm : shuffled.Perm occupancies) :
    analyzeContinuousFleetOccupancy P shuffled options
      = analyzeContinuousFleetOccupancy P occupancies options := by
  have hshuffled := h.perm hperm.symm
  have hsort : Sorting.sort robotKey shuffled
      = Sorting.sort robotKey occupancies := by
    refine Sorting.sort_congr robotKey hperm ?_
    intro a ha b hb heq
    injection heq with hdeployment _
    exact hshuffled.eq_of_deployment ha hb hdeployment
  unfold analyzeContinuousFleetOccupancy
  rw [hshuffled.checkOccupancies_ok, h.checkOccupancies_ok, hsort,
    hperm.length_eq]

variable (options occupancies) in
/-- Nothing exceeds its limit. -/
def WithinFleetLimits : Prop :=
  occupancies.length ≤ options.maximumOccupancies
    ∧ (fleetTotal options (Sorting.sort robotKey occupancies)).WithinLimits
      options

variable [LawfulMetric α]

/-- **The analysis of one fleet.** -/
theorem OneFleet.analysis (h : OneFleet P occupancies)
    (hoptions : validAnalysisOptions options = true)
    (hseveral : 2 ≤ occupancies.length) :
    ∃ front ∈ occupancies, Budgeted (WithinFleetLimits options occupancies)
      (analyzeContinuousFleetOccupancy P occupancies options)
      (fleetReport P options front.timelineId front.workspaceFrameId
        (Sorting.sort robotKey occupancies)
        (fleetTotal options (Sorting.sort robotKey occupancies))) := by
  have hperm := Sorting.sort_perm robotKey occupancies
  have hordered : OneFleet P (Sorting.sort robotKey occupancies) :=
    h.perm hperm.symm
  have hlength := hperm.length_eq
  unfold analyzeContinuousFleetOccupancy WithinFleetLimits
  rw [if_neg (by rw [hoptions]; exact Bool.noConfusion),
    if_neg (by omega : ¬occupancies.length < 2), h.checkOccupancies_ok]
  cases hsort : Sorting.sort robotKey occupancies with
  | nil =>
      rw [hsort, List.length_nil] at hlength
      omega
  | cons front rest =>
      have hfront : front ∈ Sorting.sort robotKey occupancies := by
        rw [hsort]
        exact List.mem_cons_self
      refine ⟨front, hperm.mem_iff.mp hfront, ?_⟩
      by_cases hmany : options.maximumOccupancies < occupancies.length
      · rw [if_pos hmany]
        exact Budgeted.stop (by omega) _
      · rw [if_neg hmany]
        rw [hsort] at hordered hfront hlength
        have hcheck : checkFleet front.timelineId front.workspaceFrameId none
            (front :: rest) = .ok () :=
          checkFleet_ok (fun o ho => ⟨hordered.timeline o ho front hfront,
            hordered.frame o ho front hfront⟩) hordered.deployments
        have hvalid := hordered.report_valid hoptions
          (by rw [hlength]; exact hseveral) hfront
        simp only [ok_bind, hcheck, sweepFleet_eq]
        refine (evaluateSlicePairs_budgeted _ {}
          ⟨Nat.zero_le _, Nat.zero_le _, Nat.zero_le _⟩).bind ?_
          (fun hfits => hfits.2)
        intro hfits
        rw [← fleetTotal, hvalid, if_neg (by exact Bool.noConfusion)]
        exact Budgeted.ok ⟨by omega, hfits⟩

-- === certificates

variable (options occupancies) in
/-- Whatever two robots cover at one tick is apart, by the separation. -/
def SeparatedAtEveryTick : Prop :=
  ∀ first ∈ occupancies, ∀ second ∈ occupancies,
    first.deploymentId ≠ second.deploymentId →
  ∀ tick, ∀ slice ∈ first.slices, CoversTick slice tick →
  ∀ other ∈ second.slices, CoversTick other tick →
  ∀ box ∈ slice.linkEnvelopes, ∀ box' ∈ other.linkEnvelopes,
    box.overlaps box' Scalar.zero = false
      ∧ Scalar.le options.minimumSeparation (guardedClearance box box') = true

/-- **No conflict is found exactly if all is apart.** -/
theorem OneFleet.conflicts_eq_nil_iff (h : OneFleet P ordered)
    (hoptions : validAnalysisOptions options = true) :
    (evaluations ordered).filterMap (SlicePair.conflict options) = []
      ↔ SeparatedAtEveryTick options ordered := by
  rw [List.filterMap_eq_nil_iff]
  constructor
  · intro hnone first hfirst second hsecond hne tick slice hslice hcovers
      other hother hcovers' box hbox box' hbox'
    have hids : first.id ≠ second.id :=
      fun heq => hne (congrArg _ (h.eq_of_id hfirst hsecond heq))
    have happart : ∀ pair : SlicePair α, SlicesOf ordered pair →
        pair.Meets → pair.Separate options := by
      intro pair hpair hmeets
      exact (SlicePair.conflict_eq_none_iff hoptions).mp
        (hnone pair (h.mem_evaluations hpair hmeets)) hmeets
    rcases Std.lt_trichotomy first.id second.id with hlt | heq | hlt
    · exact happart ⟨first, second, slice, other⟩
        ⟨hfirst, hsecond, hlt, hslice, hother⟩
        (SlicePair.meets_iff.mpr ⟨tick, hcovers, hcovers'⟩) box hbox box' hbox'
    · exact absurd heq hids
    · -- the pair was evaluated the other way round
      obtain ⟨_, -, hsound⟩ := (h.sound hfirst).slices
      obtain ⟨_, -, hsound'⟩ := (h.sound hsecond).slices
      have hapart := happart ⟨second, first, other, slice⟩
        ⟨hsecond, hfirst, hlt, hother, hslice⟩
        (SlicePair.meets_iff.mpr ⟨tick, hcovers', hcovers⟩) box' hbox' box hbox
      rw [WorkspaceAabb.overlaps_comm,
        guardedClearance_comm ((hsound' other hother).boxes box' hbox')
          ((hsound slice hslice).boxes box hbox)] at hapart
      exact hapart
  · intro hapart pair hmem
    have hpair := h.slicesOf hmem
    apply (SlicePair.conflict_eq_none_iff hoptions).mpr
    intro hmeets box hbox other hother
    obtain ⟨tick, hcovers, hcovers'⟩ := SlicePair.meets_iff.mp hmeets
    have hdeployments : pair.first.deploymentId ≠ pair.second.deploymentId := by
      intro heq
      have hsame := h.eq_of_deployment hpair.first hpair.second heq
      have hlt := hpair.ordered
      rw [hsame] at hlt
      exact Std.lt_irrefl hlt
    exact hapart pair.first hpair.first pair.second hpair.second hdeployments
      tick pair.firstSlice hpair.firstSlice hcovers pair.secondSlice
      hpair.secondSlice hcovers' box hbox other hother

/-- **Continuous fleet occupancy analysis misses no simultaneous pair.**
The loops evaluate the pairs of slices of two robots that share a tick,
each of them once; the analysis answers a valid report unless a limit is
exceeded, certifies separation exactly if all is apart at every tick, and
does not depend on the order of the robots. -/
theorem analyzeContinuousFleetOccupancy_complete (h : OneFleet P occupancies)
    (hoptions : validAnalysisOptions options = true)
    (hseveral : 2 ≤ occupancies.length) :
    (∀ report, sweepFleet options (Sorting.sort robotKey occupancies) report
      = (evaluations (Sorting.sort robotKey occupancies)).foldlM
        (evaluateSlicePair options) report)
    ∧ ((evaluations (Sorting.sort robotKey occupancies)).filter
      fun pair => decide pair.Meets).Nodup
    ∧ (∀ pair : SlicePair α,
      (pair ∈ evaluations (Sorting.sort robotKey occupancies) ∧ pair.Meets)
        ↔ SlicesOf occupancies pair ∧ ∃ tick,
          CoversTick pair.firstSlice tick ∧ CoversTick pair.secondSlice tick)
    ∧ (WithinFleetLimits options occupancies → ∃ report,
      analyzeContinuousFleetOccupancy P occupancies options = .ok report
        ∧ report.valid P = true
        ∧ (report.status = .certifiedSeparatedUnderSweptEnvelopes
          ↔ SeparatedAtEveryTick options occupancies))
    ∧ (¬WithinFleetLimits options occupancies → ∃ message,
      analyzeContinuousFleetOccupancy P occupancies options
        = failure .resourceLimit message)
    ∧ ∀ shuffled : List (RobotTrajectoryOccupancy α),
      shuffled.Perm occupancies →
      analyzeContinuousFleetOccupancy P shuffled options
        = analyzeContinuousFleetOccupancy P occupancies options := by
  have hperm := Sorting.sort_perm robotKey occupancies
  have hordered : OneFleet P (Sorting.sort robotKey occupancies) :=
    h.perm hperm.symm
  obtain ⟨front, hfront, hanalysis⟩ := h.analysis hoptions hseveral
  have hslices : ∀ pair, SlicesOf (Sorting.sort robotKey occupancies) pair
      ↔ SlicesOf occupancies pair := by
    intro pair
    constructor
    · intro ⟨hf, hs, hlt, ha, hb⟩
      exact ⟨hperm.mem_iff.mp hf, hperm.mem_iff.mp hs, hlt, ha, hb⟩
    · intro ⟨hf, hs, hlt, ha, hb⟩
      exact ⟨hperm.mem_iff.mpr hf, hperm.mem_iff.mpr hs, hlt, ha, hb⟩
  refine ⟨sweepFleet_eq _, ?_, ?_, ?_, hanalysis.beyond,
    fun shuffled hshuffled => h.analysis_perm hshuffled⟩
  · rw [List.Nodup, List.pairwise_filter]
    refine hordered.evaluations_apart.imp ?_
    intro p q hapart hp _ heq
    rw [← heq] at hapart
    exact hapart (of_decide_eq_true hp) ⟨rfl, rfl, rfl⟩
  · intro pair
    rw [← SlicePair.meets_iff, ← hslices]
    constructor
    · exact fun ⟨hmem, hmeets⟩ => ⟨hordered.slicesOf hmem, hmeets⟩
    · exact fun ⟨hof, hmeets⟩ =>
        ⟨hordered.mem_evaluations hof hmeets, hmeets⟩
  · intro hlimits
    refine ⟨_, hanalysis.within hlimits, ?_, ?_⟩
    · exact hordered.report_valid hoptions
        (by rw [hperm.length_eq]; exact hseveral) (hperm.mem_iff.mpr hfront)
    · have hseparated : SeparatedAtEveryTick options
          (Sorting.sort robotKey occupancies)
          ↔ SeparatedAtEveryTick options occupancies := by
        unfold SeparatedAtEveryTick
        simp only [hperm.mem_iff]
      rw [← hseparated, ← hordered.conflicts_eq_nil_iff hoptions]
      unfold fleetReport
      rw [fleetTotal_eq]
      dsimp only
      rw [← List.isEmpty_iff]
      split
      case isTrue hempty => simp [hempty]
      case isFalse hempty => simp [hempty]

end

-- === sample

/-- A robot that stands still for two ticks in a cube of side one, which
begins at `corner` on every axis. -/
def standingRobot (deploymentId sliceId id : String) (corner : Float) :
    RobotTrajectoryOccupancy Float where
  storageSchema := 1
  id := ascii id
  timelineId := ascii "t"
  workspaceFrameId := ascii "w"
  deploymentId := ascii deploymentId
  robotDigest := List.replicate 64 97
  workspaceTranslation _ := Scalar.zero
  workspaceRotation := kIdentityRotation
  workspaceTranslationUncertainty _ := Scalar.zero
  workspaceAngularUncertaintyRadians := Scalar.zero
  algorithm := kOccupancyAlgorithm
  algorithmVersion := kOccupancyAlgorithmVersion1
  maximumSubdivisionDepth := 0
  maximumNormalizedJointWidth := Scalar.one
  linkPadding := Scalar.zero
  trajectory := [⟨0, [Scalar.zero]⟩, ⟨2, [Scalar.zero]⟩]
  slices :=
    [{ id := ascii sliceId
       trajectorySegmentIndex := 0
       beginTick := 0
       endTick := 2
       configurationDomain := ⟨[⟨Scalar.zero, Scalar.zero⟩]⟩
       linkEnvelopes :=
        [{ lower := fun _ => corner
           upper := fun _ => Scalar.add corner Scalar.one }] }]

/-- The robot at the origin. -/
def nearRobot : RobotTrajectoryOccupancy Float :=
  standingRobot "d"
    "e2fdf628ebace3c2452376044775de776a2db29b7a6c9bd6de3ac131fd53549e"
    "cfe60e06c2cd4e0aa30e08fda2af2a2338661c86ffe65f386d386204a1b7b040"
    (Scalar.ofNat 0)

/-- The robot one unit away from it. -/
def farRobot : RobotTrajectoryOccupancy Float :=
  standingRobot "e"
    "b09644d6cd83bae6803cdbcc216aea9e4398e2c742e7e2edccb4f1cb7b0139d6"
    "6bc243134025328580dff19a70c70ee1a89dabc0c2cb3fd3802fd5fb28506e2d"
    (Scalar.ofNat 2)

set_option maxRecDepth 20000 in
theorem nearRobot_valid :
    nearRobot.valid (host fun _ _ _ => true) = true := by
  rw [host_eq]
  decide +kernel

set_option maxRecDepth 20000 in
theorem farRobot_valid :
    farRobot.valid (host fun _ _ _ => true) = true := by
  rw [host_eq]
  decide +kernel

theorem standingRobots_oneFleet :
    OneFleet (host fun _ _ _ => true) [nearRobot, farRobot] := by
  have hvalid : ∀ occupancy ∈ [nearRobot, farRobot],
      occupancy.valid (host fun _ _ _ => true) = true := by
    intro occupancy ho
    rcases List.mem_pair.mp ho with rfl | rfl
    · exact nearRobot_valid
    · exact farRobot_valid
  have hids : ∀ first ∈ [nearRobot, farRobot], ∀ second ∈
      [nearRobot, farRobot], first.id = second.id → first = second := by
    have hne : nearRobot.id ≠ farRobot.id := by decide
    intro first hfirst second hsecond heq
    rcases List.mem_pair.mp hfirst with rfl | rfl <;>
      rcases List.mem_pair.mp hsecond with rfl | rfl
    · rfl
    · exact absurd heq hne
    · exact absurd heq.symm hne
    · rfl
  have hall : ∀ {p : RobotTrajectoryOccupancy Float → Bytes},
      p nearRobot = p farRobot → ∀ first ∈ [nearRobot, farRobot],
      ∀ second ∈ [nearRobot, farRobot], p first = p second := by
    intro p heq first hfirst second hsecond
    rcases List.mem_pair.mp hfirst with rfl | rfl <;>
      rcases List.mem_pair.mp hsecond with rfl | rfl
    · rfl
    · exact heq
    · exact heq.symm
    · rfl
  refine ⟨hvalid, hall rfl, hall rfl, by decide +kernel, ?_⟩
  -- the documents of the two hash to the two ids
  intro document ⟨first, hfirst, heq⟩ document' ⟨second, hsecond, heq'⟩ hsha
  have hs := RobotTrajectoryOccupancy.valid_sound _ (hvalid first hfirst)
  have hs' := RobotTrajectoryOccupancy.valid_sound _ (hvalid second hsecond)
  rw [← heq, ← heq', hs.identity, hs'.identity] at hsha
  rw [← heq, ← heq', hids first hfirst second hsecond hsha]

/-- Two robots whose distance is asked to be one half. -/
theorem analyzeContinuousFleetOccupancy_complete_sample :
    validAnalysisOptions
        ({ minimumSeparation := Scalar.half } :
          ContinuousFleetOccupancyOptions Float) = true
      ∧ OneFleet (host fun _ _ _ => true) [nearRobot, farRobot]
      ∧ ∀ shuffled : List (RobotTrajectoryOccupancy Float),
        shuffled.Perm [nearRobot, farRobot] →
        analyzeContinuousFleetOccupancy (host fun _ _ _ => true) shuffled
            { minimumSeparation := Scalar.half }
          = analyzeContinuousFleetOccupancy (host fun _ _ _ => true)
            [nearRobot, farRobot] { minimumSeparation := Scalar.half } := by
  have hoptions : validAnalysisOptions
      ({ minimumSeparation := Scalar.half } :
        ContinuousFleetOccupancyOptions Float) = true := by
    decide
  exact ⟨hoptions, standingRobots_oneFleet,
    (analyzeContinuousFleetOccupancy_complete standingRobots_oneFleet hoptions
      (by decide)).2.2.2.2.2⟩

end RbfSafe
