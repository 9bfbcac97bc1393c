/-
Growth stays within its budget and never weakens a certificate.

The grower asks about the narrowest tube, then about the widest, and then
bisects: below the gap is a width whose tube was certified, above it one
whose tube was not (`Refining`). A question is asked only while the budget
lasts, so the grower never runs into it (`askTube_cases`). The gap after
some halvings is what `Bisected` says, whatever the scalars; over exact
numbers it is a power of two smaller than the first one
(`Bisected.exact`).

With a budget of one the widest tube is not asked about at all. The grower
then answers with the narrowest, certified or not.
-/
import RbfSafe.Corridor.Proofs.SegmentTube

namespace RbfSafe.Corridor

variable {α : Type} [TubeScalar α]

-- === questions

/-- A tube of a width that the validator certifies free. -/
structure Taken (validator : ObbRegionValidator α) (options : ObbGrowthOptions α)
    (first second : List α) (width : α) (region : CspaceObb α)
    (validation : ObbValidation α) : Prop where
  tube : segmentTube first second width options.longitudinalMargin = .ok region
  answer : validator.validate region = .ok validation
  free : validation.disposition = .certifiedFree

/-- The tube of a width is certified free. -/
def Free (validator : ObbRegionValidator α) (options : ObbGrowthOptions α)
    (first second : List α) (width : α) : Prop :=
  ∃ region validation,
    Taken validator options first second width region validation

/-- A segment never exceeds a resource. -/
theorem segmentTube_error {first second : List α} {lateral margin : α} {e : Error}
    (h : segmentTube first second lateral margin = .error e) :
    e.code ≠ .resourceLimit := by
  have hfailure : ∀ {code : StatusCode} {message : String},
      (failure code message : Result (CspaceObb α)) = .error e →
        code ≠ .resourceLimit → e.code ≠ .resourceLimit := by
    intro code message hfail hcode
    cases hfail
    exact hcode
  have hcreate : ∀ {vectors : List (List α)} {center halfWidths : List α},
      (if vectors.length ≠ first.length then
        failure .internalError "failed to construct deterministic OBB basis"
      else CspaceObb.create center vectors.flatten halfWidths) = .error e →
        e.code ≠ .resourceLimit := by
    intro vectors center halfWidths hfail
    by_cases hfull : vectors.length ≠ first.length
    · rw [if_pos hfull] at hfail
      exact hfailure hfail (by decide)
    · rw [if_neg hfull, CspaceObb.create] at hfail
      by_cases hvalid : CspaceObb.valid ⟨center, vectors.flatten, halfWidths⟩ = true
      · rw [if_pos hvalid] at hfail
        cases hfail
      · rw [if_neg hvalid] at hfail
        exact hfailure hfail (by decide)
  unfold segmentTube at h
  by_cases hshape : first = [] ∨ first.length ≠ second.length
  · rw [if_pos hshape] at h
    exact hfailure h (by decide)
  · rw [if_neg hshape] at h
    by_cases hwidths : (!Scalar.isFinite lateral || Scalar.lt lateral Scalar.zero
        || !Scalar.isFinite margin || Scalar.lt margin Scalar.zero) = true
    · rw [if_pos hwidths] at h
      exact hfailure h (by decide)
    · rw [if_neg hwidths] at h
      by_cases hfinite : (!(first.zip second).all fun p =>
          Scalar.isFinite p.1 && Scalar.isFinite p.2) = true
      · rw [if_pos hfinite] at h
        exact hfailure h (by decide)
      · rw [if_neg hfinite] at h
        exact hcreate h

variable {validator : ObbRegionValidator α} {options : ObbGrowthOptions α}
  {first second : List α}

/-- What asking about a tube leads to, while the budget lasts. -/
theorem askTube_cases (width : α) {asked : List (CspaceObb α)}
    (h : asked.length < options.maximumValidations) :
    (∃ e, e.code ≠ .resourceLimit
      ∧ askTube validator options first second width asked = (.error e, asked))
    ∨ (∃ tube e, validator.validate tube = .error e
      ∧ askTube validator options first second width asked
        = (.error e, asked ++ [tube]))
    ∨ ∃ tube validation,
      segmentTube first second width options.longitudinalMargin = .ok tube
      ∧ validator.validate tube = .ok validation
      ∧ askTube validator options first second width asked
        = (.ok (tube, validation), asked ++ [tube]) := by
  unfold askTube askValidator
  rcases hsegment : segmentTube first second width options.longitudinalMargin
    with e | tube
  · exact Or.inl ⟨e, segmentTube_error hsegment, rfl⟩
  · dsimp only
    rw [if_neg h.ne]
    rcases hvalidate : validator.validate tube with e | validation
    · exact Or.inr (Or.inl ⟨tube, e, hvalidate, rfl⟩)
    · exact Or.inr (Or.inr ⟨tube, validation, rfl, hvalidate, rfl⟩)

/-- The answer about a width decides whether it is free. -/
theorem free_iff {width : α} {tube : CspaceObb α} {validation : ObbValidation α}
    (htube : segmentTube first second width options.longitudinalMargin = .ok tube)
    (hanswer : validator.validate tube = .ok validation) :
    Free validator options first second width
      ↔ validation.disposition = .certifiedFree := by
  constructor
  · intro hfree
    obtain ⟨region, answer, htaken⟩ := hfree
    have hregion : tube = region := Except.ok.inj (htube.symm.trans htaken.tube)
    subst hregion
    have hsame : validation = answer :=
      Except.ok.inj (hanswer.symm.trans htaken.answer)
    rw [hsame]
    exact htaken.free
  · intro hfree
    exact ⟨tube, validation, htube, hanswer, hfree⟩

-- === bisection

/-- What a gap between two widths is after so many halvings. -/
inductive Bisected (lower upper : α) : Nat → α → α → Prop
  | start : Bisected lower upper 0 lower upper
  | raise {k : Nat} {l u : α} : Bisected lower upper k l u →
      Bisected lower upper (k + 1) (Scalar.mul Scalar.half (Scalar.add l u)) u
  | reduce {k : Nat} {l u : α} : Bisected lower upper k l u →
      Bisected lower upper (k + 1) l (Scalar.mul Scalar.half (Scalar.add l u))

theorem Bisected.trans {lower upper l u l' u' : α} {j k : Nat}
    (h : Bisected lower upper j l u) (h' : Bisected l u k l' u') :
    Bisected lower upper (j + k) l' u' := by
  induction h' with
  | start => exact h
  | raise _ ih => exact ih.raise
  | reduce _ ih => exact ih.reduce

/-- A result whose tube was certified, below a width whose tube was not. -/
structure Refining (validator : ObbRegionValidator α)
    (options : ObbGrowthOptions α) (first second : List α)
    (result : ObbGrowthResult α) (lower upper : α) : Prop where
  certified : result.certified = true
  taken : Taken validator options first second lower result.region
    result.validation
  achieved : result.achievedLateralHalfWidth = lower
  blocked : ¬Free validator options first second upper

/-- What is said of every answer of the grower: the budget, and that it
only fails as a tube or the validator does. -/
structure Within (validator : ObbRegionValidator α)
    (options : ObbGrowthOptions α)
    (answer : Result (ObbGrowthResult α) × List (CspaceObb α)) : Prop where
  budget : answer.2.length ≤ options.maximumValidations
  limit : ∀ e, answer.1 = .error e → e.code = .resourceLimit →
    ∃ tube ∈ answer.2, validator.validate tube = .error e
  counted : ∀ result, answer.1 = .ok result →
    result.validations = answer.2.length

omit [TubeScalar α] in
theorem within_failed {asked : List (CspaceObb α)}
    (h : asked.length < options.maximumValidations) {e : Error}
    (he : e.code ≠ .resourceLimit) :
    Within validator options
      ((.error e, asked) : Result (ObbGrowthResult α) × _) where
  budget := h.le
  limit e' he' hcode := absurd hcode (by cases he'; exact he)
  counted _ hok := by cases hok

omit [TubeScalar α] in
theorem within_refused {asked : List (CspaceObb α)}
    (h : asked.length < options.maximumValidations) {e : Error}
    {tube : CspaceObb α} (htube : validator.validate tube = .error e) :
    Within validator options
      ((.error e, asked ++ [tube]) : Result (ObbGrowthResult α) × _) where
  budget := by
    show (asked ++ [tube]).length ≤ _
    rw [List.length_append]
    exact h
  limit e' he' _ := by
    cases he'
    exact ⟨tube, List.mem_append_right _ List.mem_cons_self, htube⟩
  counted _ hok := by cases hok

omit [TubeScalar α] in
theorem within_answered {asked : List (CspaceObb α)}
    (h : asked.length ≤ options.maximumValidations)
    {result : ObbGrowthResult α} (hcount : result.validations = asked.length) :
    Within validator options (.ok result, asked) where
  budget := h
  limit _ he _ := by cases he
  counted result' hok := by
    cases hok
    exact hcount

/-- The bisection keeps below the gap what was certified and above it what
was not, and asks only within the budget. -/
theorem bisect_spec (iterations : Nat) : ∀ {lower upper : α}
    {result : ObbGrowthResult α} {asked : List (CspaceObb α)},
    Refining validator options first second result lower upper →
    asked.length ≤ options.maximumValidations →
    Within validator options
        (bisect validator options first second iterations lower upper result asked)
      ∧ ∀ final, (bisect validator options first second iterations lower upper
          result asked).1 = .ok final →
        ∃ k l u, Bisected lower upper k l u
          ∧ Refining validator options first second final l u
          ∧ final.growthAttempts = result.growthAttempts + k := by
  induction iterations with
  | zero =>
      intro lower upper result asked hrefining hasked
      refine ⟨within_answered hasked rfl, fun final hfinal => ?_⟩
      cases hfinal
      exact ⟨0, lower, upper, .start, ⟨hrefining.certified, hrefining.taken,
        hrefining.achieved, hrefining.blocked⟩, rfl⟩
  | succ iterations ih =>
      intro lower upper result asked hrefining hasked
      unfold bisect
      by_cases hroom : asked.length < options.maximumValidations
      · rw [if_pos hroom]
        dsimp only
        generalize hmid : Scalar.mul Scalar.half (Scalar.add lower upper) = mid
        rcases askTube_cases mid hroom with ⟨e, he, hask⟩ | ⟨tube, e, he, hask⟩
          | ⟨tube, validation, htube, hanswer, hask⟩
        · rw [hask]
          exact ⟨within_failed hroom he, fun _ hfinal => by cases hfinal⟩
        · rw [hask]
          exact ⟨within_refused hroom he, fun _ hfinal => by cases hfinal⟩
        · have hlength : (asked ++ [tube]).length ≤ options.maximumValidations := by
            rw [List.length_append]
            exact hroom
          rw [hask]
          dsimp only
          by_cases hfree : validation.disposition = .certifiedFree
          · rw [if_pos hfree]
            have hraised : Refining validator options first second
                (ObbGrowthResult.take
                  { result with growthAttempts := result.growthAttempts + 1 }
                  (tube, validation) mid) mid upper :=
              ⟨hrefining.certified, ⟨htube, hanswer, hfree⟩, rfl,
                hrefining.blocked⟩
            obtain ⟨hwithin, hfinal⟩ := ih hraised hlength
            refine ⟨hwithin, fun final hok => ?_⟩
            obtain ⟨k, l, u, hbisected, hrefined, hcount⟩ := hfinal final hok
            subst hmid
            refine ⟨1 + k, l, u, Bisected.start.raise.trans hbisected, hrefined, ?_⟩
            rw [hcount, ← Nat.add_assoc]
            rfl
          · rw [if_neg hfree]
            have hreduced : Refining validator options first second
                { result with growthAttempts := result.growthAttempts + 1 }
                lower mid :=
              ⟨hrefining.certified, hrefining.taken, hrefining.achieved,
                mt (free_iff htube hanswer).mp hfree⟩
            obtain ⟨hwithin, hfinal⟩ := ih hreduced hlength
            refine ⟨hwithin, fun final hok => ?_⟩
            obtain ⟨k, l, u, hbisected, hrefined, hcount⟩ := hfinal final hok
            subst hmid
            refine ⟨1 + k, l, u, Bisected.start.reduce.trans hbisected, hrefined, ?_⟩
            rw [hcount, ← Nat.add_assoc]
      · rw [if_neg hroom]
        refine ⟨within_answered hasked rfl, fun final hfinal => ?_⟩
        cases hfinal
        exact ⟨0, lower, upper, .start, ⟨hrefining.certified, hrefining.taken,
          hrefining.achieved, hrefining.blocked⟩, rfl⟩

-- === growing

/-- What the grower answers. -/
inductive Grown (validator : ObbRegionValidator α) (options : ObbGrowthOptions α)
    (first second : List α) (result : ObbGrowthResult α) : Prop
  /-- The narrowest tube, with nothing else asked. -/
  | narrowest
      (free : result.certified = true
        ↔ Free validator options first second options.initialLateralHalfWidth)
      (taken : result.certified = true → Taken validator options first second
        options.initialLateralHalfWidth result.region result.validation)
      (achieved : result.achievedLateralHalfWidth
        = options.initialLateralHalfWidth)
      (attempts : result.growthAttempts = 0)
      (done : result.certified = false
        ∨ Scalar.eq options.maximumLateralHalfWidth
          options.initialLateralHalfWidth = true
        ∨ options.maximumValidations = 1)
  /-- The widest tube. -/
  | widest
      (free : Free validator options first second options.initialLateralHalfWidth)
      (certified : result.certified = true)
      (taken : Taken validator options first second
        options.maximumLateralHalfWidth result.region result.validation)
      (achieved : result.achievedLateralHalfWidth
        = options.maximumLateralHalfWidth)
  /-- A tube between them. -/
  | refined {k : Nat} {l u : α}
      (free : Free validator options first second options.initialLateralHalfWidth)
      (blocked : ¬Free validator options first second
        options.maximumLateralHalfWidth)
      (bisected : Bisected options.initialLateralHalfWidth
        options.maximumLateralHalfWidth k l u)
      (refining : Refining validator options first second result l u)
      (attempts : result.growthAttempts = 1 + k)

/-- The grower with its validator, from the start. -/
theorem growWith_spec (h : 0 < options.maximumValidations) :
    Within validator options (growWith validator options first second [])
      ∧ ∀ result, (growWith validator options first second []).1 = .ok result →
        Grown validator options first second result := by
  have hempty : ([] : List (CspaceObb α)).length < options.maximumValidations := h
  unfold growWith
  dsimp only
  rcases askTube_cases options.initialLateralHalfWidth hempty
    with ⟨e, he, hask⟩ | ⟨tube, e, he, hask⟩ | ⟨tube, validation, htube, hanswer, hask⟩
  · rw [hask]
    exact ⟨within_failed hempty he, fun _ hfail => by cases hfail⟩
  · rw [hask]
    exact ⟨within_refused hempty he, fun _ hfail => by cases hfail⟩
  · have hinitial : Free validator options first second
        options.initialLateralHalfWidth ↔ validation.disposition = .certifiedFree :=
      free_iff htube hanswer
    have hcertified : (validation.disposition == .certifiedFree) = true
        ↔ validation.disposition = .certifiedFree := beq_iff_eq
    have hsingle : [tube].length ≤ options.maximumValidations := h
    rw [hask]
    dsimp only [List.nil_append]
    by_cases hdone : (!(validation.disposition == .certifiedFree)
        || Scalar.eq options.maximumLateralHalfWidth options.initialLateralHalfWidth
        || [tube].length == options.maximumValidations) = true
    · rw [if_pos hdone]
      refine ⟨within_answered hsingle rfl, fun result hok => ?_⟩
      cases hok
      rw [Bool.or_eq_true, Bool.or_eq_true, Bool.not_eq_true', beq_iff_eq, or_assoc]
        at hdone
      refine Grown.narrowest (hcertified.trans hinitial.symm)
        (fun hfree => ⟨htube, hanswer, hcertified.mp hfree⟩) rfl rfl
        (hdone.imp_right (Or.imp_right fun hone => hone.symm))
    · rw [if_neg hdone]
      rw [Bool.or_eq_true, Bool.or_eq_true, Bool.not_eq_true', beq_iff_eq, not_or,
        not_or, Bool.not_eq_false, hcertified] at hdone
      obtain ⟨⟨hfree, -⟩, hone⟩ := hdone
      have hroom : [tube].length < options.maximumValidations :=
        Nat.lt_of_le_of_ne hsingle hone
      rcases askTube_cases options.maximumLateralHalfWidth hroom
        with ⟨e, he, hask⟩ | ⟨wide, e, he, hask⟩
          | ⟨wide, answer, hwide, hwideAnswer, hask⟩
      · rw [hask]
        exact ⟨within_failed hroom he, fun _ hfail => by cases hfail⟩
      · rw [hask]
        exact ⟨within_refused hroom he, fun _ hfail => by cases hfail⟩
      · rw [hask]
        dsimp only
        have hcount : ([tube] ++ [wide]).length ≤ options.maximumValidations := hroom
        by_cases hwidest : answer.disposition = .certifiedFree
        · rw [if_pos hwidest]
          refine ⟨within_answered hcount rfl, fun result hok => ?_⟩
          cases hok
          exact Grown.widest (hinitial.mpr hfree) (hcertified.mpr hfree)
            ⟨hwide, hwideAnswer, hwidest⟩ rfl
        · rw [if_neg hwidest]
          have hblocked := mt (free_iff hwide hwideAnswer).mp hwidest
          have hrefining : Refining validator options first second
              { certified := validation.disposition == .certifiedFree
                region := tube, validation := validation
                achievedLateralHalfWidth := options.initialLateralHalfWidth
                validations := ([tube] ++ [wide]).length, growthAttempts := 1 }
              options.initialLateralHalfWidth options.maximumLateralHalfWidth :=
            ⟨hcertified.mpr hfree, ⟨htube, hanswer, hfree⟩, rfl, hblocked⟩
          obtain ⟨hwithin, hfinal⟩ :=
            bisect_spec options.maximumIterations hrefining hcount
          refine ⟨hwithin, fun result hok => ?_⟩
          obtain ⟨k, l, u, hbisected, hrefining, hattempts⟩ := hfinal result hok
          exact Grown.refined (hinitial.mpr hfree) hblocked hbisected hrefining
            hattempts

-- === exact numbers

section Exact

variable {K : Type} [Field K] [LinearOrder K] [IsStrictOrderedRing K]
  [TubeScalar K] [ExactScalar K]

/-- A gap shrinks by halves. -/
theorem Bisected.exact {lower upper l u : K} {k : Nat}
    (h : Bisected lower upper k l u) (hle : lower ≤ upper) :
    lower ≤ l ∧ l ≤ u ∧ u ≤ upper ∧ u - l = (upper - lower) / 2 ^ k := by
  have hmid : ∀ a b : K, Scalar.mul Scalar.half (Scalar.add a b) = (a + b) / 2 := by
    intro a b
    rw [ExactScalar.mul_eq, ExactScalar.add_eq, ExactScalar.half_eq]
    ring
  induction h with
  | start => exact ⟨le_refl _, hle, le_refl _, by simp⟩
  | raise _ ih =>
      obtain ⟨hlower, hgap, hupper, hwidth⟩ := ih
      rw [hmid, pow_succ, ← div_div, ← hwidth]
      refine ⟨?_, ?_, hupper, ?_⟩
      · linarith
      · linarith
      · ring
  | reduce _ ih =>
      obtain ⟨hlower, hgap, hupper, hwidth⟩ := ih
      rw [hmid, pow_succ, ← div_div, ← hwidth]
      refine ⟨hlower, ?_, ?_, ?_⟩
      · linarith
      · linarith
      · ring

/-- Freedom of a width is freedom of every narrower one. -/
def MonotoneFreedom (validator : ObbRegionValidator K)
    (options : ObbGrowthOptions K) (first second : List K) : Prop :=
  ∀ wide narrow : K, 0 ≤ narrow → narrow ≤ wide →
    Free validator options first second wide →
    Free validator options first second narrow

omit [IsStrictOrderedRing K] in
/-- The widths that the options admit. -/
theorem widths_ordered {options : ObbGrowthOptions K} (h : options.invalid = false) :
    0 ≤ options.initialLateralHalfWidth
      ∧ options.initialLateralHalfWidth ≤ options.maximumLateralHalfWidth := by
  unfold ObbGrowthOptions.invalid at h
  simp only [Bool.or_eq_false_iff, ExactScalar.lt_eq, decide_eq_false_iff_not,
    ExactScalar.zero_eq, not_lt] at h
  exact ⟨h.1.1.1.1.1.2, h.1.1.1.1.2⟩

/-- The width that was reached lies between the two, and no tube much wider
is free. -/
theorem Grown.exact {validator : ObbRegionValidator K}
    {options : ObbGrowthOptions K} {first second : List K}
    {result : ObbGrowthResult K}
    (h : Grown validator options first second result)
    (hoptions : options.invalid = false) :
    options.initialLateralHalfWidth ≤ result.achievedLateralHalfWidth
      ∧ result.achievedLateralHalfWidth ≤ options.maximumLateralHalfWidth
      ∧ (MonotoneFreedom validator options first second →
        (Free validator options first second options.maximumLateralHalfWidth →
          2 ≤ options.maximumValidations
            ∨ options.maximumLateralHalfWidth = options.initialLateralHalfWidth →
          result.achievedLateralHalfWidth = options.maximumLateralHalfWidth)
        ∧ (¬Free validator options first second options.maximumLateralHalfWidth →
          ∀ width, result.achievedLateralHalfWidth
              + (options.maximumLateralHalfWidth - options.initialLateralHalfWidth)
                / 2 ^ (result.growthAttempts - 1) < width →
            ¬Free validator options first second width)) := by
  obtain ⟨hnonneg, hordered⟩ := widths_ordered hoptions
  cases h with
  | narrowest hfree htaken hachieved hattempts hdone =>
      rw [hachieved, hattempts]
      refine ⟨le_refl _, hordered, fun hmonotone => ⟨fun hwidest hbudget => ?_,
        fun hblocked width hwidth hwide => hblocked ?_⟩⟩
      · have hinitial := hmonotone _ _ hnonneg hordered hwidest
        rcases hdone with hnot | heq | hone
        · rw [hfree.mpr hinitial] at hnot
          cases hnot
        · exact ((ExactScalar.eq_iff _ _).mp heq).symm
        · rcases hbudget with htwo | heq
          · omega
          · exact heq.symm
      · refine hmonotone _ _ (hnonneg.trans hordered) ?_ hwide
        rw [Nat.zero_sub, pow_zero, div_one] at hwidth
        linarith
  | widest hfree hcertified htaken hachieved =>
      rw [hachieved]
      exact ⟨hordered, le_refl _, fun _ => ⟨fun _ _ => rfl,
        fun hblocked => absurd ⟨_, _, htaken⟩ hblocked⟩⟩
  | refined hfree hblocked hbisected hrefining hattempts =>
      obtain ⟨hlower, hgap, hupper, hwidth⟩ := hbisected.exact hordered
      rw [hrefining.achieved, hattempts, Nat.add_sub_cancel_left]
      refine ⟨hlower, hgap.trans hupper, fun hmonotone => ⟨fun hwidest =>
        absurd hwidest hblocked, fun _ width hbeyond hwide => hrefining.blocked ?_⟩⟩
      refine hmonotone _ _ (hnonneg.trans (hlower.trans hgap)) ?_ hwide
      linarith

end Exact

/-- The validator that a grower uses. -/
def usedValidator (makeValidator : α → ObbRegionValidator α)
    (validator : Option (ObbRegionValidator α)) (options : ObbGrowthOptions α) :
    ObbRegionValidator α :=
  validator.getD (makeValidator options.obstaclePadding)

/-- A grower fails on its arguments or grows with its validator. -/
theorem grow_cases (makeValidator : α → ObbRegionValidator α)
    (validator : Option (ObbRegionValidator α)) (options : ObbGrowthOptions α)
    (first second : List α) :
    (∃ message, grow makeValidator validator options first second
      = (failure .invalidArgument message, []))
    ∨ options.invalid = false ∧ 0 < options.maximumValidations
      ∧ grow makeValidator validator options first second
        = growWith (usedValidator makeValidator validator options) options first
          second [] := by
  unfold grow
  by_cases hinvalid : options.invalid = true
  · rw [if_pos hinvalid]
    exact Or.inl ⟨_, rfl⟩
  · rw [if_neg hinvalid]
    have hvalid := Bool.not_eq_true _ ▸ hinvalid
    have hbudget : 0 < options.maximumValidations := by
      unfold ObbGrowthOptions.invalid at hvalid
      rw [Bool.or_eq_false_iff, beq_eq_false_iff_ne] at hvalid
      exact Nat.pos_of_ne_zero hvalid.2
    cases validator with
    | none => exact Or.inr ⟨hvalid, hbudget, rfl⟩
    | some validator =>
        dsimp only
        by_cases hpadding : Scalar.lt (Scalar.decimal 1 15) (Scalar.abs
            (Scalar.sub validator.obstaclePadding options.obstaclePadding)) = true
        · rw [if_pos hpadding]
          exact Or.inl ⟨_, rfl⟩
        · rw [if_neg hpadding]
          exact Or.inr ⟨hvalid, hbudget, rfl⟩

/-- The certificate of a result is that of the narrowest tube, and its
region and width belong to a tube that was certified. -/
theorem Grown.certified_iff {result : ObbGrowthResult α}
    (h : Grown validator options first second result) :
    (result.certified = true
        ↔ Free validator options first second options.initialLateralHalfWidth)
      ∧ (result.certified = true → Taken validator options first second
        result.achievedLateralHalfWidth result.region result.validation) := by
  cases h with
  | narrowest hfree htaken hachieved hattempts hdone =>
      rw [hachieved]
      exact ⟨hfree, htaken⟩
  | widest hfree hcertified htaken hachieved =>
      rw [hachieved]
      exact ⟨⟨fun _ => hfree, fun _ => hcertified⟩, fun _ => htaken⟩
  | refined hfree hblocked hbisected hrefining hattempts =>
      rw [hrefining.achieved]
      exact ⟨⟨fun _ => hfree, fun _ => hrefining.certified⟩,
        fun _ => hrefining.taken⟩

/-- A validator that certifies every tube. -/
def openValidator : ObbRegionValidator ℝ where
  obstaclePadding := 0
  validate _ := .ok ⟨.certifiedFree, 0, ⟨[]⟩, {}⟩

/-- Growth from one to two, with some budget. -/
def sampleOptions (budget : Nat) : ObbGrowthOptions ℝ where
  initialLateralHalfWidth := 1
  maximumLateralHalfWidth := 1 + 1
  longitudinalMargin := 0
  maximumIterations := 12
  maximumValidations := budget
  obstaclePadding := 0

section Sample

attribute [local instance] realTubes exact_realTubes

theorem exists_tube {width : ℝ} (h : 0 ≤ width) :
    ∃ tube, segmentTube [0] [1] width 0 = .ok tube := by
  have hsmall : 256 * TubeScalar.epsilon * (([0] : List ℝ).length : ℝ) < 1 := by
    rw [ExactTubes.epsilon_eq]
    norm_num
  obtain ⟨vs, tube, hok, -⟩ := @segmentTube_ok _ _ [0] [1] width 0
    (List.cons_ne_nil 0 []) rfl h (le_refl 0) hsmall
  exact ⟨tube, hok⟩

theorem free_openValidator (budget : Nat) {width : ℝ} (h : 0 ≤ width) :
    Free openValidator (sampleOptions budget) [0] [1] width := by
  obtain ⟨tube, hok⟩ := exists_tube h
  exact ⟨tube, _, hok, rfl, rfl⟩

theorem monotone_openValidator (budget : Nat) :
    MonotoneFreedom openValidator (sampleOptions budget) [0] [1] :=
  fun _ _ hnarrow _ _ => free_openValidator budget hnarrow

theorem valid_sampleOptions {budget : Nat} (h : 0 < budget) :
    (sampleOptions budget).invalid = false := by
  have hbudget : (budget == 0) = false := beq_eq_false_iff_ne.mpr h.ne'
  unfold ObbGrowthOptions.invalid sampleOptions
  simp [ExactScalar.isFinite_eq, ExactScalar.lt_eq, hbudget]

end Sample

end RbfSafe.Corridor
