/-
The windows in which a bounded session authorizes its commands.

Creating a session adds two delays to its start, and fails if a sum
leaves the 64 bits of the clock. The command latency of the runtime is
added to the start of a command only when the command is authorized, and
nothing bounds that sum: near the end of the clock it overflows, and a
command whose window is cut at the end of the session anyway is answered
by an internal error. Everywhere else the answers are exact
(`authorizes_exactly_iff`).
-/
import RbfSafe.Execution.Proofs.Session

namespace RbfSafe

-- === checked sums

theorem checkedAdd_eq_some_iff {first second sum : UInt64} :
    checkedAdd first second = some sum ↔
      sum.toNat = first.toNat + second.toNat := by
  constructor
  · exact checkedAdd_eq_some
  · intro h
    have hlt := sum.toNat_lt
    have hbound : (0xffffffffffffffff - first).toNat
        = 0xffffffffffffffff - first.toNat :=
      UInt64.toNat_sub_of_le _ _ (by
        rw [UInt64.le_iff_toNat_le]
        exact Nat.le_of_lt_succ first.toNat_lt)
    unfold checkedAdd
    rw [if_neg]
    · have hsum : first + second = sum := by
        apply UInt64.toNat_inj.mp
        rw [UInt64.toNat_add, Nat.mod_eq_of_lt (h ▸ hlt), h]
      rw [hsum]
    · rw [gt_iff_lt, UInt64.lt_iff_toNat_lt, hbound, not_lt]
      omega

theorem checkedAdd_eq_none_iff {first second : UInt64} :
    checkedAdd first second = none ↔
      2 ^ 64 ≤ first.toNat + second.toNat := by
  constructor
  · intro h
    by_contra hlt
    have hsome : checkedAdd first second = some (first + second) := by
      apply checkedAdd_eq_some_iff.mpr
      rw [UInt64.toNat_add, Nat.mod_eq_of_lt (not_le.mp hlt)]
    cases h.symm.trans hsome
  · intro h
    cases hsum : checkedAdd first second with
    | none => rfl
    | some sum =>
        have heq := checkedAdd_eq_some hsum
        have hlt := sum.toNat_lt
        omega

/-- A stand-in for the sum, with which a proof can reduce a match on a sum:
reduced itself, the sum of unknown numbers runs through the whole clock. -/
theorem exists_checkedAdd : ∃ add, add = checkedAdd := ⟨checkedAdd, rfl⟩

theorem toNat_min_clock (a b : UInt64) :
    (min a b).toNat = min a.toNat b.toNat := by
  show (if a ≤ b then a else b).toNat = _
  by_cases hle : a ≤ b
  · rw [if_pos hle, Nat.min_eq_left (UInt64.le_iff_toNat_le.mp hle)]
  · rw [if_neg hle, Nat.min_eq_right]
    rw [UInt64.le_iff_toNat_le, not_le] at hle
    exact hle.le

-- === configurations

/-- `operator==` of two doubles that are finite. -/
def Double.Same (a b : Double) : Prop :=
  ∃ x y, a = .finite x ∧ b = .finite y ∧ x.toRat = y.toRat

/-- The comparison of the code, after its check of the configuration. -/
theorem same_iff : ∀ {configuration other : Configuration},
    other.all Double.isFinite = true →
    (configuration.length = other.length ∧
      configuration.all Double.isFinite = true ∧
      sameConfiguration configuration other = true ↔
      List.Forall₂ Double.Same configuration other) := by
  intro configuration other
  induction other generalizing configuration with
  | nil =>
      intro _
      rw [List.forall₂_nil_right_iff, List.length_nil,
        List.length_eq_zero_iff]
      constructor
      · exact fun h => h.1
      · intro h
        subst h
        exact ⟨rfl, rfl, rfl⟩
  | cons b other ih =>
      intro hother
      rw [List.all_cons, Bool.and_eq_true] at hother
      cases configuration with
      | nil =>
          constructor
          · intro h
            cases h.1
          · intro h
            cases h
      | cons a configuration =>
          rw [List.forall₂_cons, ← ih hother.2]
          unfold sameConfiguration
          rw [List.all_cons, List.map_cons, List.map_cons,
            List.length_cons, List.length_cons, Bool.and_eq_true,
            beq_iff_eq, beq_iff_eq, List.cons.injEq, Nat.add_right_cancel_iff]
          cases a with
          | nonFinite => simp [Double.Same, Double.isFinite]
          | finite x =>
              cases b with
              | nonFinite => cases hother.1
              | finite y =>
                  simp only [Double.Same, Double.isFinite, Double.value,
                    Double.finite.injEq, true_and]
                  constructor
                  · rintro ⟨hlength, hfinite, hsame, hrest⟩
                    exact ⟨⟨x, y, rfl, rfl, hsame⟩, hlength, hfinite, hrest⟩
                  · rintro ⟨⟨_, _, rfl, rfl, hsame⟩, hlength, hfinite, hrest⟩
                    exact ⟨hlength, hfinite, hsame, hrest⟩

-- === the schedule

/-- The commands of a valid sequence, in their order. -/
theorem pairwise_of_commandsValid {dimension : Nat} :
    ∀ {commands : List ExecutionCommand} {index : Nat}
    {previous : Option ExecutionCommand},
    commandsValid dimension index previous commands = true →
    (commands.Pairwise fun a b => a.scheduledOffsetNs < b.scheduledOffsetNs) ∧
      (∀ command ∈ commands,
        validConfiguration command.configuration dimension = true) ∧
      ∀ earlier ∈ previous, ∀ command ∈ commands,
        earlier.scheduledOffsetNs < command.scheduledOffsetNs := by
  intro commands
  induction commands with
  | nil =>
      intro index previous _
      exact ⟨List.Pairwise.nil, fun _ h => (List.not_mem_nil h).elim,
        fun _ _ _ h => (List.not_mem_nil h).elim⟩
  | cons first rest ih =>
      intro index previous h
      unfold commandsValid at h
      simp only [Bool.and_eq_true] at h
      obtain ⟨⟨⟨-, hfirst⟩, hprevious⟩, hrest⟩ := h
      obtain ⟨hpairwise, hvalid, hafter⟩ := ih hrest
      have hlater := hafter first rfl
      refine ⟨List.pairwise_cons.mpr ⟨hlater, hpairwise⟩,
        List.forall_mem_cons.mpr ⟨hfirst, hvalid⟩, ?_⟩
      intro earlier hearlier command hcommand
      cases hearlier
      have hbefore : earlier.scheduledOffsetNs < first.scheduledOffsetNs :=
        of_decide_eq_true hprevious
      cases List.mem_cons.mp hcommand with
      | inl hhere =>
          rw [hhere]
          exact hbefore
      | inr hthere => exact UInt64.lt_trans hbefore (hlater command hthere)

-- === the windows

namespace BoundedExecutionSession

variable (session : BoundedExecutionSession)

/-- When the window of a command opens, on an unbounded clock. -/
def windowStart (command : ExecutionCommand) : Nat :=
  session.validFromMonotonicNs.toNat + command.scheduledOffsetNs.toNat

/-- When the latency of the runtime has passed. -/
def latencyEnd (command : ExecutionCommand) : Nat :=
  session.windowStart command
    + session.monitorAcknowledgement.observation.runtime.commandLatencyNs.toNat

/-- When the window of a command closes, on an unbounded clock. -/
def windowEnd (commandIndex : UInt64) (command : ExecutionCommand) : Nat :=
  let through := min (session.latencyEnd command)
    session.validThroughMonotonicNs.toNat
  if commandIndex = 0 then min through session.startDeadlineMonotonicNs.toNat
  else through

/-- A command of the session, asked for with its own configuration. -/
def Asks (commandIndex : UInt64) (configuration : Configuration)
    (command : ExecutionCommand) : Prop :=
  session.commandSequence.commands[commandIndex.toNat]? = some command
    ∧ List.Forall₂ Double.Same configuration command.configuration

/-- The latency of the runtime reaches past the end of the clock. -/
def LatencyOverflows (commandIndex : UInt64) (configuration : Configuration) :
    Prop :=
  ∃ command, session.Asks commandIndex configuration command
    ∧ 2 ^ 64 ≤ session.latencyEnd command

/-- The answer of a session to a dispatch is that of its windows. -/
structure AuthorizesExactly (P : Platform) (commandIndex : UInt64)
    (configuration : Configuration) (dispatch : UInt64) : Prop where
  noInternalError : ∀ error,
    session.authorizeCommand P commandIndex configuration dispatch
      = .error error → error.code ≠ .internalError
  authorized : (∃ authorization,
      session.authorizeCommand P commandIndex configuration dispatch
        = .ok (some authorization)) ↔
    ∃ command, session.Asks commandIndex configuration command
      ∧ session.windowStart command ≤ dispatch.toNat
      ∧ dispatch.toNat ≤ session.windowEnd commandIndex command
  valid : ∀ authorization,
    session.authorizeCommand P commandIndex configuration dispatch
      = .ok (some authorization) → authorization.valid P = true
  increasing : ∀ (i j : Nat) (earlier later : ExecutionCommand), i < j →
    session.commandSequence.commands[i]? = some earlier →
    session.commandSequence.commands[j]? = some later →
    session.windowStart earlier < session.windowStart later

end BoundedExecutionSession

section
variable {P : Platform} {session : BoundedExecutionSession}
  {commandIndex : UInt64} {configuration : Configuration} {dispatch : UInt64}

namespace BoundedExecutionSession

-- === the answers

/-- A valid session has a valid sequence. -/
theorem sequence_valid (h : session.valid P = true) :
    session.commandSequence.valid P = true := by
  unfold BoundedExecutionSession.valid at h
  simp only [Bool.and_eq_true] at h
  exact h.1.1.1.1.1.1.1.1.1.1.1.1.2

theorem commands_valid (h : session.valid P = true) :
    commandsValid session.commandSequence.dimension 0 none
      session.commandSequence.commands = true := by
  have hsequence := sequence_valid h
  unfold ExecutionCommandSequence.valid at hsequence
  simp only [Bool.and_eq_true] at hsequence
  exact hsequence.1.2

/-- The identities of a valid session and of its sequence are digests. -/
theorem ids_valid (h : session.valid P = true) :
    validSha256 session.id = true
      ∧ validSha256 session.commandSequence.id = true := by
  have hsequence := sequence_valid h
  unfold ExecutionCommandSequence.valid at hsequence
  unfold BoundedExecutionSession.valid at h
  simp only [Bool.and_eq_true] at h hsequence
  exact ⟨h.1.1.1.1.1.1.1.1.1.1.1.1.1.1, hsequence.1.1.1.1.1.1.1.1.1.1.1.2⟩

/-- What the code compares, of a command of the session. -/
theorem asks_iff (h : session.valid P = true) {command : ExecutionCommand}
    (hcommand : session.commandSequence.commands[commandIndex.toNat]?
      = some command) :
    session.Asks commandIndex configuration command ↔
      validConfiguration configuration session.commandSequence.dimension = true
        ∧ sameConfiguration configuration command.configuration = true := by
  have hvalid := (pairwise_of_commandsValid (commands_valid h)).2.1 command
    (List.mem_of_getElem? hcommand)
  unfold validConfiguration at hvalid ⊢
  rw [Bool.and_eq_true, beq_iff_eq] at hvalid
  unfold Asks
  rw [← same_iff hvalid.2, hvalid.1, Bool.and_eq_true, beq_iff_eq, and_assoc]
  exact and_iff_right hcommand

/-- Nothing is authorized that is not a command of the session. -/
theorem authorizeCommand_of_not_asks (h : session.valid P = true)
    (hdispatch : dispatch ≠ 0)
    (hasks : ∀ command, ¬session.Asks commandIndex configuration command) :
    session.authorizeCommand P commandIndex configuration dispatch = .ok none
      ∨ ∃ error, session.authorizeCommand P commandIndex configuration dispatch
        = .error error ∧ error.code = .invalidArgument := by
  unfold authorizeCommand
  by_cases hconfiguration : validConfiguration configuration
      session.commandSequence.dimension = true
  · left
    have hzero : (dispatch == 0) = false := beq_false_of_ne hdispatch
    rw [h, hconfiguration, hzero, if_neg (by decide)]
    cases hcommand : session.commandSequence.commands[commandIndex.toNat]? with
    | none => rfl
    | some command =>
        have hother := hasks command
        rw [asks_iff h hcommand, not_and, Bool.not_eq_true] at hother
        exact if_pos (hother hconfiguration)
  · right
    rw [Bool.not_eq_true] at hconfiguration
    rw [h, hconfiguration, if_pos (by rfl)]
    exact ⟨_, rfl, rfl⟩

section
variable {command : ExecutionCommand} (h : session.valid P = true)
  (hdispatch : dispatch ≠ 0)
  (hasks : session.Asks commandIndex configuration command)
include h hdispatch hasks

/-- A command that is asked for passes the checks before the sums. -/
theorem checks_of_asks :
    (!session.valid P
        || !validConfiguration configuration session.commandSequence.dimension
        || dispatch == 0) = false
      ∧ sameConfiguration configuration command.configuration = true := by
  obtain ⟨hconfiguration, hsame⟩ := (asks_iff h hasks.1).mp hasks
  refine ⟨?_, hsame⟩
  rw [h, hconfiguration, beq_false_of_ne hdispatch]
  rfl

/-- A latency past the end of the clock is an internal error. -/
theorem authorizeCommand_overflow
    (hlatency : 2 ^ 64 ≤ session.latencyEnd command) :
    ∃ message, session.authorizeCommand P commandIndex configuration dispatch
      = failure .internalError message := by
  obtain ⟨hchecks, hsame⟩ := checks_of_asks h hdispatch hasks
  obtain ⟨add, hadd⟩ := exists_checkedAdd
  unfold authorizeCommand
  rw [hchecks, if_neg (by decide), hasks.1, ← hadd]
  dsimp only
  rw [hsame, if_neg (by decide)]
  cases hfrom : checkedAdd session.validFromMonotonicNs
      command.scheduledOffsetNs with
  | none =>
      rw [← hadd] at hfrom
      refine ⟨"execution command time window overflow", ?_⟩
      rw [hfrom]
  | some validFrom =>
      have hover : checkedAdd validFrom
          session.monitorAcknowledgement.observation.runtime.commandLatencyNs
          = none := by
        rw [checkedAdd_eq_none_iff, checkedAdd_eq_some hfrom]
        exact hlatency
      rw [← hadd] at hfrom hover
      refine ⟨"execution command latency window overflow", ?_⟩
      rw [hfrom]
      dsimp only
      rw [hover]

/-- What is issued for a command that is asked for in its window. -/
theorem authorizeCommand_eq {validFrom latencyDeadline : UInt64}
    (hfrom : checkedAdd session.validFromMonotonicNs
      command.scheduledOffsetNs = some validFrom)
    (hlatency : checkedAdd validFrom
      session.monitorAcknowledgement.observation.runtime.commandLatencyNs
        = some latencyDeadline) :
    session.authorizeCommand P commandIndex configuration dispatch
      = if dispatch < validFrom
          ∨ dispatch > commandDeadline session commandIndex latencyDeadline then
        .ok none
      else
        let result : ExecutionCommandAuthorization :=
          { sessionId := session.id
            commandSequenceId := session.commandSequence.id
            commandIndex := commandIndex
            commandDigest := executionCommandDigest P command
            dispatchMonotonicNs := dispatch
            validFromMonotonicNs := validFrom
            validThroughMonotonicNs :=
              commandDeadline session commandIndex latencyDeadline }
        .ok (some { result with
          id := executionCommandAuthorizationIdentity P result }) := by
  obtain ⟨hchecks, hsame⟩ := checks_of_asks h hdispatch hasks
  obtain ⟨add, hadd⟩ := exists_checkedAdd
  rw [← hadd] at hfrom hlatency
  unfold authorizeCommand
  rw [hchecks, if_neg (by decide), hasks.1, ← hadd]
  dsimp only
  rw [hsame, if_neg (by decide), hfrom]
  dsimp only
  rw [hlatency]

/-- Within the clock the answer is that of the window. -/
theorem authorizeCommand_within
    (hlatency : session.latencyEnd command < 2 ^ 64) :
    if session.windowStart command ≤ dispatch.toNat
        ∧ dispatch.toNat ≤ session.windowEnd commandIndex command then
      ∃ authorization, session.authorizeCommand P commandIndex configuration
        dispatch = .ok (some authorization) ∧ authorization.valid P = true
    else session.authorizeCommand P commandIndex configuration dispatch
      = .ok none := by
  obtain ⟨validFrom, hfrom⟩ : ∃ validFrom : UInt64,
      validFrom.toNat = session.windowStart command :=
    ⟨.ofNat (session.windowStart command), UInt64.toNat_ofNat_of_lt'
      (lt_of_le_of_lt (Nat.le_add_right _ _) hlatency)⟩
  obtain ⟨latencyDeadline, hdeadline⟩ : ∃ latencyDeadline : UInt64,
      latencyDeadline.toNat = session.latencyEnd command :=
    ⟨.ofNat (session.latencyEnd command), UInt64.toNat_ofNat_of_lt' hlatency⟩
  have hsum : latencyDeadline.toNat = validFrom.toNat
      + session.monitorAcknowledgement.observation.runtime.commandLatencyNs.toNat := by
    rw [hfrom, hdeadline]
    rfl
  have hthrough : (commandDeadline session commandIndex latencyDeadline).toNat
      = session.windowEnd commandIndex command := by
    unfold commandDeadline windowEnd
    by_cases hfirst : commandIndex = 0
    · simp only [if_pos hfirst, toNat_min_clock, hdeadline]
    · simp only [if_neg hfirst, toNat_min_clock, hdeadline]
  have hwindow : (dispatch < validFrom
        ∨ dispatch > commandDeadline session commandIndex latencyDeadline) ↔
      ¬(session.windowStart command ≤ dispatch.toNat
        ∧ dispatch.toNat ≤ session.windowEnd commandIndex command) := by
    rw [gt_iff_lt, UInt64.lt_iff_toNat_lt, UInt64.lt_iff_toNat_lt, hthrough,
      hfrom, not_and_or, not_le, not_le]
  rw [authorizeCommand_eq h hdispatch hasks
    (checkedAdd_eq_some_iff.mpr hfrom)
    (checkedAdd_eq_some_iff.mpr hsum)]
  by_cases hinside : session.windowStart command ≤ dispatch.toNat
      ∧ dispatch.toNat ≤ session.windowEnd commandIndex command
  · rw [if_pos hinside, if_neg (fun h => hwindow.mp h hinside)]
    refine ⟨_, rfl, ?_⟩
    have hopen : validFrom ≤ dispatch := by
      rw [UInt64.le_iff_toNat_le, hfrom]
      exact hinside.1
    have hclose : dispatch
        ≤ commandDeadline session commandIndex latencyDeadline := by
      rw [UInt64.le_iff_toNat_le, hthrough]
      exact hinside.2
    unfold ExecutionCommandAuthorization.valid
    simp only [Bool.and_eq_true, decide_eq_true_eq, beq_iff_eq]
    exact ⟨⟨⟨⟨⟨⟨⟨⟨P.validSha256_digest _, (ids_valid h).1⟩,
      (ids_valid h).2⟩, P.validSha256_digest _⟩, hopen⟩, hclose⟩,
      UInt64.le_trans hopen hclose⟩, trivial⟩, rfl⟩
  · rw [if_neg hinside, if_pos (hwindow.mpr hinside)]

end

/-- Away from the end of the clock every answer is that of a window. -/
theorem authorizes_exactly (h : session.valid P = true)
    (hdispatch : dispatch ≠ 0)
    (hfits : ¬session.LatencyOverflows commandIndex configuration) :
    session.AuthorizesExactly P commandIndex configuration dispatch := by
  obtain ⟨hpairwise, -, -⟩ := pairwise_of_commandsValid (commands_valid h)
  have hincreasing : ∀ (i j : Nat) (earlier later : ExecutionCommand), i < j →
      session.commandSequence.commands[i]? = some earlier →
      session.commandSequence.commands[j]? = some later →
      session.windowStart earlier < session.windowStart later := by
    intro i j earlier later hlt hi hj
    obtain ⟨hi', rfl⟩ := List.getElem?_eq_some_iff.mp hi
    obtain ⟨hj', rfl⟩ := List.getElem?_eq_some_iff.mp hj
    have hoffset := List.pairwise_iff_getElem.mp hpairwise i j hi' hj' hlt
    exact Nat.add_lt_add_left (UInt64.lt_iff_toNat_lt.mp hoffset) _
  by_cases hasks : ∃ command, session.Asks commandIndex configuration command
  · obtain ⟨command, hasks⟩ := hasks
    have hlatency : session.latencyEnd command < 2 ^ 64 := by
      by_contra hover
      exact hfits ⟨command, hasks, not_lt.mp hover⟩
    have hanswer := authorizeCommand_within h hdispatch hasks hlatency
    have hother : ∀ other, session.Asks commandIndex configuration other →
        other = command := by
      intro other hother
      exact Option.some_inj.mp (hother.1.symm.trans hasks.1)
    by_cases hinside : session.windowStart command ≤ dispatch.toNat
        ∧ dispatch.toNat ≤ session.windowEnd commandIndex command
    · rw [if_pos hinside] at hanswer
      obtain ⟨authorization, hanswer, hvalid⟩ := hanswer
      refine ⟨?_, ?_, ?_, hincreasing⟩
      · intro error herror
        cases hanswer.symm.trans herror
      · exact iff_of_true ⟨authorization, hanswer⟩ ⟨command, hasks, hinside⟩
      · intro other hsome
        cases hanswer.symm.trans hsome
        exact hvalid
    · rw [if_neg hinside] at hanswer
      refine ⟨?_, ?_, ?_, hincreasing⟩
      · intro error herror
        cases hanswer.symm.trans herror
      · apply iff_of_false
        · intro hsome
          obtain ⟨authorization, hsome⟩ := hsome
          cases hanswer.symm.trans hsome
        · intro hwindow
          obtain ⟨other, hasked, hwindow⟩ := hwindow
          rw [hother other hasked] at hwindow
          exact hinside hwindow
      · intro other hsome
        cases hanswer.symm.trans hsome
  · have hnone := authorizeCommand_of_not_asks h hdispatch
      (not_exists.mp hasks)
    refine ⟨?_, ?_, ?_, hincreasing⟩
    · intro error herror
      cases hnone with
      | inl hanswer => cases hanswer.symm.trans herror
      | inr hanswer =>
          obtain ⟨answer, hanswer, hcode⟩ := hanswer
          cases hanswer.symm.trans herror
          rw [hcode]
          decide
    · apply iff_of_false
      · intro hsome
        obtain ⟨authorization, hsome⟩ := hsome
        cases hnone with
        | inl hanswer => cases hanswer.symm.trans hsome
        | inr hanswer =>
            obtain ⟨answer, hanswer, -⟩ := hanswer
            cases hanswer.symm.trans hsome
      · intro hwindow
        obtain ⟨command, hasked, -⟩ := hwindow
        exact hasks ⟨command, hasked⟩
    · intro authorization hsome
      cases hnone with
      | inl hanswer => cases hanswer.symm.trans hsome
      | inr hanswer =>
          obtain ⟨answer, hanswer, -⟩ := hanswer
          cases hanswer.symm.trans hsome

end BoundedExecutionSession

end

-- === every answer

/-- **The windows of a session are exact, unless the latency of the
runtime reaches past the end of the clock** for a command that is asked
for with its own configuration. -/
theorem authorizes_exactly_iff {P : Platform}
    {request : ExecutionSessionRequest}
    {commandSequence : ExecutionCommandSequence}
    {approvalSet : ExecutionSessionApprovalSet}
    {controllerAcknowledgement : ExecutionControllerAcknowledgement}
    {monitorAcknowledgement : ExecutionMonitorAcknowledgement}
    {reviewed : ReviewedDeploymentProfile}
    {trustBundle : ServiceTrustBundle} {atlas : SafeAtlas}
    {session : BoundedExecutionSession} {dispatch : UInt64}
    (hcreate : BoundedExecutionSession.create P request commandSequence
      approvalSet controllerAcknowledgement monitorAcknowledgement reviewed
      trustBundle atlas = .ok session)
    (hdispatch : dispatch ≠ 0) (commandIndex : UInt64)
    (configuration : Configuration) :
    session.AuthorizesExactly P commandIndex configuration dispatch
      ↔ ¬session.LatencyOverflows commandIndex configuration := by
  have hcreated := created_of_create hcreate
  have hvalid := hcreated.sessionValid
  constructor
  · intro hexact hoverflow
    obtain ⟨command, hasks, hlatency⟩ := hoverflow
    obtain ⟨message, hanswer⟩ :=
      BoundedExecutionSession.authorizeCommand_overflow hvalid hdispatch hasks
        hlatency
    exact hexact.noInternalError _ hanswer rfl
  · intro hfits
    exact BoundedExecutionSession.authorizes_exactly hvalid hdispatch hfits

-- === late observations

section
variable {P : Platform} {request : ExecutionSessionRequest}
  {commandSequence : ExecutionCommandSequence}
  {approvalSet : ExecutionSessionApprovalSet}
  {controllerAcknowledgement : ExecutionControllerAcknowledgement}
  {monitorAcknowledgement late : ExecutionMonitorAcknowledgement}
  {reviewed : ReviewedDeploymentProfile}
  {trustBundle : ServiceTrustBundle} {atlas : SafeAtlas}
  {session : BoundedExecutionSession}

/-- A session over another acknowledgement of the monitor. -/
def BoundedExecutionSession.observedBy (P : Platform)
    (session : BoundedExecutionSession) (late : ExecutionMonitorAcknowledgement)
    (startDeadline validThrough : UInt64) : BoundedExecutionSession :=
  let observed : BoundedExecutionSession :=
    { session with
      id := []
      monitorAcknowledgement := late
      validFromMonotonicNs := late.observation.observedMonotonicNs
      startDeadlineMonotonicNs := startDeadline
      validThroughMonotonicNs := validThrough }
  { observed with id := boundedExecutionSessionIdentity P observed }

theorem controllerAcknowledgement_of_create
    (h : BoundedExecutionSession.create P request commandSequence approvalSet
      controllerAcknowledgement monitorAcknowledgement reviewed trustBundle atlas
      = .ok session) :
    session.controllerAcknowledgement = controllerAcknowledgement := by
  unfold BoundedExecutionSession.create at h
  rw [ite_failure_eq_ok, ite_failure_eq_ok] at h
  simp only [check_eq_ok, ite_failure_eq_ok] at h
  obtain ⟨-, -, -, -, -, -, -, h⟩ := h
  rw [bind_eq_ok] at h
  obtain ⟨assessment, -, h⟩ := h
  rw [ite_failure_eq_ok, ite_failure_eq_ok] at h
  obtain ⟨-, -, h⟩ := h
  cases hdeadline : checkedAdd
      monitorAcknowledgement.observation.observedMonotonicNs
      request.limits.maximumStartDelayNs with
  | none =>
      rw [hdeadline] at h
      cases h
  | some deadline =>
      cases hthrough : checkedAdd
          monitorAcknowledgement.observation.observedMonotonicNs
          request.limits.maximumDurationNs with
      | none =>
          rw [hdeadline, hthrough] at h
          cases h
      | some through =>
          rw [hdeadline, hthrough] at h
          simp only [ite_failure_eq_ok, Except.ok.injEq] at h
          obtain ⟨-, rfl⟩ := h
          rfl

theorem observedBy_valid {startDeadline validThrough : UInt64}
    (h : CreatedSession P request commandSequence approvalSet reviewed
      trustBundle session)
    (hvalid : validExecutionMonitorAcknowledgement P late = true)
    (hverified : verifyExecutionMonitorAcknowledgement P request late = .ok ())
    (hstart : checkedAdd late.observation.observedMonotonicNs
      request.limits.maximumStartDelayNs = some startDeadline)
    (hthrough : checkedAdd late.observation.observedMonotonicNs
      request.limits.maximumDurationNs = some validThrough) :
    (session.observedBy P late startDeadline validThrough).valid P = true := by
  have hdelay := startDelay_le h.requestValid
  have hstart := checkedAdd_eq_some hstart
  have hthrough := checkedAdd_eq_some hthrough
  have hobserved : late.observation.observedMonotonicNs > 0 := by
    unfold validExecutionMonitorAcknowledgement
      ExecutionRuntimeObservation.valid at hvalid
    simp only [Bool.and_eq_true, decide_eq_true_eq] at hvalid
    exact hvalid.1.1.1.1.1.2.1.2
  have hrequest : late.observation.requestId = request.id := by
    unfold verifyExecutionMonitorAcknowledgement at hverified
    rw [ite_failure_eq_ok, ite_failure_eq_ok, not_or, not_not] at hverified
    exact hverified.2.1.1
  have hsession := h.sessionValid
  unfold BoundedExecutionSession.valid at hsession ⊢
  simp only [Bool.and_eq_true, decide_eq_true_eq, beq_iff_eq] at hsession ⊢
  obtain ⟨⟨⟨⟨⟨⟨⟨⟨⟨⟨⟨⟨⟨⟨-, hr⟩, hsequence⟩, hset⟩, hcontroller⟩, -⟩, hid⟩,
    hcount⟩, happroval⟩, hack⟩, -⟩, -⟩, -⟩, -⟩, -⟩ := hsession
  have hopen : late.observation.observedMonotonicNs ≤ startDeadline := by
    rw [UInt64.le_iff_toNat_le]
    omega
  have hclose : startDeadline ≤ validThrough := by
    rw [UInt64.le_iff_toNat_le]
    omega
  exact ⟨⟨⟨⟨⟨⟨⟨⟨⟨⟨⟨⟨⟨⟨P.validSha256_digest _, hr⟩, hsequence⟩, hset⟩,
    hcontroller⟩, hvalid⟩, hid⟩, hcount⟩, happroval⟩, hack⟩,
    h.request_eq ▸ hrequest⟩, hobserved⟩, hopen⟩, hclose⟩, rfl⟩

/-- Another acknowledgement that conforms gives another session. -/
theorem create_observedBy {startDeadline validThrough : UInt64}
    (h : BoundedExecutionSession.create P request commandSequence approvalSet
      controllerAcknowledgement monitorAcknowledgement reviewed trustBundle atlas
      = .ok session)
    (hvalid : validExecutionMonitorAcknowledgement P late = true)
    (hverified : verifyExecutionMonitorAcknowledgement P request late = .ok ())
    (harmed : late.observation.monitorState = .armedCertifiedSequence)
    (hage : late.observation.runtime.observationAgeNs
      = monitorAcknowledgement.observation.runtime.observationAgeNs)
    (hassess : ∃ assessment, reviewed.assess P late.observation.runtime
      = .ok assessment ∧ assessment.status = .conformant
      ∧ assessment.evidence = .unknown)
    (hstart : checkedAdd late.observation.observedMonotonicNs
      request.limits.maximumStartDelayNs = some startDeadline)
    (hthrough : checkedAdd late.observation.observedMonotonicNs
      request.limits.maximumDurationNs = some validThrough) :
    BoundedExecutionSession.create P request commandSequence approvalSet
      controllerAcknowledgement late reviewed trustBundle atlas
      = .ok (session.observedBy P late startDeadline validThrough) := by
  obtain ⟨assessment, hassess, hstatus, hevidence⟩ := hassess
  have hcreate := h
  have hcreated := created_of_create h
  have hsession := observedBy_valid hcreated hvalid hverified hstart hthrough
  unfold BoundedExecutionSession.create at h ⊢
  rw [ite_failure_eq_ok] at h ⊢
  obtain ⟨hinput, h⟩ := h
  rw [ite_failure_eq_ok] at h ⊢
  obtain ⟨hbound, h⟩ := h
  simp only [check_eq_ok] at h ⊢
  obtain ⟨hcompatible, happroved, hcontroller, -, h⟩ := h
  rw [ite_failure_eq_ok] at h
  obtain ⟨-, h⟩ := h
  rw [bind_eq_ok] at h
  obtain ⟨_, -, h⟩ := h
  rw [ite_failure_eq_ok, ite_failure_eq_ok] at h
  obtain ⟨-, hfresh, h⟩ := h
  refine ⟨?_, hbound, hcompatible, happroved, hcontroller, hverified, ?_⟩
  · simp only [Bool.or_eq_true, Bool.not_eq_true', not_or, Bool.not_eq_false]
      at hinput ⊢
    obtain ⟨⟨⟨hbefore, -⟩, hreviewed⟩, hbundle⟩ := hinput
    exact ⟨⟨⟨hbefore, hvalid⟩, hreviewed⟩, hbundle⟩
  · rw [ite_failure_eq_ok]
    refine ⟨fun hstate => hstate harmed, ?_⟩
    rw [hassess, ok_bind, ite_failure_eq_ok, ite_failure_eq_ok, hage]
    refine ⟨?_, hfresh, ?_⟩
    · rw [hstatus, hevidence]
      intro hother
      cases hother with
      | inl hother => exact hother rfl
      | inr hother =>
          cases hother with
          | inl hother => exact hother rfl
          | inr hother => cases hother
    · rw [hstart, hthrough]
      have hcontroller := controllerAcknowledgement_of_create hcreate
      unfold BoundedExecutionSession.observedBy at hsession ⊢
      rw [hcreated.request_eq, hcreated.commandSequence_eq,
        hcreated.approvalSet_eq, hcontroller] at hsession ⊢
      exact if_neg (by
        rw [Bool.not_eq_true, Bool.not_eq_false']
        exact hsession)

end

-- === samples

/-- The session of two commands a nanosecond apart answers by its
windows. -/
theorem authorizes_exactly_iff_first :
    (reviewSession (host fun _ _ _ => true) .active 1).AuthorizesExactly
        (host fun _ _ _ => true) 0 [.finite (.value 0)] 1
      ↔ ¬(reviewSession (host fun _ _ _ => true) .active 1).LatencyOverflows
        0 [.finite (.value 0)] := by
  have hcreated := @create_reviewSession (host fun _ _ _ => true) .active 1
    endpoints_differ (Or.inl rfl) (fun _ _ _ => rfl) (by decide)
  exact authorizes_exactly_iff hcreated (by decide) 0 [.finite (.value 0)]

section
variable (P : Platform) (state : ServiceKeyState)

/-- The snapshot of a runtime with the longest latency of its profile. -/
def lateSnapshot : DeploymentRuntimeSnapshot :=
  { reviewSnapshot with commandLatencyNs := 100000000 }

/-- The monitor at the last time at which a session fits the clock. -/
def lateObservation : ExecutionRuntimeObservation :=
  let observation : ExecutionRuntimeObservation :=
    { requestId := (reviewRequest P state 1).id
      commandSequenceId := (reviewCommands P 1).id
      runtime := lateSnapshot
      observationSequence := 1
      observedMonotonicNs := 0xffffffffffffffff - 100000000
      monitorState := .armedCertifiedSequence }
  { observation with id := executionRuntimeObservationIdentity P observation }

def lateAcknowledgement : ExecutionMonitorAcknowledgement :=
  let acknowledgement : ExecutionMonitorAcknowledgement :=
    { observation := lateObservation P state
      monitorServiceId := ascii "beta"
      monitorKeyId := (reviewEndpoint P (ascii "beta") .runtimeMonitor).id
      authenticationTag := reviewTag }
  { acknowledgement with
    id := executionMonitorAcknowledgementIdentity P acknowledgement }

def lateSession : BoundedExecutionSession :=
  (reviewSession P state 1).observedBy P (lateAcknowledgement P state)
    (0xffffffffffffffff - 90000000) 0xffffffffffffffff

variable {P state}

theorem valid_lateAcknowledgement :
    validExecutionMonitorAcknowledgement P (lateAcknowledgement P state)
      = true := by
  have hsnapshot : validDeploymentRuntimeSnapshot lateSnapshot = true := by
    unfold validDeploymentRuntimeSnapshot
    simp only [Bool.and_eq_true]
    exact ⟨⟨⟨⟨⟨validIdentifier_services.1, valid_reviewDigest⟩,
      valid_reviewDigest⟩, valid_reviewDigest⟩, valid_reviewDigest⟩, rfl⟩
  have hobservation : (lateObservation P state).valid P = true := by
    unfold ExecutionRuntimeObservation.valid
    simp only [Bool.and_eq_true, beq_iff_eq]
    exact ⟨⟨⟨⟨⟨⟨P.validSha256_digest _, P.validSha256_digest _⟩,
      P.validSha256_digest _⟩, hsnapshot⟩, rfl⟩, rfl⟩, rfl⟩
  unfold validExecutionMonitorAcknowledgement
  simp only [Bool.and_eq_true, beq_iff_eq]
  exact ⟨⟨⟨⟨⟨⟨P.validSha256_digest _, hobservation⟩, validIdentifier_services.2⟩,
    P.validSha256_digest _⟩, rfl⟩, valid_reviewTag⟩, rfl⟩

/-- The latency is within the profile. -/
theorem conformant_lateSnapshot :
    ∃ assessment, (reviewOf P state).assess P lateSnapshot = .ok assessment
      ∧ assessment.status = .conformant ∧ assessment.evidence = .unknown := by
  have hsnapshot : validDeploymentRuntimeSnapshot lateSnapshot = true := by
    unfold validDeploymentRuntimeSnapshot
    simp only [Bool.and_eq_true]
    exact ⟨⟨⟨⟨⟨validIdentifier_services.1, valid_reviewDigest⟩,
      valid_reviewDigest⟩, valid_reviewDigest⟩, valid_reviewDigest⟩, rfl⟩
  have hnone : constraintViolations (reviewOf P state).profile lateSnapshot
      = [] := by
    show constraintViolations { (reviewProfile P state) with
      deploymentId := ascii "alpha" } lateSnapshot = []
    simp [constraintViolations, constraintChecks, lateSnapshot, reviewSnapshot,
      reviewProfile]
  unfold ReviewedDeploymentProfile.assess
  rw [valid_reviewOf, hsnapshot, hnone,
    if_neg (show ¬(!true || !true) = true from by decide)]
  exact ⟨_, rfl, rfl, rfl⟩

section
variable (hkeys : (reviewEndpoint P (ascii "alpha") .controller).id
  ≠ (reviewEndpoint P (ascii "beta") .runtimeMonitor).id)
include hkeys

theorem verify_lateAcknowledgement
    (hcheck : ∀ signature key message, P.ed25519Check signature key message = true) :
    verifyExecutionMonitorAcknowledgement P (reviewRequest P state 1)
      (lateAcknowledgement P state) = .ok () := by
  unfold verifyExecutionMonitorAcknowledgement
  rw [valid_reviewRequest hkeys, valid_lateAcknowledgement,
    if_neg (show ¬(!true || !true) = true from by decide), if_neg]
  · show (do
      let signature ← decodeHex reviewTag kEd25519SignatureBytes
      ed25519Verify P _ signature (sampleKey P (ascii "beta")).publicKey.toList)
      = .ok ()
    rw [decodeHex_reviewTag, ok_bind]
    exact verify_reviewTag hcheck _ _
  · simp only [not_or, not_not]
    exact ⟨rfl, rfl, rfl, rfl⟩

theorem create_lateSession (hstate : state = .active ∨ state = .retired)
    (hcheck : ∀ signature key message, P.ed25519Check signature key message = true) :
    BoundedExecutionSession.create P (reviewRequest P state 1)
      (reviewCommands P 1) (reviewSessionApprovalSet P state 1)
      (reviewControllerAcknowledgement P state 1)
      (lateAcknowledgement P state) (reviewOf P state)
      (reviewBundle P state) reviewAtlas = .ok (lateSession P state) :=
  create_observedBy (create_reviewSession hkeys hstate hcheck (by decide))
    valid_lateAcknowledgement (verify_lateAcknowledgement hkeys hcheck) rfl rfl
    conformant_lateSnapshot
    (show checkedAdd (0xffffffffffffffff - 100000000) 10000000
      = some (0xffffffffffffffff - 90000000) from by decide)
    (show checkedAdd (0xffffffffffffffff - 100000000) 100000000
      = some 0xffffffffffffffff from by decide)

end

/-- The second command is asked for. -/
theorem asks_lateSession :
    ∃ command, (lateSession P state).Asks 1 [.finite (.value 1)] command
      ∧ (lateSession P state).windowStart command = 2 ^ 64 - 100000000
      ∧ (lateSession P state).latencyEnd command = 2 ^ 64
      ∧ (lateSession P state).windowEnd 1 command = 2 ^ 64 - 1 := by
  have hstart : (lateSession P state).windowStart
      { index := 1, scheduledOffsetNs := 1, configuration := [.finite (.value 1)] }
        = 2 ^ 64 - 100000000 := by
    show (0xffffffffffffffff - 100000000 : UInt64).toNat + (1 : UInt64).toNat = _
    decide
  have hlatency : (lateSession P state).latencyEnd
      { index := 1, scheduledOffsetNs := 1, configuration := [.finite (.value 1)] }
        = 2 ^ 64 := by
    unfold BoundedExecutionSession.latencyEnd
    rw [hstart]
    show 2 ^ 64 - 100000000 + (100000000 : UInt64).toNat = _
    decide
  refine ⟨_, ⟨rfl, ?_⟩, hstart, hlatency, ?_⟩
  · exact .cons ⟨_, _, rfl, rfl, rfl⟩ .nil
  · unfold BoundedExecutionSession.windowEnd
    rw [hlatency, if_neg (by decide)]
    show min (2 ^ 64) (0xffffffffffffffff : UInt64).toNat = _
    decide

end

/-- The last time of the clock lies in the window of the second command of
a session that ends then, made of a request of the reviewed profile, and
is answered by an internal error. -/
theorem late_command_fails :
    (∃ input, ExecutionSessionRequest.create (host fun _ _ _ => true)
        (reviewOf (host fun _ _ _ => true) .active)
        (reviewCommands (host fun _ _ _ => true) 1) input
      = .ok (reviewRequest (host fun _ _ _ => true) .active 1))
    ∧ BoundedExecutionSession.create (host fun _ _ _ => true)
        (reviewRequest (host fun _ _ _ => true) .active 1)
        (reviewCommands (host fun _ _ _ => true) 1)
        (reviewSessionApprovalSet (host fun _ _ _ => true) .active 1)
        (reviewControllerAcknowledgement (host fun _ _ _ => true) .active 1)
        (lateAcknowledgement (host fun _ _ _ => true) .active)
        (reviewOf (host fun _ _ _ => true) .active)
        (reviewBundle (host fun _ _ _ => true) .active) reviewAtlas
      = .ok (lateSession (host fun _ _ _ => true) .active)
    ∧ (∃ command, (lateSession (host fun _ _ _ => true) .active).Asks 1
          [.finite (.value 1)] command
        ∧ (lateSession (host fun _ _ _ => true) .active).windowStart command
          ≤ (0xffffffffffffffff : UInt64).toNat
        ∧ (0xffffffffffffffff : UInt64).toNat
          ≤ (lateSession (host fun _ _ _ => true) .active).windowEnd 1 command)
    ∧ ∃ message, (lateSession (host fun _ _ _ => true) .active).authorizeCommand
        (host fun _ _ _ => true) 1 [.finite (.value 1)] 0xffffffffffffffff
      = failure .internalError message := by
  have hcreate := @create_lateSession (host fun _ _ _ => true) .active
    endpoints_differ (Or.inl rfl) fun _ _ _ => rfl
  have hcreated := created_of_create hcreate
  obtain ⟨command, hasks, hstart, hlatency, hend⟩ :=
    @asks_lateSession (host fun _ _ _ => true) .active
  refine ⟨hcreated.requested_iff.mpr fits_reviewCommands, hcreate,
    ⟨command, hasks, ?_, ?_⟩, ?_⟩
  · rw [hstart]
    decide
  · rw [hend]
    decide
  · exact BoundedExecutionSession.authorizeCommand_overflow
      hcreated.sessionValid (by decide) hasks hlatency.ge

end RbfSafe
