import Muldex.Policy
import Muldex.UpstreamAdapter

/-!
# The two decision paths

A session can be judged by the local orchestrator (`decideContinue`) or, through an
adapter, by the harness (`decideReasoningHarness`). The two were written apart and read
different parts of the state. This file compares them on requests that carry the same
values, in both directions :

* what the orchestrator stops, the harness may continue : it reads neither the
  follow-up count nor the pending compaction (`handoff_of_refuses_iff`);
* what the harness hands off, the orchestrator may continue : it has no limit on
  corrections or compactions, and its stall guard is gated
  (`refuses_of_handoff_iff`);
* where the orchestrator enters self-correction, the harness may refuse to : only the
  harness reads the approval flag and the attempts (`selfCorrection_gated_iff`).

Each theorem is the exact condition under which the two agree. With the adapters'
limits the rest is propositional, from `refuses_iff` and `handoff_iff`.
-/

namespace Muldex

open DeterministicOrchestrator ReasoningHarness

/-! ## From a snapshot -/

/-- The continue request carries the snapshot's values of the same names. -/
structure CarriesSnapshot (s : CodexSignalSnapshot) (c : ContinueRequest) : Prop where
  continueReason : c.continueReason = s.continueReason
  recentStateChanges : c.recentStateChanges = s.recentStateChanges
  duplicateInjectionDetected : c.duplicateInjectionDetected = s.duplicateInjectionDetected
  repeatedFollowUpCount : c.repeatedFollowUpCount = s.repeatedFollowUpCount
  completedSteps : c.progress.completedSteps = s.completedSteps
  totalStepsHint : c.progress.totalStepsHint = s.totalStepsHint
  noProgressIterationCount : c.progress.noProgressIterationCount = s.noProgressIterationCount
  recovery : c.recovery = ⟨s.lastRecoveryReason, s.recoveryAttemptCount, s.lastRecoveryHadProgress⟩
  selfCorrection : c.selfCorrection = ⟨s.selfCorrectionActive, s.selfCorrectionAttemptCount,
    s.lastCorrectionTarget, s.lastCorrectionHadProgress⟩
  postCompaction : c.postCompaction = ⟨s.pendingPostCompaction, s.firstPostCompactionTurn,
    s.compactionWindowId, s.lastCompactionCheckpointId⟩
  contextPressure : c.contextPressure = ⟨s.modelContextWindow, s.activeContextTokens,
    s.autoCompactScopeTokens, s.autoCompactLimit, s.tokensUntilCompaction,
    s.recentCompactionCount, s.lastCompactionHadStateChange⟩

/-- One of the harness's limits is reached : three iterations without progress, two
corrections, or two compactions of which the last changed nothing. -/
def LimitReached (s : CodexSignalSnapshot) : Prop :=
  3 ≤ s.noProgressIterationCount ∨ 2 ≤ s.selfCorrectionAttemptCount ∨
    (2 ≤ s.recentCompactionCount ∧ s.lastCompactionHadStateChange = false)

/-- An adapted snapshot is handed off at one of the limits. -/
theorem handoff_codexSnapshot_iff (s : CodexSignalSnapshot) :
    (decideReasoningHarness (codexSnapshotToHarnessRequest s)).mode = .handoff ↔
      LimitReached s :=
  handoff_iff _

/-- The harness hands off what the orchestrator refuses exactly when the snapshot shows
no follow-up loop and no post-compaction stall, or reaches a limit of the harness. -/
theorem handoff_of_refuses_iff {s : CodexSignalSnapshot} {c : ContinueRequest}
    (h : CarriesSnapshot s c) :
    (Refuses c → (decideReasoningHarness (codexSnapshotToHarnessRequest s)).mode = .handoff) ↔
      (¬FollowUpLoop c ∧ ¬PostCompactionStall c) ∨ LimitReached s := by
  rw [refuses_iff, handoff_codexSnapshot_iff]
  constructor
  · intro hkept
    by_cases hlimit : LimitReached s
    · exact Or.inr hlimit
    · exact Or.inl ⟨fun hc => hlimit (hkept (Or.inl hc)),
        fun hc => hlimit (hkept (Or.inr (Or.inr hc)))⟩
  · rintro (⟨hfollow, hcompact⟩ | hlimit) hrefuses
    · rcases hrefuses with hc | hc | hc
      · exact absurd hc hfollow
      · exact Or.inl (h.noProgressIterationCount ▸ hc.1)
      · exact absurd hc hcompact
    · exact hlimit

/-- A continue request that carries a snapshot, with the adapter's permissions. -/
def continueRequestOf (s : CodexSignalSnapshot) : ContinueRequest :=
  let request := codexSnapshotToHarnessRequest s
  { threadId := s.threadId
    turnId := s.turnId
    objective := s.objective
    constraints := s.constraints
    continueReason := s.continueReason
    recentStateChanges := s.recentStateChanges
    workingHypothesis := s.workingHypothesis
    lastAgentMessage := s.lastAgentMessage
    pendingInputCount := s.pendingInputCount
    triggerTurnPending := s.triggerTurnPending
    toolCallCountThisTurn := s.toolCallCountThisTurn
    contextPressure := request.contextPressure
    duplicateInjectionDetected := s.duplicateInjectionDetected
    repeatedFollowUpCount := s.repeatedFollowUpCount
    progress := request.progress
    recovery := request.recovery
    lastCheckpoint := request.lastCheckpoint
    selfCorrection := request.selfCorrection
    postCompaction := request.postCompaction
    runtimeMode := request.runtimeMode
    safety := request.safety
    codexContinuation := request.codexContinuation }

theorem carriesSnapshot_continueRequestOf (s : CodexSignalSnapshot) :
    CarriesSnapshot s (continueRequestOf s) :=
  ⟨rfl, rfl, rfl, rfl, rfl, rfl, rfl, rfl, rfl, rfl, rfl⟩

/-- A snapshot after `followUps` follow-ups without any change, and `noProgress` iterations
without progress. -/
def followUpSnapshot (followUps noProgress : UInt32) : CodexSignalSnapshot where
  threadId := "thread-1"
  turnId := "turn-9"
  objective := "finish the task"
  constraints := ["do not spin"]
  workingHypothesis := some "pending input is rearming the loop"
  lastAgentMessage := some "checking runtime state"
  continueReason := .pendingInput
  recentStateChanges := [.noMeaningfulChange]
  pendingInputCount := 2
  triggerTurnPending := true
  toolCallCountThisTurn := 4
  duplicateInjectionDetected := true
  repeatedFollowUpCount := followUps
  modelContextWindow := some 256000
  activeContextTokens := some 150000
  autoCompactScopeTokens := some 30000
  autoCompactLimit := some 192000
  tokensUntilCompaction := some 42000
  recentCompactionCount := 0
  lastCompactionHadStateChange := false
  pendingPostCompaction := false
  firstPostCompactionTurn := false
  compactionWindowId := some "window-3"
  lastCompactionCheckpointId := some "cp-7"
  completedSteps := 5
  totalStepsHint := some 9
  noProgressIterationCount := noProgress
  recoveryAttemptCount := 0
  lastRecoveryReason := none
  lastRecoveryHadProgress := true
  selfCorrectionActive := false
  selfCorrectionAttemptCount := 0
  lastCorrectionTarget := none
  lastCorrectionHadProgress := false
  activeAgentMode := some "build"
  previousAgentMode := some "plan"
  modeTransitionPendingGuidance := false
  invokedSkills := ["context-budget-gate"]
  capabilityRegistry := default

/-- Three follow-ups and three iterations without progress lose no stop signal. -/
theorem handoff_of_refuses_followUpSnapshot :
    (decideReasoningHarness (codexSnapshotToHarnessRequest (followUpSnapshot 3 3))).mode =
      .handoff :=
  (handoff_of_refuses_iff (carriesSnapshot_continueRequestOf (followUpSnapshot 3 3))).mpr
    (Or.inr (Or.inl (by decide))) ⟨_, rfl, rfl⟩

/-- Three follow-ups alone are refused by the orchestrator and continued by the harness. -/
theorem not_forall_handoff_of_refuses :
    ¬∀ s c, CarriesSnapshot s c → Refuses c →
      (decideReasoningHarness (codexSnapshotToHarnessRequest s)).mode = .handoff := by
  intro h
  have hmode := h (followUpSnapshot 3 0) _ (carriesSnapshot_continueRequestOf _) ⟨_, rfl, rfl⟩
  exact absurd hmode (by decide)

/-! ## From the same signals -/

/-- The two requests carry the same signals, and the harness has the adapters' limits. -/
structure SameSignals (c : ContinueRequest) (h : ReasoningHarnessRequest) : Prop where
  progress : c.progress = h.progress
  recovery : c.recovery = h.recovery
  selfCorrection : c.selfCorrection = h.selfCorrection
  safety : c.safety = h.safety
  contextPressure : c.contextPressure = h.contextPressure
  noProgressLimit : h.escalationPolicy.noProgressLimit = 3
  repeatedCompactionLimit : h.escalationPolicy.repeatedCompactionLimit = 2
  selfCorrectionLimit : h.escalationPolicy.selfCorrectionLimit = 2

/-- The two requests also agree on the compaction they come after. -/
structure SameState (c : ContinueRequest) (h : ReasoningHarnessRequest) : Prop
    extends SameSignals c h where
  postCompaction : c.postCompaction = h.postCompaction

/-- Below the two limits only the harness checks : fewer than two corrections, and fewer
than two compactions unless the last one changed something. -/
def BelowUncheckedLimits (request : ContinueRequest) : Prop :=
  request.selfCorrection.correctionAttemptCount < 2 ∧
    (request.contextPressure.recentCompactionCount < 2 ∨
      request.contextPressure.lastCompactionHadStateChange = true)

/-- A recovery happened, and made no progress. -/
def FailedRecovery (request : ContinueRequest) : Prop :=
  request.recovery.lastRecoveryReason.isSome = true ∧
    request.recovery.lastRecoveryHadProgress = false

/-- The harness hands off at three iterations without progress, or at a limit that only it
checks. -/
theorem SameSignals.handoff_iff {c : ContinueRequest} {h : ReasoningHarnessRequest}
    (hsame : SameSignals c h) :
    (decideReasoningHarness h).mode = .handoff ↔
      3 ≤ c.progress.noProgressIterationCount ∨ ¬BelowUncheckedLimits c := by
  rw [ReasoningHarness.handoff_iff, hsame.noProgressLimit, hsame.repeatedCompactionLimit,
    hsame.selfCorrectionLimit, ← hsame.progress, ← hsame.selfCorrection, ← hsame.contextPressure]
  simp only [BelowUncheckedLimits, not_and_or, not_or, UInt32.not_lt, Bool.not_eq_true]

/-- The orchestrator refuses what the harness hands off exactly when it sees a follow-up
loop or a post-compaction stall, or when the limit reached is one it enforces : at three
iterations without progress the last recovery made none, and below three no limit that
only the harness checks is reached. -/
theorem refuses_of_handoff_iff {c : ContinueRequest} {h : ReasoningHarnessRequest}
    (hsame : SameState c h) :
    ((decideReasoningHarness h).mode = .handoff → Refuses c) ↔
      FollowUpLoop c ∨ PostCompactionStall c ∨
        if 3 ≤ c.progress.noProgressIterationCount then
          c.recovery.lastRecoveryHadProgress = false
        else BelowUncheckedLimits c := by
  rw [hsame.handoff_iff, refuses_iff]
  by_cases hlimit : 3 ≤ c.progress.noProgressIterationCount
  · rw [if_pos hlimit]
    constructor
    · intro hstops
      rcases hstops (Or.inl hlimit) with hc | hc | hc
      · exact Or.inl hc
      · exact Or.inr (Or.inr hc.2)
      · exact Or.inr (Or.inl hc)
    · rintro (hc | hc | hc) -
      · exact Or.inl hc
      · exact Or.inr (Or.inr hc)
      · exact Or.inr (Or.inl ⟨hlimit, hc⟩)
  · rw [if_neg hlimit]
    constructor
    · intro hstops
      by_cases hbelow : BelowUncheckedLimits c
      · exact Or.inr (Or.inr hbelow)
      · rcases hstops (Or.inr hbelow) with hc | hc | hc
        · exact Or.inl hc
        · exact absurd hc.1 hlimit
        · exact Or.inr (Or.inl hc)
    · rintro (hc | hc | hbelow) hreached
      · exact Or.inl hc
      · exact Or.inr (Or.inr hc)
      · exact absurd hbelow (hreached.resolve_left hlimit)

/-- A harness request from the signals of a continue request. -/
def harnessRequestOf (c : ContinueRequest) : ReasoningHarnessRequest :=
  { baseRequest with
    progress := c.progress
    recovery := c.recovery
    selfCorrection := c.selfCorrection
    postCompaction := c.postCompaction
    safety := c.safety
    contextPressure := c.contextPressure
    escalationPolicy := adapterPolicy }

theorem sameState_harnessRequestOf (c : ContinueRequest) : SameState c (harnessRequestOf c) where
  progress := rfl
  recovery := rfl
  selfCorrection := rfl
  safety := rfl
  contextPressure := rfl
  noProgressLimit := rfl
  repeatedCompactionLimit := rfl
  selfCorrectionLimit := rfl
  postCompaction := rfl

/-- The sample request after `noProgress` iterations and `attempts` corrections of a tool
failure without progress. -/
def failedContinueRequest (noProgress attempts : UInt32) (approval : Bool) : ContinueRequest :=
  { sampleContinueRequest with
    progress := ⟨1, some 3, none, noProgress⟩
    recovery := ⟨some .toolFailure, attempts, false⟩
    selfCorrection := ⟨true, attempts, none, false⟩
    safety := { samplePermissionContext with requiresExplicitApprovalForNextStep := approval } }

/-- At three iterations without progress both stop. -/
theorem refuses_of_handoff_failedContinueRequest : Refuses (failedContinueRequest 3 1 false) :=
  (refuses_of_handoff_iff (sameState_harnessRequestOf (failedContinueRequest 3 1 false))).mpr
    (Or.inr (Or.inr rfl)) (by decide)

/-- With no attempt left the harness hands off, and the orchestrator goes on. -/
theorem not_forall_refuses_of_handoff :
    ¬∀ c h, SameState c h → (decideReasoningHarness h).mode = .handoff → Refuses c := by
  intro h
  obtain ⟨decision, hd, hrefused⟩ :=
    h (failedContinueRequest 0 2 false) _ (sameState_harnessRequestOf _) (by decide)
  obtain rfl : approval (failedContinueRequest 0 2 false) = decision := Except.ok.inj hd
  exact absurd hrefused (by decide)

/-! ## Self-correction -/

/-- Self-correction is gated alike : what the orchestrator enters the harness enters, and
neither enters it when approval is required or both attempts are used up. -/
def SelfCorrectionGatedAlike (c : ContinueRequest) (h : ReasoningHarnessRequest) : Prop :=
  (EntersSelfCorrection c → (decideReasoningHarness h).shouldEnterSelfCorrection = true) ∧
    ((c.safety.requiresExplicitApprovalForNextStep = true ∨
        2 ≤ c.selfCorrection.correctionAttemptCount) →
      ¬EntersSelfCorrection c ∧ (decideReasoningHarness h).shouldEnterSelfCorrection = false)

/-- The harness enters self-correction after a failed recovery, below all its limits and
with no approval to wait for. -/
theorem SameSignals.shouldEnterSelfCorrection_iff {c : ContinueRequest}
    {h : ReasoningHarnessRequest} (hsame : SameSignals c h) :
    (decideReasoningHarness h).shouldEnterSelfCorrection = true ↔
      FailedRecovery c ∧ ¬3 ≤ c.progress.noProgressIterationCount ∧ BelowUncheckedLimits c ∧
        c.safety.requiresExplicitApprovalForNextStep = false := by
  rw [ReasoningHarness.shouldEnterSelfCorrection_iff, ne_eq, hsame.handoff_iff, ← hsame.recovery,
    ← hsame.safety, FailedRecovery]
  tauto

/-- The orchestrator enters self-correction after a failed recovery, unless it sees a
follow-up loop or a stall. -/
theorem entersSelfCorrection_iff_failedRecovery (c : ContinueRequest) :
    EntersSelfCorrection c ↔ FailedRecovery c ∧ ¬3 ≤ c.progress.noProgressIterationCount ∧
      ¬FollowUpLoop c ∧ ¬PostCompactionStall c := by
  rw [entersSelfCorrection_iff, allows_iff, FailedRecovery, Stalled]
  tauto

/-- The harness does not enter self-correction when approval is required, or when both
attempts are used up. -/
theorem SameSignals.not_shouldEnterSelfCorrection {c : ContinueRequest}
    {h : ReasoningHarnessRequest} (hsame : SameSignals c h)
    (hgate : c.safety.requiresExplicitApprovalForNextStep = true ∨
      2 ≤ c.selfCorrection.correctionAttemptCount) :
    ¬(decideReasoningHarness h).shouldEnterSelfCorrection = true := by
  intro henter
  obtain ⟨-, -, hbelow, happroval⟩ := hsame.shouldEnterSelfCorrection_iff.mp henter
  rcases hgate with hrequired | hused
  · simp [happroval] at hrequired
  · exact UInt32.not_lt.mpr hused hbelow.1

/-- Self-correction is gated alike exactly when no approval is required and no limit that
only the harness checks is reached, or when the orchestrator does not get as far : no
recovery failed, or it sees a follow-up loop or a stall. -/
theorem selfCorrection_gated_iff {c : ContinueRequest} {h : ReasoningHarnessRequest}
    (hsame : SameSignals c h) :
    SelfCorrectionGatedAlike c h ↔
      (c.safety.requiresExplicitApprovalForNextStep = false ∧ BelowUncheckedLimits c) ∨
        ¬FailedRecovery c ∨ FollowUpLoop c ∨ 3 ≤ c.progress.noProgressIterationCount ∨
        PostCompactionStall c := by
  constructor
  · rintro ⟨halike, -⟩
    by_cases henters : EntersSelfCorrection c
    · obtain ⟨-, -, hbelow, happroval⟩ := hsame.shouldEnterSelfCorrection_iff.mp (halike henters)
      exact Or.inl ⟨happroval, hbelow⟩
    · rw [entersSelfCorrection_iff_failedRecovery] at henters
      simp only [not_and_or, not_not] at henters
      rcases henters with hc | hc | hc | hc
      · exact Or.inr (Or.inl hc)
      · exact Or.inr (Or.inr (Or.inr (Or.inl hc)))
      · exact Or.inr (Or.inr (Or.inl hc))
      · exact Or.inr (Or.inr (Or.inr (Or.inr hc)))
  · intro hcondition
    have halike : EntersSelfCorrection c →
        (decideReasoningHarness h).shouldEnterSelfCorrection = true := by
      intro henters
      obtain ⟨hfailed, hcount, hfollow, hcompact⟩ :=
        (entersSelfCorrection_iff_failedRecovery c).mp henters
      rcases hcondition with ⟨happroval, hbelow⟩ | hc | hc | hc | hc
      · exact hsame.shouldEnterSelfCorrection_iff.mpr ⟨hfailed, hcount, hbelow, happroval⟩
      · exact absurd hfailed hc
      · exact absurd hc hfollow
      · exact absurd hc hcount
      · exact absurd hc hcompact
    refine ⟨halike, fun hgate => ?_⟩
    have hnot := hsame.not_shouldEnterSelfCorrection hgate
    exact ⟨fun henters => hnot (halike henters), Bool.eq_false_iff.mpr hnot⟩

/-- With one attempt left and no approval required both enter it. -/
theorem selfCorrection_gated_failedContinueRequest :
    SelfCorrectionGatedAlike (failedContinueRequest 0 1 false)
      (harnessRequestOf (failedContinueRequest 0 1 false)) :=
  (selfCorrection_gated_iff
    (sameState_harnessRequestOf (failedContinueRequest 0 1 false)).toSameSignals).mpr
    (Or.inl ⟨rfl, by decide, Or.inl (by decide)⟩)

/-- Where approval is required the harness does not enter it, and the orchestrator does. -/
theorem not_forall_selfCorrection_gated :
    ¬∀ c h, SameSignals c h → SelfCorrectionGatedAlike c h := by
  intro h
  have hgated := (h (failedContinueRequest 0 0 true) _
    (sameState_harnessRequestOf _).toSameSignals).1 ⟨_, rfl, rfl⟩
  exact absurd hgated (by decide)

end Muldex
