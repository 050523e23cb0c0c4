import Mathlib.Tactic.Common
import Muldex.LoopGuard
import Muldex.Orchestrator

/-!
# The reasoning harness

`decideReasoningHarness` hands off when one of three limits of the request's own
escalation policy is reached : iterations without progress, self-correction attempts,
compactions without a state change. Below the limits it enters self-correction after a
recovery that made no progress, unless the next step needs explicit approval, and
otherwise continues in the next turn.

The limits are guards (`LoopGuard.Guard`). The first two are always armed, and the
requests that are handed off are the ones the cascade stops (`handoff_iff_stopped`).
All that is said of a decision is read off its three cases
(`decideReasoningHarness_cases`).
-/

namespace Muldex

open LoopGuard

/-- A behaviour a model must not show. -/
inductive ProhibitionRule where
  | noFakeProgress
  | noDuplicateInjection
  | noSilentScopeExpansion
  | noUnverifiedCompletion
  | noRepeatedNoProgressContinuation
  | noSilentModelSwitch
  | noSilentExecutionModeSwitch
  deriving DecidableEq

/-- When the harness hands off. -/
structure EscalationPolicy where
  noProgressLimit : UInt32
  repeatedCompactionLimit : UInt32
  selfCorrectionLimit : UInt32
  requestCheckpointBeforeHandoff : Bool

/-- The contract a model reasons under. -/
structure ReasoningHarnessRequest where
  objective : String
  constraints : List String
  evidenceScope : List String
  allowedCapabilityClasses : List String
  prohibitedBehaviors : List ProhibitionRule
  progress : ProgressSnapshot
  recovery : RecoverySnapshot
  lastCheckpoint : Option CheckpointRef
  selfCorrection : SelfCorrectionState
  postCompaction : PostCompactionState
  runtimeMode : RuntimeModeState
  safety : PermissionContextSnapshot
  codexContinuation : Option CodexSessionContinuationSnapshot
  contextPressure : ContextPressure
  mediaContext : List MediaContextEnvelope
  capabilityRegistry : CapabilityRegistrySnapshot
  escalationPolicy : EscalationPolicy

/-- The decision of the harness. -/
structure ReasoningHarnessDecision where
  mode : ContinueMode
  rationale : String
  shouldCheckpoint : Bool
  shouldEnterSelfCorrection : Bool
  violatedRules : List ProhibitionRule

namespace ReasoningHarnessRequest

variable (request : ReasoningHarnessRequest)

/-- The no-progress limit is reached. -/
def noProgressViolation : Bool :=
  request.progress.noProgressIterationCount ≥ request.escalationPolicy.noProgressLimit

/-- The self-correction limit is reached. -/
def selfCorrectionViolation : Bool :=
  request.selfCorrection.correctionAttemptCount ≥ request.escalationPolicy.selfCorrectionLimit

/-- The compaction limit is reached, and the last compaction changed nothing. -/
def compactionViolation : Bool :=
  request.contextPressure.recentCompactionCount ≥
      request.escalationPolicy.repeatedCompactionLimit &&
    !request.contextPressure.lastCompactionHadStateChange

/-- The rules the request is seen to violate. -/
def violatedRules : List ProhibitionRule :=
  (if request.noProgressViolation then [.noRepeatedNoProgressContinuation] else []) ++
    if !request.recovery.lastRecoveryHadProgress && request.selfCorrection.active then
      [.noFakeProgress]
    else []

/-- Below the limits, whether to enter self-correction. -/
def shouldEnterSelfCorrection : Bool :=
  request.recovery.lastRecoveryReason.isSome && !request.recovery.lastRecoveryHadProgress &&
    request.selfCorrection.correctionAttemptCount < request.escalationPolicy.selfCorrectionLimit &&
    !request.safety.requiresExplicitApprovalForNextStep

end ReasoningHarnessRequest

/-- The harness policy. -/
def decideReasoningHarness (request : ReasoningHarnessRequest) : ReasoningHarnessDecision :=
  if request.noProgressViolation || request.selfCorrectionViolation ||
      request.compactionViolation then {
    mode := .handoff
    rationale := "reasoning harness blocked further low-value continuation"
    shouldCheckpoint := request.escalationPolicy.requestCheckpointBeforeHandoff
    shouldEnterSelfCorrection := false
    violatedRules := request.violatedRules }
  else {
    mode := if request.shouldEnterSelfCorrection then .sameTurn else .nextTurn
    rationale :=
      if request.shouldEnterSelfCorrection then "enter self-correction under harness policy"
      else "continue under harness policy"
    shouldCheckpoint :=
      request.progress.completedSteps > 0 && request.progress.completedSteps % 5 = 0
    shouldEnterSelfCorrection := request.shouldEnterSelfCorrection
    violatedRules := request.violatedRules }

namespace ReasoningHarness

/-! ## The three limits -/

/-- Iterations without progress. Always armed. -/
def noProgressGuard : Guard ReasoningHarnessRequest where
  armed _ := True
  counter request := request.progress.noProgressIterationCount.toNat
  limit request := request.escalationPolicy.noProgressLimit.toNat

/-- Self-correction attempts. Always armed. -/
def selfCorrectionGuard : Guard ReasoningHarnessRequest where
  armed _ := True
  counter request := request.selfCorrection.correctionAttemptCount.toNat
  limit request := request.escalationPolicy.selfCorrectionLimit.toNat

/-- Compactions, gated on the last one having changed nothing. -/
def compactionGuard : Guard ReasoningHarnessRequest where
  armed request := request.contextPressure.lastCompactionHadStateChange = false
  counter request := request.contextPressure.recentCompactionCount.toNat
  limit request := request.escalationPolicy.repeatedCompactionLimit.toNat

/-- The limits, in the order they are named. -/
def guards : List (Guard ReasoningHarnessRequest) :=
  [noProgressGuard, selfCorrectionGuard, compactionGuard]

theorem mem_tripped_noProgressGuard (request : ReasoningHarnessRequest) :
    request ∈ noProgressGuard.tripped ↔ request.noProgressViolation = true := by
  simp [noProgressGuard, ReasoningHarnessRequest.noProgressViolation, UInt32.le_iff_toNat_le]

theorem mem_tripped_selfCorrectionGuard (request : ReasoningHarnessRequest) :
    request ∈ selfCorrectionGuard.tripped ↔ request.selfCorrectionViolation = true := by
  simp [selfCorrectionGuard, ReasoningHarnessRequest.selfCorrectionViolation,
    UInt32.le_iff_toNat_le]

theorem mem_tripped_compactionGuard (request : ReasoningHarnessRequest) :
    request ∈ compactionGuard.tripped ↔ request.compactionViolation = true := by
  simp [compactionGuard, ReasoningHarnessRequest.compactionViolation, UInt32.le_iff_toNat_le,
    and_comm]

theorem mem_stopped_guards (request : ReasoningHarnessRequest) :
    request ∈ stopped guards ↔ request ∈ noProgressGuard.tripped ∨
      request ∈ selfCorrectionGuard.tripped ∨ request ∈ compactionGuard.tripped := by
  simp [guards, mem_stopped_cons, not_mem_stopped_nil]

theorem mem_stopped_guards_iff_violation (request : ReasoningHarnessRequest) :
    request ∈ stopped guards ↔ (request.noProgressViolation || request.selfCorrectionViolation ||
      request.compactionViolation) = true := by
  rw [mem_stopped_guards, mem_tripped_noProgressGuard, mem_tripped_selfCorrectionGuard,
    mem_tripped_compactionGuard, Bool.or_eq_true, Bool.or_eq_true, or_assoc]

/-! ## What a decision can be -/

/-- The three decisions : a handoff at a limit, and below the limits a self-correction or
an ordinary continuation. -/
theorem decideReasoningHarness_cases (request : ReasoningHarnessRequest) :
    (request ∈ stopped guards ∧ decideReasoningHarness request = {
      mode := .handoff
      rationale := "reasoning harness blocked further low-value continuation"
      shouldCheckpoint := request.escalationPolicy.requestCheckpointBeforeHandoff
      shouldEnterSelfCorrection := false
      violatedRules := request.violatedRules }) ∨
    (request ∉ stopped guards ∧ request.shouldEnterSelfCorrection = true ∧
      decideReasoningHarness request = {
        mode := .sameTurn
        rationale := "enter self-correction under harness policy"
        shouldCheckpoint :=
          request.progress.completedSteps > 0 && request.progress.completedSteps % 5 = 0
        shouldEnterSelfCorrection := true
        violatedRules := request.violatedRules }) ∨
    (request ∉ stopped guards ∧ request.shouldEnterSelfCorrection = false ∧
      decideReasoningHarness request = {
        mode := .nextTurn
        rationale := "continue under harness policy"
        shouldCheckpoint :=
          request.progress.completedSteps > 0 && request.progress.completedSteps % 5 = 0
        shouldEnterSelfCorrection := false
        violatedRules := request.violatedRules }) := by
  have hstopped := mem_stopped_guards_iff_violation request
  unfold decideReasoningHarness
  split_ifs with hlimit henter
  · exact Or.inl ⟨hstopped.mpr hlimit, rfl⟩
  · exact Or.inr (Or.inl ⟨hstopped.not.mpr hlimit, henter, by rw [henter]⟩)
  · have hstays := Bool.eq_false_iff.mpr henter
    exact Or.inr (Or.inr ⟨hstopped.not.mpr hlimit, hstays, by rw [hstays]⟩)

/-- The requests handed off are the ones the cascade stops. -/
theorem handoff_iff_stopped (request : ReasoningHarnessRequest) :
    (decideReasoningHarness request).mode = .handoff ↔ request ∈ stopped guards := by
  rcases decideReasoningHarness_cases request with ⟨h, hd⟩ | ⟨h, -, hd⟩ | ⟨h, -, hd⟩ <;>
    simp [hd, h]

/-- All handoffs have one rationale, and make a checkpoint as the policy asks. -/
theorem rationale_and_checkpoint_of_handoff {request : ReasoningHarnessRequest}
    (h : (decideReasoningHarness request).mode = .handoff) :
    (decideReasoningHarness request).rationale =
        "reasoning harness blocked further low-value continuation" ∧
      (decideReasoningHarness request).shouldCheckpoint =
        request.escalationPolicy.requestCheckpointBeforeHandoff := by
  rw [handoff_iff_stopped] at h
  rcases decideReasoningHarness_cases request with ⟨-, hd⟩ | ⟨hnot, -⟩ | ⟨hnot, -⟩
  · rw [hd]
    exact ⟨rfl, rfl⟩
  · exact absurd h hnot
  · exact absurd h hnot

/-- A request is handed off at one of three limits. -/
theorem handoff_iff (request : ReasoningHarnessRequest) :
    (decideReasoningHarness request).mode = .handoff ↔
      request.escalationPolicy.noProgressLimit ≤ request.progress.noProgressIterationCount ∨
      request.escalationPolicy.selfCorrectionLimit ≤
        request.selfCorrection.correctionAttemptCount ∨
      (request.escalationPolicy.repeatedCompactionLimit ≤
          request.contextPressure.recentCompactionCount ∧
        request.contextPressure.lastCompactionHadStateChange = false) := by
  rw [handoff_iff_stopped, mem_stopped_guards]
  simp [noProgressGuard, selfCorrectionGuard, compactionGuard, UInt32.le_iff_toNat_le, and_comm]

/-- A request whose guard trips is handed off. -/
theorem handoff_of_tripped {request : ReasoningHarnessRequest} {g : Guard ReasoningHarnessRequest}
    (hg : g ∈ guards) (h : request ∈ g.tripped) :
    (decideReasoningHarness request).mode = .handoff :=
  (handoff_iff_stopped request).mpr ⟨g, hg, h⟩

/-- Below the limits there are attempts left, and the rest of the condition decides. -/
theorem shouldEnterSelfCorrection_iff_of_not_stopped {request : ReasoningHarnessRequest}
    (h : request ∉ stopped guards) :
    request.shouldEnterSelfCorrection = true ↔
      request.recovery.lastRecoveryReason.isSome = true ∧
        request.recovery.lastRecoveryHadProgress = false ∧
        request.safety.requiresExplicitApprovalForNextStep = false := by
  have hattempts : request.selfCorrection.correctionAttemptCount <
      request.escalationPolicy.selfCorrectionLimit := by
    have hbelow : request ∉ selfCorrectionGuard.tripped :=
      fun htripped => h ⟨selfCorrectionGuard, by simp [guards], htripped⟩
    rw [mem_tripped_selfCorrectionGuard] at hbelow
    simpa [ReasoningHarnessRequest.selfCorrectionViolation] using hbelow
  simp [ReasoningHarnessRequest.shouldEnterSelfCorrection, hattempts, and_assoc]

/-- Self-correction is entered below every limit, after a recovery that made no progress,
if the next step needs no approval. -/
theorem shouldEnterSelfCorrection_iff (request : ReasoningHarnessRequest) :
    (decideReasoningHarness request).shouldEnterSelfCorrection = true ↔
      (decideReasoningHarness request).mode ≠ .handoff ∧
        request.recovery.lastRecoveryReason.isSome = true ∧
        request.recovery.lastRecoveryHadProgress = false ∧
        request.safety.requiresExplicitApprovalForNextStep = false := by
  rcases decideReasoningHarness_cases request with ⟨-, hd⟩ | ⟨h, henter, hd⟩ | ⟨h, hstays, hd⟩
  · simp [hd]
  · simpa [hd] using (shouldEnterSelfCorrection_iff_of_not_stopped h).mp henter
  · have hgate := (shouldEnterSelfCorrection_iff_of_not_stopped h).not.mp (by simp [hstays])
    simpa [hd] using hgate

/-! ## What a decision reports -/

/-- A correction is active although the last recovery made no progress. -/
def FakesProgress (request : ReasoningHarnessRequest) : Prop :=
  request.recovery.lastRecoveryHadProgress = false ∧ request.selfCorrection.active = true

/-- Handed off or not, the same rules are reported. -/
theorem violatedRules_decideReasoningHarness (request : ReasoningHarnessRequest) :
    (decideReasoningHarness request).violatedRules = request.violatedRules := by
  rcases decideReasoningHarness_cases request with ⟨-, hd⟩ | ⟨-, -, hd⟩ | ⟨-, -, hd⟩ <;> rw [hd]

/-- Two rules can be reported. -/
theorem mem_violatedRules (request : ReasoningHarnessRequest) (rule : ProhibitionRule) :
    rule ∈ request.violatedRules ↔
      (request.noProgressViolation = true ∧ rule = .noRepeatedNoProgressContinuation) ∨
        (FakesProgress request ∧ rule = .noFakeProgress) := by
  simp only [ReasoningHarnessRequest.violatedRules, FakesProgress, List.mem_append,
    List.mem_ite_nil_right, List.mem_singleton, Bool.and_eq_true, Bool.not_eq_true']

/-! ## Base request -/

/-- The request the harness tests start from : no recovery yet, the adapters' limits. -/
def baseRequest : ReasoningHarnessRequest where
  objective := "finish the task"
  constraints := ["do not spin"]
  evidenceScope := ["current repo only"]
  allowedCapabilityClasses := ["tool"]
  prohibitedBehaviors := [.noFakeProgress, .noRepeatedNoProgressContinuation]
  progress := ⟨1, some 4, some 1, 0⟩
  recovery := ⟨none, 0, true⟩
  lastCheckpoint := none
  selfCorrection := ⟨false, 0, none, false⟩
  postCompaction := default
  runtimeMode := default
  safety := samplePermissionContext
  codexContinuation := none
  contextPressure := default
  mediaContext := []
  capabilityRegistry := default
  escalationPolicy := ⟨3, 2, 2, true⟩

end ReasoningHarness

end Muldex
