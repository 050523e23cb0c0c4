import Mathlib.Tactic.Common
import Muldex.LoopGuard
import Muldex.Orchestrator

/-!
# The deterministic local orchestrator

`decideContinue` tries three stop conditions in order and refuses at the first that
holds : a follow-up loop, a stalled task, a stall after a compaction. Otherwise it
approves, with a mode that depends on the reason.

Each stop condition is a guard (`LoopGuard.Guard`) with its own gate, and the requests
that are refused are the ones the cascade of the three stops (`refuses_iff_stopped`).
All that is said of a decision is read off its four cases (`decideContinue_cases`).
The gate of the stall guard is `last_recovery_had_progress`, which is also true when
no recovery ever happened.
-/

namespace Muldex

open LoopGuard

namespace DeterministicOrchestrator

/-- Whether every recent change is `NoMeaningfulChange`. -/
def repeatedWithoutChange (request : ContinueRequest) : Bool :=
  request.recentStateChanges.all fun change => change = .noMeaningfulChange

/-- The decision of the three refusals, which differ in their rationale and in whether
they suppress a duplicate injection. -/
def refusal (rationale : String) (suppressDuplicateInjection : Bool) : ContinueDecision where
  allowContinue := false
  mode := .handoff
  rationale := rationale
  nextAction := none
  suppressDuplicateInjection := suppressDuplicateInjection
  downgradeTriggerTurn := true
  requestCompaction := false
  requestHandoffSummary := true
  requestCheckpoint := true
  enterSelfCorrection := false

/-- The decision of the approval. -/
def approval (request : ContinueRequest) : ContinueDecision where
  allowContinue := true
  mode :=
    if request.continueReason = .triggerTurnWakeup && request.duplicateInjectionDetected then
      .queueOnly
    else .nextTurn
  rationale := "default deterministic continuation policy"
  nextAction := request.workingHypothesis
  suppressDuplicateInjection := request.duplicateInjectionDetected
  downgradeTriggerTurn := false
  requestCompaction := false
  requestHandoffSummary := false
  requestCheckpoint :=
    request.progress.completedSteps > 0 && request.progress.completedSteps % 5 = 0
  enterSelfCorrection :=
    request.recovery.lastRecoveryReason.isSome && !request.recovery.lastRecoveryHadProgress

/-- The continuation policy. -/
def decideContinue (request : ContinueRequest) : Except OrchestratorError ContinueDecision :=
  if request.repeatedFollowUpCount ≥ 3 && repeatedWithoutChange request then
    .ok (refusal "repeated follow-up without a meaningful state change" true)
  else if request.progress.noProgressIterationCount ≥ 3 &&
      !request.recovery.lastRecoveryHadProgress then
    .ok (refusal "long-running task stalled without measurable progress"
      request.duplicateInjectionDetected)
  else if request.postCompaction.pendingPostCompaction &&
      request.progress.noProgressIterationCount ≥ 2 then
    .ok (refusal "post-compaction turns are still failing to make progress" true)
  else .ok (approval request)

/-- The planning policy : the first open question is the next action. -/
def planNextAction (request : PlannerRequest) : Except OrchestratorError PlannerResponse :=
  .ok {
    recommendedMode := .nextTurn
    recommendedNextAction := request.openQuestions.head?
    rationale := "default deterministic planner response"
    confidence := 0.25
    suggestedModel := none }

/-- `DeterministicOrchestrator` as an orchestrator. -/
def orchestrator : AgentOrchestrator where
  decideContinue := decideContinue
  planNextAction := planNextAction

/-! ## The three stop conditions -/

/-- Three follow-ups, gated on no meaningful change. -/
def followUpGuard : Guard ContinueRequest where
  armed request := ∀ change ∈ request.recentStateChanges, change = .noMeaningfulChange
  counter request := request.repeatedFollowUpCount.toNat
  limit _ := 3

/-- Three iterations without progress, gated on the last recovery. -/
def stallGuard : Guard ContinueRequest where
  armed request := request.recovery.lastRecoveryHadProgress = false
  counter request := request.progress.noProgressIterationCount.toNat
  limit _ := 3

/-- Two iterations without progress, gated on a pending compaction. -/
def postCompactionGuard : Guard ContinueRequest where
  armed request := request.postCompaction.pendingPostCompaction = true
  counter request := request.progress.noProgressIterationCount.toNat
  limit _ := 2

/-- The guards, in the order they are tried. -/
def guards : List (Guard ContinueRequest) :=
  [followUpGuard, stallGuard, postCompactionGuard]

theorem mem_stopped_guards (request : ContinueRequest) :
    request ∈ stopped guards ↔ request ∈ followUpGuard.tripped ∨ request ∈ stallGuard.tripped ∨
      request ∈ postCompactionGuard.tripped := by
  simp [guards, mem_stopped_cons, not_mem_stopped_nil]

/-- Three follow-ups without a meaningful change. -/
def FollowUpLoop (request : ContinueRequest) : Prop :=
  3 ≤ request.repeatedFollowUpCount ∧
    ∀ change ∈ request.recentStateChanges, change = .noMeaningfulChange

/-- Three iterations without progress, and a last recovery without progress. -/
def Stalled (request : ContinueRequest) : Prop :=
  3 ≤ request.progress.noProgressIterationCount ∧
    request.recovery.lastRecoveryHadProgress = false

/-- Two iterations without progress while a compaction is pending. -/
def PostCompactionStall (request : ContinueRequest) : Prop :=
  request.postCompaction.pendingPostCompaction = true ∧
    2 ≤ request.progress.noProgressIterationCount

theorem mem_tripped_followUpGuard (request : ContinueRequest) :
    request ∈ followUpGuard.tripped ↔ FollowUpLoop request := by
  simp [followUpGuard, FollowUpLoop, UInt32.le_iff_toNat_le, and_comm]

theorem mem_tripped_stallGuard (request : ContinueRequest) :
    request ∈ stallGuard.tripped ↔ Stalled request := by
  simp [stallGuard, Stalled, UInt32.le_iff_toNat_le, and_comm]

theorem mem_tripped_postCompactionGuard (request : ContinueRequest) :
    request ∈ postCompactionGuard.tripped ↔ PostCompactionStall request := by
  simp [postCompactionGuard, PostCompactionStall, UInt32.le_iff_toNat_le]

theorem mem_stopped_guards_iff (request : ContinueRequest) :
    request ∈ stopped guards ↔
      FollowUpLoop request ∨ Stalled request ∨ PostCompactionStall request := by
  rw [mem_stopped_guards, mem_tripped_followUpGuard, mem_tripped_stallGuard,
    mem_tripped_postCompactionGuard]

/-! ## What a decision can be -/

/-- The four decisions, in the order they are tried. -/
theorem decideContinue_cases (request : ContinueRequest) :
    (FollowUpLoop request ∧ decideContinue request =
      .ok (refusal "repeated follow-up without a meaningful state change" true)) ∨
    (¬FollowUpLoop request ∧ Stalled request ∧ decideContinue request =
      .ok (refusal "long-running task stalled without measurable progress"
        request.duplicateInjectionDetected)) ∨
    (¬FollowUpLoop request ∧ ¬Stalled request ∧ PostCompactionStall request ∧
      decideContinue request =
        .ok (refusal "post-compaction turns are still failing to make progress" true)) ∨
    (¬FollowUpLoop request ∧ ¬Stalled request ∧ ¬PostCompactionStall request ∧
      decideContinue request = .ok (approval request)) := by
  have hfollow : (decide (request.repeatedFollowUpCount ≥ 3) && repeatedWithoutChange request) =
      true ↔ FollowUpLoop request := by simp [FollowUpLoop, repeatedWithoutChange]
  have hstall : (decide (request.progress.noProgressIterationCount ≥ 3) &&
      !request.recovery.lastRecoveryHadProgress) = true ↔ Stalled request := by simp [Stalled]
  have hcompact : (request.postCompaction.pendingPostCompaction &&
      decide (request.progress.noProgressIterationCount ≥ 2)) = true ↔
        PostCompactionStall request := by simp [PostCompactionStall]
  unfold decideContinue
  split_ifs with h₁ h₂ h₃
  · exact Or.inl ⟨hfollow.mp h₁, rfl⟩
  · exact Or.inr (Or.inl ⟨hfollow.not.mp h₁, hstall.mp h₂, rfl⟩)
  · exact Or.inr (Or.inr (Or.inl ⟨hfollow.not.mp h₁, hstall.not.mp h₂, hcompact.mp h₃, rfl⟩))
  · exact Or.inr (Or.inr (Or.inr
      ⟨hfollow.not.mp h₁, hstall.not.mp h₂, hcompact.not.mp h₃, rfl⟩))

/-- What the cascade stops is refused, and anything else approved. -/
theorem refusal_or_approval (request : ContinueRequest) :
    (request ∈ stopped guards ∧ ∃ rationale suppress,
      decideContinue request = .ok (refusal rationale suppress)) ∨
    (request ∉ stopped guards ∧ decideContinue request = .ok (approval request)) := by
  rw [mem_stopped_guards_iff]
  rcases decideContinue_cases request with ⟨h₁, hd⟩ | ⟨-, h₂, hd⟩ | ⟨-, -, h₃, hd⟩ |
    ⟨h₁, h₂, h₃, hd⟩
  · exact Or.inl ⟨Or.inl h₁, _, _, hd⟩
  · exact Or.inl ⟨Or.inr (Or.inl h₂), _, _, hd⟩
  · exact Or.inl ⟨Or.inr (Or.inr h₃), _, _, hd⟩
  · exact Or.inr ⟨by simp [h₁, h₂, h₃], hd⟩

/-- A decision is a refusal, or the approval of its request. -/
theorem eq_refusal_or_eq_approval {request : ContinueRequest} {decision : ContinueDecision}
    (hd : decideContinue request = .ok decision) :
    (∃ rationale suppress, decision = refusal rationale suppress) ∨
      decision = approval request := by
  rcases refusal_or_approval request with ⟨-, rationale, suppress, hcase⟩ | ⟨-, hcase⟩
  · exact Or.inl ⟨rationale, suppress, Except.ok.inj (hd.symm.trans hcase)⟩
  · exact Or.inr (Except.ok.inj (hd.symm.trans hcase))

/-- The request is answered with a decision to continue. -/
def Allows (request : ContinueRequest) : Prop :=
  ∃ decision, decideContinue request = .ok decision ∧ decision.allowContinue = true

/-- The request is answered with a decision not to continue. -/
def Refuses (request : ContinueRequest) : Prop :=
  ∃ decision, decideContinue request = .ok decision ∧ decision.allowContinue = false

/-- The request is answered with a decision to enter self-correction. -/
def EntersSelfCorrection (request : ContinueRequest) : Prop :=
  ∃ decision, decideContinue request = .ok decision ∧ decision.enterSelfCorrection = true

/-- The requests refused are the ones the cascade stops. -/
theorem refuses_iff_stopped (request : ContinueRequest) :
    Refuses request ↔ request ∈ stopped guards := by
  rcases refusal_or_approval request with ⟨h, rationale, suppress, hd⟩ | ⟨h, hd⟩
  · simp [Refuses, hd, h, refusal]
  · simp [Refuses, hd, h, approval]

/-- The requests approved are the ones the cascade lets through. -/
theorem allows_iff_not_stopped (request : ContinueRequest) :
    Allows request ↔ request ∉ stopped guards := by
  rcases refusal_or_approval request with ⟨h, rationale, suppress, hd⟩ | ⟨h, hd⟩
  · simp [Allows, hd, h, refusal]
  · simp [Allows, hd, h, approval]

/-- A request is refused for one of three reasons. -/
theorem refuses_iff (request : ContinueRequest) :
    Refuses request ↔ FollowUpLoop request ∨ Stalled request ∨ PostCompactionStall request :=
  (refuses_iff_stopped request).trans (mem_stopped_guards_iff request)

/-- A request is approved if there is none of the three. -/
theorem allows_iff (request : ContinueRequest) :
    Allows request ↔
      ¬(FollowUpLoop request ∨ Stalled request ∨ PostCompactionStall request) :=
  (allows_iff_not_stopped request).trans (mem_stopped_guards_iff request).not

/-- Self-correction is entered by approval, after a recovery that made no progress. -/
theorem entersSelfCorrection_iff (request : ContinueRequest) :
    EntersSelfCorrection request ↔ Allows request ∧
      request.recovery.lastRecoveryReason.isSome = true ∧
      request.recovery.lastRecoveryHadProgress = false := by
  rcases refusal_or_approval request with ⟨-, rationale, suppress, hd⟩ | ⟨-, hd⟩
  · simp [EntersSelfCorrection, Allows, hd, refusal]
  · simp [EntersSelfCorrection, Allows, hd, approval]

/-- A refusal is a handoff. -/
theorem mode_of_refused {request : ContinueRequest} {decision : ContinueDecision}
    (hd : decideContinue request = .ok decision) (hrefused : decision.allowContinue = false) :
    decision.mode = .handoff := by
  rcases eq_refusal_or_eq_approval hd with ⟨rationale, suppress, rfl⟩ | rfl
  · rfl
  · cases hrefused

end DeterministicOrchestrator

end Muldex
