import Muldex.Agently
import Muldex.DecisionFlags
import Muldex.ViolatedRules

/-!
# Coherent decisions

A decision has more than one field that says what happens next, and the deciders fill
them one by one. This file says how the fields of a decision fit together and how they
follow from the request, for the harness (`ReasoningHarness.wellFormed`) and for the local
orchestrator (`DeterministicOrchestrator.decideContinue_coherent`). What a coherent decision
can still lack is an approval, and that is how a sidecar that runs the local orchestrator
exceeds the authority of a request (`DeterministicOrchestrator.sidecar_within_iff`).

A violated rule is one of those fields, and not what decides. At a limit it comes with a
handoff. Below the limits only a correction that fakes progress is reported, and it
leads to self-correction where that is not gated off. Behind the gate the violation is
reported next to an ordinary continuation (`ReasoningHarness.escalates_iff`).
-/

namespace Muldex

open LoopGuard

namespace ReasoningHarness

/-! ## Harness decisions -/

/-- Some limit of the request's own policy is reached. -/
def AtLimit (request : ReasoningHarnessRequest) : Prop :=
  request.escalationPolicy.noProgressLimit ≤ request.progress.noProgressIterationCount ∨
    request.escalationPolicy.selfCorrectionLimit ≤
      request.selfCorrection.correctionAttemptCount ∨
    (request.escalationPolicy.repeatedCompactionLimit ≤
        request.contextPressure.recentCompactionCount ∧
      request.contextPressure.lastCompactionHadStateChange = false)

/-- A recovery happened and made no progress, and the next step needs no approval. -/
structure MayCorrect (request : ReasoningHarnessRequest) : Prop where
  recovered : request.recovery.lastRecoveryReason.isSome = true
  failed : request.recovery.lastRecoveryHadProgress = false
  approved : request.safety.requiresExplicitApprovalForNextStep = false

/-- The fields of the decision agree with each other and with the request. -/
structure WellFormed (request : ReasoningHarnessRequest) (decision : ReasoningHarnessDecision) :
    Prop where
  modes : decision.mode = .sameTurn ∨ decision.mode = .nextTurn ∨ decision.mode = .handoff
  handoff : decision.mode = .handoff ↔ AtLimit request
  sameTurn : decision.mode = .sameTurn ↔ decision.shouldEnterSelfCorrection = true
  selfCorrection : decision.shouldEnterSelfCorrection = true ↔
    ¬AtLimit request ∧ MayCorrect request
  noProgressRule : .noRepeatedNoProgressContinuation ∈ decision.violatedRules ↔
    request.escalationPolicy.noProgressLimit ≤ request.progress.noProgressIterationCount
  noProgressHandoff : .noRepeatedNoProgressContinuation ∈ decision.violatedRules →
    decision.mode = .handoff
  checkpoint : decision.mode = .handoff →
    decision.shouldCheckpoint = request.escalationPolicy.requestCheckpointBeforeHandoff

/-- The mode is one of three, and only self-correction stays in the turn. -/
theorem mode_cases (request : ReasoningHarnessRequest) :
    ((decideReasoningHarness request).mode = .handoff ∧
        (decideReasoningHarness request).shouldEnterSelfCorrection = false) ∨
      ((decideReasoningHarness request).mode = .sameTurn ∧
        (decideReasoningHarness request).shouldEnterSelfCorrection = true) ∨
      ((decideReasoningHarness request).mode = .nextTurn ∧
        (decideReasoningHarness request).shouldEnterSelfCorrection = false) := by
  rcases decideReasoningHarness_cases request with ⟨-, hd⟩ | ⟨-, -, hd⟩ | ⟨-, -, hd⟩ <;>
    simp [hd]

/-- The no-progress rule is reported at the no-progress limit. -/
theorem noProgressRule_iff (request : ReasoningHarnessRequest) :
    .noRepeatedNoProgressContinuation ∈ (decideReasoningHarness request).violatedRules ↔
      request.escalationPolicy.noProgressLimit ≤ request.progress.noProgressIterationCount := by
  rw [violatedRules_decideReasoningHarness, noRepeatedNoProgressContinuation_mem_iff]
  simp [ReasoningHarnessRequest.noProgressViolation]

/-- Every harness decision is well formed. -/
theorem wellFormed (request : ReasoningHarnessRequest) :
    WellFormed request (decideReasoningHarness request) where
  modes := by rcases mode_cases request with h | h | h <;> simp [h]
  handoff := handoff_iff request
  sameTurn := by rcases mode_cases request with h | h | h <;> simp [h]
  selfCorrection := by
    rw [shouldEnterSelfCorrection_iff, ne_eq, handoff_iff]
    exact and_congr_right fun _ => ⟨fun ⟨h₁, h₂, h₃⟩ => ⟨h₁, h₂, h₃⟩, fun h => ⟨h.1, h.2, h.3⟩⟩
  noProgressRule := noProgressRule_iff request
  noProgressHandoff h := (handoff_iff request).mpr (Or.inl ((noProgressRule_iff request).mp h))
  checkpoint h := (rationale_and_checkpoint_of_handoff h).2

/-! ## What follows a violation -/

/-- The decision hands off or enters self-correction. -/
def Escalates (decision : ReasoningHarnessDecision) : Prop :=
  decision.mode = .handoff ∨
    (decision.mode = .sameTurn ∧ decision.shouldEnterSelfCorrection = true)

/-- What does not escalate continues in the next turn. -/
theorem mode_of_not_escalates {request : ReasoningHarnessRequest}
    (h : ¬Escalates (decideReasoningHarness request)) :
    (decideReasoningHarness request).mode = .nextTurn := by
  rcases mode_cases request with hmode | hmode | hmode
  · exact absurd (Or.inl hmode.1) h
  · exact absurd (Or.inr hmode) h
  · exact hmode.1

/-- Below the limits a violation is a correction that fakes progress, and is reported
alone. -/
theorem violatedRules_of_not_atLimit {request : ReasoningHarnessRequest}
    (hlimit : ¬AtLimit request) (h : (decideReasoningHarness request).violatedRules ≠ []) :
    FakesProgress request ∧ (decideReasoningHarness request).violatedRules = [.noFakeProgress] := by
  have hbelow : request.noProgressViolation = false := by
    have hcount := not_or.mp hlimit
    simpa [ReasoningHarnessRequest.noProgressViolation] using hcount.1
  rw [violatedRules_decideReasoningHarness] at h ⊢
  have hfakes : FakesProgress request := by
    rcases (violatedRules_ne_nil_iff request).mp h with hc | hc
    · rw [hbelow] at hc
      cases hc
    · exact hc
  refine ⟨hfakes, ?_⟩
  rw [ReasoningHarnessRequest.violatedRules, hbelow, hfakes.1, hfakes.2]
  rfl

/-- A violation is followed by a handoff or by self-correction exactly when a limit is
reached, or when a recovery reason is given and no approval is required. Otherwise it
is a correction that fakes progress, reported alone, and followed by an ordinary
continuation. -/
theorem escalates_iff (request : ReasoningHarnessRequest)
    (h : (decideReasoningHarness request).violatedRules ≠ []) :
    (Escalates (decideReasoningHarness request) ↔
      AtLimit request ∨ (request.recovery.lastRecoveryReason.isSome = true ∧
        request.safety.requiresExplicitApprovalForNextStep = false)) ∧
    (¬Escalates (decideReasoningHarness request) →
      (decideReasoningHarness request).mode = .nextTurn ∧
        (decideReasoningHarness request).violatedRules = [.noFakeProgress]) := by
  have hwf := wellFormed request
  constructor
  · by_cases hlimit : AtLimit request
    · exact iff_of_true (Or.inl (hwf.handoff.mpr hlimit)) (Or.inl hlimit)
    · have hfakes := (violatedRules_of_not_atLimit hlimit h).1
      constructor
      · rintro (hmode | ⟨-, henter⟩)
        · exact absurd (hwf.handoff.mp hmode) hlimit
        · obtain ⟨-, hmay⟩ := hwf.selfCorrection.mp henter
          exact Or.inr ⟨hmay.recovered, hmay.approved⟩
      · rintro (hreached | ⟨hrecovered, happroved⟩)
        · exact absurd hreached hlimit
        · have henter := hwf.selfCorrection.mpr ⟨hlimit, hrecovered, hfakes.1, happroved⟩
          exact Or.inr ⟨hwf.sameTurn.mpr henter, henter⟩
  · intro hstays
    have hlimit : ¬AtLimit request := fun hreached => hstays (Or.inl (hwf.handoff.mpr hreached))
    exact ⟨mode_of_not_escalates hstays, (violatedRules_of_not_atLimit hlimit h).2⟩

/-- The base request in a correction after a recovery without progress. -/
def fakingRequest (reason : Option RecoveryReason) (approval : Bool) : ReasoningHarnessRequest :=
  { baseRequest with
    recovery := ⟨reason, 1, false⟩
    selfCorrection := ⟨true, 1, none, false⟩
    safety := { samplePermissionContext with requiresExplicitApprovalForNextStep := approval } }

/-- With a reason and no approval to wait for, self-correction follows. -/
theorem escalates_fakingRequest :
    Escalates (decideReasoningHarness (fakingRequest (some .toolFailure) false)) :=
  (escalates_iff (fakingRequest (some .toolFailure) false) (by decide)).1.mpr
    (Or.inr ⟨rfl, rfl⟩)

/-- An ordinary continuation can follow : without a reason, and where approval is required. -/
theorem not_forall_escalates :
    (¬∀ request, (decideReasoningHarness request).violatedRules ≠ [] →
      Escalates (decideReasoningHarness request)) ∧
    (¬∀ request, request.safety.requiresExplicitApprovalForNextStep = false →
      (decideReasoningHarness request).violatedRules ≠ [] →
        Escalates (decideReasoningHarness request)) ∧
    ¬∀ request, request.recovery.lastRecoveryReason.isSome = true →
      (decideReasoningHarness request).violatedRules ≠ [] →
        Escalates (decideReasoningHarness request) := by
  have hnot {decision : ReasoningHarnessDecision} (hmode : decision.mode = .nextTurn) :
      ¬Escalates decision := by
    simp [Escalates, hmode]
  refine ⟨fun h => ?_, fun h => ?_, fun h => ?_⟩
  · exact hnot (by decide) (h (fakingRequest none false) (by decide))
  · exact hnot (by decide) (h (fakingRequest none false) (by decide) (by decide))
  · exact hnot (by decide) (h (fakingRequest (some .toolFailure) true) (by decide) (by decide))

end ReasoningHarness

namespace DeterministicOrchestrator

/-! ## Continuation decisions -/

/-- The fields of the decision agree with each other and with the request. -/
structure Coherent (request : ContinueRequest) (decision : ContinueDecision) : Prop where
  handoff : decision.allowContinue = false ↔ decision.mode = .handoff
  handoffSummary : decision.allowContinue = false ↔ decision.requestHandoffSummary = true
  refused : decision.allowContinue = false → decision.requestCheckpoint = true ∧
    decision.downgradeTriggerTurn = true ∧ decision.nextAction = none ∧
    decision.enterSelfCorrection = false
  approvedMode : decision.allowContinue = true → decision.mode =
    if request.continueReason = .triggerTurnWakeup ∧ request.duplicateInjectionDetected = true
    then .queueOnly else .nextTurn
  approvedAction : decision.allowContinue = true → decision.nextAction = request.workingHypothesis
  suppressed : request.duplicateInjectionDetected = true →
    decision.suppressDuplicateInjection = true

/-- A refusal is coherent if it suppresses the duplicates that are detected. -/
theorem coherent_refusal {request : ContinueRequest} {rationale : String} {suppress : Bool}
    (h : request.duplicateInjectionDetected = true → suppress = true) :
    Coherent request (refusal rationale suppress) where
  handoff := by simp [refusal]
  handoffSummary := by simp [refusal]
  refused _ := ⟨rfl, rfl, rfl, rfl⟩
  approvedMode hallowed := nomatch hallowed
  approvedAction hallowed := nomatch hallowed
  suppressed := h

/-- An approval is coherent. -/
theorem coherent_approval (request : ContinueRequest) : Coherent request (approval request) where
  handoff := by
    unfold approval
    split_ifs <;> simp
  handoffSummary := by simp [approval]
  refused hrefused := nomatch hrefused
  approvedMode _ := by simp [approval]
  approvedAction _ := rfl
  suppressed := id

/-- Every request is answered. -/
theorem exists_decideContinue (request : ContinueRequest) :
    ∃ decision, decideContinue request = .ok decision := by
  rcases refusal_or_approval request with ⟨-, _, _, hd⟩ | ⟨-, hd⟩ <;> exact ⟨_, hd⟩

/-- Every decision is coherent. -/
theorem coherent_of_eq_ok {request : ContinueRequest} {decision : ContinueDecision}
    (hd : decideContinue request = .ok decision) : Coherent request decision := by
  rcases decideContinue_cases request with ⟨-, h⟩ | ⟨-, -, h⟩ | ⟨-, -, -, h⟩ | ⟨-, -, -, h⟩ <;>
    obtain rfl := Except.ok.inj (hd.symm.trans h)
  · exact coherent_refusal fun _ => rfl
  · exact coherent_refusal id
  · exact coherent_refusal fun _ => rfl
  · exact coherent_approval request

/-- Every request is answered, with a coherent decision. -/
theorem decideContinue_coherent (request : ContinueRequest) :
    ∃ decision, decideContinue request = .ok decision ∧ Coherent request decision := by
  obtain ⟨decision, hd⟩ := exists_decideContinue request
  exact ⟨decision, hd, coherent_of_eq_ok hd⟩

/-! ## Behind a sidecar -/

/-- The mode of a coherent decision agrees with its verdict. -/
theorem Coherent.mode_agrees {request : ContinueRequest} {decision : ContinueDecision}
    (h : Coherent request decision) :
    (decision.allowContinue = false → decision.mode ≠ .sameTurn ∧ decision.mode ≠ .nextTurn) ∧
      (decision.allowContinue = true → decision.mode ≠ .handoff ∧ decision.mode ≠ .stop) := by
  refine ⟨fun hrefused => ?_, fun hallowed => ?_⟩
  · rw [h.handoff.mp hrefused]
    exact ⟨nofun, nofun⟩
  · rw [h.approvedMode hallowed]
    split_ifs <;> exact ⟨nofun, nofun⟩

/-- So all that a coherent decision can lack of its authority is the approval. -/
theorem Coherent.within_iff {request : ContinueRequest} {decision : ContinueDecision}
    (h : Coherent request decision) :
    AgentlyOrchestrator.WithinAuthority request decision ↔
      (request.safety.requiresExplicitApprovalForNextStep = true →
        decision.enterSelfCorrection = false) :=
  ⟨fun hwithin => hwithin.approval, fun happroval =>
    ⟨h.mode_agrees.1, h.mode_agrees.2, happroval⟩⟩

/-- A sidecar that runs the local orchestrator answers every request, with a mode that agrees
with its verdict. It exceeds the authority of the request exactly where an approval follows a
recovery without progress although the next step needs explicit approval. -/
theorem sidecar_within_iff (render : OrchestratorError → String)
    (other : AgentlySidecarRequest → Except OrchestratorError AgentlySidecarResponse)
    (request : ContinueRequest) :
    ∃ decision, (AgentlyOrchestrator.new (AgentlyOrchestrator.dispatchTransport orchestrator
        render other)).decideContinue request = .ok decision ∧
      (decision.allowContinue = false → decision.mode ≠ .sameTurn ∧ decision.mode ≠ .nextTurn) ∧
      (decision.allowContinue = true → decision.mode ≠ .handoff ∧ decision.mode ≠ .stop) ∧
      (AgentlyOrchestrator.WithinAuthority request decision ↔
        ¬(request.safety.requiresExplicitApprovalForNextStep = true ∧ Allows request ∧
          request.recovery.lastRecoveryReason.isSome = true ∧
          request.recovery.lastRecoveryHadProgress = false)) := by
  obtain ⟨decision, hd⟩ := exists_decideContinue request
  have hcoherent := coherent_of_eq_ok hd
  refine ⟨decision, ?_, hcoherent.mode_agrees.1, hcoherent.mode_agrees.2, ?_⟩
  · exact (AgentlyOrchestrator.decideContinue_dispatchTransport orchestrator render other request
      decision).mpr hd
  · have henters : EntersSelfCorrection request ↔ decision.enterSelfCorrection = true :=
      ⟨fun ⟨_, hd', henter⟩ => Except.ok.inj (hd.symm.trans hd') ▸ henter,
        fun henter => ⟨decision, hd, henter⟩⟩
    rw [hcoherent.within_iff, ← entersSelfCorrection_iff, henters, not_and, Bool.not_eq_true]

end DeterministicOrchestrator

end Muldex
