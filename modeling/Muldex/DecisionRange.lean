import Muldex.CommandOutput

/-!
# Which decisions are ever given

A decision has several fields, but few of the combinations occur. Here the decisions that
occur are listed, and each one listed is the decision of some request.

* Under a policy the harness has twelve decisions (`ReasoningHarness.decided_under_iff`). If the
  no-progress limit is zero, only the handoffs at that limit are left. If the correction
  limit is, only the handoffs.
* Each path to the harness is narrower or as wide (`decided_on_paths_iff`). The signal
  snapshots reach every decision of the adapters' policy, workspaces four, and what is
  observed of a session one.
* The local orchestrator has two shapes of decision, refusals and approvals
  (`DeterministicOrchestrator.decided_locally_iff`).
-/

namespace Muldex

open LoopGuard

namespace ReasoningHarness

/-! ## The harness -/

/-- The rules that can be reported together. -/
def reported (noProgress faking : Bool) : List ProhibitionRule :=
  (if noProgress then [.noRepeatedNoProgressContinuation] else []) ++
    if faking then [.noFakeProgress] else []

/-- A handoff under the policy. -/
def handoff (policy : EscalationPolicy) (noProgress faking : Bool) : ReasoningHarnessDecision where
  mode := .handoff
  rationale := "reasoning harness blocked further low-value continuation"
  shouldCheckpoint := policy.requestCheckpointBeforeHandoff
  shouldEnterSelfCorrection := false
  violatedRules := reported noProgress faking

/-- A decision below the limits. -/
def continuation (corrects checkpoint faking : Bool) : ReasoningHarnessDecision where
  mode := if corrects then .sameTurn else .nextTurn
  rationale :=
    if corrects then "enter self-correction under harness policy"
    else "continue under harness policy"
  shouldCheckpoint := checkpoint
  shouldEnterSelfCorrection := corrects
  violatedRules := reported false faking

/-- The decisions under a policy. -/
def decisionsUnder (policy : EscalationPolicy) : List ReasoningHarnessDecision :=
  [false, true].map (handoff policy true) ++
    (if 0 < policy.noProgressLimit then
      [false, true].map (handoff policy false) ++
        if 0 < policy.selfCorrectionLimit then
          [false, true].flatMap fun corrects => [false, true].flatMap fun checkpoint =>
            [false, true].map (continuation corrects checkpoint)
        else []
    else [])

theorem mem_decisionsUnder (policy : EscalationPolicy) (decision : ReasoningHarnessDecision) :
    decision ∈ decisionsUnder policy ↔
      (∃ faking, decision = handoff policy true faking) ∨
      (0 < policy.noProgressLimit ∧ ∃ faking, decision = handoff policy false faking) ∨
      (0 < policy.noProgressLimit ∧ 0 < policy.selfCorrectionLimit ∧
        ∃ corrects checkpoint faking, decision = continuation corrects checkpoint faking) := by
  rw [decisionsUnder]
  by_cases hnoProgress : 0 < policy.noProgressLimit
  · by_cases hcorrection : 0 < policy.selfCorrectionLimit
    · simp [hnoProgress, hcorrection, or_assoc]
    · simp [hnoProgress, hcorrection, or_assoc]
  · simp [hnoProgress]

theorem violatedRules_eq_reported (request : ReasoningHarnessRequest) :
    request.violatedRules = reported request.noProgressViolation
      (!request.recovery.lastRecoveryHadProgress && request.selfCorrection.active) :=
  rfl

/-- A limit that a count is below of is not zero. -/
theorem limit_pos_of_not_le {limit count : UInt32} (h : decide (count ≥ limit) = false) :
    0 < limit :=
  UInt32.lt_of_le_of_lt UInt32.zero_le (UInt32.not_le.mp (of_decide_eq_false h))

/-- Below its limits a policy has limits to be below of. -/
theorem limits_pos_of_not_stopped {request : ReasoningHarnessRequest}
    (h : request ∉ stopped guards) :
    request.noProgressViolation = false ∧ 0 < request.escalationPolicy.noProgressLimit ∧
      0 < request.escalationPolicy.selfCorrectionLimit := by
  rw [mem_stopped_guards_iff_violation, Bool.not_eq_true, Bool.or_eq_false_iff,
    Bool.or_eq_false_iff] at h
  obtain ⟨⟨hnoProgress, hcorrection⟩, -⟩ := h
  exact ⟨hnoProgress, limit_pos_of_not_le hnoProgress, limit_pos_of_not_le hcorrection⟩

/-- Every decision is listed under the policy of its request. -/
theorem decideReasoningHarness_mem (request : ReasoningHarnessRequest) :
    decideReasoningHarness request ∈ decisionsUnder request.escalationPolicy := by
  rw [mem_decisionsUnder]
  rcases decideReasoningHarness_cases request with ⟨-, hd⟩ | ⟨hnot, -, hd⟩ | ⟨hnot, -, hd⟩
  · rw [hd, violatedRules_eq_reported]
    cases hnoProgress : request.noProgressViolation with
    | true => exact Or.inl ⟨_, rfl⟩
    | false => exact Or.inr (Or.inl ⟨limit_pos_of_not_le hnoProgress, _, rfl⟩)
  · obtain ⟨hnoProgress, hlimit, hlimit'⟩ := limits_pos_of_not_stopped hnot
    rw [hd, violatedRules_eq_reported, hnoProgress]
    exact Or.inr (Or.inr ⟨hlimit, hlimit', true, _, _, rfl⟩)
  · obtain ⟨hnoProgress, hlimit, hlimit'⟩ := limits_pos_of_not_stopped hnot
    rw [hd, violatedRules_eq_reported, hnoProgress]
    exact Or.inr (Or.inr ⟨hlimit, hlimit', false, _, _, rfl⟩)

/-- A snapshot with the two counts, and with what the three flags of a decision take. -/
def probe (noProgress attempts : UInt32) (corrects checkpoint faking : Bool) :
    CodexSignalSnapshot :=
  { followUpSnapshot 0 noProgress with
    lastCompactionHadStateChange := true
    completedSteps := if checkpoint then 5 else 1
    lastRecoveryReason := if corrects then some .toolFailure else none
    lastRecoveryHadProgress := !(corrects || faking)
    selfCorrectionActive := faking
    selfCorrectionAttemptCount := attempts }

/-- The request of a probe, under any policy. -/
def probeRequest (policy : EscalationPolicy) (noProgress attempts : UInt32)
    (corrects checkpoint faking : Bool) : ReasoningHarnessRequest :=
  { codexSnapshotToHarnessRequest (probe noProgress attempts corrects checkpoint faking) with
    escalationPolicy := policy }

section

variable {policy : EscalationPolicy} {noProgress attempts : UInt32}
  {corrects checkpoint faking : Bool}

theorem reported_probeRequest (noProgressViolation : Bool) :
    reported noProgressViolation
      (!(probeRequest policy noProgress attempts corrects checkpoint
          faking).recovery.lastRecoveryHadProgress &&
        (probeRequest policy noProgress attempts corrects checkpoint faking).selfCorrection.active) =
      reported noProgressViolation faking := by
  cases corrects <;> cases faking <;> rfl

theorem checkpoint_probeRequest :
    (decide ((probeRequest policy noProgress attempts corrects checkpoint
        faking).progress.completedSteps > 0) &&
      decide ((probeRequest policy noProgress attempts corrects checkpoint
        faking).progress.completedSteps % 5 = 0)) = checkpoint := by
  cases checkpoint <;> simp [probeRequest, codexSnapshotToHarnessRequest, probe]

theorem decide_probeRequest_of_limit (h : policy.noProgressLimit ≤ noProgress ∨
      policy.selfCorrectionLimit ≤ attempts) :
    decideReasoningHarness (probeRequest policy noProgress attempts corrects checkpoint faking) =
      handoff policy (decide (policy.noProgressLimit ≤ noProgress)) faking := by
  have hstopped : probeRequest policy noProgress attempts corrects checkpoint faking ∈
      stopped guards := by
    rw [← handoff_iff_stopped, handoff_iff]
    exact h.imp id Or.inl
  rcases decideReasoningHarness_cases (probeRequest policy noProgress attempts corrects checkpoint
    faking) with ⟨-, hd⟩ | ⟨hnot, -⟩ | ⟨hnot, -⟩
  · rw [hd, violatedRules_eq_reported, reported_probeRequest]
    rfl
  · exact absurd hstopped hnot
  · exact absurd hstopped hnot

theorem decide_probeRequest_of_below (hnoProgress : noProgress < policy.noProgressLimit)
    (hattempts : attempts < policy.selfCorrectionLimit) :
    decideReasoningHarness (probeRequest policy noProgress attempts corrects checkpoint faking) =
      continuation corrects checkpoint faking := by
  have hnot : probeRequest policy noProgress attempts corrects checkpoint faking ∉
      stopped guards := by
    rw [← handoff_iff_stopped, handoff_iff]
    rintro (h | h | h)
    · exact absurd hnoProgress (UInt32.not_lt.mpr h)
    · exact absurd hattempts (UInt32.not_lt.mpr h)
    · exact absurd h.2 (by simp [probeRequest, codexSnapshotToHarnessRequest, probe])
  have hcorrects := shouldEnterSelfCorrection_iff_of_not_stopped hnot
  obtain ⟨hviolation, -⟩ := limits_pos_of_not_stopped hnot
  rcases decideReasoningHarness_cases (probeRequest policy noProgress attempts corrects checkpoint
    faking) with ⟨hstopped, -⟩ | ⟨-, henter, hd⟩ | ⟨-, hstays, hd⟩
  · exact absurd hstopped hnot
  · rw [hd, violatedRules_eq_reported, hviolation, reported_probeRequest, checkpoint_probeRequest]
    obtain rfl : corrects = true := by
      cases corrects
      · exact absurd (hcorrects.mp henter).1 Bool.false_ne_true
      · rfl
    rfl
  · rw [hd, violatedRules_eq_reported, hviolation, reported_probeRequest, checkpoint_probeRequest]
    obtain rfl : corrects = false := by
      cases corrects
      · rfl
      · exact absurd (hcorrects.mpr ⟨rfl, rfl, rfl⟩) (by simp [hstays])
    rfl

/-- Every decision listed under a policy is given to a probe. -/
theorem exists_probe {decision : ReasoningHarnessDecision} (h : decision ∈ decisionsUnder policy) :
    ∃ noProgress attempts corrects checkpoint faking,
      decideReasoningHarness (probeRequest policy noProgress attempts corrects checkpoint faking) =
        decision := by
  rcases (mem_decisionsUnder policy decision).mp h with ⟨faking, rfl⟩ | ⟨hlimit, faking, rfl⟩ |
    ⟨hlimit, hlimit', corrects, checkpoint, faking, rfl⟩
  · refine ⟨policy.noProgressLimit, 0, false, false, faking, ?_⟩
    rw [decide_probeRequest_of_limit (Or.inl (UInt32.le_refl _))]
    simp
  · refine ⟨0, policy.selfCorrectionLimit, false, false, faking, ?_⟩
    rw [decide_probeRequest_of_limit (Or.inr (UInt32.le_refl _))]
    simp [UInt32.not_le.mpr hlimit]
  · exact ⟨0, 0, corrects, checkpoint, faking, decide_probeRequest_of_below hlimit hlimit'⟩

end

/-- The decisions given under a policy are the ones listed. -/
theorem decided_under_iff (policy : EscalationPolicy) (decision : ReasoningHarnessDecision) :
    (∃ request, request.escalationPolicy = policy ∧ decideReasoningHarness request = decision) ↔
      decision ∈ decisionsUnder policy := by
  constructor
  · rintro ⟨request, rfl, rfl⟩
    exact decideReasoningHarness_mem request
  · intro h
    obtain ⟨noProgress, attempts, corrects, checkpoint, faking, hd⟩ := exists_probe h
    exact ⟨_, rfl, hd⟩

end ReasoningHarness

/-! ## The paths to the harness -/

section

open ReasoningHarness

/-- Under the adapters' policy a probe is what its snapshot is turned into. -/
theorem probeRequest_adapterPolicy (noProgress attempts : UInt32)
    (corrects checkpoint faking : Bool) :
    probeRequest adapterPolicy noProgress attempts corrects checkpoint faking =
      codexSnapshotToHarnessRequest (probe noProgress attempts corrects checkpoint faking) :=
  rfl

/-- The decisions on a workspace : two handoffs, a correction and a plain continuation. -/
def workspaceDecisions : List ReasoningHarnessDecision :=
  [handoff adapterPolicy true false, handoff adapterPolicy true true, continuation true false true,
    continuation false false false]

/-- A workspace decision is read off its two flags. -/
theorem workspaceDecision_eq (noProgressIterations : UInt32) (recoverableFailure : Bool) :
    workspaceDecision noProgressIterations recoverableFailure =
      if 3 ≤ noProgressIterations then handoff adapterPolicy true recoverableFailure
      else continuation recoverableFailure false recoverableFailure := by
  by_cases hlimit : 3 ≤ noProgressIterations <;> cases recoverableFailure <;>
    simp [workspaceDecision, hlimit, handoff, continuation, reported, adapterPolicy]

/-- The decisions on each path. A signal snapshot can be given every decision of the
adapters' policy, what is observed of a session one, and a workspace four, whatever it
holds. -/
theorem decided_on_paths_iff {Path IoError : Type} (fs : FileSystem Path IoError)
    (workspace : Path) (text mode : String) (decision : ReasoningHarnessDecision) :
    ((∃ snapshot, decideReasoningHarness (codexSnapshotToHarnessRequest snapshot) = decision) ↔
      decision ∈ decisionsUnder adapterPolicy) ∧
    ((∃ observation : SessionObservation,
        decideReasoningHarness observation.toHarnessRequest = decision) ↔
      decision = continuation false false false) ∧
    ((∃ noProgressIterations postCompaction recoverableFailure,
        decideReasoningHarness (workspaceRequest fs workspace text mode noProgressIterations
          postCompaction recoverableFailure) = decision) ↔
      decision ∈ workspaceDecisions) := by
  refine ⟨⟨?_, fun h => ?_⟩, ⟨?_, ?_⟩, ?_⟩
  · rintro ⟨snapshot, rfl⟩
    exact decideReasoningHarness_mem (codexSnapshotToHarnessRequest snapshot)
  · obtain ⟨noProgress, attempts, corrects, checkpoint, faking, hd⟩ := exists_probe h
    exact ⟨_, probeRequest_adapterPolicy _ _ _ _ _ ▸ hd⟩
  · rintro ⟨observation, rfl⟩
    exact observation.steady.decideReasoningHarness_eq
  · rintro rfl
    exact ⟨.live (liveSnapshot 0), SessionObservation.steady _ |>.decideReasoningHarness_eq⟩
  · simp only [decideReasoningHarness_workspaceRequest, workspaceDecision_eq]
    constructor
    · rintro ⟨noProgressIterations, -, recoverableFailure, rfl⟩
      split_ifs <;> cases recoverableFailure <;> simp [workspaceDecisions]
    · simp only [workspaceDecisions, List.mem_cons, List.not_mem_nil, or_false]
      rintro (rfl | rfl | rfl | rfl)
      · exact ⟨3, false, false, rfl⟩
      · exact ⟨3, false, true, rfl⟩
      · exact ⟨0, false, true, rfl⟩
      · exact ⟨0, false, false, rfl⟩

end

/-! ## The orchestrator -/

namespace DeterministicOrchestrator

/-- The refusals. Only a stalled task can be refused without suppressing an injection. -/
def refusals : List ContinueDecision :=
  [refusal "repeated follow-up without a meaningful state change" true,
    refusal "long-running task stalled without measurable progress" true,
    refusal "long-running task stalled without measurable progress" false,
    refusal "post-compaction turns are still failing to make progress" true]

/-- The decision is an approval. It is queued only together with a suppressed injection. -/
structure IsApproval (decision : ContinueDecision) : Prop where
  allowContinue : decision.allowContinue = true
  mode : decision.mode = .nextTurn ∨
    (decision.mode = .queueOnly ∧ decision.suppressDuplicateInjection = true)
  rationale : decision.rationale = "default deterministic continuation policy"
  downgradeTriggerTurn : decision.downgradeTriggerTurn = false
  requestCompaction : decision.requestCompaction = false
  requestHandoffSummary : decision.requestHandoffSummary = false

theorem isApproval_approval (request : ContinueRequest) : IsApproval (approval request) := by
  refine ⟨rfl, ?_, rfl, rfl, rfl, rfl⟩
  by_cases h : request.continueReason = .triggerTurnWakeup ∧ request.duplicateInjectionDetected
  · exact Or.inr ⟨by simp [approval, h], h.2⟩
  · exact Or.inl (by simpa [approval] using h)

/-- A request that is approved with the decision. -/
def approvedRequest (decision : ContinueDecision) : ContinueRequest :=
  { sampleContinueRequest with
    continueReason := if decision.mode = .queueOnly then .triggerTurnWakeup else .pendingInput
    workingHypothesis := decision.nextAction
    duplicateInjectionDetected := decision.suppressDuplicateInjection
    progress := ⟨if decision.requestCheckpoint then 5 else 1, some 9, none, 0⟩
    recovery := ⟨some .toolFailure, 1, !decision.enterSelfCorrection⟩ }

theorem decideContinue_approvedRequest {decision : ContinueDecision} (h : IsApproval decision) :
    decideContinue (approvedRequest decision) = .ok decision := by
  have hnot : approvedRequest decision ∉ stopped guards := by
    rw [mem_stopped_guards_iff]
    simp [FollowUpLoop, Stalled, PostCompactionStall, approvedRequest, sampleContinueRequest]
  rcases refusal_or_approval (approvedRequest decision) with ⟨hstopped, -⟩ | ⟨-, hd⟩
  · exact absurd hstopped hnot
  · rw [hd]
    obtain ⟨allow, mode, rationale, nextAction, suppress, downgrade, compaction, summary,
      checkpoint, corrects⟩ := decision
    obtain ⟨rfl, hmode, rfl, rfl, rfl, rfl⟩ := h
    rcases hmode with hmode | ⟨hmode, hsuppress⟩
    · obtain rfl : mode = .nextTurn := hmode
      cases checkpoint <;> cases corrects <;> simp [approval, approvedRequest]
    · obtain rfl : mode = .queueOnly := hmode
      obtain rfl : suppress = true := hsuppress
      cases checkpoint <;> cases corrects <;> simp [approval, approvedRequest]

/-- A decision is given to some request exactly if it is one of the four refusals or an
approval. -/
theorem decided_locally_iff (decision : ContinueDecision) :
    (∃ request, decideContinue request = .ok decision) ↔
      decision ∈ refusals ∨ IsApproval decision := by
  constructor
  · rintro ⟨request, hd⟩
    rcases decideContinue_cases request with ⟨-, hcase⟩ | ⟨-, -, hcase⟩ | ⟨-, -, -, hcase⟩ |
      ⟨-, -, -, hcase⟩
    all_goals obtain rfl := Except.ok.inj (hcase.symm.trans hd)
    · exact Or.inl (by simp [refusals])
    · exact Or.inl (by cases request.duplicateInjectionDetected <;> simp [refusals])
    · exact Or.inl (by simp [refusals])
    · exact Or.inr (isApproval_approval request)
  · rintro (h | h)
    · simp only [refusals, List.mem_cons, List.not_mem_nil, or_false] at h
      rcases h with rfl | rfl | rfl | rfl
      · exact ⟨{ sampleContinueRequest with
          recentStateChanges := [], repeatedFollowUpCount := 3 }, rfl⟩
      · exact ⟨{ sampleContinueRequest with
          duplicateInjectionDetected := true, progress := ⟨1, some 3, none, 3⟩,
          recovery := ⟨none, 0, false⟩ }, rfl⟩
      · exact ⟨{ sampleContinueRequest with
          progress := ⟨1, some 3, none, 3⟩, recovery := ⟨none, 0, false⟩ }, rfl⟩
      · exact ⟨{ sampleContinueRequest with
          progress := ⟨1, some 3, none, 2⟩, postCompaction := ⟨true, true, none, none⟩ }, rfl⟩
    · exact ⟨_, decideContinue_approvedRequest h⟩

end DeterministicOrchestrator

end Muldex
