import Muldex.Agently
import Muldex.ProtocolWire
import Muldex.UpstreamAdapter

/-!
# Wire format of requests and snapshots

The derived `Serialize` and `Deserialize` of the harness contract, of the three Codex
snapshots and of the sidecar request, and the round trip of every type that crosses the
wire as a document of its own (`decode_encode_documents`).
-/

namespace Muldex

open Serde

/-! ## Harness contract -/

instance : Variants ProhibitionRule where
  name
    | .noFakeProgress => "NoFakeProgress"
    | .noDuplicateInjection => "NoDuplicateInjection"
    | .noSilentScopeExpansion => "NoSilentScopeExpansion"
    | .noUnverifiedCompletion => "NoUnverifiedCompletion"
    | .noRepeatedNoProgressContinuation => "NoRepeatedNoProgressContinuation"
    | .noSilentModelSwitch => "NoSilentModelSwitch"
    | .noSilentExecutionModeSwitch => "NoSilentExecutionModeSwitch"
  all :=
    [.noFakeProgress, .noDuplicateInjection, .noSilentScopeExpansion, .noUnverifiedCompletion,
     .noRepeatedNoProgressContinuation, .noSilentModelSwitch, .noSilentExecutionModeSwitch]

instance : Struct EscalationPolicy where
  record := Record.of EscalationPolicy EscalationPolicy.mk
    |>.field "no_progress_limit" (·.noProgressLimit)
    |>.field "repeated_compaction_limit" (·.repeatedCompactionLimit)
    |>.field "self_correction_limit" (·.selfCorrectionLimit)
    |>.field "request_checkpoint_before_handoff" (·.requestCheckpointBeforeHandoff)

instance : Struct ReasoningHarnessRequest where
  record := Record.of ReasoningHarnessRequest ReasoningHarnessRequest.mk
    |>.field "objective" (·.objective)
    |>.field "constraints" (·.constraints)
    |>.field "evidence_scope" (·.evidenceScope)
    |>.field "allowed_capability_classes" (·.allowedCapabilityClasses)
    |>.field "prohibited_behaviors" (·.prohibitedBehaviors)
    |>.field "progress" (·.progress)
    |>.field "recovery" (·.recovery)
    |>.field "last_checkpoint" (·.lastCheckpoint)
    |>.field "self_correction" (·.selfCorrection)
    |>.field "post_compaction" (·.postCompaction)
    |>.field "runtime_mode" (·.runtimeMode)
    |>.field "safety" (·.safety)
    |>.field "codex_continuation" (·.codexContinuation)
    |>.field "context_pressure" (·.contextPressure)
    |>.field "media_context" (·.mediaContext)
    |>.field "capability_registry" (·.capabilityRegistry)
    |>.field "escalation_policy" (·.escalationPolicy)

instance : Struct ReasoningHarnessDecision where
  record := Record.of ReasoningHarnessDecision ReasoningHarnessDecision.mk
    |>.field "mode" (·.mode)
    |>.field "rationale" (·.rationale)
    |>.field "should_checkpoint" (·.shouldCheckpoint)
    |>.field "should_enter_self_correction" (·.shouldEnterSelfCorrection)
    |>.field "violated_rules" (·.violatedRules)

/-! ## Codex snapshots -/

instance : Struct CodexSignalSnapshot where
  record := Record.of CodexSignalSnapshot CodexSignalSnapshot.mk
    |>.field "thread_id" (·.threadId)
    |>.field "turn_id" (·.turnId)
    |>.field "objective" (·.objective)
    |>.field "constraints" (·.constraints)
    |>.field "working_hypothesis" (·.workingHypothesis)
    |>.field "last_agent_message" (·.lastAgentMessage)
    |>.field "continue_reason" (·.continueReason)
    |>.field "recent_state_changes" (·.recentStateChanges)
    |>.field "pending_input_count" (·.pendingInputCount)
    |>.field "trigger_turn_pending" (·.triggerTurnPending)
    |>.field "tool_call_count_this_turn" (·.toolCallCountThisTurn)
    |>.field "duplicate_injection_detected" (·.duplicateInjectionDetected)
    |>.field "repeated_follow_up_count" (·.repeatedFollowUpCount)
    |>.field "model_context_window" (·.modelContextWindow)
    |>.field "active_context_tokens" (·.activeContextTokens)
    |>.field "auto_compact_scope_tokens" (·.autoCompactScopeTokens)
    |>.field "auto_compact_limit" (·.autoCompactLimit)
    |>.field "tokens_until_compaction" (·.tokensUntilCompaction)
    |>.field "recent_compaction_count" (·.recentCompactionCount)
    |>.field "last_compaction_had_state_change" (·.lastCompactionHadStateChange)
    |>.field "pending_post_compaction" (·.pendingPostCompaction)
    |>.field "first_post_compaction_turn" (·.firstPostCompactionTurn)
    |>.field "compaction_window_id" (·.compactionWindowId)
    |>.field "last_compaction_checkpoint_id" (·.lastCompactionCheckpointId)
    |>.field "completed_steps" (·.completedSteps)
    |>.field "total_steps_hint" (·.totalStepsHint)
    |>.field "no_progress_iteration_count" (·.noProgressIterationCount)
    |>.field "recovery_attempt_count" (·.recoveryAttemptCount)
    |>.field "last_recovery_reason" (·.lastRecoveryReason)
    |>.field "last_recovery_had_progress" (·.lastRecoveryHadProgress)
    |>.field "self_correction_active" (·.selfCorrectionActive)
    |>.field "self_correction_attempt_count" (·.selfCorrectionAttemptCount)
    |>.field "last_correction_target" (·.lastCorrectionTarget)
    |>.field "last_correction_had_progress" (·.lastCorrectionHadProgress)
    |>.field "active_agent_mode" (·.activeAgentMode)
    |>.field "previous_agent_mode" (·.previousAgentMode)
    |>.field "mode_transition_pending_guidance" (·.modeTransitionPendingGuidance)
    |>.field "invoked_skills" (·.invokedSkills)
    |>.field "capability_registry" (·.capabilityRegistry)

instance : Struct CodexBootstrapSnapshot where
  record := Record.of CodexBootstrapSnapshot CodexBootstrapSnapshot.mk
    |>.field "thread_id" (·.threadId)
    |>.field "turn_id" (·.turnId)
    |>.field "cwd" (·.cwd)
    |>.field "model" (·.model)
    |>.field "model_provider" (·.modelProvider)
    |>.field "collaboration_mode" (·.collaborationMode)
    |>.field "personality" (·.personality)
    |>.field "approval_policy" (·.approvalPolicy)
    |>.field "permission_profile" (·.permissionProfile)
    |>.field "service_tier" (·.serviceTier)
    |>.field "show_raw_agent_reasoning" (·.showRawAgentReasoning)
    |>.field "model_context_window" (·.modelContextWindow)
    |>.field "auto_compact_token_limit" (·.autoCompactTokenLimit)
    |>.field "auto_compact_token_limit_scope" (·.autoCompactTokenLimitScope)
    |>.field "reference_context_present" (·.referenceContextPresent)
    |>.field "prompt_input_count" (·.promptInputCount)
    |>.field "input_modalities" (·.inputModalities)
    |>.field "tools_visible_count" (·.toolsVisibleCount)
    |>.field "prompt_preview_text_items" (·.promptPreviewTextItems)

instance : Struct CodexLiveContinuationSnapshot where
  record := Record.of CodexLiveContinuationSnapshot CodexLiveContinuationSnapshot.mk
    |>.field "thread_id" (·.threadId)
    |>.field "active_turn_present" (·.activeTurnPresent)
    |>.field "pending_input_present" (·.pendingInputPresent)
    |>.field "trigger_turn_mailbox_present" (·.triggerTurnMailboxPresent)
    |>.field "auto_compact_window_number" (·.autoCompactWindowNumber)
    |>.field "total_input_tokens" (·.totalInputTokens)
    |>.field "total_cached_input_tokens" (·.totalCachedInputTokens)
    |>.field "total_output_tokens" (·.totalOutputTokens)

/-! ## Sidecar -/

instance : Struct AgentlySidecarRequest where
  record := Record.of AgentlySidecarRequest AgentlySidecarRequest.mk
    |>.field "operation" (·.operation)
    |>.field "continue_request" (·.continueRequest)
    |>.field "planner_request" (·.plannerRequest)

/-! ## Round trip -/

/-- Every value of a document type is read back from the tree it is written as. -/
theorem decode_encode_documents :
    (∀ v : ContinueRequest, Wire.decode (Wire.encode v) = some v) ∧
    (∀ v : ContinueDecision, Wire.decode (Wire.encode v) = some v) ∧
    (∀ v : PlannerRequest, Wire.decode (Wire.encode v) = some v) ∧
    (∀ v : MediaContextEnvelope, Wire.decode (Wire.encode v) = some v) ∧
    (∀ v : ModelSelectionRequest, Wire.decode (Wire.encode v) = some v) ∧
    (∀ v : ReasoningHarnessRequest, Wire.decode (Wire.encode v) = some v) ∧
    (∀ v : ReasoningHarnessDecision, Wire.decode (Wire.encode v) = some v) ∧
    (∀ v : CodexSignalSnapshot, Wire.decode (Wire.encode v) = some v) ∧
    (∀ v : CodexBootstrapSnapshot, Wire.decode (Wire.encode v) = some v) ∧
    (∀ v : CodexLiveContinuationSnapshot, Wire.decode (Wire.encode v) = some v) ∧
    ∀ v : AgentlySidecarRequest, Wire.decode (Wire.encode v) = some v :=
  ⟨Wire.decode_encode, Wire.decode_encode, Wire.decode_encode, Wire.decode_encode,
    Wire.decode_encode, Wire.decode_encode, Wire.decode_encode, Wire.decode_encode,
    Wire.decode_encode, Wire.decode_encode, Wire.decode_encode⟩

end Muldex
