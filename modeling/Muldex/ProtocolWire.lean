import Muldex.Protocol
import Muldex.Record

/-!
# Wire format of the protocol types

The derived `Serialize` and `Deserialize` of the types of `protocol.rs` : the name of
every variant and the key of every field, in declaration order. `PlannerResponse`, whose
confidence is a floating-point number, is in `Muldex.SidecarWire`.

Each instance carries the proof that its names or keys are distinct and that the fields
it reads, in the order it reads them, rebuild the value.
-/

namespace Muldex

open Serde

/-! ## Enumerations -/

instance : Variants ContinueReason where
  name
    | .modelFollowUp => "ModelFollowUp"
    | .toolResult => "ToolResult"
    | .pendingInput => "PendingInput"
    | .triggerTurnWakeup => "TriggerTurnWakeup"
    | .manualUserRequest => "ManualUserRequest"
    | .compactionRecovery => "CompactionRecovery"
  all :=
    [.modelFollowUp, .toolResult, .pendingInput, .triggerTurnWakeup, .manualUserRequest,
     .compactionRecovery]

instance : Variants StateChangeKind where
  name
    | .codeEdit => "CodeEdit"
    | .newConfirmedFinding => "NewConfirmedFinding"
    | .newError => "NewError"
    | .userDecision => "UserDecision"
    | .toolSideEffect => "ToolSideEffect"
    | .noMeaningfulChange => "NoMeaningfulChange"
  all :=
    [.codeEdit, .newConfirmedFinding, .newError, .userDecision, .toolSideEffect,
     .noMeaningfulChange]

instance : Variants RecoveryReason where
  name
    | .toolFailure => "ToolFailure"
    | .partialResult => "PartialResult"
    | .contextPressure => "ContextPressure"
    | .transientModelFailure => "TransientModelFailure"
    | .externalDependencyUnavailable => "ExternalDependencyUnavailable"
  all :=
    [.toolFailure, .partialResult, .contextPressure, .transientModelFailure,
     .externalDependencyUnavailable]

instance : Variants MediaKind where
  name
    | .image => "Image"
    | .audio => "Audio"
    | .video => "Video"
    | .hyperframe => "Hyperframe"
    | .document => "Document"
  all := [.image, .audio, .video, .hyperframe, .document]

instance : Variants DerivedMediaArtifactKind where
  name
    | .metadata => "Metadata"
    | .transcript => "Transcript"
    | .subtitleTrack => "SubtitleTrack"
    | .keyframe => "Keyframe"
    | .shotSummary => "ShotSummary"
    | .segmentSummary => "SegmentSummary"
    | .evidenceSummary => "EvidenceSummary"
    | .hyperframe => "Hyperframe"
    | .alignmentMap => "AlignmentMap"
    | .asrWordTiming => "AsrWordTiming"
  all :=
    [.metadata, .transcript, .subtitleTrack, .keyframe, .shotSummary, .segmentSummary,
     .evidenceSummary, .hyperframe, .alignmentMap, .asrWordTiming]

instance : Variants InputModality where
  name
    | .text => "Text"
    | .image => "Image"
    | .audio => "Audio"
    | .videoDerived => "VideoDerived"
    | .hyperframe => "Hyperframe"
    | .documentDerived => "DocumentDerived"
  all := [.text, .image, .audio, .videoDerived, .hyperframe, .documentDerived]

instance : Variants OutputModality where
  name
    | .text => "Text"
    | .structuredJson => "StructuredJson"
    | .toolCall => "ToolCall"
    | .reasoningSummary => "ReasoningSummary"
    | .citationSet => "CitationSet"
    | .patch => "Patch"
    | .media => "Media"
  all := [.text, .structuredJson, .toolCall, .reasoningSummary, .citationSet, .patch, .media]

instance : Variants ReasoningMode where
  name
    | .none => "None"
    | .low => "Low"
    | .medium => "Medium"
    | .high => "High"
    | .summaryOnly => "SummaryOnly"
    | .rawIfAvailable => "RawIfAvailable"
  all := [.none, .low, .medium, .high, .summaryOnly, .rawIfAvailable]

instance : Variants StructuredOutputMode where
  name
    | .freeform => "Freeform"
    | .jsonSchema => "JsonSchema"
    | .requiredKeys => "RequiredKeys"
    | .toolArguments => "ToolArguments"
  all := [.freeform, .jsonSchema, .requiredKeys, .toolArguments]

instance : Variants ExecutionMode where
  name
    | .interactive => "Interactive"
    | .streaming => "Streaming"
    | .background => "Background"
    | .resumable => "Resumable"
    | .batch => "Batch"
    | .scheduled => "Scheduled"
  all := [.interactive, .streaming, .background, .resumable, .batch, .scheduled]

instance : Variants SessionSurfaceKind where
  name
    | .terminal => "Terminal"
    | .desktop => "Desktop"
    | .remote => "Remote"
    | .detached => "Detached"
    | .web => "Web"
  all := [.terminal, .desktop, .remote, .detached, .web]

instance : Variants SandboxModeDescriptor where
  name
    | .readOnly => "ReadOnly"
    | .workspaceWrite => "WorkspaceWrite"
    | .fullAccess => "FullAccess"
    | .unknown => "Unknown"
  all := [.readOnly, .workspaceWrite, .fullAccess, .unknown]

instance : Variants ApprovalPolicyDescriptor where
  name
    | .never => "Never"
    | .ask => "Ask"
    | .onRequest => "OnRequest"
    | .unlessTrusted => "UnlessTrusted"
    | .unknown => "Unknown"
  all := [.never, .ask, .onRequest, .unlessTrusted, .unknown]

instance : Variants AsrBackendKind where
  name
    | .native => "Native"
    | .whisperLike => "WhisperLike"
    | .providerManaged => "ProviderManaged"
  all := [.native, .whisperLike, .providerManaged]

instance : Variants AlignmentBackendKind where
  name
    | .transcriptToAudio => "TranscriptToAudio"
    | .transcriptToVideo => "TranscriptToVideo"
    | .crossModalEvidence => "CrossModalEvidence"
  all := [.transcriptToAudio, .transcriptToVideo, .crossModalEvidence]

instance : Variants GenerativeBackendKind where
  name
    | .diffusionImage => "DiffusionImage"
    | .diffusionVideo => "DiffusionVideo"
    | .audioGeneration => "AudioGeneration"
  all := [.diffusionImage, .diffusionVideo, .audioGeneration]

instance : Variants ContinueMode where
  name
    | .sameTurn => "SameTurn"
    | .nextTurn => "NextTurn"
    | .queueOnly => "QueueOnly"
    | .handoff => "Handoff"
    | .stop => "Stop"
  all := [.sameTurn, .nextTurn, .queueOnly, .handoff, .stop]

/-- The one field of a variant of `MediaSource`. -/
def MediaSource.payload (key : String) : Record String String :=
  Record.of String id |>.field key id

/-- A variant with a field is written as a one-key object. -/
instance : Wire MediaSource where
  encode
    | .localPath path => .obj [("LocalPath", .obj ((MediaSource.payload "path").members path))]
    | .remoteUrl url => .obj [("RemoteUrl", .obj ((MediaSource.payload "url").members url))]
    | .managedArtifact artifactId =>
      .obj [("ManagedArtifact", .obj ((MediaSource.payload "artifact_id").members artifactId))]
  decode
    | .obj [(tag, body)] =>
      if tag = "LocalPath" then ((MediaSource.payload "path").decode body).map .localPath
      else if tag = "RemoteUrl" then ((MediaSource.payload "url").decode body).map .remoteUrl
      else if tag = "ManagedArtifact" then
        ((MediaSource.payload "artifact_id").decode body).map .managedArtifact
      else none
    | _ => none
  absent := none
  decode_encode a := by
    have hpayload (key value : String) :
        (MediaSource.payload key).decode (.obj ((MediaSource.payload key).members value)) =
          some value :=
      Record.decodeMembers_members (MediaSource.payload key) (List.nodup_singleton key) value
    cases a <;> simp [hpayload]

instance : NonNull MediaSource where
  encode_ne_null a := by cases a <;> exact nofun

/-! ## Records -/

instance : Struct ContextPressure where
  record := Record.of ContextPressure ContextPressure.mk
    |>.field "model_context_window" (·.modelContextWindow)
    |>.field "active_context_tokens" (·.activeContextTokens)
    |>.field "auto_compact_scope_tokens" (·.autoCompactScopeTokens)
    |>.field "auto_compact_limit" (·.autoCompactLimit)
    |>.field "tokens_until_compaction" (·.tokensUntilCompaction)
    |>.field "recent_compaction_count" (·.recentCompactionCount)
    |>.field "last_compaction_had_state_change" (·.lastCompactionHadStateChange)

instance : Struct ProgressSnapshot where
  record := Record.of ProgressSnapshot ProgressSnapshot.mk
    |>.field "completed_steps" (·.completedSteps)
    |>.field "total_steps_hint" (·.totalStepsHint)
    |>.field "last_meaningful_progress_at_ms" (·.lastMeaningfulProgressAtMs)
    |>.field "no_progress_iteration_count" (·.noProgressIterationCount)

instance : Struct RecoverySnapshot where
  record := Record.of RecoverySnapshot RecoverySnapshot.mk
    |>.field "last_recovery_reason" (·.lastRecoveryReason)
    |>.field "recovery_attempt_count" (·.recoveryAttemptCount)
    |>.field "last_recovery_had_progress" (·.lastRecoveryHadProgress)

instance : Struct CheckpointRef where
  record := Record.of CheckpointRef CheckpointRef.mk
    |>.field "checkpoint_id" (·.checkpointId)
    |>.field "thread_id" (·.threadId)
    |>.field "turn_id" (·.turnId)
    |>.field "created_at_ms" (·.createdAtMs)
    |>.field "summary" (·.summary)

instance : Struct SelfCorrectionState where
  record := Record.of SelfCorrectionState SelfCorrectionState.mk
    |>.field "active" (·.active)
    |>.field "correction_attempt_count" (·.correctionAttemptCount)
    |>.field "last_correction_target" (·.lastCorrectionTarget)
    |>.field "last_correction_had_progress" (·.lastCorrectionHadProgress)

instance : Struct PostCompactionState where
  record := Record.of PostCompactionState PostCompactionState.mk
    |>.field "pending_post_compaction" (·.pendingPostCompaction)
    |>.field "first_post_compaction_turn" (·.firstPostCompactionTurn)
    |>.field "compaction_window_id" (·.compactionWindowId)
    |>.field "last_compaction_checkpoint_id" (·.lastCompactionCheckpointId)

instance : Struct SkillInvocationState where
  record := Record.of SkillInvocationState SkillInvocationState.mk
    |>.field "skill_id" (·.skillId)
    |>.field "invocation_ref" (·.invocationRef)
    |>.field "invoked_at_ms" (·.invokedAtMs)

instance : Struct RuntimeModeState where
  record := Record.of RuntimeModeState RuntimeModeState.mk
    |>.field "active_agent_mode" (·.activeAgentMode)
    |>.field "previous_agent_mode" (·.previousAgentMode)
    |>.field "mode_transition_pending_guidance" (·.modeTransitionPendingGuidance)
    |>.field "invoked_skills" (·.invokedSkills)

instance : Struct MediaAssetRef where
  record := Record.of MediaAssetRef MediaAssetRef.mk
    |>.field "asset_id" (·.assetId)
    |>.field "kind" (·.kind)
    |>.field "source" (·.source)
    |>.field "display_name" (·.displayName)

instance : Struct TimeRangeMs where
  record := Record.of TimeRangeMs TimeRangeMs.mk
    |>.field "start_ms" (·.startMs)
    |>.field "end_ms" (·.endMs)

instance : Struct DerivedMediaArtifact where
  record := Record.of DerivedMediaArtifact DerivedMediaArtifact.mk
    |>.field "artifact_id" (·.artifactId)
    |>.field "media_asset_id" (·.mediaAssetId)
    |>.field "kind" (·.kind)
    |>.field "time_range" (·.timeRange)
    |>.field "summary" (·.summary)
    |>.field "reference" (·.reference)

instance : Struct Hyperframe where
  record := Record.of Hyperframe Hyperframe.mk
    |>.field "hyperframe_id" (·.hyperframeId)
    |>.field "source_media_asset_id" (·.sourceMediaAssetId)
    |>.field "time_range" (·.timeRange)
    |>.field "transcript" (·.transcript)
    |>.field "subtitle_text" (·.subtitleText)
    |>.field "visual_summary" (·.visualSummary)
    |>.field "keyframe_artifact_ids" (·.keyframeArtifactIds)
    |>.field "operator_annotations" (·.operatorAnnotations)
    |>.field "evidence_summary" (·.evidenceSummary)

instance : Struct MediaContextEnvelope where
  record := Record.of MediaContextEnvelope MediaContextEnvelope.mk
    |>.field "asset" (·.asset)
    |>.field "derived_artifacts" (·.derivedArtifacts)
    |>.field "hyperframes" (·.hyperframes)
    |>.field "operator_summary" (·.operatorSummary)
    |>.field "model_summary" (·.modelSummary)
    |>.field "token_budget_hint" (·.tokenBudgetHint)

instance : Struct PermissionContextSnapshot where
  record := Record.of PermissionContextSnapshot PermissionContextSnapshot.mk
    |>.field "sandbox_mode" (·.sandboxMode)
    |>.field "approval_policy" (·.approvalPolicy)
    |>.field "permission_profile_summary" (·.permissionProfileSummary)
    |>.field "network_access_enabled" (·.networkAccessEnabled)
    |>.field "requires_explicit_approval_for_next_step" (·.requiresExplicitApprovalForNextStep)

instance : Struct CodexSessionContinuationSnapshot where
  record := Record.of CodexSessionContinuationSnapshot CodexSessionContinuationSnapshot.mk
    |>.field "source_thread_id" (·.sourceThreadId)
    |>.field "source_turn_id" (·.sourceTurnId)
    |>.field "source_model" (·.sourceModel)
    |>.field "source_provider" (·.sourceProvider)
    |>.field "active_agent_mode" (·.activeAgentMode)
    |>.field "safety" (·.safety)
    |>.field "reference_context_present" (·.referenceContextPresent)

instance : Struct SessionSurfaceDescriptor where
  record := Record.of SessionSurfaceDescriptor SessionSurfaceDescriptor.mk
    |>.field "surface_id" (·.surfaceId)
    |>.field "kind" (·.kind)
    |>.field "supports_interactive_input" (·.supportsInteractiveInput)
    |>.field "supports_background_execution" (·.supportsBackgroundExecution)
    |>.field "supports_resume" (·.supportsResume)

instance : Struct AgentModeDescriptor where
  record := Record.of AgentModeDescriptor AgentModeDescriptor.mk
    |>.field "mode_id" (·.modeId)
    |>.field "display_name" (·.displayName)
    |>.field "read_only" (·.readOnly)
    |>.field "allows_file_edits" (·.allowsFileEdits)
    |>.field "allows_shell_execution" (·.allowsShellExecution)

instance : Struct SubagentCapabilityDescriptor where
  record := Record.of SubagentCapabilityDescriptor SubagentCapabilityDescriptor.mk
    |>.field "subagent_id" (·.subagentId)
    |>.field "role" (·.role)
    |>.field "capability_tags" (·.capabilityTags)
    |>.field "can_trigger_turn" (·.canTriggerTurn)

instance : Struct ModelCapabilityDescriptor where
  record := Record.of ModelCapabilityDescriptor ModelCapabilityDescriptor.mk
    |>.field "model_id" (·.modelId)
    |>.field "provider_id" (·.providerId)
    |>.field "input_modalities" (·.inputModalities)
    |>.field "output_modalities" (·.outputModalities)
    |>.field "max_context_window" (·.maxContextWindow)
    |>.field "supports_tool_use" (·.supportsToolUse)
    |>.field "supports_parallel_tool_use" (·.supportsParallelToolUse)
    |>.field "supports_long_context" (·.supportsLongContext)
    |>.field "supports_streaming" (·.supportsStreaming)
    |>.field "supports_audio_input" (·.supportsAudioInput)
    |>.field "supports_image_input" (·.supportsImageInput)
    |>.field "supports_video_context" (·.supportsVideoContext)
    |>.field "supports_hyperframes" (·.supportsHyperframes)
    |>.field "reasoning_modes" (·.reasoningModes)
    |>.field "structured_output_modes" (·.structuredOutputModes)
    |>.field "execution_modes" (·.executionModes)
    |>.field "supports_citations" (·.supportsCitations)
    |>.field "supports_prompt_caching" (·.supportsPromptCaching)

instance : Struct ModelSelectionIntent where
  record := Record.of ModelSelectionIntent ModelSelectionIntent.mk
    |>.field "required_input_modalities" (·.requiredInputModalities)
    |>.field "required_output_modalities" (·.requiredOutputModalities)
    |>.field "prefer_long_context" (·.preferLongContext)
    |>.field "prefer_low_latency" (·.preferLowLatency)
    |>.field "prefer_low_cost" (·.preferLowCost)
    |>.field "requires_tool_use" (·.requiresToolUse)
    |>.field "task_label" (·.taskLabel)
    |>.field "reasoning_mode" (·.reasoningMode)
    |>.field "structured_output_mode" (·.structuredOutputMode)
    |>.field "execution_mode" (·.executionMode)

instance : Struct ModelSelectionRequest where
  record := Record.of ModelSelectionRequest ModelSelectionRequest.mk
    |>.field "thread_id" (·.threadId)
    |>.field "turn_id" (·.turnId)
    |>.field "intent" (·.intent)
    |>.field "context_pressure" (·.contextPressure)
    |>.field "media_assets" (·.mediaAssets)

instance : Struct ModelSelectionDecision where
  record := Record.of ModelSelectionDecision ModelSelectionDecision.mk
    |>.field "selected_model_id" (·.selectedModelId)
    |>.field "selected_provider_id" (·.selectedProviderId)
    |>.field "rationale" (·.rationale)
    |>.field "fallback_model_id" (·.fallbackModelId)

instance : Struct McpCapabilityDescriptor where
  record := Record.of McpCapabilityDescriptor McpCapabilityDescriptor.mk
    |>.field "server_id" (·.serverId)
    |>.field "tool_names" (·.toolNames)
    |>.field "resource_names" (·.resourceNames)
    |>.field "prompt_names" (·.promptNames)

instance : Struct SkillCapabilityDescriptor where
  record := Record.of SkillCapabilityDescriptor SkillCapabilityDescriptor.mk
    |>.field "skill_id" (·.skillId)
    |>.field "display_name" (·.displayName)
    |>.field "capability_tags" (·.capabilityTags)
    |>.field "provides_tools" (·.providesTools)
    |>.field "provides_prompts" (·.providesPrompts)
    |>.field "declared_input_modalities" (·.declaredInputModalities)

instance : Struct AgentDataCapabilityDescriptor where
  record := Record.of AgentDataCapabilityDescriptor AgentDataCapabilityDescriptor.mk
    |>.field "protocol_id" (·.protocolId)
    |>.field "schema_ids" (·.schemaIds)
    |>.field "supports_ingest" (·.supportsIngest)
    |>.field "supports_emit" (·.supportsEmit)
    |>.field "supports_streaming_updates" (·.supportsStreamingUpdates)

instance : Struct AsrCapabilityDescriptor where
  record := Record.of AsrCapabilityDescriptor AsrCapabilityDescriptor.mk
    |>.field "backend_id" (·.backendId)
    |>.field "backend_kind" (·.backendKind)
    |>.field "supports_word_timestamps" (·.supportsWordTimestamps)
    |>.field "supports_speaker_diarization" (·.supportsSpeakerDiarization)
    |>.field "supports_multilingual" (·.supportsMultilingual)

instance : Struct AlignmentCapabilityDescriptor where
  record := Record.of AlignmentCapabilityDescriptor AlignmentCapabilityDescriptor.mk
    |>.field "backend_id" (·.backendId)
    |>.field "backend_kind" (·.backendKind)
    |>.field "supports_frame_alignment" (·.supportsFrameAlignment)
    |>.field "supports_word_alignment" (·.supportsWordAlignment)
    |>.field "supports_segment_alignment" (·.supportsSegmentAlignment)

instance : Struct GenerativeBackendCapabilityDescriptor where
  record := Record.of GenerativeBackendCapabilityDescriptor GenerativeBackendCapabilityDescriptor.mk
    |>.field "backend_id" (·.backendId)
    |>.field "backend_kind" (·.backendKind)
    |>.field "supports_image_generation" (·.supportsImageGeneration)
    |>.field "supports_video_generation" (·.supportsVideoGeneration)
    |>.field "supports_audio_generation" (·.supportsAudioGeneration)
    |>.field "supports_seed_control" (·.supportsSeedControl)
    |>.field "supports_workflow_graph" (·.supportsWorkflowGraph)

instance : Struct CapabilityRegistrySnapshot where
  record := Record.of CapabilityRegistrySnapshot CapabilityRegistrySnapshot.mk
    |>.field "mcp" (·.mcp)
    |>.field "skills" (·.skills)
    |>.field "agent_data_protocols" (·.agentDataProtocols)
    |>.field "asr_backends" (·.asrBackends)
    |>.field "alignment_backends" (·.alignmentBackends)
    |>.field "generative_backends" (·.generativeBackends)
    |>.field "agent_modes" (·.agentModes)
    |>.field "subagents" (·.subagents)
    |>.field "surfaces" (·.surfaces)

instance : Struct ContinueRequest where
  record := Record.of ContinueRequest ContinueRequest.mk
    |>.field "thread_id" (·.threadId)
    |>.field "turn_id" (·.turnId)
    |>.field "objective" (·.objective)
    |>.field "constraints" (·.constraints)
    |>.field "continue_reason" (·.continueReason)
    |>.field "recent_state_changes" (·.recentStateChanges)
    |>.field "working_hypothesis" (·.workingHypothesis)
    |>.field "last_agent_message" (·.lastAgentMessage)
    |>.field "pending_input_count" (·.pendingInputCount)
    |>.field "trigger_turn_pending" (·.triggerTurnPending)
    |>.field "tool_call_count_this_turn" (·.toolCallCountThisTurn)
    |>.field "context_pressure" (·.contextPressure)
    |>.field "duplicate_injection_detected" (·.duplicateInjectionDetected)
    |>.field "repeated_follow_up_count" (·.repeatedFollowUpCount)
    |>.field "progress" (·.progress)
    |>.field "recovery" (·.recovery)
    |>.field "last_checkpoint" (·.lastCheckpoint)
    |>.field "self_correction" (·.selfCorrection)
    |>.field "post_compaction" (·.postCompaction)
    |>.field "runtime_mode" (·.runtimeMode)
    |>.field "safety" (·.safety)
    |>.field "codex_continuation" (·.codexContinuation)

instance : Struct ContinueDecision where
  record := Record.of ContinueDecision ContinueDecision.mk
    |>.field "allow_continue" (·.allowContinue)
    |>.field "mode" (·.mode)
    |>.field "rationale" (·.rationale)
    |>.field "next_action" (·.nextAction)
    |>.field "suppress_duplicate_injection" (·.suppressDuplicateInjection)
    |>.field "downgrade_trigger_turn" (·.downgradeTriggerTurn)
    |>.field "request_compaction" (·.requestCompaction)
    |>.field "request_handoff_summary" (·.requestHandoffSummary)
    |>.field "request_checkpoint" (·.requestCheckpoint)
    |>.field "enter_self_correction" (·.enterSelfCorrection)

instance : Struct PlannerRequest where
  record := Record.of PlannerRequest PlannerRequest.mk
    |>.field "objective" (·.objective)
    |>.field "constraints" (·.constraints)
    |>.field "confirmed_facts" (·.confirmedFacts)
    |>.field "open_questions" (·.openQuestions)
    |>.field "continue_reason" (·.continueReason)
    |>.field "context_pressure" (·.contextPressure)
    |>.field "media_context" (·.mediaContext)
    |>.field "capability_registry" (·.capabilityRegistry)
    |>.field "progress" (·.progress)
    |>.field "recovery" (·.recovery)
    |>.field "self_correction" (·.selfCorrection)
    |>.field "post_compaction" (·.postCompaction)
    |>.field "runtime_mode" (·.runtimeMode)
    |>.field "safety" (·.safety)
    |>.field "codex_continuation" (·.codexContinuation)

end Muldex
