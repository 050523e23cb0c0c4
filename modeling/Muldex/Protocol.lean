import Mathlib.Data.Int.Notation

/-!
# Protocol types

The records and enumerations of `protocol.rs` that pass between the kernel and the
orchestration layer. Counters have the width the source gives them; `usize` is the
machine word.
-/

namespace Muldex

/-! ## Signals of one turn -/

/-- Why a turn asks to continue. -/
inductive ContinueReason where
  | modelFollowUp
  | toolResult
  | pendingInput
  | triggerTurnWakeup
  | manualUserRequest
  | compactionRecovery
  deriving DecidableEq

/-- What changed since the last continuation decision. -/
inductive StateChangeKind where
  | codeEdit
  | newConfirmedFinding
  | newError
  | userDecision
  | toolSideEffect
  | noMeaningfulChange
  deriving DecidableEq

/-- Context state at decision time. -/
structure ContextPressure where
  modelContextWindow : Option UInt32
  activeContextTokens : Option UInt32
  autoCompactScopeTokens : Option UInt32
  autoCompactLimit : Option UInt32
  tokensUntilCompaction : Option UInt32
  recentCompactionCount : UInt32
  lastCompactionHadStateChange : Bool

/-- The derived `Default`. -/
instance : Inhabited ContextPressure where
  default := ⟨none, none, none, none, none, 0, false⟩

/-- Progress of a long-running task. -/
structure ProgressSnapshot where
  completedSteps : UInt32
  totalStepsHint : Option UInt32
  lastMeaningfulProgressAtMs : Option UInt64
  noProgressIterationCount : UInt32

/-- What the last recovery recovered from. -/
inductive RecoveryReason where
  | toolFailure
  | partialResult
  | contextPressure
  | transientModelFailure
  | externalDependencyUnavailable
  deriving DecidableEq

/-- The last recovery, if there was one. -/
structure RecoverySnapshot where
  lastRecoveryReason : Option RecoveryReason
  recoveryAttemptCount : UInt32
  lastRecoveryHadProgress : Bool

/-- A stored checkpoint. -/
structure CheckpointRef where
  checkpointId : String
  threadId : String
  turnId : String
  createdAtMs : UInt64
  summary : String

/-- Attempts of a task to correct itself. -/
structure SelfCorrectionState where
  active : Bool
  correctionAttemptCount : UInt32
  lastCorrectionTarget : Option String
  lastCorrectionHadProgress : Bool

/-- The turns after a compaction. -/
structure PostCompactionState where
  pendingPostCompaction : Bool
  firstPostCompactionTurn : Bool
  compactionWindowId : Option String
  lastCompactionCheckpointId : Option String

/-- The derived `Default`. -/
instance : Inhabited PostCompactionState where
  default := ⟨false, false, none, none⟩

/-- A skill that was invoked. -/
structure SkillInvocationState where
  skillId : String
  invocationRef : Option String
  invokedAtMs : Option UInt64

/-- The agent mode of a session. -/
structure RuntimeModeState where
  activeAgentMode : Option String
  previousAgentMode : Option String
  modeTransitionPendingGuidance : Bool
  invokedSkills : List SkillInvocationState

/-- The derived `Default`. -/
instance : Inhabited RuntimeModeState where
  default := ⟨none, none, false, []⟩

/-! ## Media -/

/-- Kind of a media asset. -/
inductive MediaKind where
  | image
  | audio
  | video
  | hyperframe
  | document
  deriving DecidableEq

/-- Where a media asset is. -/
inductive MediaSource where
  | localPath (path : String)
  | remoteUrl (url : String)
  | managedArtifact (artifactId : String)

/-- A referenced media asset. -/
structure MediaAssetRef where
  assetId : String
  kind : MediaKind
  source : MediaSource
  displayName : Option String

/-- A range of milliseconds. -/
structure TimeRangeMs where
  startMs : UInt64
  endMs : UInt64

/-- Kind of an artifact derived from a media asset. -/
inductive DerivedMediaArtifactKind where
  | metadata
  | transcript
  | subtitleTrack
  | keyframe
  | shotSummary
  | segmentSummary
  | evidenceSummary
  | hyperframe
  | alignmentMap
  | asrWordTiming
  deriving DecidableEq

/-- A bounded artifact derived from a media asset. -/
structure DerivedMediaArtifact where
  artifactId : String
  mediaAssetId : String
  kind : DerivedMediaArtifactKind
  timeRange : Option TimeRangeMs
  summary : Option String
  reference : Option String

/-- A time-aligned multimodal context unit. -/
structure Hyperframe where
  hyperframeId : String
  sourceMediaAssetId : String
  timeRange : TimeRangeMs
  transcript : Option String
  subtitleText : Option String
  visualSummary : Option String
  keyframeArtifactIds : List String
  operatorAnnotations : List String
  evidenceSummary : String

/-- A media asset with what was derived from it. -/
structure MediaContextEnvelope where
  asset : MediaAssetRef
  derivedArtifacts : List DerivedMediaArtifact
  hyperframes : List Hyperframe
  operatorSummary : String
  modelSummary : String
  tokenBudgetHint : Option UInt32

/-! ## Modes and permissions -/

/-- What a model reads. -/
inductive InputModality where
  | text
  | image
  | audio
  | videoDerived
  | hyperframe
  | documentDerived
  deriving DecidableEq

/-- What a model writes. -/
inductive OutputModality where
  | text
  | structuredJson
  | toolCall
  | reasoningSummary
  | citationSet
  | patch
  | media
  deriving DecidableEq

/-- How much a model reasons. -/
inductive ReasoningMode where
  | none
  | low
  | medium
  | high
  | summaryOnly
  | rawIfAvailable
  deriving DecidableEq

/-- How structured the output is. -/
inductive StructuredOutputMode where
  | freeform
  | jsonSchema
  | requiredKeys
  | toolArguments
  deriving DecidableEq

/-- How a request is executed. -/
inductive ExecutionMode where
  | interactive
  | streaming
  | background
  | resumable
  | batch
  | scheduled
  deriving DecidableEq

/-- Kind of an operator surface. -/
inductive SessionSurfaceKind where
  | terminal
  | desktop
  | remote
  | detached
  | web
  deriving DecidableEq

/-- The sandbox a session runs in. -/
inductive SandboxModeDescriptor where
  | readOnly
  | workspaceWrite
  | fullAccess
  | unknown
  deriving DecidableEq

/-- When the operator is asked for approval. -/
inductive ApprovalPolicyDescriptor where
  | never
  | ask
  | onRequest
  | unlessTrusted
  | unknown
  deriving DecidableEq

/-- Sandbox and approval state. -/
structure PermissionContextSnapshot where
  sandboxMode : SandboxModeDescriptor
  approvalPolicy : ApprovalPolicyDescriptor
  permissionProfileSummary : String
  networkAccessEnabled : Bool
  requiresExplicitApprovalForNextStep : Bool

/-- The Codex session a task continues. -/
structure CodexSessionContinuationSnapshot where
  sourceThreadId : String
  sourceTurnId : String
  sourceModel : String
  sourceProvider : String
  activeAgentMode : Option String
  safety : PermissionContextSnapshot
  referenceContextPresent : Bool

/-! ## Capabilities -/

/-- An operator surface. -/
structure SessionSurfaceDescriptor where
  surfaceId : String
  kind : SessionSurfaceKind
  supportsInteractiveInput : Bool
  supportsBackgroundExecution : Bool
  supportsResume : Bool

/-- An agent mode. -/
structure AgentModeDescriptor where
  modeId : String
  displayName : String
  readOnly : Bool
  allowsFileEdits : Bool
  allowsShellExecution : Bool

/-- A subagent. -/
structure SubagentCapabilityDescriptor where
  subagentId : String
  role : String
  capabilityTags : List String
  canTriggerTurn : Bool

/-- A model and what it supports. -/
structure ModelCapabilityDescriptor where
  modelId : String
  providerId : String
  inputModalities : List InputModality
  outputModalities : List OutputModality
  maxContextWindow : Option UInt32
  supportsToolUse : Bool
  supportsParallelToolUse : Bool
  supportsLongContext : Bool
  supportsStreaming : Bool
  supportsAudioInput : Bool
  supportsImageInput : Bool
  supportsVideoContext : Bool
  supportsHyperframes : Bool
  reasoningModes : List ReasoningMode
  structuredOutputModes : List StructuredOutputMode
  executionModes : List ExecutionMode
  supportsCitations : Bool
  supportsPromptCaching : Bool

/-- What a task needs of a model. -/
structure ModelSelectionIntent where
  requiredInputModalities : List InputModality
  requiredOutputModalities : List OutputModality
  preferLongContext : Bool
  preferLowLatency : Bool
  preferLowCost : Bool
  requiresToolUse : Bool
  taskLabel : Option String
  reasoningMode : Option ReasoningMode
  structuredOutputMode : Option StructuredOutputMode
  executionMode : Option ExecutionMode

/-- A request for a model. -/
structure ModelSelectionRequest where
  threadId : String
  turnId : String
  intent : ModelSelectionIntent
  contextPressure : ContextPressure
  mediaAssets : List MediaAssetRef

/-- The model selected. -/
structure ModelSelectionDecision where
  selectedModelId : String
  selectedProviderId : String
  rationale : String
  fallbackModelId : Option String

/-- An MCP server. -/
structure McpCapabilityDescriptor where
  serverId : String
  toolNames : List String
  resourceNames : List String
  promptNames : List String

/-- A skill. -/
structure SkillCapabilityDescriptor where
  skillId : String
  displayName : Option String
  capabilityTags : List String
  providesTools : List String
  providesPrompts : List String
  declaredInputModalities : List InputModality

/-- An Agent Data Protocol surface. -/
structure AgentDataCapabilityDescriptor where
  protocolId : String
  schemaIds : List String
  supportsIngest : Bool
  supportsEmit : Bool
  supportsStreamingUpdates : Bool

/-- Kind of a speech recognition backend. -/
inductive AsrBackendKind where
  | native
  | whisperLike
  | providerManaged
  deriving DecidableEq

/-- A speech recognition backend. -/
structure AsrCapabilityDescriptor where
  backendId : String
  backendKind : AsrBackendKind
  supportsWordTimestamps : Bool
  supportsSpeakerDiarization : Bool
  supportsMultilingual : Bool

/-- Kind of an alignment backend. -/
inductive AlignmentBackendKind where
  | transcriptToAudio
  | transcriptToVideo
  | crossModalEvidence
  deriving DecidableEq

/-- An alignment backend. -/
structure AlignmentCapabilityDescriptor where
  backendId : String
  backendKind : AlignmentBackendKind
  supportsFrameAlignment : Bool
  supportsWordAlignment : Bool
  supportsSegmentAlignment : Bool

/-- Kind of a media generation backend. -/
inductive GenerativeBackendKind where
  | diffusionImage
  | diffusionVideo
  | audioGeneration
  deriving DecidableEq

/-- A media generation backend. -/
structure GenerativeBackendCapabilityDescriptor where
  backendId : String
  backendKind : GenerativeBackendKind
  supportsImageGeneration : Bool
  supportsVideoGeneration : Bool
  supportsAudioGeneration : Bool
  supportsSeedControl : Bool
  supportsWorkflowGraph : Bool

/-- Everything a session can draw on. -/
structure CapabilityRegistrySnapshot where
  mcp : List McpCapabilityDescriptor
  skills : List SkillCapabilityDescriptor
  agentDataProtocols : List AgentDataCapabilityDescriptor
  asrBackends : List AsrCapabilityDescriptor
  alignmentBackends : List AlignmentCapabilityDescriptor
  generativeBackends : List GenerativeBackendCapabilityDescriptor
  agentModes : List AgentModeDescriptor
  subagents : List SubagentCapabilityDescriptor
  surfaces : List SessionSurfaceDescriptor

/-- The derived `Default`. -/
instance : Inhabited CapabilityRegistrySnapshot where
  default := ⟨[], [], [], [], [], [], [], [], []⟩

/-! ## Continuation and planning -/

/-- The main input to orchestration. -/
structure ContinueRequest where
  threadId : String
  turnId : String
  objective : String
  constraints : List String
  continueReason : ContinueReason
  recentStateChanges : List StateChangeKind
  workingHypothesis : Option String
  lastAgentMessage : Option String
  pendingInputCount : USize
  triggerTurnPending : Bool
  toolCallCountThisTurn : USize
  contextPressure : ContextPressure
  duplicateInjectionDetected : Bool
  repeatedFollowUpCount : UInt32
  progress : ProgressSnapshot
  recovery : RecoverySnapshot
  lastCheckpoint : Option CheckpointRef
  selfCorrection : SelfCorrectionState
  postCompaction : PostCompactionState
  runtimeMode : RuntimeModeState
  safety : PermissionContextSnapshot
  codexContinuation : Option CodexSessionContinuationSnapshot

/-- How an approved continuation happens. -/
inductive ContinueMode where
  | sameTurn
  | nextTurn
  | queueOnly
  | handoff
  | stop
  deriving DecidableEq

/-- The output of orchestration. -/
structure ContinueDecision where
  allowContinue : Bool
  mode : ContinueMode
  rationale : String
  nextAction : Option String
  suppressDuplicateInjection : Bool
  downgradeTriggerTurn : Bool
  requestCompaction : Bool
  requestHandoffSummary : Bool
  requestCheckpoint : Bool
  enterSelfCorrection : Bool

/-- The input to planning. -/
structure PlannerRequest where
  objective : String
  constraints : List String
  confirmedFacts : List String
  openQuestions : List String
  continueReason : ContinueReason
  contextPressure : ContextPressure
  mediaContext : List MediaContextEnvelope
  capabilityRegistry : CapabilityRegistrySnapshot
  progress : ProgressSnapshot
  recovery : RecoverySnapshot
  selfCorrection : SelfCorrectionState
  postCompaction : PostCompactionState
  runtimeMode : RuntimeModeState
  safety : PermissionContextSnapshot
  codexContinuation : Option CodexSessionContinuationSnapshot

/-- The output of planning. -/
structure PlannerResponse where
  recommendedMode : ContinueMode
  recommendedNextAction : Option String
  rationale : String
  confidence : Float32
  suggestedModel : Option ModelSelectionDecision

end Muldex
