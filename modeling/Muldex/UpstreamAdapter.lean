import Mathlib.Data.List.Infix
import Muldex.ReasoningHarness

/-!
# Adapters from upstream snapshots

Three kinds of Codex snapshot are turned into harness requests. The signal snapshot
carries counters and flags, which its adapter copies. The bootstrap and the live
snapshot carry none, and their adapters write fixed values in their place.

All three install one escalation policy (`adapterPolicy`).
-/

namespace Muldex

/-- Signals captured from a running Codex session. -/
structure CodexSignalSnapshot where
  threadId : String
  turnId : String
  objective : String
  constraints : List String
  workingHypothesis : Option String
  lastAgentMessage : Option String
  continueReason : ContinueReason
  recentStateChanges : List StateChangeKind
  pendingInputCount : USize
  triggerTurnPending : Bool
  toolCallCountThisTurn : USize
  duplicateInjectionDetected : Bool
  repeatedFollowUpCount : UInt32
  modelContextWindow : Option UInt32
  activeContextTokens : Option UInt32
  autoCompactScopeTokens : Option UInt32
  autoCompactLimit : Option UInt32
  tokensUntilCompaction : Option UInt32
  recentCompactionCount : UInt32
  lastCompactionHadStateChange : Bool
  pendingPostCompaction : Bool
  firstPostCompactionTurn : Bool
  compactionWindowId : Option String
  lastCompactionCheckpointId : Option String
  completedSteps : UInt32
  totalStepsHint : Option UInt32
  noProgressIterationCount : UInt32
  recoveryAttemptCount : UInt32
  lastRecoveryReason : Option RecoveryReason
  lastRecoveryHadProgress : Bool
  selfCorrectionActive : Bool
  selfCorrectionAttemptCount : UInt32
  lastCorrectionTarget : Option String
  lastCorrectionHadProgress : Bool
  activeAgentMode : Option String
  previousAgentMode : Option String
  modeTransitionPendingGuidance : Bool
  invokedSkills : List String
  capabilityRegistry : CapabilityRegistrySnapshot

/-- The configuration a Codex session starts from. -/
structure CodexBootstrapSnapshot where
  threadId : String
  turnId : String
  cwd : String
  model : String
  modelProvider : String
  collaborationMode : String
  personality : Option String
  approvalPolicy : String
  permissionProfile : String
  serviceTier : Option String
  showRawAgentReasoning : Bool
  modelContextWindow : Option UInt32
  autoCompactTokenLimit : Option UInt32
  autoCompactTokenLimitScope : String
  referenceContextPresent : Bool
  promptInputCount : USize
  inputModalities : List String
  toolsVisibleCount : USize
  promptPreviewTextItems : USize

/-- What is observed of a Codex session between turns. -/
structure CodexLiveContinuationSnapshot where
  threadId : String
  activeTurnPresent : Bool
  pendingInputPresent : Bool
  triggerTurnMailboxPresent : Bool
  autoCompactWindowNumber : UInt64
  totalInputTokens : Option Int64
  totalCachedInputTokens : Option Int64
  totalOutputTokens : Option Int64

/-- The escalation policy every adapter installs. -/
def adapterPolicy : EscalationPolicy where
  noProgressLimit := 3
  repeatedCompactionLimit := 2
  selfCorrectionLimit := 2
  requestCheckpointBeforeHandoff := true

/-! ## Signal snapshot -/

/-- The signal snapshot as a harness request. -/
def codexSnapshotToHarnessRequest (snapshot : CodexSignalSnapshot) : ReasoningHarnessRequest where
  objective := snapshot.objective
  constraints := snapshot.constraints
  evidenceScope := ["upstream codex signal snapshot"]
  allowedCapabilityClasses := ["tool", "skill", "mcp"]
  prohibitedBehaviors := [.noFakeProgress, .noRepeatedNoProgressContinuation,
    .noDuplicateInjection, .noUnverifiedCompletion]
  progress := {
    completedSteps := snapshot.completedSteps
    totalStepsHint := snapshot.totalStepsHint
    lastMeaningfulProgressAtMs := none
    noProgressIterationCount := snapshot.noProgressIterationCount }
  recovery := {
    lastRecoveryReason := snapshot.lastRecoveryReason
    recoveryAttemptCount := snapshot.recoveryAttemptCount
    lastRecoveryHadProgress := snapshot.lastRecoveryHadProgress }
  lastCheckpoint := snapshot.lastCompactionCheckpointId.map fun checkpointId => {
    checkpointId := checkpointId
    threadId := snapshot.threadId
    turnId := snapshot.turnId
    createdAtMs := 0
    summary := "derived from codex runtime snapshot" }
  selfCorrection := {
    active := snapshot.selfCorrectionActive
    correctionAttemptCount := snapshot.selfCorrectionAttemptCount
    lastCorrectionTarget := snapshot.lastCorrectionTarget
    lastCorrectionHadProgress := snapshot.lastCorrectionHadProgress }
  postCompaction := {
    pendingPostCompaction := snapshot.pendingPostCompaction
    firstPostCompactionTurn := snapshot.firstPostCompactionTurn
    compactionWindowId := snapshot.compactionWindowId
    lastCompactionCheckpointId := snapshot.lastCompactionCheckpointId }
  runtimeMode := {
    activeAgentMode := snapshot.activeAgentMode
    previousAgentMode := snapshot.previousAgentMode
    modeTransitionPendingGuidance := snapshot.modeTransitionPendingGuidance
    invokedSkills := snapshot.invokedSkills.map fun skillId => {
      skillId := skillId
      invocationRef := none
      invokedAtMs := none } }
  safety := {
    sandboxMode := .workspaceWrite
    approvalPolicy := .onRequest
    permissionProfileSummary := "derived from codex signal snapshot"
    networkAccessEnabled := false
    requiresExplicitApprovalForNextStep := false }
  codexContinuation := none
  contextPressure := {
    modelContextWindow := snapshot.modelContextWindow
    activeContextTokens := snapshot.activeContextTokens
    autoCompactScopeTokens := snapshot.autoCompactScopeTokens
    autoCompactLimit := snapshot.autoCompactLimit
    tokensUntilCompaction := snapshot.tokensUntilCompaction
    recentCompactionCount := snapshot.recentCompactionCount
    lastCompactionHadStateChange := snapshot.lastCompactionHadStateChange }
  mediaContext := []
  capabilityRegistry := snapshot.capabilityRegistry
  escalationPolicy := adapterPolicy

/-! ## Bootstrap snapshot -/

/-- `to_ascii_lowercase` : letters outside ASCII stay as they are. -/
def toAsciiLowercase (text : String) : String :=
  .ofList (text.toList.map Char.toLower)

/-- Whether `text` contains `pattern`. -/
def contains (text pattern : String) : Bool :=
  decide (pattern.toList <:+: text.toList)

/-- The approval policy of a given name. -/
def approvalPolicyOfName (name : String) : ApprovalPolicyDescriptor :=
  if name = "OnRequest" then .onRequest
  else if name = "Never" then .never
  else if name = "UnlessTrusted" then .unlessTrusted
  else .unknown

/-- Any other name is of no policy that is known. -/
theorem approvalPolicyOfName_eq_unknown_iff (name : String) :
    approvalPolicyOfName name = .unknown ↔ name ∉ ["OnRequest", "Never", "UnlessTrusted"] := by
  unfold approvalPolicyOfName
  split_ifs with h₁ h₂ h₃
  · simp [h₁]
  · simp [h₂]
  · simp [h₃]
  · simp [h₁, h₂, h₃]

/-- The hint that an image-capable model may be needed. -/
def ReasoningHarnessRequest.withModalitiesHint (request : ReasoningHarnessRequest)
    (mentionsImage : Bool) : ReasoningHarnessRequest :=
  if mentionsImage then
    { request with
      constraints := request.constraints ++ ["image-capable model path may be required"] }
  else request

section

variable (request : ReasoningHarnessRequest) (mentionsImage : Bool)

@[simp] theorem prohibitedBehaviors_withModalitiesHint :
    (request.withModalitiesHint mentionsImage).prohibitedBehaviors =
      request.prohibitedBehaviors := by
  cases mentionsImage <;> rfl

@[simp] theorem runtimeMode_withModalitiesHint :
    (request.withModalitiesHint mentionsImage).runtimeMode = request.runtimeMode := by
  cases mentionsImage <;> rfl

@[simp] theorem safety_withModalitiesHint :
    (request.withModalitiesHint mentionsImage).safety = request.safety := by
  cases mentionsImage <;> rfl

@[simp] theorem codexContinuation_withModalitiesHint :
    (request.withModalitiesHint mentionsImage).codexContinuation = request.codexContinuation := by
  cases mentionsImage <;> rfl

end

/-- The bootstrap snapshot as a harness request. -/
def codexBootstrapSnapshotToHarnessRequest (snapshot : CodexBootstrapSnapshot) :
    ReasoningHarnessRequest :=
  let requiredModalities := snapshot.inputModalities.map toAsciiLowercase
  let mentionsImage := requiredModalities.any fun item => contains item "image"
  let request : ReasoningHarnessRequest := {
    objective := "continue useful work in workspace " ++ snapshot.cwd ++
      " from codex bootstrap state"
    constraints := ["do not spin", "respect codex-compatible sandbox and approval semantics"]
    evidenceScope := [
      "cwd: " ++ snapshot.cwd,
      "model: " ++ snapshot.model,
      "provider: " ++ snapshot.modelProvider,
      "collaboration_mode: " ++ snapshot.collaborationMode,
      "reference_context_present: " ++ toString snapshot.referenceContextPresent,
      "approval_policy: " ++ snapshot.approvalPolicy,
      "show_raw_agent_reasoning: " ++ toString snapshot.showRawAgentReasoning]
    allowedCapabilityClasses := ["tool", "skill", "mcp"]
    prohibitedBehaviors := [.noFakeProgress, .noRepeatedNoProgressContinuation,
      .noSilentScopeExpansion]
    progress := {
      completedSteps := 0
      totalStepsHint := none
      lastMeaningfulProgressAtMs := none
      noProgressIterationCount := 0 }
    recovery := {
      lastRecoveryReason := none
      recoveryAttemptCount := 0
      lastRecoveryHadProgress := true }
    lastCheckpoint := none
    selfCorrection := {
      active := false
      correctionAttemptCount := 0
      lastCorrectionTarget := none
      lastCorrectionHadProgress := false }
    postCompaction := {
      pendingPostCompaction := false
      firstPostCompactionTurn := false
      compactionWindowId := none
      lastCompactionCheckpointId := none }
    runtimeMode := {
      activeAgentMode := some snapshot.collaborationMode
      previousAgentMode := none
      modeTransitionPendingGuidance := false
      invokedSkills := [] }
    safety := {
      sandboxMode := .workspaceWrite
      approvalPolicy := approvalPolicyOfName snapshot.approvalPolicy
      permissionProfileSummary := snapshot.permissionProfile
      networkAccessEnabled := false
      requiresExplicitApprovalForNextStep := false }
    codexContinuation := some {
      sourceThreadId := snapshot.threadId
      sourceTurnId := snapshot.turnId
      sourceModel := snapshot.model
      sourceProvider := snapshot.modelProvider
      activeAgentMode := none
      safety := {
        sandboxMode := .workspaceWrite
        approvalPolicy := .unknown
        permissionProfileSummary := "derived from bootstrap snapshot"
        networkAccessEnabled := false
        requiresExplicitApprovalForNextStep := false }
      referenceContextPresent := snapshot.referenceContextPresent }
    contextPressure := {
      modelContextWindow := snapshot.modelContextWindow
      activeContextTokens := none
      autoCompactScopeTokens := none
      autoCompactLimit := snapshot.autoCompactTokenLimit
      tokensUntilCompaction := none
      recentCompactionCount := 0
      lastCompactionHadStateChange := true }
    mediaContext := []
    capabilityRegistry := default
    escalationPolicy := adapterPolicy }
  request.withModalitiesHint mentionsImage

/-! ## Live snapshot -/

/-- `u32::try_from` of a signed value, if it fits. -/
def narrowSigned (n : Int64) : Option UInt32 :=
  if 0 ≤ n.toInt ∧ n.toInt < UInt32.size then some (.ofNat n.toInt.toNat) else none

/-- `u32::try_from` of an unsigned value, or the largest `u32`. -/
def narrowSaturating (n : UInt64) : UInt32 :=
  if n.toNat < UInt32.size then .ofNat n.toNat else .ofNat (UInt32.size - 1)

/-- A signed value is narrowed to the `u32` of the same value. -/
theorem narrowSigned_eq_some_iff (n : Int64) (m : UInt32) :
    narrowSigned n = some m ↔ n.toInt = m.toNat := by
  have hm := m.toNat_lt_size
  unfold narrowSigned
  split_ifs with h
  · have hlt : n.toInt.toNat < UInt32.size := by omega
    rw [Option.some_inj, ← UInt32.toNat_inj, UInt32.toNat_ofNat_of_lt' hlt]
    omega
  · constructor
    · exact nofun
    · intro heq
      exact absurd ⟨by omega, by omega⟩ h

/-- An unsigned value is cut off at the largest `u32`. -/
theorem toNat_narrowSaturating (n : UInt64) :
    (narrowSaturating n).toNat = min n.toNat (UInt32.size - 1) := by
  unfold narrowSaturating
  split_ifs with h
  · rw [UInt32.toNat_ofNat_of_lt' h]
    omega
  · rw [UInt32.toNat_ofNat_of_lt' (by decide)]
    omega

/-- The reason a live snapshot gives. -/
def liveContinueReason (snapshot : CodexLiveContinuationSnapshot) : ContinueReason :=
  if snapshot.triggerTurnMailboxPresent then .triggerTurnWakeup
  else if snapshot.pendingInputPresent then .pendingInput
  else .manualUserRequest

/-- The derived `Debug` text of a reason. -/
def ContinueReason.debug : ContinueReason → String
  | modelFollowUp => "ModelFollowUp"
  | toolResult => "ToolResult"
  | pendingInput => "PendingInput"
  | triggerTurnWakeup => "TriggerTurnWakeup"
  | manualUserRequest => "ManualUserRequest"
  | compactionRecovery => "CompactionRecovery"

/-- The live snapshot as a harness request. -/
def codexLiveSnapshotToHarnessRequest (snapshot : CodexLiveContinuationSnapshot) :
    ReasoningHarnessRequest where
  objective := "decide whether the live continuation state should keep running"
  constraints := ["do not spin", "prefer bounded continuation decisions"]
  evidenceScope := [
    "thread_id: " ++ snapshot.threadId,
    "active_turn_present: " ++ toString snapshot.activeTurnPresent,
    "pending_input_present: " ++ toString snapshot.pendingInputPresent,
    "trigger_turn_mailbox_present: " ++ toString snapshot.triggerTurnMailboxPresent,
    "continue_reason: " ++ (liveContinueReason snapshot).debug]
  allowedCapabilityClasses := ["tool", "skill"]
  prohibitedBehaviors := [.noFakeProgress, .noRepeatedNoProgressContinuation]
  progress := {
    completedSteps := 0
    totalStepsHint := none
    lastMeaningfulProgressAtMs := none
    noProgressIterationCount := if snapshot.pendingInputPresent then 1 else 0 }
  recovery := {
    lastRecoveryReason := none
    recoveryAttemptCount := 0
    lastRecoveryHadProgress := true }
  lastCheckpoint := none
  selfCorrection := {
    active := false
    correctionAttemptCount := 0
    lastCorrectionTarget := none
    lastCorrectionHadProgress := false }
  postCompaction := {
    pendingPostCompaction := false
    firstPostCompactionTurn := false
    compactionWindowId := some ("window-" ++ toString snapshot.autoCompactWindowNumber)
    lastCompactionCheckpointId := none }
  runtimeMode := default
  safety := {
    sandboxMode := .unknown
    approvalPolicy := .unknown
    permissionProfileSummary := "live snapshot did not include safety state"
    networkAccessEnabled := false
    requiresExplicitApprovalForNextStep := false }
  codexContinuation := none
  contextPressure := {
    modelContextWindow := none
    activeContextTokens := snapshot.totalInputTokens.bind narrowSigned
    autoCompactScopeTokens := none
    autoCompactLimit := none
    tokensUntilCompaction := none
    recentCompactionCount := narrowSaturating snapshot.autoCompactWindowNumber
    lastCompactionHadStateChange := true }
  mediaContext := []
  capabilityRegistry := default
  escalationPolicy := adapterPolicy

end Muldex
