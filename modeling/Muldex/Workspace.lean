import Mathlib.Data.List.DropRight
import Muldex.Policy
import Muldex.ReasoningHarness

/-!
# The sample and workspace commands

`decide-sample` and `decide-workspace` ask the harness about requests they make
themselves. The first has a fixed request for each scenario, the second starts from the
healthy one and writes the operator's flags into it. The file system is a parameter.

The post-compaction flag goes into a field the harness does not read. The stall it
simulates is handed off by the no-progress limit alone, one iteration later than the
local orchestrator stops it (`handoff_postCompaction_iff`).

What the commands print is in `Muldex.Commands`.
-/

namespace Muldex

/-! ## Sample requests -/

/-- The scenarios of `decide-sample`. -/
inductive Scenario where
  | healthy
  | noProgress
  | recoverableFailure
  | postCompactionStall
  | mediaHeavy
  deriving DecidableEq

/-- A video under a local path. -/
def crateMediaAsset (assetId path : String) : MediaAssetRef where
  assetId := assetId
  kind := .video
  source := .localPath path
  displayName := some assetId

/-- The request of the healthy scenario. -/
def healthyRequest : ReasoningHarnessRequest where
  objective := "continue a long-running coding task"
  constraints := ["do not spin", "checkpoint before handoff"]
  evidenceScope := ["current repository"]
  allowedCapabilityClasses := ["tool", "skill"]
  prohibitedBehaviors := [.noFakeProgress, .noRepeatedNoProgressContinuation,
    .noDuplicateInjection]
  progress := {
    completedSteps := 3
    totalStepsHint := some 8
    lastMeaningfulProgressAtMs := some 1700000000000
    noProgressIterationCount := 1 }
  recovery := {
    lastRecoveryReason := some .partialResult
    recoveryAttemptCount := 1
    lastRecoveryHadProgress := true }
  lastCheckpoint := some {
    checkpointId := "cp-1"
    threadId := "thread-1"
    turnId := "turn-5"
    createdAtMs := 1700000000000
    summary := "checkpoint after media analysis" }
  selfCorrection := {
    active := false
    correctionAttemptCount := 0
    lastCorrectionTarget := none
    lastCorrectionHadProgress := false }
  postCompaction := {
    pendingPostCompaction := false
    firstPostCompactionTurn := false
    compactionWindowId := some "window-1"
    lastCompactionCheckpointId := some "cp-1" }
  runtimeMode := {
    activeAgentMode := some "build"
    previousAgentMode := some "plan"
    modeTransitionPendingGuidance := false
    invokedSkills := [{
      skillId := "context-budget-gate"
      invocationRef := some "skill://gate/1"
      invokedAtMs := some 1700000000123 }] }
  safety := samplePermissionContext
  codexContinuation := some {
    sourceThreadId := "thread-1"
    sourceTurnId := "turn-5"
    sourceModel := "gpt-5.4"
    sourceProvider := "llm-router"
    activeAgentMode := some "build"
    safety := samplePermissionContext
    referenceContextPresent := true }
  contextPressure := {
    modelContextWindow := some 256000
    activeContextTokens := some 140000
    autoCompactScopeTokens := some 24000
    autoCompactLimit := some 192000
    tokensUntilCompaction := some 52000
    recentCompactionCount := 1
    lastCompactionHadStateChange := true }
  mediaContext := []
  capabilityRegistry := default
  escalationPolicy := {
    noProgressLimit := 3
    repeatedCompactionLimit := 2
    selfCorrectionLimit := 2
    requestCheckpointBeforeHandoff := true }

namespace ReasoningHarnessRequest

variable (request : ReasoningHarnessRequest)

/-- After so many iterations without progress. -/
def withNoProgress (iterations : UInt32) : ReasoningHarnessRequest :=
  { request with
    progress := { request.progress with noProgressIterationCount := iterations } }

/-- In the first turn after a compaction. -/
def withPostCompaction : ReasoningHarnessRequest :=
  { request with
    postCompaction := {
      request.postCompaction with
      pendingPostCompaction := true
      firstPostCompactionTurn := true } }

/-- After a recovery that made no progress. -/
def withFailedRecovery : ReasoningHarnessRequest :=
  { request with recovery := { request.recovery with lastRecoveryHadProgress := false } }

/-- In the first correction of a tool failure, with what it retries. -/
def withToolFailure (target : String) : ReasoningHarnessRequest :=
  { request with
    recovery := {
      request.recovery with
      lastRecoveryReason := some .toolFailure
      lastRecoveryHadProgress := false }
    selfCorrection := {
      request.selfCorrection with
      active := true
      correctionAttemptCount := 1
      lastCorrectionTarget := some target } }

end ReasoningHarnessRequest

/-- The request of a scenario. -/
def sampleRequest : Scenario → ReasoningHarnessRequest
  | .healthy => healthyRequest
  | .noProgress => (healthyRequest.withNoProgress 3).withFailedRecovery
  | .recoverableFailure => healthyRequest.withToolFailure "retry failed tool step"
  | .postCompactionStall =>
    (healthyRequest.withPostCompaction.withNoProgress 2).withFailedRecovery
  | .mediaHeavy =>
    { healthyRequest with
      objective := "analyze multimodal evidence and continue safely"
      mediaContext := healthyRequest.mediaContext ++ [{
        asset := crateMediaAsset "video-1" "clips/demo.mp4"
        derivedArtifacts := []
        hyperframes := []
        operatorSummary := "video and transcript are available"
        modelSummary := "use hyperframe-aligned evidence"
        tokenBudgetHint := some 4096 }] }

/-! ## Workspace requests -/

/-- The file system as the command asks about it. -/
structure FileSystem (Path IoError : Type) where
  pathExists : Path → Bool
  isDir : Path → Bool
  join : Path → String → Path
  display : Path → String
  readToString : Path → Except IoError String

/-- Why no request was made. -/
inductive WorkspaceError (IoError : Type) where
  | message (text : String)
  | io (error : IoError)

/-- The characters `trim` removes : those with the Unicode property `White_Space`. -/
def isWhitespace (c : Char) : Bool :=
  (0x9 ≤ c.toNat && c.toNat ≤ 0xD) || c.toNat = 0x20 || c.toNat = 0x85 || c.toNat = 0xA0 ||
    c.toNat = 0x1680 || (0x2000 ≤ c.toNat && c.toNat ≤ 0x200A) || c.toNat = 0x2028 ||
    c.toNat = 0x2029 || c.toNat = 0x202F || c.toNat = 0x205F || c.toNat = 0x3000

/-- `trim` : without white space at either end. -/
def trim (text : String) : String :=
  .ofList ((text.toList.dropWhile isWhitespace).rdropWhile isWhitespace)

variable {Path IoError : Type}

/-- The objective, given as text or as a file but not as both. -/
def readObjective (fs : FileSystem Path IoError) :
    Option String → Option Path → Except (WorkspaceError IoError) String
  | some text, none => .ok text
  | none, some path => (fs.readToString path).mapError .io
  | some _, some _ =>
    .error (.message "provide either --objective or --objective-file, not both")
  | none, none => .error (.message "provide --objective or --objective-file")

/-- The request of a workspace that was found, with an objective that was read. -/
def workspaceRequest (fs : FileSystem Path IoError) (workspace : Path) (objective mode : String)
    (noProgressIterations : UInt32) (postCompaction recoverableFailure : Bool) :
    ReasoningHarnessRequest :=
  let gitHint :=
    if fs.pathExists (fs.join workspace ".git") then "git repository" else "non-git workspace"
  let request := {
    (sampleRequest .healthy).withNoProgress noProgressIterations with
    objective := trim objective
    evidenceScope := ["workspace: " ++ fs.display workspace, "workspace_kind: " ++ gitHint]
    runtimeMode := { (sampleRequest .healthy).runtimeMode with activeAgentMode := some mode } }
  let request := if postCompaction then request.withPostCompaction else request
  if recoverableFailure then request.withToolFailure "retry failed step in real workspace"
  else request

/-- The request of `decide-workspace`, or why there is none. -/
def buildWorkspaceRequest (fs : FileSystem Path IoError) (workspace : Path)
    (objective : Option String) (objectiveFile : Option Path) (mode : String)
    (noProgressIterations : UInt32) (postCompaction recoverableFailure : Bool) :
    Except (WorkspaceError IoError) ReasoningHarnessRequest :=
  if !fs.pathExists workspace || !fs.isDir workspace then
    .error (.message
      ("workspace does not exist or is not a directory: " ++ fs.display workspace))
  else do
    let objective ← readObjective fs objective objectiveFile
    return workspaceRequest fs workspace objective mode noProgressIterations postCompaction
      recoverableFailure

/-! ## The post-compaction stall -/

variable {fs : FileSystem Path IoError} {workspace : Path} {objective : Option String}
  {objectiveFile : Option Path} {mode : String} {noProgressIterations : UInt32}
  {postCompaction recoverableFailure : Bool} {request : ReasoningHarnessRequest}

/-- An accepted request is the one of the workspace and the objective read. -/
theorem exists_of_buildWorkspaceRequest
    (h : buildWorkspaceRequest fs workspace objective objectiveFile mode noProgressIterations
      postCompaction recoverableFailure = .ok request) :
    ∃ text, readObjective fs objective objectiveFile = .ok text ∧
      request = workspaceRequest fs workspace text mode noProgressIterations postCompaction
        recoverableFailure := by
  unfold buildWorkspaceRequest at h
  split_ifs at h with hdir
  cases hread : readObjective fs objective objectiveFile with
  | error failure => rw [hread] at h; cases h
  | ok text =>
    rw [hread] at h
    exact ⟨text, rfl, (Except.ok.inj h).symm⟩

/-- A workspace request is handed off at the no-progress limit alone : it has at most one
correction and one compaction, and the limits are two. -/
theorem handoff_workspaceRequest_iff (fs : FileSystem Path IoError) (workspace : Path)
    (text mode : String) (noProgressIterations : UInt32)
    (postCompaction recoverableFailure : Bool) :
    (decideReasoningHarness (workspaceRequest fs workspace text mode noProgressIterations
      postCompaction recoverableFailure)).mode = .handoff ↔ 3 ≤ noProgressIterations := by
  have hattempts : ¬(2 : UInt32) ≤ 0 ∧ ¬(2 : UInt32) ≤ 1 := by decide
  rw [ReasoningHarness.handoff_iff]
  cases postCompaction <;> cases recoverableFailure <;>
    simp [workspaceRequest, sampleRequest, healthyRequest, hattempts,
      ReasoningHarnessRequest.withNoProgress, ReasoningHarnessRequest.withPostCompaction,
      ReasoningHarnessRequest.withToolFailure]

/-- Between two iterations and three there is no other count. -/
theorem three_le_iff_of_two_le {n : UInt32} (h : 2 ≤ n) : 3 ≤ n ↔ n ≠ 2 := by
  rw [ne_eq, ← UInt32.toNat_inj]
  rw [UInt32.le_iff_toNat_le] at h ⊢
  simp only [UInt32.reduceToNat] at h ⊢
  omega

/-- With the post-compaction flag, an accepted workspace request is handed off from two
iterations without progress on exactly when there are not two of them, and the
orchestrator answers every request in that state with a handoff. -/
theorem handoff_postCompaction_iff
    (h : buildWorkspaceRequest fs workspace objective objectiveFile mode noProgressIterations true
      recoverableFailure = .ok request) :
    ((2 ≤ noProgressIterations → (decideReasoningHarness request).mode = .handoff) ↔
      noProgressIterations ≠ 2) ∧
    ∀ c : ContinueRequest, c.postCompaction.pendingPostCompaction = true →
      2 ≤ c.progress.noProgressIterationCount →
      ∃ decision, DeterministicOrchestrator.decideContinue c = .ok decision ∧
        decision.mode = .handoff := by
  constructor
  · obtain ⟨text, -, rfl⟩ := exists_of_buildWorkspaceRequest h
    rw [handoff_workspaceRequest_iff]
    constructor
    · rintro hlimit rfl
      exact absurd (hlimit (by decide)) (by decide)
    · exact fun hne htwo => (three_le_iff_of_two_le htwo).mpr hne
  · intro c hpending hcount
    obtain ⟨decision, hd, hrefused⟩ := (DeterministicOrchestrator.refuses_iff c).mpr
      (Or.inr (Or.inr ⟨hpending, hcount⟩))
    exact ⟨decision, hd, DeterministicOrchestrator.mode_of_refused hd hrefused⟩

/-- A file system where every path is a directory and no file can be read. -/
def directoriesOnly : FileSystem String Unit where
  pathExists _ := true
  isDir _ := true
  join path name := path ++ "/" ++ name
  display path := path
  readToString _ := .error ()

/-- The request of the flags for a simulated post-compaction stall, after so many
iterations without progress. -/
def postCompactionRequest (noProgressIterations : UInt32) : ReasoningHarnessRequest :=
  workspaceRequest directoriesOnly "workspaces/muldex" "Continue the task" "build"
    noProgressIterations true false

theorem buildWorkspaceRequest_postCompaction (noProgressIterations : UInt32) :
    buildWorkspaceRequest directoriesOnly "workspaces/muldex" (some "Continue the task") none
      "build" noProgressIterations true false = .ok (postCompactionRequest noProgressIterations) :=
  rfl

/-- Three iterations are handed off. -/
theorem handoff_postCompaction_three :
    (decideReasoningHarness (postCompactionRequest 3)).mode = .handoff :=
  (handoff_postCompaction_iff (buildWorkspaceRequest_postCompaction 3)).1.mpr (by decide)
    (by decide)

/-- Two iterations are not. -/
theorem not_forall_handoff_postCompaction :
    ¬∀ (Path IoError : Type) (fs : FileSystem Path IoError) workspace objective objectiveFile mode
      noProgressIterations recoverableFailure request,
      buildWorkspaceRequest fs workspace objective objectiveFile mode noProgressIterations true
        recoverableFailure = .ok request → 2 ≤ noProgressIterations →
      (decideReasoningHarness request).mode = .handoff := by
  intro h
  have hmode := h _ _ _ _ _ _ _ _ _ _ (buildWorkspaceRequest_postCompaction 2) (by decide)
  rw [postCompactionRequest, handoff_workspaceRequest_iff] at hmode
  exact absurd hmode (by decide)

end Muldex
