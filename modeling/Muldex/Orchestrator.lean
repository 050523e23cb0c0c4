import Muldex.Protocol

/-!
# Orchestration traits

`AgentOrchestrator` and `ModelRouter` are the traits of `orchestrator.rs`, with their
fallible methods as functions into `Except OrchestratorError`. A method awaits nothing
but its own result, so a call is one application.
-/

namespace Muldex

/-- Why an orchestration call failed. -/
inductive OrchestratorError where
  | plannerUnavailable (reason : String)
  | other (reason : String)

/-- Decides continuations and plans next actions. -/
structure AgentOrchestrator where
  decideContinue : ContinueRequest → Except OrchestratorError ContinueDecision
  planNextAction : PlannerRequest → Except OrchestratorError PlannerResponse

/-- Advertises models and selects one. -/
structure ModelRouter where
  listCapabilities : Except OrchestratorError (List ModelCapabilityDescriptor)
  selectModel : ModelSelectionRequest → Except OrchestratorError ModelSelectionDecision

/-! ## Sample request -/

/-- The permissions of the samples : those of the tests and of the commands. -/
def samplePermissionContext : PermissionContextSnapshot where
  sandboxMode := .workspaceWrite
  approvalPolicy := .onRequest
  permissionProfileSummary := "managed"
  networkAccessEnabled := false
  requiresExplicitApprovalForNextStep := false

/-- The continue request of the source's tests : one step done, no recovery yet. -/
def sampleContinueRequest : ContinueRequest where
  threadId := "thread-1"
  turnId := "turn-1"
  objective := "continue task"
  constraints := ["do not spin"]
  continueReason := .pendingInput
  recentStateChanges := [.newConfirmedFinding]
  workingHypothesis := some "retry with better context"
  lastAgentMessage := none
  pendingInputCount := 1
  triggerTurnPending := false
  toolCallCountThisTurn := 0
  contextPressure := default
  duplicateInjectionDetected := false
  repeatedFollowUpCount := 0
  progress := ⟨1, some 3, none, 0⟩
  recovery := ⟨none, 0, true⟩
  lastCheckpoint := none
  selfCorrection := ⟨false, 0, none, false⟩
  postCompaction := default
  runtimeMode := default
  safety := samplePermissionContext
  codexContinuation := none

end Muldex
