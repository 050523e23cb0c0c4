import Muldex.Orchestrator

/-!
# The Agently sidecar

`AgentlyOrchestrator` answers both operations of an orchestrator by one call to a
transport. It names the operation, fills the request slot of that operation, and reads
the reply the same way for both (`call`) : a transport failure is passed on, a reported
error wins over any value, and otherwise the slot of the operation is the answer.

`call_eq_ok_iff` says when an answer is returned at all. A sidecar that runs an
orchestrator of its own behind the transport (`dispatchTransport`) is then
indistinguishable from that orchestrator, as far as answers go. What the transport
replies is not checked, so the sidecar keeps within an authority exactly where its
transport does (`withinAuthority_iff`). Which decisions that leaves with the local
orchestrator behind it is in `Muldex.Coherence`.

A transport is a function of the request. One call of an operation is one invocation,
so a transport with state is a different function at each call.
-/

namespace Muldex

/-- A request to the sidecar. -/
structure AgentlySidecarRequest where
  operation : String
  continueRequest : Option ContinueRequest
  plannerRequest : Option PlannerRequest

/-- A reply of the sidecar. -/
structure AgentlySidecarResponse where
  continueDecision : Option ContinueDecision
  plannerResponse : Option PlannerResponse
  error : Option String

/-- How the sidecar is reached. -/
structure AgentlyTransport where
  invoke : AgentlySidecarRequest → Except OrchestratorError AgentlySidecarResponse

namespace AgentlyOrchestrator

/-- Invoke the transport and read one slot of the reply. -/
def call {α : Type} (transport : AgentlyTransport) (request : AgentlySidecarRequest)
    (slot : AgentlySidecarResponse → Option α) (missing : String) : Except OrchestratorError α :=
  match transport.invoke request with
  | .error failure => .error failure
  | .ok response =>
    match response.error with
    | some error => .error (.other error)
    | none =>
      match slot response with
      | some value => .ok value
      | none => .error (.other missing)

/-- The request of a continue decision. -/
def continueCall (request : ContinueRequest) : AgentlySidecarRequest where
  operation := "decide_continue"
  continueRequest := some request
  plannerRequest := none

/-- The request of a planner response. -/
def plannerCall (request : PlannerRequest) : AgentlySidecarRequest where
  operation := "plan_next_action"
  continueRequest := none
  plannerRequest := some request

/-- Decide a continuation through the transport. -/
def decideContinue (transport : AgentlyTransport) (request : ContinueRequest) :
    Except OrchestratorError ContinueDecision :=
  call transport (continueCall request) (·.continueDecision)
    "agently transport did not return a continue decision"

/-- Plan the next action through the transport. -/
def planNextAction (transport : AgentlyTransport) (request : PlannerRequest) :
    Except OrchestratorError PlannerResponse :=
  call transport (plannerCall request) (·.plannerResponse)
    "agently transport did not return a planner response"

/-- `AgentlyOrchestrator` as an orchestrator. -/
def new (transport : AgentlyTransport) : AgentOrchestrator where
  decideContinue := decideContinue transport
  planNextAction := planNextAction transport

/-! ## What a call returns -/

variable {α : Type} {transport : AgentlyTransport} {request : AgentlySidecarRequest}
  {slot : AgentlySidecarResponse → Option α} {missing : String}

/-- An answer is the slot of a successful reply that reports no error. -/
theorem call_eq_ok_iff {value : α} :
    call transport request slot missing = .ok value ↔
      ∃ response, transport.invoke request = .ok response ∧ response.error = none ∧
        slot response = some value := by
  unfold call
  cases hinvoke : transport.invoke request with
  | error failure => simp
  | ok response =>
    cases herror : response.error with
    | some error => simp [herror]
    | none => cases hslot : slot response <;> simp [herror, hslot]

/-- A failure of the transport is the failure of the call. -/
theorem call_of_invoke_error {failure : OrchestratorError}
    (h : transport.invoke request = .error failure) :
    call transport request slot missing = .error failure := by
  rw [call, h]

/-! ## A sidecar that runs an orchestrator -/

/-- The reply that carries a result in one slot, or its failure as an error text. -/
def replyWith (render : OrchestratorError → String) (fill : α → AgentlySidecarResponse) :
    Except OrchestratorError α → AgentlySidecarResponse
  | .ok value => fill value
  | .error failure => ⟨none, none, some (render failure)⟩

/-- The transport that dispatches on the operation name and runs `inner` on the request
slot of the operation. `other` answers what it cannot run. -/
def dispatchTransport (inner : AgentOrchestrator) (render : OrchestratorError → String)
    (other : AgentlySidecarRequest → Except OrchestratorError AgentlySidecarResponse) :
    AgentlyTransport where
  invoke request :=
    if request.operation = "decide_continue" then
      match request.continueRequest with
      | some r => .ok (replyWith render (⟨some ·, none, none⟩) (inner.decideContinue r))
      | none => other request
    else if request.operation = "plan_next_action" then
      match request.plannerRequest with
      | some r => .ok (replyWith render (⟨none, some ·, none⟩) (inner.planNextAction r))
      | none => other request
    else other request

variable (inner : AgentOrchestrator) (render : OrchestratorError → String)
  (other : AgentlySidecarRequest → Except OrchestratorError AgentlySidecarResponse)

theorem dispatchTransport_continueCall (r : ContinueRequest) :
    (dispatchTransport inner render other).invoke (continueCall r) =
      .ok (replyWith render (⟨some ·, none, none⟩) (inner.decideContinue r)) := by
  simp [dispatchTransport, continueCall]

theorem dispatchTransport_plannerCall (r : PlannerRequest) :
    (dispatchTransport inner render other).invoke (plannerCall r) =
      .ok (replyWith render (⟨none, some ·, none⟩) (inner.planNextAction r)) := by
  simp [dispatchTransport, plannerCall]

/-- The sidecar answers a continue request as its orchestrator does. -/
theorem decideContinue_dispatchTransport (r : ContinueRequest) (d : ContinueDecision) :
    decideContinue (dispatchTransport inner render other) r = .ok d ↔
      inner.decideContinue r = .ok d := by
  rw [decideContinue, call_eq_ok_iff, dispatchTransport_continueCall]
  cases inner.decideContinue r <;> simp [replyWith]

/-- The sidecar answers a planner request as its orchestrator does. -/
theorem planNextAction_dispatchTransport (r : PlannerRequest) (p : PlannerResponse) :
    planNextAction (dispatchTransport inner render other) r = .ok p ↔
      inner.planNextAction r = .ok p := by
  rw [planNextAction, call_eq_ok_iff, dispatchTransport_plannerCall]
  cases inner.planNextAction r <;> simp [replyWith]

/-- The sidecar orchestrator is a transparent and strict proxy. Over the dispatching
transport it answers exactly what the orchestrator behind it answers. Over any transport
an answer is the slot of the operation asked for, in a successful reply that reports no
error, and a failure of the transport is passed on as it is. -/
theorem transparent_and_strict :
    (∀ inner render other,
      (∀ r d, (new (dispatchTransport inner render other)).decideContinue r = .ok d ↔
        inner.decideContinue r = .ok d) ∧
      ∀ r p, (new (dispatchTransport inner render other)).planNextAction r = .ok p ↔
        inner.planNextAction r = .ok p) ∧
    ∀ transport,
      (∀ r d, (new transport).decideContinue r = .ok d ↔
        ∃ response, transport.invoke (continueCall r) = .ok response ∧ response.error = none ∧
          response.continueDecision = some d) ∧
      (∀ r p, (new transport).planNextAction r = .ok p ↔
        ∃ response, transport.invoke (plannerCall r) = .ok response ∧ response.error = none ∧
          response.plannerResponse = some p) ∧
      (∀ r failure, transport.invoke (continueCall r) = .error failure →
        (new transport).decideContinue r = .error failure) ∧
      ∀ r failure, transport.invoke (plannerCall r) = .error failure →
        (new transport).planNextAction r = .error failure := by
  refine ⟨fun inner render other => ⟨?_, ?_⟩, fun transport => ⟨?_, ?_, ?_, ?_⟩⟩
  · exact decideContinue_dispatchTransport inner render other
  · exact planNextAction_dispatchTransport inner render other
  · exact fun r d => call_eq_ok_iff
  · exact fun r p => call_eq_ok_iff
  · exact fun r failure h => call_of_invoke_error h
  · exact fun r failure h => call_of_invoke_error h

/-- A transport that is down, asked for a continue decision. -/
theorem transparent_and_strict_down :
    (new ⟨fun _ => .error (.other "down")⟩).decideContinue sampleContinueRequest =
      .error (.other "down") :=
  (transparent_and_strict.2 _).2.2.1 sampleContinueRequest _ rfl

/-! ## Authority -/

/-- The decision stays within the authority of the request : its mode agrees with its
verdict, and it enters no self-correction that needs approval. -/
structure WithinAuthority (request : ContinueRequest) (decision : ContinueDecision) : Prop where
  refused : decision.allowContinue = false → decision.mode ≠ .sameTurn ∧ decision.mode ≠ .nextTurn
  allowed : decision.allowContinue = true → decision.mode ≠ .handoff ∧ decision.mode ≠ .stop
  approval : request.safety.requiresExplicitApprovalForNextStep = true →
    decision.enterSelfCorrection = false

/-- The sidecar adds no authority to its transport's, and checks none. Every decision it
returns is within the authority of the request exactly when every decision the transport
replies with is, and over the dispatching transport exactly when every decision of the
orchestrator behind it is. -/
theorem withinAuthority_iff :
    (∀ transport r, (∀ d, (new transport).decideContinue r = .ok d → WithinAuthority r d) ↔
      ∀ response d, transport.invoke (continueCall r) = .ok response → response.error = none →
        response.continueDecision = some d → WithinAuthority r d) ∧
    ∀ inner render other r,
      (∀ d, (new (dispatchTransport inner render other)).decideContinue r = .ok d →
        WithinAuthority r d) ↔
      ∀ d, inner.decideContinue r = .ok d → WithinAuthority r d := by
  constructor
  · intro transport r
    constructor
    · intro h response d hinvoke herror hslot
      exact h d (call_eq_ok_iff.mpr ⟨response, hinvoke, herror, hslot⟩)
    · intro h d hd
      obtain ⟨response, hinvoke, herror, hslot⟩ := call_eq_ok_iff.mp hd
      exact h response d hinvoke herror hslot
  · intro inner render other r
    exact forall_congr' fun d =>
      imp_congr_left (decideContinue_dispatchTransport inner render other r d)

/-- A decision that gives a verdict and a mode, and enters self-correction. -/
def overreachingDecision (allowContinue : Bool) (mode : ContinueMode) : ContinueDecision where
  allowContinue := allowContinue
  mode := mode
  rationale := "keep going"
  nextAction := none
  suppressDuplicateInjection := false
  downgradeTriggerTurn := false
  requestCompaction := false
  requestHandoffSummary := false
  requestCheckpoint := false
  enterSelfCorrection := true

/-- The sample request, whose next step needs explicit approval. -/
def gatedRequest : ContinueRequest :=
  { sampleContinueRequest with
    safety := { samplePermissionContext with requiresExplicitApprovalForNextStep := true } }

/-- Whatever the transport decides is returned. -/
theorem decideContinue_reply (decision : ContinueDecision) (request : ContinueRequest) :
    (new ⟨fun _ => .ok ⟨some decision, none, none⟩⟩).decideContinue request = .ok decision :=
  rfl

/-- A refusal that goes on in the same turn is returned, and so are an approval that stops
and a self-correction that needs approval. -/
theorem not_forall_withinAuthority :
    (¬∀ transport r d, (new transport).decideContinue r = .ok d → WithinAuthority r d) ∧
    (¬∀ transport r d, (new transport).decideContinue r = .ok d → d.allowContinue = false →
      d.mode ≠ .sameTurn ∧ d.mode ≠ .nextTurn) ∧
    (¬∀ transport r d, (new transport).decideContinue r = .ok d → d.allowContinue = true →
      d.mode ≠ .handoff ∧ d.mode ≠ .stop) ∧
    ¬∀ transport r d, (new transport).decideContinue r = .ok d →
      r.safety.requiresExplicitApprovalForNextStep = true → d.enterSelfCorrection = false := by
  refine ⟨fun h => ?_, fun h => ?_, fun h => ?_, fun h => ?_⟩
  · have hauthority := h _ _ _ (decideContinue_reply (overreachingDecision false .sameTurn)
      gatedRequest)
    exact (hauthority.refused rfl).1 rfl
  · exact (h _ _ _ (decideContinue_reply (overreachingDecision false .sameTurn) gatedRequest)
      rfl).1 rfl
  · exact (h _ _ _ (decideContinue_reply (overreachingDecision true .stop) gatedRequest)
      rfl).2 rfl
  · have hentered := h _ _ _ (decideContinue_reply (overreachingDecision true .nextTurn)
      gatedRequest) rfl
    exact absurd hentered (by decide)

end AgentlyOrchestrator

end Muldex
