import Mathlib.Logic.Function.Iterate
import Muldex.WireFormat

/-!
# Sidecar replies on the wire

A reply of the sidecar can carry a planner response, and a planner response a confidence,
the one floating-point number of the wire format. A number that is not finite has no text
and is written as `null`, which is not read as a number. So the round trip of a reply is
not free, and holds exactly if the confidence survives its own (`decodeReply_encodeReply_iff`).

A transport can exchange documents with a sidecar (`documentTransport`). Continue decisions
pass through it unchanged, and planner responses up to their confidence
(`documentTransport_transparent`). A sidecar can itself sit behind a sidecar : answers come
through unchanged from any depth, and failures stay apart (`tower_faithful`).

How numbers are written and read is a parameter.
-/

namespace Serde

/-- A tree as it is. -/
instance : Wire Json where
  encode := id
  decode := some
  absent := none
  decode_encode _ := rfl

/-- A tree as it is, where a missing key stands for `null`. -/
structure OptionalTree where
  tree : Json

instance : Wire OptionalTree where
  encode := OptionalTree.tree
  decode j := some ⟨j⟩
  absent := some ⟨.null⟩
  decode_encode _ := rfl

end Serde

namespace Muldex

open Serde

/-- How single-precision numbers are written and read. A number without a text is not
finite. -/
structure FloatFormat where
  print : Float32 → Option String
  parse : String → Option Float32
  ofInt : ℤ → Option Float32

namespace FloatFormat

variable (fmt : FloatFormat)

/-- A number as a tree : its text, or `null`. -/
def encode (x : Float32) : Json :=
  match fmt.print x with
  | some text => .float text
  | none => .null

/-- A number from a tree. `null` is not a number. -/
def decode : Json → Option Float32
  | .float text => fmt.parse text
  | .int n => fmt.ofInt n
  | _ => none

/-- The number has a text that is read back as it. -/
def Survives (x : Float32) : Prop :=
  ∃ text, fmt.print x = some text ∧ fmt.parse text = some x

theorem survives_iff (x : Float32) : fmt.Survives x ↔ fmt.decode (fmt.encode x) = some x := by
  unfold Survives encode
  cases fmt.print x with
  | none => simp [decode]
  | some text => simp [decode]

end FloatFormat

/-! ## Planner responses -/

variable (fmt : FloatFormat)

/-- The fields of a planner response. The confidence is a tree that is yet to be read. -/
def plannerRecord : Record PlannerResponse (Option PlannerResponse) :=
  Record.of PlannerResponse (fun recommendedMode recommendedNextAction rationale confidence
      suggestedModel => (fmt.decode confidence).map fun confidence =>
        PlannerResponse.mk recommendedMode recommendedNextAction rationale confidence
          suggestedModel)
    |>.field "recommended_mode" (·.recommendedMode)
    |>.field "recommended_next_action" (·.recommendedNextAction)
    |>.field "rationale" (·.rationale)
    |>.field "confidence" (fun response => fmt.encode response.confidence)
    |>.field "suggested_model" (·.suggestedModel)

/-- A planner response as a document. -/
def encodePlannerResponse (response : PlannerResponse) : Json :=
  .obj ((plannerRecord fmt).members response)

/-- A planner response from a document. -/
def decodePlannerResponse (raw : Json) : Option PlannerResponse :=
  ((plannerRecord fmt).decode raw).join

/-- All of a planner response is read back but its confidence, which is read as it was
written. -/
theorem decode_encodePlannerResponse (response : PlannerResponse) :
    decodePlannerResponse fmt (encodePlannerResponse fmt response) =
      (fmt.decode (fmt.encode response.confidence)).map fun confidence =>
        { response with confidence := confidence } := by
  have hkeys : (plannerRecord fmt).keys.Nodup := by
    simp [plannerRecord, Record.keys, Record.field, Record.of]
  rw [decodePlannerResponse, encodePlannerResponse, Record.decode_obj,
    Record.decodeMembers_members _ hkeys]
  rfl

/-! ## Replies -/

/-- The planner slot of a reply as a tree. -/
def encodePlannerSlot : Option PlannerResponse → Json
  | none => .null
  | some response => encodePlannerResponse fmt response

/-- The planner slot of a reply from a tree. -/
def decodePlannerSlot : Json → Option (Option PlannerResponse)
  | .null => some none
  | raw => (decodePlannerResponse fmt raw).map some

/-- The fields of a reply. The planner slot is a tree that is yet to be read. -/
def replyRecord : Record AgentlySidecarResponse (Option AgentlySidecarResponse) :=
  Record.of AgentlySidecarResponse (fun continueDecision plannerResponse error =>
      (decodePlannerSlot fmt plannerResponse.tree).map fun plannerResponse =>
        AgentlySidecarResponse.mk continueDecision plannerResponse error)
    |>.field "continue_decision" (·.continueDecision)
    |>.field "planner_response" (fun reply =>
      OptionalTree.mk (encodePlannerSlot fmt reply.plannerResponse))
    |>.field "error" (·.error)

/-- A reply as a document. -/
def encodeReply (reply : AgentlySidecarResponse) : Json :=
  .obj ((replyRecord fmt).members reply)

/-- A reply from a document. -/
def decodeReply (raw : Json) : Option AgentlySidecarResponse :=
  ((replyRecord fmt).decode raw).join

theorem decodePlannerSlot_encodePlannerSlot_some (response : PlannerResponse) :
    decodePlannerSlot fmt (encodePlannerSlot fmt (some response)) =
      (fmt.decode (fmt.encode response.confidence)).map fun confidence =>
        some { response with confidence := confidence } := by
  have hslot : decodePlannerSlot fmt (encodePlannerSlot fmt (some response)) =
      (decodePlannerResponse fmt (encodePlannerResponse fmt response)).map some := rfl
  rw [hslot, decode_encodePlannerResponse, Option.map_map]
  rfl

/-- All of a reply is read back but its planner slot, which is read as it was written. -/
theorem decodeReply_encodeReply (reply : AgentlySidecarResponse) :
    decodeReply fmt (encodeReply fmt reply) =
      (decodePlannerSlot fmt (encodePlannerSlot fmt reply.plannerResponse)).map
        fun plannerResponse => { reply with plannerResponse := plannerResponse } := by
  have hkeys : (replyRecord fmt).keys.Nodup := by
    simp [replyRecord, Record.keys, Record.field, Record.of]
  rw [decodeReply, encodeReply, Record.decode_obj, Record.decodeMembers_members _ hkeys]
  rfl

/-- A reply is read back exactly if the confidence it carries, if any, survives. If the
confidence has no text, the reply is not read at all. -/
theorem decodeReply_encodeReply_iff (reply : AgentlySidecarResponse) :
    (decodeReply fmt (encodeReply fmt reply) = some reply ↔
      ∀ response ∈ reply.plannerResponse, fmt.Survives response.confidence) ∧
    ((∃ response ∈ reply.plannerResponse, fmt.print response.confidence = none) →
      decodeReply fmt (encodeReply fmt reply) = none) := by
  obtain ⟨decision, slot, error⟩ := reply
  rw [decodeReply_encodeReply]
  cases slot with
  | none => exact ⟨iff_of_true rfl nofun, nofun⟩
  | some response =>
    simp only [decodePlannerSlot_encodePlannerSlot_some, Option.mem_some, forall_eq',
      exists_eq_left', fmt.survives_iff, Option.map_map]
    constructor
    · cases hread : fmt.decode (fmt.encode response.confidence) with
      | none => simp
      | some confidence =>
        simp only [Option.map_some, Function.comp_apply, Option.some.injEq,
          AgentlySidecarResponse.mk.injEq, true_and, and_true]
        constructor
        · intro h
          exact congrArg PlannerResponse.confidence h
        · rintro rfl
          rfl
    · intro hnone
      have hread : fmt.decode (fmt.encode response.confidence) = none := by
        rw [FloatFormat.encode, hnone]
        rfl
      rw [hread]
      rfl

/-- A reply without a planner response is read back. -/
theorem decodeReply_of_planner_none {reply : AgentlySidecarResponse}
    (h : reply.plannerResponse = none) : decodeReply fmt (encodeReply fmt reply) = some reply := by
  rw [decodeReply_encodeReply, h]
  obtain ⟨decision, slot, error⟩ := reply
  obtain rfl : slot = none := h
  rfl

/-- One half as it is written, every other finite number by its bits, and no text for the
rest. -/
def sampleFormat : FloatFormat where
  print x :=
    if x = 1 / 2 then some "0.5"
    else if x.isFinite then some (toString x.toBits.toNat)
    else none
  parse text :=
    if text = "0.5" then some (1 / 2)
    else text.toNat?.map fun bits => .ofBits (.ofNat bits)
  ofInt n := some (.ofInt n)

/-- A reply with a planner response of the given confidence. -/
def confidentReply (confidence : Float32) : AgentlySidecarResponse :=
  ⟨none, some ⟨.nextTurn, none, "go on", confidence, none⟩, none⟩

theorem sampleFormat_survives_half : sampleFormat.Survives (1 / 2) :=
  ⟨"0.5", by decide, by decide⟩

theorem sampleFormat_print_nan : sampleFormat.print (0 / 0) = none := by
  decide

/-- A reply with confidence one half is read back, and one whose confidence is not a number is
lost. -/
theorem decodeReply_encodeReply_iff_half :
    decodeReply sampleFormat (encodeReply sampleFormat (confidentReply (1 / 2))) =
        some (confidentReply (1 / 2)) ∧
      decodeReply sampleFormat (encodeReply sampleFormat (confidentReply (0 / 0))) = none := by
  have hhalf := decodeReply_encodeReply_iff sampleFormat (confidentReply (1 / 2))
  have hnan := decodeReply_encodeReply_iff sampleFormat (confidentReply (0 / 0))
  refine ⟨hhalf.1.mpr ?_, hnan.2 ⟨_, rfl, sampleFormat_print_nan⟩⟩
  intro response hresponse
  obtain rfl := Option.some.inj hresponse
  exact sampleFormat_survives_half

/-! ## A sidecar behind documents -/

namespace AgentlyOrchestrator

/-- The transport that exchanges documents with a sidecar : the request is written and read,
the sidecar answers it, and the reply is written and read. -/
def documentTransport (sidecar : AgentlyTransport) (unreadable : OrchestratorError) :
    AgentlyTransport where
  invoke request :=
    match (Wire.decode (Wire.encode request) : Option AgentlySidecarRequest) with
    | none => .error unreadable
    | some request =>
      match sidecar.invoke request with
      | .error failure => .error failure
      | .ok reply =>
        match decodeReply fmt (encodeReply fmt reply) with
        | none => .error unreadable
        | some reply => .ok reply

variable (sidecar : AgentlyTransport) (unreadable : OrchestratorError)

/-- What the transport replies is what is read of the sidecar's reply. -/
theorem invoke_documentTransport_eq_ok_iff (request : AgentlySidecarRequest)
    (reply : AgentlySidecarResponse) :
    (documentTransport fmt sidecar unreadable).invoke request = .ok reply ↔
      ∃ sent, sidecar.invoke request = .ok sent ∧
        decodeReply fmt (encodeReply fmt sent) = some reply := by
  rw [documentTransport]
  simp only [Wire.decode_encode]
  cases sidecar.invoke request with
  | error failure => simp
  | ok sent => cases hread : decodeReply fmt (encodeReply fmt sent) <;> simp [hread]

variable (inner : AgentOrchestrator) (render : OrchestratorError → String)
  (other : AgentlySidecarRequest → Except OrchestratorError AgentlySidecarResponse)

theorem decideContinue_documentTransport (r : ContinueRequest) (d : ContinueDecision) :
    decideContinue (documentTransport fmt (dispatchTransport inner render other) unreadable) r =
      .ok d ↔ inner.decideContinue r = .ok d := by
  rw [decideContinue, call_eq_ok_iff]
  simp only [invoke_documentTransport_eq_ok_iff, dispatchTransport_continueCall, Except.ok.injEq,
    exists_eq_left']
  cases inner.decideContinue r with
  | error failure => simp [replyWith, decodeReply_of_planner_none]
  | ok decision => simp [replyWith, decodeReply_of_planner_none]

theorem planNextAction_documentTransport (r : PlannerRequest) (p : PlannerResponse) :
    planNextAction (documentTransport fmt (dispatchTransport inner render other) unreadable) r =
      .ok p ↔ ∃ q confidence, inner.planNextAction r = .ok q ∧
        fmt.decode (fmt.encode q.confidence) = some confidence ∧
        p = { q with confidence := confidence } := by
  rw [planNextAction, call_eq_ok_iff]
  simp only [invoke_documentTransport_eq_ok_iff, dispatchTransport_plannerCall, Except.ok.injEq,
    exists_eq_left']
  cases inner.planNextAction r with
  | error failure => simp [replyWith, decodeReply_of_planner_none]
  | ok q =>
    simp only [replyWith, decodeReply_encodeReply, decodePlannerSlot_encodePlannerSlot_some,
      Option.map_map, Except.ok.injEq]
    cases hread : fmt.decode (fmt.encode q.confidence) with
    | none => simp [hread]
    | some confidence =>
      constructor
      · intro h
        refine ⟨q, confidence, rfl, hread, ?_⟩
        simpa [eq_comm] using h
      · rintro ⟨_, _, rfl, hread', rfl⟩
        obtain rfl := Option.some.inj (hread.symm.trans hread')
        simp

/-- A sidecar that exchanges documents answers a continue request exactly as the
orchestrator it runs. A planner request it answers with the inner response, up to the
confidence, and with that response itself exactly if its confidence survives. -/
theorem documentTransport_transparent :
    (∀ r d, (new (documentTransport fmt (dispatchTransport inner render other)
        unreadable)).decideContinue r = .ok d ↔ inner.decideContinue r = .ok d) ∧
    (∀ r p, (new (documentTransport fmt (dispatchTransport inner render other)
        unreadable)).planNextAction r = .ok p → ∃ q, inner.planNextAction r = .ok q ∧
          p = { q with confidence := p.confidence }) ∧
    ∀ r q, inner.planNextAction r = .ok q →
      ((new (documentTransport fmt (dispatchTransport inner render other)
        unreadable)).planNextAction r = .ok q ↔ fmt.Survives q.confidence) := by
  simp only [new]
  refine ⟨fun r d => ?_, fun r p hp => ?_, fun r q hq => ?_⟩
  · exact decideContinue_documentTransport fmt unreadable inner render other r d
  · obtain ⟨q, confidence, hq, -, rfl⟩ :=
      (planNextAction_documentTransport fmt unreadable inner render other r p).mp hp
    exact ⟨q, hq, rfl⟩
  · rw [fmt.survives_iff]
    refine (planNextAction_documentTransport fmt unreadable inner render other r q).trans ⟨?_, ?_⟩
    · rintro ⟨q', confidence, hq', hread, heq⟩
      have hsame : q' = q := Except.ok.inj (hq'.symm.trans hq)
      have hconfidence : q.confidence = confidence := congrArg PlannerResponse.confidence heq
      rw [hsame, ← hconfidence] at hread
      exact hread
    · intro hread
      exact ⟨q, q.confidence, hq, hread, rfl⟩

/-- A planner request about the task of the sample request. -/
def samplePlannerRequest : PlannerRequest where
  objective := sampleContinueRequest.objective
  constraints := sampleContinueRequest.constraints
  confirmedFacts := []
  openQuestions := []
  continueReason := sampleContinueRequest.continueReason
  contextPressure := default
  mediaContext := []
  capabilityRegistry := default
  progress := sampleContinueRequest.progress
  recovery := sampleContinueRequest.recovery
  selfCorrection := sampleContinueRequest.selfCorrection
  postCompaction := default
  runtimeMode := default
  safety := samplePermissionContext
  codexContinuation := none

/-- An orchestrator that refuses to decide and plans with the given confidence. -/
def confidentOrchestrator (confidence : Float32) : AgentOrchestrator where
  decideContinue _ := .error (.other "off")
  planNextAction _ := .ok ⟨.nextTurn, none, "go on", confidence, none⟩

/-- Of a planner behind documents a confidence of one half comes through. One that is not a
number does not. -/
theorem documentTransport_transparent_half :
    (new (documentTransport sampleFormat (dispatchTransport (confidentOrchestrator (1 / 2))
      (fun _ => "") fun _ => .error (.other "unknown"))
        (.other "unreadable"))).planNextAction samplePlannerRequest =
          .ok ⟨.nextTurn, none, "go on", 1 / 2, none⟩ ∧
    (new (documentTransport sampleFormat (dispatchTransport (confidentOrchestrator (0 / 0))
      (fun _ => "") fun _ => .error (.other "unknown"))
        (.other "unreadable"))).planNextAction samplePlannerRequest ≠
          .ok ⟨.nextTurn, none, "go on", 0 / 0, none⟩ := by
  constructor
  · exact ((documentTransport_transparent sampleFormat _ (confidentOrchestrator (1 / 2)) _ _).2.2
      samplePlannerRequest _ rfl).mpr sampleFormat_survives_half
  · intro h
    obtain ⟨text, hprint, -⟩ := ((documentTransport_transparent sampleFormat _
      (confidentOrchestrator (0 / 0)) _ _).2.2 samplePlannerRequest _ rfl).mp h
    exact nomatch sampleFormat_print_nan.symm.trans hprint

/-! ## Sidecars behind sidecars -/

end AgentlyOrchestrator

namespace OrchestratorError

/-- The text of a failure. -/
def display : OrchestratorError → String
  | plannerUnavailable reason => "planner unavailable: " ++ reason
  | other reason => "orchestration failed: " ++ reason

/-- Different failures have different texts. -/
theorem display_injective : Function.Injective display := by
  have hkind : ∀ reason reason' : String,
      "planner unavailable: " ++ reason ≠ "orchestration failed: " ++ reason' := by
    intro reason reason' h
    have hfirst := congrArg (fun text => text.toList.head?) h
    simp [String.toList_append] at hfirst
  intro e e' h
  cases e <;> cases e'
  · exact congrArg plannerUnavailable ((String.append_right_inj _).mp h)
  · exact absurd h (hkind _ _)
  · exact absurd h.symm (hkind _ _)
  · exact congrArg other ((String.append_right_inj _).mp h)

/-- A failure that was reported by its text. -/
def reported (failure : OrchestratorError) : OrchestratorError :=
  .other failure.display

theorem reported_injective : Function.Injective reported := fun _ _ h =>
  display_injective (other.inj h)

end OrchestratorError

namespace AgentlyOrchestrator

variable (inner : AgentOrchestrator)
  (other : AgentlySidecarRequest → Except OrchestratorError AgentlySidecarResponse)

/-- A sidecar passes answers on and reports failures by their texts. -/
theorem new_dispatchTransport :
    new (dispatchTransport inner OrchestratorError.display other) =
      ⟨fun r => (inner.decideContinue r).mapError OrchestratorError.reported,
        fun r => (inner.planNextAction r).mapError OrchestratorError.reported⟩ := by
  rw [new, AgentOrchestrator.mk.injEq]
  constructor
  · funext r
    rw [decideContinue, call, dispatchTransport_continueCall]
    cases inner.decideContinue r <;> rfl
  · funext r
    rw [planNextAction, call, dispatchTransport_plannerCall]
    cases inner.planNextAction r <;> rfl

/-- An orchestrator behind a number of sidecars, each of which reports failures by their
texts. -/
def tower : ℕ → AgentOrchestrator
  | 0 => inner
  | n + 1 => new (dispatchTransport (tower n) OrchestratorError.display other)

/-- Each sidecar of a tower reports once. -/
theorem tower_eq (n : ℕ) :
    tower inner other n =
      ⟨fun r => (inner.decideContinue r).mapError (OrchestratorError.reported^[n]),
        fun r => (inner.planNextAction r).mapError (OrchestratorError.reported^[n])⟩ := by
  have hmap : ∀ {α : Type} (x : Except OrchestratorError α) (n : ℕ),
      (x.mapError (OrchestratorError.reported^[n])).mapError OrchestratorError.reported =
        x.mapError (OrchestratorError.reported^[n + 1]) := by
    intro α x n
    rw [Function.iterate_succ']
    cases x <;> rfl
  have hzero : ∀ {α : Type} (x : Except OrchestratorError α),
      x.mapError (OrchestratorError.reported^[0]) = x := by
    intro α x
    cases x <;> rfl
  induction n with
  | zero => simp only [tower, hzero]
  | succ n ih => rw [tower, new_dispatchTransport, ih]; simp only [hmap]

/-- A tower of any height tells requests and orchestrators apart exactly as the orchestrator
at its end does. Equal results behind it are equal results before it, failures included,
and an answer comes through as it is. -/
theorem tower_faithful (n : ℕ) :
    (∀ inner' r r', (tower inner other n).decideContinue r =
        (tower inner' other n).decideContinue r' ↔
      inner.decideContinue r = inner'.decideContinue r') ∧
    (∀ inner' r r', (tower inner other n).planNextAction r =
        (tower inner' other n).planNextAction r' ↔
      inner.planNextAction r = inner'.planNextAction r') ∧
    (∀ r d, (tower inner other n).decideContinue r = .ok d ↔ inner.decideContinue r = .ok d) ∧
    ∀ r p, (tower inner other n).planNextAction r = .ok p ↔ inner.planNextAction r = .ok p := by
  have hinj := OrchestratorError.reported_injective.iterate n
  have hsame : ∀ {α : Type} (x y : Except OrchestratorError α),
      x.mapError (OrchestratorError.reported^[n]) = y.mapError (OrchestratorError.reported^[n]) ↔
        x = y := by
    intro α x y
    cases x <;> cases y <;> simp [Except.mapError, hinj.eq_iff]
  have hok : ∀ {α : Type} (x : Except OrchestratorError α) (a : α),
      x.mapError (OrchestratorError.reported^[n]) = .ok a ↔ x = .ok a := by
    intro α x a
    cases x <;> simp [Except.mapError]
  simp only [tower_eq]
  exact ⟨fun _ _ _ => hsame _ _, fun _ _ _ => hsame _ _, fun _ _ => hok _ _, fun _ _ => hok _ _⟩

end AgentlyOrchestrator

end Muldex
