import Muldex.AdapterFidelity
import Muldex.TwoPaths

/-!
# What the adapters read

An adapter drops part of its snapshot. What it reads is settled here exactly : a snapshot
with everything else erased (`CodexSnapshot.asRead`) is turned into the same request, and can
be recovered from it (`recover_toHarnessRequest`). So two snapshots, of one kind or of two,
are turned into the same request exactly if they are the same as read
(`toHarnessRequest_eq_iff`).

* The signal adapter drops the reason, the changes, the duplicate flag and the follow-up
  count. It keeps the thread and the turn only beside a checkpoint.
* The live adapter drops the cached and output totals, and an input total that does not fit
  into 32 bits. The window number survives in a text, although its count saturates.
* The bootstrap adapter keeps of the modalities only whether one mentions an image.

What a harness can tell of a snapshot at all is what does not change by erasing the rest
(`readable_iff`). Of the orchestrator's three stop conditions a stall and a stall after a
compaction are of this kind, although the harness stops at neither as the orchestrator does.
A follow-up loop is not, and neither is a duplicate injection : no policy over the adapted
request could stop at them (`stops_readable`).
-/

namespace Muldex

/-- A snapshot of any kind. -/
inductive CodexSnapshot where
  | signal (snapshot : CodexSignalSnapshot)
  | live (snapshot : CodexLiveContinuationSnapshot)
  | bootstrap (snapshot : CodexBootstrapSnapshot)

/-- The snapshot as a harness request. -/
def CodexSnapshot.toHarnessRequest : CodexSnapshot → ReasoningHarnessRequest
  | signal snapshot => codexSnapshotToHarnessRequest snapshot
  | live snapshot => codexLiveSnapshotToHarnessRequest snapshot
  | bootstrap snapshot => codexBootstrapSnapshotToHarnessRequest snapshot

/-! ## Erasing what is not read -/

/-- What is read of a signal snapshot. -/
def CodexSignalSnapshot.asRead (snapshot : CodexSignalSnapshot) : CodexSignalSnapshot :=
  { snapshot with
    threadId := if snapshot.lastCompactionCheckpointId.isSome then snapshot.threadId else ""
    turnId := if snapshot.lastCompactionCheckpointId.isSome then snapshot.turnId else ""
    workingHypothesis := none
    lastAgentMessage := none
    continueReason := .manualUserRequest
    recentStateChanges := []
    pendingInputCount := 0
    triggerTurnPending := false
    toolCallCountThisTurn := 0
    duplicateInjectionDetected := false
    repeatedFollowUpCount := 0 }

/-- What is read of a live snapshot. -/
def CodexLiveContinuationSnapshot.asRead (snapshot : CodexLiveContinuationSnapshot) :
    CodexLiveContinuationSnapshot :=
  { snapshot with
    totalInputTokens := snapshot.totalInputTokens.filter fun total => (narrowSigned total).isSome
    totalCachedInputTokens := none
    totalOutputTokens := none }

/-- Whether a modality of the snapshot mentions an image. -/
def CodexBootstrapSnapshot.mentionsImage (snapshot : CodexBootstrapSnapshot) : Bool :=
  (snapshot.inputModalities.map toAsciiLowercase).any fun item => contains item "image"

/-- What is read of a bootstrap snapshot. -/
def CodexBootstrapSnapshot.asRead (snapshot : CodexBootstrapSnapshot) : CodexBootstrapSnapshot :=
  { snapshot with
    personality := none
    serviceTier := none
    autoCompactTokenLimitScope := ""
    promptInputCount := 0
    inputModalities := if snapshot.mentionsImage then ["image"] else []
    toolsVisibleCount := 0
    promptPreviewTextItems := 0 }

/-- What is read of a snapshot. -/
def CodexSnapshot.asRead : CodexSnapshot → CodexSnapshot
  | signal snapshot => signal snapshot.asRead
  | live snapshot => live snapshot.asRead
  | bootstrap snapshot => bootstrap snapshot.asRead

theorem narrowSigned_filter (total : Option Int64) :
    (total.filter fun total => (narrowSigned total).isSome).bind narrowSigned =
      total.bind narrowSigned := by
  cases total with
  | none => rfl
  | some total => cases h : narrowSigned total <;> simp [Option.filter, h]

theorem mentionsImage_asRead (snapshot : CodexBootstrapSnapshot) :
    snapshot.asRead.mentionsImage = snapshot.mentionsImage := by
  have himage : contains (toAsciiLowercase "image") "image" = true := by
    have hlower : (toAsciiLowercase "image").toList = "image".toList := by simp [toAsciiLowercase]
    rw [contains, hlower]
    exact decide_eq_true List.infix_rfl
  have hlist : (if snapshot.mentionsImage then ["image"] else []).map toAsciiLowercase =
      if snapshot.mentionsImage then [toAsciiLowercase "image"] else [] := by
    split_ifs <;> rfl
  change ((if snapshot.mentionsImage then ["image"] else []).map toAsciiLowercase).any
    (fun item => contains item "image") = snapshot.mentionsImage
  rw [hlist]
  split_ifs with hmentions
  · simpa [hmentions] using himage
  · simpa using hmentions

/-- What is not read does not show in the request. -/
theorem toHarnessRequest_asRead (snapshot : CodexSnapshot) :
    snapshot.asRead.toHarnessRequest = snapshot.toHarnessRequest := by
  cases snapshot with
  | signal snapshot =>
    simp only [CodexSnapshot.asRead, CodexSnapshot.toHarnessRequest, CodexSignalSnapshot.asRead,
      codexSnapshotToHarnessRequest]
    cases snapshot.lastCompactionCheckpointId <;> rfl
  | live snapshot =>
    simp only [CodexSnapshot.asRead, CodexSnapshot.toHarnessRequest,
      CodexLiveContinuationSnapshot.asRead, codexLiveSnapshotToHarnessRequest,
      narrowSigned_filter, liveContinueReason]
  | bootstrap snapshot =>
    change ReasoningHarnessRequest.withModalitiesHint _ snapshot.asRead.mentionsImage =
      ReasoningHarnessRequest.withModalitiesHint _ snapshot.mentionsImage
    rw [mentionsImage_asRead]
    rfl

/-! ## Recovering what is read -/

/-- What follows the name of a field in a text of the evidence scope. -/
def textAfter (field text : String) : String :=
  .ofList (text.toList.drop field.toList.length)

@[simp] theorem textAfter_append (field text : String) :
    textAfter field (field ++ text) = text := by
  simp [textAfter]

/-- The flag that follows the name of a field. -/
def flagAfter (field text : String) : Bool :=
  textAfter field text = "true"

@[simp] theorem flagAfter_append (field : String) (flag : Bool) :
    flagAfter field (field ++ toString flag) = flag := by
  rw [flagAfter, textAfter_append]
  cases flag <;> rfl

/-- The signal snapshot a request was made from, as read. -/
def recoverSignal (request : ReasoningHarnessRequest) : CodexSignalSnapshot where
  threadId := request.lastCheckpoint.elim "" (·.threadId)
  turnId := request.lastCheckpoint.elim "" (·.turnId)
  objective := request.objective
  constraints := request.constraints
  workingHypothesis := none
  lastAgentMessage := none
  continueReason := .manualUserRequest
  recentStateChanges := []
  pendingInputCount := 0
  triggerTurnPending := false
  toolCallCountThisTurn := 0
  duplicateInjectionDetected := false
  repeatedFollowUpCount := 0
  modelContextWindow := request.contextPressure.modelContextWindow
  activeContextTokens := request.contextPressure.activeContextTokens
  autoCompactScopeTokens := request.contextPressure.autoCompactScopeTokens
  autoCompactLimit := request.contextPressure.autoCompactLimit
  tokensUntilCompaction := request.contextPressure.tokensUntilCompaction
  recentCompactionCount := request.contextPressure.recentCompactionCount
  lastCompactionHadStateChange := request.contextPressure.lastCompactionHadStateChange
  pendingPostCompaction := request.postCompaction.pendingPostCompaction
  firstPostCompactionTurn := request.postCompaction.firstPostCompactionTurn
  compactionWindowId := request.postCompaction.compactionWindowId
  lastCompactionCheckpointId := request.postCompaction.lastCompactionCheckpointId
  completedSteps := request.progress.completedSteps
  totalStepsHint := request.progress.totalStepsHint
  noProgressIterationCount := request.progress.noProgressIterationCount
  recoveryAttemptCount := request.recovery.recoveryAttemptCount
  lastRecoveryReason := request.recovery.lastRecoveryReason
  lastRecoveryHadProgress := request.recovery.lastRecoveryHadProgress
  selfCorrectionActive := request.selfCorrection.active
  selfCorrectionAttemptCount := request.selfCorrection.correctionAttemptCount
  lastCorrectionTarget := request.selfCorrection.lastCorrectionTarget
  lastCorrectionHadProgress := request.selfCorrection.lastCorrectionHadProgress
  activeAgentMode := request.runtimeMode.activeAgentMode
  previousAgentMode := request.runtimeMode.previousAgentMode
  modeTransitionPendingGuidance := request.runtimeMode.modeTransitionPendingGuidance
  invokedSkills := request.runtimeMode.invokedSkills.map (·.skillId)
  capabilityRegistry := request.capabilityRegistry

/-- A window number from the text that names it. -/
def windowNumber (text : String) : UInt64 :=
  .ofNat (Nat.ofDigitChars 10 (textAfter "window-" text).toList 0)

theorem windowNumber_append (n : UInt64) : windowNumber ("window-" ++ toString n) = n := by
  have htext : (toString n).toList = Nat.toDigits 10 n.toNat := by
    change (Nat.repr n.toNat).toList = _
    simp
  rw [windowNumber, textAfter_append, htext]
  simp

/-- The live snapshot a request was made from, as read. The evidence scope is given by its
texts. -/
def recoverLive (request : ReasoningHarnessRequest) (thread active pending mailbox : String) :
    CodexLiveContinuationSnapshot where
  threadId := textAfter "thread_id: " thread
  activeTurnPresent := flagAfter "active_turn_present: " active
  pendingInputPresent := flagAfter "pending_input_present: " pending
  triggerTurnMailboxPresent := flagAfter "trigger_turn_mailbox_present: " mailbox
  autoCompactWindowNumber := request.postCompaction.compactionWindowId.elim 0 windowNumber
  totalInputTokens := request.contextPressure.activeContextTokens.map fun n => .ofInt n.toNat
  totalCachedInputTokens := none
  totalOutputTokens := none

/-- The bootstrap snapshot a request with a continuation record was made from, as read. The
evidence scope is given by three of its texts. -/
def recoverBootstrap (request : ReasoningHarnessRequest)
    (record : CodexSessionContinuationSnapshot) (cwd approval showRaw : String) :
    CodexBootstrapSnapshot where
  threadId := record.sourceThreadId
  turnId := record.sourceTurnId
  cwd := textAfter "cwd: " cwd
  model := record.sourceModel
  modelProvider := record.sourceProvider
  collaborationMode := request.runtimeMode.activeAgentMode.getD ""
  personality := none
  approvalPolicy := textAfter "approval_policy: " approval
  permissionProfile := request.safety.permissionProfileSummary
  serviceTier := none
  showRawAgentReasoning := flagAfter "show_raw_agent_reasoning: " showRaw
  modelContextWindow := request.contextPressure.modelContextWindow
  autoCompactTokenLimit := request.contextPressure.autoCompactLimit
  autoCompactTokenLimitScope := ""
  referenceContextPresent := record.referenceContextPresent
  promptInputCount := 0
  inputModalities := if request.constraints.length = 3 then ["image"] else []
  toolsVisibleCount := 0
  promptPreviewTextItems := 0

/-- The snapshot a request was made from, as read. The kinds differ in what they leave in the
evidence scope. -/
def recover (request : ReasoningHarnessRequest) : CodexSnapshot :=
  match request.evidenceScope, request.codexContinuation with
  | [thread, active, pending, mailbox, _], _ =>
    .live (recoverLive request thread active pending mailbox)
  | [cwd, _, _, _, _, approval, showRaw], some record =>
    .bootstrap (recoverBootstrap request record cwd approval showRaw)
  | _, _ => .signal (recoverSignal request)

/-- A total that was narrowed is widened again. -/
theorem map_narrowSigned (total : Option Int64) :
    ((total.bind narrowSigned).map fun n => Int64.ofInt n.toNat) =
      total.filter fun total => (narrowSigned total).isSome := by
  cases total with
  | none => rfl
  | some total =>
    cases h : narrowSigned total with
    | none => simp [Option.filter, h]
    | some n => simp [Option.filter, h, ← (narrowSigned_eq_some_iff total n).mp h]

/-- What is read of a snapshot is recovered from its request. -/
theorem recover_toHarnessRequest (snapshot : CodexSnapshot) :
    recover snapshot.toHarnessRequest = snapshot.asRead := by
  cases snapshot with
  | signal snapshot =>
    change CodexSnapshot.signal (recoverSignal (codexSnapshotToHarnessRequest snapshot)) =
      .signal snapshot.asRead
    simp only [recoverSignal, codexSnapshotToHarnessRequest, CodexSignalSnapshot.asRead,
      List.map_map]
    cases snapshot.lastCompactionCheckpointId <;> simp [Function.comp_def]
  | live snapshot =>
    change CodexSnapshot.live (recoverLive (codexLiveSnapshotToHarnessRequest snapshot) _ _ _ _) =
      .live snapshot.asRead
    simp only [recoverLive, codexLiveSnapshotToHarnessRequest, textAfter_append, flagAfter_append,
      Option.elim_some, windowNumber_append, map_narrowSigned,
      CodexLiveContinuationSnapshot.asRead]
  | bootstrap snapshot =>
    change recover (ReasoningHarnessRequest.withModalitiesHint _ snapshot.mentionsImage) =
      .bootstrap snapshot.asRead
    rw [CodexBootstrapSnapshot.asRead]
    generalize snapshot.mentionsImage = mentionsImage
    cases mentionsImage <;>
      simp [ReasoningHarnessRequest.withModalitiesHint, recover, recoverBootstrap]

/-- Two snapshots are turned into the same request exactly if they are the same as read. -/
theorem toHarnessRequest_eq_iff (snapshot snapshot' : CodexSnapshot) :
    snapshot.toHarnessRequest = snapshot'.toHarnessRequest ↔
      snapshot.asRead = snapshot'.asRead := by
  constructor
  · intro h
    rw [← recover_toHarnessRequest, h, recover_toHarnessRequest]
  · intro h
    rw [← toHarnessRequest_asRead, h, toHarnessRequest_asRead]

/-! ## What a harness can tell -/

/-- The property of snapshots can be told from their requests. -/
def Readable (P : CodexSnapshot → Prop) : Prop :=
  ∃ verdict : ReasoningHarnessRequest → Prop, ∀ snapshot,
    verdict snapshot.toHarnessRequest ↔ P snapshot

/-- What can be told from a request is what does not change by erasing what is not read. -/
theorem readable_iff (P : CodexSnapshot → Prop) :
    Readable P ↔ ∀ snapshot, P snapshot.asRead ↔ P snapshot := by
  constructor
  · rintro ⟨verdict, hverdict⟩ snapshot
    rw [← hverdict, ← hverdict, toHarnessRequest_asRead]
  · intro h
    refine ⟨fun request => P (recover request), fun snapshot => ?_⟩
    change P (recover snapshot.toHarnessRequest) ↔ P snapshot
    rw [recover_toHarnessRequest, h]

/-- The snapshot is a signal snapshot with the property. -/
def CodexSnapshot.IsSignal (P : CodexSignalSnapshot → Prop) : CodexSnapshot → Prop
  | signal snapshot => P snapshot
  | _ => False

theorem readable_isSignal_iff (P : CodexSignalSnapshot → Prop) :
    Readable (CodexSnapshot.IsSignal P) ↔ ∀ snapshot, P snapshot.asRead ↔ P snapshot := by
  rw [readable_iff]
  constructor
  · exact fun h snapshot => h (.signal snapshot)
  · rintro h (snapshot | snapshot | snapshot)
    · exact h snapshot
    · exact Iff.rfl
    · exact Iff.rfl

section

open DeterministicOrchestrator

/-- Of the orchestrator's stop conditions a stall and a stall after a compaction can be told
from the adapted request. A follow-up loop cannot, so no harness can refuse exactly what the
orchestrator refuses, and neither can a duplicate injection. -/
theorem stops_readable :
    Readable (CodexSnapshot.IsSignal fun s => Stalled (continueRequestOf s)) ∧
    Readable (CodexSnapshot.IsSignal fun s => PostCompactionStall (continueRequestOf s)) ∧
    ¬Readable (CodexSnapshot.IsSignal fun s => FollowUpLoop (continueRequestOf s)) ∧
    ¬Readable (CodexSnapshot.IsSignal fun s => Refuses (continueRequestOf s)) ∧
    ¬Readable (CodexSnapshot.IsSignal fun s => s.duplicateInjectionDetected = true) := by
  simp only [readable_isSignal_iff]
  refine ⟨fun s => Iff.rfl, fun s => Iff.rfl, fun h => ?_, fun h => ?_, fun h => ?_⟩
  · have hloop : FollowUpLoop (continueRequestOf (followUpSnapshot 3 0)) :=
      ⟨by decide, by simp [continueRequestOf, followUpSnapshot]⟩
    exact absurd ((h (followUpSnapshot 3 0)).mpr hloop).1 (by decide)
  · have hrefuses : Refuses (continueRequestOf (followUpSnapshot 3 0)) :=
      (refuses_iff _).mpr (Or.inl ⟨by decide, by simp [continueRequestOf, followUpSnapshot]⟩)
    rcases (refuses_iff _).mp ((h (followUpSnapshot 3 0)).mpr hrefuses) with hloop | hstall |
      hcompact
    · exact absurd hloop.1 (by decide)
    · exact absurd hstall.1 (by decide)
    · exact absurd hcompact.1 (by decide)
  · exact absurd ((h (followUpSnapshot 3 0)).mpr rfl) (by decide)

end

end Muldex
