import Muldex.Cli
import Muldex.DocumentForms
import Muldex.NonInterference
import Muldex.Workspace

/-!
# The commands

`main` runs one of four commands. Each makes or reads a request, asks the harness, and
prints the decision twice : in lines for the operator (`decisionLines`) and as a document.
Before that a snapshot that is not a signal snapshot is summarized, and a workspace request
is printed if asked for.

A command is a computation that prints and can fail, and what it printed before a failure
stays printed. So it is a result of the order in which the source prints and checks that a
failed command has printed nothing (`exec_ends`).

The file system, the parser from text to JSON trees and the `Debug` text of a string are
parameters (`Console`). A pretty-printed document is kept as its tree.
-/

namespace Muldex

open Serde

/-! ## Printing -/

/-- What one call of `println!` prints : a text, or a document. `line` is one call and not one
line of the standard output, since its text can have line breaks of its own. -/
inductive Output where
  | line (text : String)
  | document (tree : Json)

/-- Why a command fails. Which error of the JSON parser it is is not modelled. -/
inductive CommandError (IoError : Type) where
  | message (text : String)
  | io (error : IoError)
  | json

/-- A workspace error is one of the command. -/
def CommandError.ofWorkspace {IoError : Type} : WorkspaceError IoError → CommandError IoError
  | .message text => .message text
  | .io error => .io error

/-- A computation that prints and can fail. -/
abbrev CommandM (IoError : Type) : Type → Type :=
  ExceptT (CommandError IoError) (StateM (List Output))

section

variable {IoError α β : Type}

/-- `println!` of a text. -/
def println (text : String) : CommandM IoError Unit :=
  modify (· ++ [.line text])

/-- `println!` of a pretty-printed document. -/
def printDocument (tree : Json) : CommandM IoError Unit :=
  modify (· ++ [.document tree])

/-- The computation ends in `result`, and prints `lines`. -/
def Prints (x : CommandM IoError α) (result : Except (CommandError IoError) α)
    (lines : List Output) : Prop :=
  ∀ out, x.run.run out = (result, out ++ lines)

theorem prints_pure (a : α) : Prints (pure a : CommandM IoError α) (.ok a) [] :=
  fun out => by rw [List.append_nil]; rfl

theorem prints_throw (e : CommandError IoError) :
    Prints (throw e : CommandM IoError α) (.error e) [] :=
  fun out => by rw [List.append_nil]; rfl

theorem prints_println (text : String) :
    Prints (println text : CommandM IoError Unit) (.ok ()) [.line text] :=
  fun _ => rfl

theorem prints_printDocument (tree : Json) :
    Prints (printDocument tree : CommandM IoError Unit) (.ok ()) [.document tree] :=
  fun _ => rfl

/-- What is printed first stands first. -/
theorem Prints.bind {x : CommandM IoError α} {f : α → CommandM IoError β} {a : α}
    {result : Except (CommandError IoError) β} {lines lines' : List Output}
    (hx : Prints x (.ok a) lines) (hf : Prints (f a) result lines') :
    Prints (x >>= f) result (lines ++ lines') := by
  intro out
  have hbind : (x >>= f).run.run out = (f a).run.run (out ++ lines) := by
    rw [ExceptT.run_bind, StateT.run_bind, hx out]
    rfl
  rw [hbind, hf, List.append_assoc]

/-- A failure ends the computation. -/
theorem Prints.bind_error {x : CommandM IoError α} {f : α → CommandM IoError β}
    {e : CommandError IoError} {lines : List Output} (hx : Prints x (.error e) lines) :
    Prints (x >>= f) (.error e) lines := by
  intro out
  rw [ExceptT.run_bind, StateT.run_bind, hx out]
  rfl

end

/-! ## Decisions -/

/-- The name `print_decision` gives a mode. -/
def ContinueMode.text : ContinueMode → String
  | sameTurn => "same_turn"
  | nextTurn => "next_turn"
  | queueOnly => "queue_only"
  | handoff => "handoff"
  | stop => "stop"

/-- The derived `Debug` text of a list. -/
def debugList (items : List String) : String :=
  "[" ++ ", ".intercalate items ++ "]"

/-- The derived `Debug` text of an option. -/
def debugOption : Option String → String
  | none => "None"
  | some text => "Some(" ++ text ++ ")"

/-- The derived `Debug` text of a rule : its name, as in a document. -/
def ProhibitionRule.debug (rule : ProhibitionRule) : String :=
  Variants.name rule

section

variable {IoError : Type}

/-- The decision in lines. -/
def printDecision (decision : ReasoningHarnessDecision) : CommandM IoError Unit := do
  println ("mode: " ++ decision.mode.text)
  println ("checkpoint: " ++ toString decision.shouldCheckpoint)
  println ("self_correction: " ++ toString decision.shouldEnterSelfCorrection)
  println ("rationale: " ++ decision.rationale)
  if !decision.violatedRules.isEmpty then
    println ("violated_rules: " ++ debugList (decision.violatedRules.map ProhibitionRule.debug))

/-- The end of every command : the decision in lines and as a document. -/
def decideAndPrint (request : ReasoningHarnessRequest) : CommandM IoError Unit := do
  let decision := decideReasoningHarness request
  printDecision decision
  println ""
  printDocument (Wire.encode decision)

/-- The summary of a bootstrap snapshot. -/
def printBootstrapSnapshotSummary (debugStr : String → String)
    (snapshot : CodexBootstrapSnapshot) : CommandM IoError Unit := do
  println "snapshot.kind: codex-bootstrap"
  println ("snapshot.model: " ++ snapshot.model)
  println ("snapshot.provider: " ++ snapshot.modelProvider)
  println ("snapshot.mode: " ++ snapshot.collaborationMode)
  println ("snapshot.personality: " ++ debugOption (snapshot.personality.map debugStr))
  println ("snapshot.approval_policy: " ++ snapshot.approvalPolicy)
  println ("snapshot.service_tier: " ++ debugOption (snapshot.serviceTier.map debugStr))
  println ("snapshot.show_raw_agent_reasoning: " ++ toString snapshot.showRawAgentReasoning)
  println ("snapshot.reference_context: " ++ toString snapshot.referenceContextPresent)
  println ("snapshot.input_modalities: " ++ debugList (snapshot.inputModalities.map debugStr))
  println ("snapshot.tools_visible: " ++ toString snapshot.toolsVisibleCount)

/-- The summary of a live snapshot. -/
def printLiveSnapshotSummary (snapshot : CodexLiveContinuationSnapshot) :
    CommandM IoError Unit := do
  println "snapshot.kind: codex-live"
  println ("snapshot.thread_id: " ++ snapshot.threadId)
  println ("snapshot.active_turn_present: " ++ toString snapshot.activeTurnPresent)
  println ("snapshot.pending_input_present: " ++ toString snapshot.pendingInputPresent)
  println ("snapshot.trigger_turn_mailbox_present: " ++
    toString snapshot.triggerTurnMailboxPresent)
  println ("snapshot.auto_compact_window_number: " ++ toString snapshot.autoCompactWindowNumber)
  println ("snapshot.total_input_tokens: " ++
    debugOption (snapshot.totalInputTokens.map toString))

end

/-! ## Commands -/

/-- A command with its arguments. -/
inductive Command (Path : Type) where
  | decideSample (scenario : Scenario)
  | decideFile (path : Path)
  | decideCodexSnapshot (path : Path)
  | decideWorkspace (workspace : Path) (objective : Option String) (objectiveFile : Option Path)
    (mode : String) (noProgressIterations : UInt32)
    (postCompaction recoverableFailure printRequest : Bool)

/-- What the commands run on : the file system, the JSON tree of a text, if it has one, and
the `Debug` text of a string. -/
structure Console (Path IoError : Type) where
  fs : FileSystem Path IoError
  parse : String → Option Json
  debugStr : String → String

namespace Console

variable {Path IoError : Type} (console : Console Path IoError)

/-- `fs::read_to_string`. -/
def readToString (path : Path) : CommandM IoError String :=
  match console.fs.readToString path with
  | .ok raw => pure raw
  | .error e => throw (.io e)

/-- `serde_json::from_str`. -/
def fromStr (α : Type) [Wire α] (raw : String) : Option α :=
  (console.parse raw).bind Wire.decode

/-- The request of a snapshot file. Live and bootstrap snapshots are summarized. -/
def readSnapshot (raw : String) : CommandM IoError ReasoningHarnessRequest :=
  match console.fromStr CodexSignalSnapshot raw with
  | some snapshot => pure (codexSnapshotToHarnessRequest snapshot)
  | none =>
    match console.fromStr CodexLiveContinuationSnapshot raw with
    | some live => do
      printLiveSnapshotSummary live
      println ""
      return codexLiveSnapshotToHarnessRequest live
    | none =>
      match console.fromStr CodexBootstrapSnapshot raw with
      | some bootstrap => do
        printBootstrapSnapshotSummary console.debugStr bootstrap
        println ""
        return codexBootstrapSnapshotToHarnessRequest bootstrap
      | none => throw .json

/-- The request of a workspace. -/
def makeWorkspaceRequest (workspace : Path) (objective : Option String)
    (objectiveFile : Option Path) (mode : String) (noProgressIterations : UInt32)
    (postCompaction recoverableFailure : Bool) : CommandM IoError ReasoningHarnessRequest :=
  match buildWorkspaceRequest console.fs workspace objective objectiveFile mode
    noProgressIterations postCompaction recoverableFailure with
  | .ok request => pure request
  | .error failure => throw (.ofWorkspace failure)

/-- `main`, after the arguments are parsed. -/
def run : Command Path → CommandM IoError Unit
  | .decideSample scenario => decideAndPrint (sampleRequest scenario)
  | .decideFile path => do
    let raw ← console.readToString path
    match console.fromStr ReasoningHarnessRequest raw with
    | some request => decideAndPrint request
    | none => throw .json
  | .decideCodexSnapshot path => do
    let raw ← console.readToString path
    let request ← console.readSnapshot raw
    decideAndPrint request
  | .decideWorkspace workspace objective objectiveFile mode noProgressIterations postCompaction
      recoverableFailure printRequest => do
    let request ← console.makeWorkspaceRequest workspace objective objectiveFile mode
      noProgressIterations postCompaction recoverableFailure
    if printRequest then
      printDocument (Wire.encode request)
      println ""
    decideAndPrint request

/-- A run of the command : how it ends, and all it has printed. -/
def exec (command : Command Path) : Except (CommandError IoError) Unit × List Output :=
  (console.run command).run.run []

end Console

/-! ## What is printed -/

/-- The lines of a decision. -/
def decisionLines (decision : ReasoningHarnessDecision) : List Output :=
  [.line ("mode: " ++ decision.mode.text),
   .line ("checkpoint: " ++ toString decision.shouldCheckpoint),
   .line ("self_correction: " ++ toString decision.shouldEnterSelfCorrection),
   .line ("rationale: " ++ decision.rationale)] ++
  if decision.violatedRules.isEmpty then []
  else [.line ("violated_rules: " ++ debugList (decision.violatedRules.map ProhibitionRule.debug))]

/-- The lines and the document of a decision. -/
def report (decision : ReasoningHarnessDecision) : List Output :=
  decisionLines decision ++ [.line "", .document (Wire.encode decision)]

/-- The lines of a bootstrap snapshot. -/
def bootstrapLines (debugStr : String → String) (snapshot : CodexBootstrapSnapshot) :
    List Output :=
  [.line "snapshot.kind: codex-bootstrap",
   .line ("snapshot.model: " ++ snapshot.model),
   .line ("snapshot.provider: " ++ snapshot.modelProvider),
   .line ("snapshot.mode: " ++ snapshot.collaborationMode),
   .line ("snapshot.personality: " ++ debugOption (snapshot.personality.map debugStr)),
   .line ("snapshot.approval_policy: " ++ snapshot.approvalPolicy),
   .line ("snapshot.service_tier: " ++ debugOption (snapshot.serviceTier.map debugStr)),
   .line ("snapshot.show_raw_agent_reasoning: " ++ toString snapshot.showRawAgentReasoning),
   .line ("snapshot.reference_context: " ++ toString snapshot.referenceContextPresent),
   .line ("snapshot.input_modalities: " ++ debugList (snapshot.inputModalities.map debugStr)),
   .line ("snapshot.tools_visible: " ++ toString snapshot.toolsVisibleCount)]

/-- The lines of a live snapshot. -/
def liveLines (snapshot : CodexLiveContinuationSnapshot) : List Output :=
  [.line "snapshot.kind: codex-live",
   .line ("snapshot.thread_id: " ++ snapshot.threadId),
   .line ("snapshot.active_turn_present: " ++ toString snapshot.activeTurnPresent),
   .line ("snapshot.pending_input_present: " ++ toString snapshot.pendingInputPresent),
   .line ("snapshot.trigger_turn_mailbox_present: " ++
     toString snapshot.triggerTurnMailboxPresent),
   .line ("snapshot.auto_compact_window_number: " ++ toString snapshot.autoCompactWindowNumber),
   .line ("snapshot.total_input_tokens: " ++
     debugOption (snapshot.totalInputTokens.map toString))]

/-- The summary of a snapshot document : of the first kind it is read as, and none for a
signal snapshot. -/
def summary (debugStr : String → String) (raw : Json) : List Output :=
  match (Wire.decode raw : Option CodexSignalSnapshot) with
  | some _ => []
  | none =>
    match (Wire.decode raw : Option CodexLiveContinuationSnapshot) with
    | some live => liveLines live ++ [.line ""]
    | none =>
      match (Wire.decode raw : Option CodexBootstrapSnapshot) with
      | some bootstrap => bootstrapLines debugStr bootstrap ++ [.line ""]
      | none => []

section

variable {IoError : Type}

theorem prints_printDecision (decision : ReasoningHarnessDecision) :
    Prints (printDecision decision : CommandM IoError Unit) (.ok ()) (decisionLines decision) := by
  unfold printDecision decisionLines
  refine (prints_println _).bind ((prints_println _).bind ((prints_println _).bind
    ((prints_println _).bind ?_)))
  cases decision.violatedRules.isEmpty
  · exact prints_println _
  · exact prints_pure ()

theorem prints_decideAndPrint (request : ReasoningHarnessRequest) :
    Prints (decideAndPrint request : CommandM IoError Unit) (.ok ())
      (report (decideReasoningHarness request)) :=
  (prints_printDecision _).bind ((prints_println _).bind (prints_printDocument _))

theorem prints_printBootstrapSnapshotSummary (debugStr : String → String)
    (snapshot : CodexBootstrapSnapshot) :
    Prints (printBootstrapSnapshotSummary debugStr snapshot : CommandM IoError Unit) (.ok ())
      (bootstrapLines debugStr snapshot) := by
  unfold printBootstrapSnapshotSummary bootstrapLines
  iterate 10 refine (prints_println _).bind ?_
  exact prints_println _

theorem prints_printLiveSnapshotSummary (snapshot : CodexLiveContinuationSnapshot) :
    Prints (printLiveSnapshotSummary snapshot : CommandM IoError Unit) (.ok ())
      (liveLines snapshot) := by
  unfold printLiveSnapshotSummary liveLines
  iterate 6 refine (prints_println _).bind ?_
  exact prints_println _

end

namespace Console

variable {Path IoError : Type} (console : Console Path IoError)

/-- What a command prints before it decides, and the request it decides, or why it fails. -/
def prepare : Command Path → Except (CommandError IoError) (List Output × ReasoningHarnessRequest)
  | .decideSample scenario => .ok ([], sampleRequest scenario)
  | .decideFile path =>
    match console.fs.readToString path with
    | .error e => .error (.io e)
    | .ok raw =>
      match (console.parse raw).bind Wire.decode with
      | some request => .ok ([], request)
      | none => .error .json
  | .decideCodexSnapshot path =>
    match console.fs.readToString path with
    | .error e => .error (.io e)
    | .ok raw =>
      match console.parse raw with
      | none => .error .json
      | some tree =>
        match codexSnapshotRequest tree with
        | some request => .ok (summary console.debugStr tree, request)
        | none => .error .json
  | .decideWorkspace workspace objective objectiveFile mode noProgressIterations postCompaction
      recoverableFailure printRequest =>
    match buildWorkspaceRequest console.fs workspace objective objectiveFile mode
      noProgressIterations postCompaction recoverableFailure with
    | .ok request =>
      .ok (if printRequest then [.document (Wire.encode request), .line ""] else [], request)
    | .error failure => .error (.ofWorkspace failure)

/-- Reading a snapshot prints its summary and makes its request. -/
theorem prints_readSnapshot {raw : String} {tree : Json} (hraw : console.parse raw = some tree) :
    (∃ request, codexSnapshotRequest tree = some request ∧
      Prints (console.readSnapshot raw) (.ok request) (summary console.debugStr tree)) ∨
    (codexSnapshotRequest tree = none ∧ Prints (console.readSnapshot raw) (.error .json) []) := by
  unfold readSnapshot codexSnapshotRequest summary fromStr
  rw [hraw]
  simp only [Option.bind_some]
  cases (Wire.decode tree : Option CodexSignalSnapshot) with
  | some snapshot => exact Or.inl ⟨_, rfl, prints_pure _⟩
  | none =>
    cases (Wire.decode tree : Option CodexLiveContinuationSnapshot) with
    | some live =>
      exact Or.inl ⟨_, rfl, (prints_printLiveSnapshotSummary live).bind
        ((prints_println "").bind (prints_pure _))⟩
    | none =>
      cases (Wire.decode tree : Option CodexBootstrapSnapshot) with
      | some bootstrap =>
        exact Or.inl ⟨_, rfl, (prints_printBootstrapSnapshotSummary _ bootstrap).bind
          ((prints_println "").bind (prints_pure _))⟩
      | none => exact Or.inr ⟨rfl, prints_throw _⟩

theorem prints_readToString_ok {path : Path} {raw : String}
    (h : console.fs.readToString path = .ok raw) :
    Prints (console.readToString path) (.ok raw) [] := by
  rw [readToString, h]
  exact prints_pure raw

theorem prints_readToString_error {path : Path} {e : IoError}
    (h : console.fs.readToString path = .error e) :
    Prints (console.readToString path) (.error (.io e)) [] := by
  rw [readToString, h]
  exact prints_throw _

/-- A text that is not JSON is no snapshot. -/
theorem prints_readSnapshot_none {raw : String} (h : console.parse raw = none) :
    Prints (console.readSnapshot raw) (.error .json) [] := by
  unfold readSnapshot fromStr
  rw [h]
  exact prints_throw _

/-- The command fails where it cannot be prepared, and prints nothing. Otherwise it prints
what is prepared, and then the report of the decision. -/
def RunsAsPrepared (command : Command Path) : Prop :=
  (∃ e, console.prepare command = .error e ∧ Prints (console.run command) (.error e) []) ∨
  ∃ lines request, console.prepare command = .ok (lines, request) ∧
    Prints (console.run command) (.ok ()) (lines ++ report (decideReasoningHarness request))

theorem runsAsPrepared_decideFile (path : Path) :
    console.RunsAsPrepared (.decideFile path) := by
  cases hread : console.fs.readToString path with
  | error e =>
    exact Or.inl ⟨.io e, by simp only [prepare, hread],
      (console.prints_readToString_error hread).bind_error⟩
  | ok raw =>
    have hok := console.prints_readToString_ok hread
    cases hdecode : console.fromStr ReasoningHarnessRequest raw with
    | some request =>
      refine Or.inr ⟨[], request, ?_, hok.bind ?_⟩
      · rw [fromStr] at hdecode
        simp only [prepare, hread, hdecode]
      · simp only [hdecode]
        exact prints_decideAndPrint request
    | none =>
      refine Or.inl ⟨.json, ?_, hok.bind ?_⟩
      · rw [fromStr] at hdecode
        simp only [prepare, hread, hdecode]
      · simp only [hdecode]
        exact prints_throw _

theorem runsAsPrepared_decideCodexSnapshot (path : Path) :
    console.RunsAsPrepared (.decideCodexSnapshot path) := by
  cases hread : console.fs.readToString path with
  | error e =>
    exact Or.inl ⟨.io e, by simp only [prepare, hread],
      (console.prints_readToString_error hread).bind_error⟩
  | ok raw =>
    have hok := console.prints_readToString_ok hread
    cases hparse : console.parse raw with
    | none =>
      exact Or.inl ⟨.json, by simp only [prepare, hread, hparse],
        hok.bind (console.prints_readSnapshot_none hparse).bind_error⟩
    | some tree =>
      rcases console.prints_readSnapshot hparse with ⟨request, hrequest, hprints⟩ |
        ⟨hrequest, hprints⟩
      · exact Or.inr ⟨summary console.debugStr tree, request,
          by simp only [prepare, hread, hparse, hrequest],
          hok.bind (hprints.bind (prints_decideAndPrint request))⟩
      · exact Or.inl ⟨.json, by simp only [prepare, hread, hparse, hrequest],
          hok.bind hprints.bind_error⟩

theorem runsAsPrepared_decideWorkspace (workspace : Path) (objective : Option String)
    (objectiveFile : Option Path) (mode : String) (noProgressIterations : UInt32)
    (postCompaction recoverableFailure printRequest : Bool) :
    console.RunsAsPrepared (.decideWorkspace workspace objective objectiveFile mode
      noProgressIterations postCompaction recoverableFailure printRequest) := by
  cases hbuild : buildWorkspaceRequest console.fs workspace objective objectiveFile mode
    noProgressIterations postCompaction recoverableFailure with
  | error failure =>
    refine Or.inl ⟨.ofWorkspace failure, by simp only [prepare, hbuild], ?_⟩
    simp only [run, makeWorkspaceRequest, hbuild]
    exact (prints_throw _).bind_error
  | ok request =>
    refine Or.inr ⟨if printRequest then [.document (Wire.encode request), .line ""] else [],
      request, by simp only [prepare, hbuild], ?_⟩
    simp only [run, makeWorkspaceRequest, hbuild]
    cases printRequest with
    | false => exact (prints_pure request).bind (prints_decideAndPrint request)
    | true =>
      exact (prints_pure request).bind ((prints_printDocument _).bind
        ((prints_println "").bind (prints_decideAndPrint request)))

theorem runsAsPrepared : ∀ command : Command Path, console.RunsAsPrepared command
  | .decideSample scenario => Or.inr ⟨[], sampleRequest scenario, rfl, prints_decideAndPrint _⟩
  | .decideFile path => console.runsAsPrepared_decideFile path
  | .decideCodexSnapshot path => console.runsAsPrepared_decideCodexSnapshot path
  | .decideWorkspace .. => console.runsAsPrepared_decideWorkspace ..

/-- Each command fails before it prints, or prints what it prepares and then its report. -/
theorem exec_eq (command : Command Path) :
    console.exec command = match console.prepare command with
      | .error e => (.error e, [])
      | .ok (lines, request) => (.ok (), lines ++ report (decideReasoningHarness request)) := by
  rcases console.runsAsPrepared command with ⟨e, hprepare, hprints⟩ |
    ⟨lines, request, hprepare, hprints⟩
  · rw [hprepare]
    exact hprints []
  · rw [hprepare]
    exact hprints []

end Console

end Muldex
