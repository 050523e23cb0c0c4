import Std.Data.String.ToNat
import Muldex.Commands
import Muldex.Text

/-!
# What the commands print

Read off `Console.exec_eq` : a failed command has printed nothing, and a successful one ends
with the decision as a document that is read back as the decision (`exec_ends`). The text for
the operator, up to the blank line, says as much as the document if the rationale is one line,
which it always is (`stdout_decisionLines_inj`). The request that `decide-workspace` prints can
be kept in a file and decided again, with the same report (`exec_printed_request`).

The first line of `decide-codex-snapshot` tells whether the document was read as a live or a
bootstrap snapshot, and if it was the decision is always the same
(`exec_decideCodexSnapshot`). The decision of `decide-workspace` depends on two of its flags
(`exec_decideWorkspace`).
-/

namespace Muldex

open Serde

namespace Console

variable {Path IoError : Type} (console : Console Path IoError)

/-! ## How a command ends -/

theorem getLast?_report (lines : List Output) (decision : ReasoningHarnessDecision) :
    (lines ++ report decision).getLast? = some (.document (Wire.encode decision)) := by
  rw [report, ← List.append_assoc, List.getLast?_append]
  rfl

/-- How a command ends. One that fails has printed nothing. One that succeeds has decided
the request it prepared, and ends with a document that is read back as that decision. -/
theorem exec_ends (command : Command Path) :
    (∀ e, (console.exec command).1 = .error e →
      (console.exec command).2 = [] ∧ console.prepare command = .error e) ∧
    ((console.exec command).1 = .ok () → ∃ lines request,
      console.prepare command = .ok (lines, request) ∧
        (console.exec command).2 = lines ++ report (decideReasoningHarness request) ∧
        ∃ tree, (console.exec command).2.getLast? = some (.document tree) ∧
          Wire.decode tree = some (decideReasoningHarness request)) := by
  rw [exec_eq]
  cases hprepare : console.prepare command with
  | error e =>
    refine ⟨fun e' he' => ⟨rfl, ?_⟩, nofun⟩
    rw [Except.error.inj he']
  | ok prepared =>
    obtain ⟨lines, request⟩ := prepared
    exact ⟨nofun, fun _ => ⟨lines, request, rfl, rfl, _, getLast?_report _ _,
      Wire.decode_encode _⟩⟩

/-- A console on which every path is a directory and no file can be read. -/
def directoryConsole : Console String Unit :=
  ⟨directoriesOnly, fun _ => none, fun text => "\"" ++ text ++ "\""⟩

/-- A file that cannot be read is an error, and nothing is printed. -/
theorem exec_ends_unreadable :
    (directoryConsole.exec (.decideFile "request.json")).2 = [] ∧
      directoryConsole.prepare (.decideFile "request.json") = .error (.io ()) :=
  (directoryConsole.exec_ends (.decideFile "request.json")).1 _ rfl

end Console

/-! ## The lines of a decision -/

theorem ContinueMode.text_injective : Function.Injective ContinueMode.text := by
  intro mode mode' h
  cases mode <;> cases mode' <;> first | rfl | exact absurd h (by decide)

theorem toString_bool_injective : Function.Injective (toString : Bool → String) := by
  intro b b' h
  cases b <;> cases b' <;> first | rfl | exact absurd h (by decide)

theorem ProhibitionRule.debug_injective : Function.Injective ProhibitionRule.debug := by
  intro rule rule' h
  have hrule := Variants.find_name rule
  have hname : Variants.name rule = Variants.name rule' := h
  rw [hname, Variants.find_name] at hrule
  exact (Option.some.inj hrule).symm

/-- No rule's name has a comma. -/
theorem ProhibitionRule.comma_not_mem_debug (rule : ProhibitionRule) :
    ',' ∉ rule.debug.toList := by
  cases rule <;> decide

/-- Lists of rules are told apart by their `Debug` text. -/
theorem debugList_injective {rules rules' : List ProhibitionRule} (hne : rules ≠ [])
    (hne' : rules' ≠ [])
    (h : debugList (rules.map ProhibitionRule.debug) =
      debugList (rules'.map ProhibitionRule.debug)) : rules = rules' := by
  have hcomma (rules : List ProhibitionRule) :
      ∀ word ∈ (rules.map ProhibitionRule.debug).map String.toList, ',' ∉ word := by
    simp only [List.mem_map, exists_exists_and_eq_and]
    rintro word ⟨rule, -, rfl⟩
    exact rule.comma_not_mem_debug
  rw [debugList, debugList, String.append_left_inj, String.append_right_inj] at h
  have hlists := congrArg String.toList h
  rw [String.toList_intercalate, String.toList_intercalate] at hlists
  have hsep : ", ".toList = ',' :: [' '] := by decide
  rw [hsep] at hlists
  have hwords := Text.intercalate_inj (hcomma rules) (hcomma rules') (by simpa using hne)
    (by simpa using hne') hlists
  exact List.map_injective_iff.mpr ProhibitionRule.debug_injective
    (List.map_injective_iff.mpr (fun _ _ h => String.toList_inj.mp h) hwords)

/-! ## The text of the output -/

/-- The text of the standard output : what each call prints, ended by a line break. `pretty` is
the text of a document. -/
def stdout (pretty : Json → String) : List Output → String
  | [] => ""
  | .line text :: out => text ++ "\n" ++ stdout pretty out
  | .document tree :: out => pretty tree ++ "\n" ++ stdout pretty out

/-- The text has no line break. -/
def OneLine (text : String) : Prop :=
  '\n' ∉ text.toList

instance : DecidablePred OneLine := fun _ => inferInstanceAs (Decidable (¬_))

theorem OneLine.append {text text' : String} (h : OneLine text) (h' : OneLine text') :
    OneLine (text ++ text') := by
  rw [OneLine, String.toList_append, List.mem_append]
  exact not_or.mpr ⟨h, h'⟩

/-- The first line of the output can be told from the rest if it has no line break. -/
theorem stdout_line_inj {pretty pretty' : Json → String} {text text' : String}
    {out out' : List Output} (h : OneLine text) (h' : OneLine text') :
    stdout pretty (.line text :: out) = stdout pretty' (.line text' :: out') ↔
      text = text' ∧ stdout pretty out = stdout pretty' out' := by
  have hlines : text.toList ++ '\n' :: (stdout pretty out).toList =
      text'.toList ++ '\n' :: (stdout pretty' out').toList ↔
      text.toList = text'.toList ∧ (stdout pretty out).toList = (stdout pretty' out').toList :=
    Text.append_cons_inj h h'
  rw [String.toList_inj, String.toList_inj] at hlines
  rw [← hlines, stdout, stdout, ← String.toList_inj]
  simp [String.toList_append]

theorem ContinueMode.oneLine_text (mode : ContinueMode) : OneLine mode.text := by
  cases mode <;> decide

theorem oneLine_toString_bool (b : Bool) : OneLine (toString b) := by
  cases b <;> decide

theorem oneLine_debugList (rules : List ProhibitionRule) :
    OneLine (debugList (rules.map ProhibitionRule.debug)) := by
  have hwords : ∀ word ∈ (rules.map ProhibitionRule.debug).map String.toList, '\n' ∉ word := by
    simp only [List.mem_map, exists_exists_and_eq_and]
    rintro word ⟨rule, -, rfl⟩
    cases rule <;> decide
  refine (OneLine.append (by decide) ?_).append (by decide)
  rw [OneLine, String.toList_intercalate]
  exact Text.not_mem_intercalate (by decide) hwords

/-- The rules of a decision can be read off the line that lists them, or off its absence. -/
theorem stdout_rules_inj {pretty pretty' : Json → String} {rules rules' : List ProhibitionRule}
    {rest rest' : List Output} :
    stdout pretty ((if rules.isEmpty then []
        else [.line ("violated_rules: " ++ debugList (rules.map ProhibitionRule.debug))]) ++
          .line "" :: rest) =
      stdout pretty' ((if rules'.isEmpty then []
        else [.line ("violated_rules: " ++ debugList (rules'.map ProhibitionRule.debug))]) ++
          .line "" :: rest') ↔
      rules = rules' ∧ stdout pretty rest = stdout pretty' rest' := by
  have hblank : OneLine "" := by decide
  have hlisted (rules : List ProhibitionRule) :
      OneLine ("violated_rules: " ++ debugList (rules.map ProhibitionRule.debug)) :=
    OneLine.append (by decide) (oneLine_debugList rules)
  have hne (rules : List ProhibitionRule) :
      "violated_rules: " ++ debugList (rules.map ProhibitionRule.debug) ≠ "" := by
    simp
  rcases rules with _ | ⟨rule, rules⟩ <;> rcases rules' with _ | ⟨rule', rules'⟩ <;>
    simp only [List.isEmpty_nil, List.isEmpty_cons, if_true, Bool.false_eq_true, if_false,
      List.nil_append, List.cons_append]
  · rw [stdout_line_inj hblank hblank]
    simp
  · rw [stdout_line_inj hblank (hlisted _)]
    exact iff_of_false (fun h => hne _ h.1.symm) (fun h => nomatch h.1)
  · rw [stdout_line_inj (hlisted _) hblank]
    exact iff_of_false (fun h => hne _ h.1) (fun h => nomatch h.1)
  · rw [stdout_line_inj (hlisted _) (hlisted _), stdout_line_inj hblank hblank,
      String.append_right_inj]
    constructor
    · rintro ⟨hrules, -, hrest⟩
      exact ⟨debugList_injective (List.cons_ne_nil _ _) (List.cons_ne_nil _ _) hrules, hrest⟩
    · rintro ⟨hrules, hrest⟩
      rw [hrules]
      exact ⟨rfl, rfl, hrest⟩

/-- What is printed of a decision up to the blank line says all there is to it, if the
rationales are one line each. -/
theorem stdout_decisionLines_iff {pretty pretty' : Json → String}
    {decision decision' : ReasoningHarnessDecision} {rest rest' : List Output}
    (h : OneLine decision.rationale) (h' : OneLine decision'.rationale) :
    stdout pretty (decisionLines decision ++ .line "" :: rest) =
        stdout pretty' (decisionLines decision' ++ .line "" :: rest') ↔
      decision = decision' ∧ stdout pretty rest = stdout pretty' rest' := by
  obtain ⟨mode, rationale, checkpoint, correction, rules⟩ := decision
  obtain ⟨mode', rationale', checkpoint', correction', rules'⟩ := decision'
  have hmode (mode : ContinueMode) : OneLine ("mode: " ++ mode.text) :=
    OneLine.append (by decide) mode.oneLine_text
  have hcheckpoint (b : Bool) : OneLine ("checkpoint: " ++ toString b) :=
    OneLine.append (by decide) (oneLine_toString_bool b)
  have hcorrection (b : Bool) : OneLine ("self_correction: " ++ toString b) :=
    OneLine.append (by decide) (oneLine_toString_bool b)
  have hrationale {text : String} (h : OneLine text) : OneLine ("rationale: " ++ text) :=
    OneLine.append (by decide) h
  simp only [decisionLines, List.cons_append, List.nil_append]
  rw [stdout_line_inj (hmode _) (hmode _), stdout_line_inj (hcheckpoint _) (hcheckpoint _),
    stdout_line_inj (hcorrection _) (hcorrection _),
    stdout_line_inj (hrationale h) (hrationale h'), stdout_rules_inj]
  simp only [String.append_right_inj, ContinueMode.text_injective.eq_iff,
    toString_bool_injective.eq_iff, ReasoningHarnessDecision.mk.injEq]
  tauto

/-- The harness gives its reasons in one line. -/
theorem oneLine_rationale (request : ReasoningHarnessRequest) :
    OneLine (decideReasoningHarness request).rationale := by
  rcases ReasoningHarness.decideReasoningHarness_cases request with ⟨-, hd⟩ | ⟨-, -, hd⟩ |
    ⟨-, -, hd⟩ <;> rw [hd] <;> dsimp only <;> decide

/-- The text for the operator determines the decision. Whatever documents look like and
whatever follows the blank line, two decisions whose rationales are one line each are printed
as the same text only if they are equal and the same follows, and the harness gives no other
decisions. -/
theorem stdout_decisionLines_inj (pretty pretty' : Json → String) (rest rest' : List Output) :
    (∀ decision decision' : ReasoningHarnessDecision,
      OneLine decision.rationale → OneLine decision'.rationale →
        (stdout pretty (decisionLines decision ++ .line "" :: rest) =
            stdout pretty' (decisionLines decision' ++ .line "" :: rest') ↔
          decision = decision' ∧ stdout pretty rest = stdout pretty' rest')) ∧
    ∀ request request' : ReasoningHarnessRequest,
      stdout pretty (decisionLines (decideReasoningHarness request) ++ .line "" :: rest) =
          stdout pretty' (decisionLines (decideReasoningHarness request') ++ .line "" :: rest') ↔
        decideReasoningHarness request = decideReasoningHarness request' ∧
          stdout pretty rest = stdout pretty' rest' :=
  ⟨fun _ _ => stdout_decisionLines_iff,
    fun request request' =>
      stdout_decisionLines_iff (oneLine_rationale request) (oneLine_rationale request')⟩

/-- A decision and the same one with a rule violated are printed as different texts. -/
theorem stdout_decisionLines_inj_faking :
    stdout (fun _ => "") (decisionLines steadyDecision ++ [.line ""]) ≠
      stdout (fun _ => "") (decisionLines { steadyDecision with
        violatedRules := [.noFakeProgress] } ++ [.line ""]) := by
  intro h
  have hsame := ((stdout_decisionLines_inj _ _ [] []).1 _ _ (by decide) (by decide)).mp h
  exact absurd (congrArg ReasoningHarnessDecision.violatedRules hsame.1) (by decide)

/-- A rationale of two lines can pass for a rationale of one and a list of rules. -/
example :
    stdout (fun _ => "") (decisionLines
        ⟨.nextTurn, "go on\nviolated_rules: [NoFakeProgress]", false, false, []⟩) =
      stdout (fun _ => "") (decisionLines
        ⟨.nextTurn, "go on", false, false, [.noFakeProgress]⟩) := by
  decide

namespace Console

variable {Path IoError Path' IoError' : Type} (console : Console Path IoError)

/-! ## Deciding a printed request again -/

/-- A workspace command that prints its request prints it first. -/
theorem exec_decideWorkspace_printRequest {workspace : Path} {objective : Option String}
    {objectiveFile : Option Path} {mode : String} {noProgressIterations : UInt32}
    {postCompaction recoverableFailure : Bool}
    (hok : (console.exec (.decideWorkspace workspace objective objectiveFile mode
      noProgressIterations postCompaction recoverableFailure true)).1 = .ok ()) :
    ∃ request : ReasoningHarnessRequest,
      (console.exec (.decideWorkspace workspace objective objectiveFile mode
        noProgressIterations postCompaction recoverableFailure true)).2 =
          .document (Wire.encode request) :: .line "" ::
            report (decideReasoningHarness request) := by
  rw [exec_eq, prepare] at hok ⊢
  cases hbuild : buildWorkspaceRequest console.fs workspace objective objectiveFile mode
    noProgressIterations postCompaction recoverableFailure with
  | error failure =>
    rw [hbuild] at hok
    cases hok
  | ok request => exact ⟨request, rfl⟩

/-- A file that holds a reordering of a request's document is decided as that request. -/
theorem exec_decideFile_of_reordered {request : ReasoningHarnessRequest} {tree : Json}
    (htree : Reordered (Wire.encode request) tree) {path : Path} {raw : String}
    (hread : console.fs.readToString path = .ok raw) (hparse : console.parse raw = some tree) :
    console.exec (.decideFile path) = (.ok (), report (decideReasoningHarness request)) := by
  have hdecode : (Wire.decode tree : Option ReasoningHarnessRequest) = some request :=
    decode_of_reordered_encode htree
  rw [exec_eq]
  simp only [prepare, hread, hparse, Option.bind_some, hdecode, List.nil_append]

/-- A printed request can be decided again. Whatever `decide-workspace --print-request`
prints first is a document, and `decide-file` on any file, of any file system, that holds
this document, with its members in any order, prints exactly what followed. -/
theorem exec_printed_request {workspace : Path} {objective : Option String}
    {objectiveFile : Option Path} {mode : String} {noProgressIterations : UInt32}
    {postCompaction recoverableFailure : Bool}
    (hok : (console.exec (.decideWorkspace workspace objective objectiveFile mode
      noProgressIterations postCompaction recoverableFailure true)).1 = .ok ()) :
    ∃ tree rest, (console.exec (.decideWorkspace workspace objective objectiveFile mode
        noProgressIterations postCompaction recoverableFailure true)).2 =
          .document tree :: .line "" :: rest ∧
      ∀ (console' : Console Path' IoError') (path : Path') (raw : String) (tree' : Json),
        console'.fs.readToString path = .ok raw → console'.parse raw = some tree' →
        Reordered tree tree' → console'.exec (.decideFile path) = (.ok (), rest) := by
  obtain ⟨request, hout⟩ := console.exec_decideWorkspace_printRequest hok
  exact ⟨_, _, hout, fun console' _ _ _ hread hparse htree =>
    console'.exec_decideFile_of_reordered htree hread hparse⟩

/-- The request of a workspace after one iteration without progress. -/
theorem exec_printed_request_directory :
    ∃ tree rest, (directoryConsole.exec (.decideWorkspace "workspaces/muldex"
        (some "Continue the task") none "build" 1 false false true)).2 =
          .document tree :: .line "" :: rest ∧
      ∀ (console' : Console String Unit) (path raw : String) (tree' : Json),
        console'.fs.readToString path = .ok raw → console'.parse raw = some tree' →
        Reordered tree tree' → console'.exec (.decideFile path) = (.ok (), rest) :=
  directoryConsole.exec_printed_request rfl

/-! ## Snapshots -/

/-- A snapshot that is not a signal snapshot is decided as every other one. -/
theorem decideReasoningHarness_of_not_signal {tree : Json} {request : ReasoningHarnessRequest}
    (hsignal : (Wire.decode tree : Option CodexSignalSnapshot) = none)
    (h : codexSnapshotRequest tree = some request) :
    decideReasoningHarness request = steadyDecision := by
  unfold codexSnapshotRequest at h
  rw [hsignal] at h
  cases hlive : (Wire.decode tree : Option CodexLiveContinuationSnapshot) with
  | some live =>
    rw [hlive] at h
    obtain rfl := Option.some.inj h
    exact (steady_codexLiveSnapshot live).decideReasoningHarness_eq
  | none =>
    rw [hlive] at h
    obtain ⟨bootstrap, -, rfl⟩ := Option.map_eq_some_iff.mp h
    exact (steady_codexBootstrapSnapshot bootstrap).decideReasoningHarness_eq

/-- The summary of a snapshot that is read begins with the kind it is read as, unless it is
read as a signal snapshot, which has none. -/
theorem head?_summary (debugStr : String → String) {tree : Json}
    {request : ReasoningHarnessRequest} (h : codexSnapshotRequest tree = some request) :
    ((Wire.decode tree : Option CodexSignalSnapshot).isSome = true ∧ summary debugStr tree = []) ∨
    ((Wire.decode tree : Option CodexSignalSnapshot) = none ∧
      (Wire.decode tree : Option CodexLiveContinuationSnapshot).isSome = true ∧
      (summary debugStr tree).head? = some (.line "snapshot.kind: codex-live")) ∨
    ((Wire.decode tree : Option CodexSignalSnapshot) = none ∧
      (Wire.decode tree : Option CodexLiveContinuationSnapshot) = none ∧
      (summary debugStr tree).head? = some (.line "snapshot.kind: codex-bootstrap")) := by
  unfold codexSnapshotRequest at h
  unfold summary
  cases hsignal : (Wire.decode tree : Option CodexSignalSnapshot) with
  | some snapshot => exact Or.inl ⟨rfl, rfl⟩
  | none =>
    rw [hsignal] at h
    cases hlive : (Wire.decode tree : Option CodexLiveContinuationSnapshot) with
    | some live => exact Or.inr (Or.inl ⟨rfl, rfl, rfl⟩)
    | none =>
      rw [hlive] at h
      obtain ⟨bootstrap, hbootstrap, -⟩ := Option.map_eq_some_iff.mp h
      rw [hbootstrap]
      exact Or.inr (Or.inr ⟨rfl, rfl, rfl⟩)

/-- A report begins with the mode. -/
theorem head?_report (decision : ReasoningHarnessDecision) :
    (report decision).head? = some (.line ("mode: " ++ decision.mode.text)) :=
  rfl

/-- A mode line is not the line of a kind. -/
theorem mode_line_ne_kind (mode : ContinueMode) :
    "mode: " ++ mode.text ≠ "snapshot.kind: codex-live" ∧
      "mode: " ++ mode.text ≠ "snapshot.kind: codex-bootstrap" := by
  cases mode <;> decide

/-- Which first line a snapshot that is read is answered with. -/
theorem head?_summary_append_iff (debugStr : String → String) {tree : Json}
    {request : ReasoningHarnessRequest} (h : codexSnapshotRequest tree = some request)
    (decision : ReasoningHarnessDecision) :
    ((summary debugStr tree ++ report decision).head? =
        some (.line "snapshot.kind: codex-live") ↔
      (Wire.decode tree : Option CodexSignalSnapshot) = none ∧
        (Wire.decode tree : Option CodexLiveContinuationSnapshot).isSome = true) ∧
    ((summary debugStr tree ++ report decision).head? =
        some (.line "snapshot.kind: codex-bootstrap") ↔
      (Wire.decode tree : Option CodexSignalSnapshot) = none ∧
        (Wire.decode tree : Option CodexLiveContinuationSnapshot) = none) := by
  rw [List.head?_append]
  rcases head?_summary debugStr h with ⟨hsignal, hnone⟩ | ⟨hsignal, hlive, hline⟩ |
    ⟨hsignal, hlive, hline⟩
  · rw [hnone, List.head?_nil, Option.none_or, head?_report]
    simp [mode_line_ne_kind, Option.isSome_iff_ne_none.mp hsignal]
  · rw [hline]
    simp [hsignal, hlive, Option.isSome_iff_ne_none.mp hlive]
  · rw [hline]
    simp [hsignal, hlive]

/-- The first line of a successful `decide-codex-snapshot` tells how the document was read. It
names the live kind exactly when the document is not read as a signal snapshot but as a live
one, and the bootstrap kind exactly when it is read as neither. In both cases the decision is
the steady one, whatever was observed. Otherwise there is no summary, and the report is that
of the signal snapshot. -/
theorem exec_decideCodexSnapshot (path : Path)
    (hok : (console.exec (.decideCodexSnapshot path)).1 = .ok ()) :
    ∃ raw tree, console.fs.readToString path = .ok raw ∧ console.parse raw = some tree ∧
      ((console.exec (.decideCodexSnapshot path)).2.head? =
          some (.line "snapshot.kind: codex-live") ↔
        (Wire.decode tree : Option CodexSignalSnapshot) = none ∧
          (Wire.decode tree : Option CodexLiveContinuationSnapshot).isSome = true) ∧
      ((console.exec (.decideCodexSnapshot path)).2.head? =
          some (.line "snapshot.kind: codex-bootstrap") ↔
        (Wire.decode tree : Option CodexSignalSnapshot) = none ∧
          (Wire.decode tree : Option CodexLiveContinuationSnapshot) = none) ∧
      ((Wire.decode tree : Option CodexSignalSnapshot) = none → ∃ lines,
        (console.exec (.decideCodexSnapshot path)).2 = lines ++ report steadyDecision) ∧
      ∀ snapshot : CodexSignalSnapshot, Wire.decode tree = some snapshot →
        (console.exec (.decideCodexSnapshot path)).2 = report (signalDecision snapshot) := by
  rw [exec_eq, prepare] at hok ⊢
  cases hread : console.fs.readToString path with
  | error e => rw [hread] at hok; cases hok
  | ok raw =>
    cases hparse : console.parse raw with
    | none => simp only [hread, hparse] at hok; cases hok
    | some tree =>
      cases hrequest : codexSnapshotRequest tree with
      | none => simp only [hread, hparse, hrequest] at hok; cases hok
      | some request =>
        have hfirst := head?_summary_append_iff console.debugStr hrequest
          (decideReasoningHarness request)
        refine ⟨raw, tree, rfl, hparse, ?_, ?_, ?_, ?_⟩ <;> simp only [hparse, hrequest]
        · exact hfirst.1
        · exact hfirst.2
        · intro hsignal
          exact ⟨_, by rw [decideReasoningHarness_of_not_signal hsignal hrequest]⟩
        · intro snapshot hsnapshot
          unfold codexSnapshotRequest at hrequest
          unfold summary
          rw [hsnapshot] at hrequest ⊢
          obtain rfl := Option.some.inj hrequest
          rfl

/-- A console on which every file holds one live snapshot. -/
def liveConsole : Console String Unit :=
  ⟨{ directoriesOnly with readToString := fun _ => .ok "live" },
    fun _ => some (Wire.encode (liveSnapshot 7)), fun text => "\"" ++ text ++ "\""⟩

/-- A live snapshot is answered with its summary and the steady decision. -/
theorem exec_decideCodexSnapshot_live :
    (liveConsole.exec (.decideCodexSnapshot "codex-live-snapshot.json")).2.head? =
        some (.line "snapshot.kind: codex-live") ∧
      ∃ lines, (liveConsole.exec (.decideCodexSnapshot "codex-live-snapshot.json")).2 =
        lines ++ report steadyDecision := by
  obtain ⟨raw, tree, -, hparse, hlive, -, hsteady, -⟩ :=
    liveConsole.exec_decideCodexSnapshot "codex-live-snapshot.json" rfl
  obtain rfl : Wire.encode (liveSnapshot 7) = tree := Option.some.inj hparse
  exact ⟨hlive.mpr ⟨rfl, rfl⟩, hsteady rfl⟩

/-! ## Workspaces -/

end Console

/-- The decision of `decide-workspace`, from the two flags it depends on. -/
def workspaceDecision (noProgressIterations : UInt32) (recoverableFailure : Bool) :
    ReasoningHarnessDecision where
  mode :=
    if 3 ≤ noProgressIterations then .handoff
    else if recoverableFailure then .sameTurn
    else .nextTurn
  rationale :=
    if 3 ≤ noProgressIterations then "reasoning harness blocked further low-value continuation"
    else if recoverableFailure then "enter self-correction under harness policy"
    else "continue under harness policy"
  shouldCheckpoint := 3 ≤ noProgressIterations
  shouldEnterSelfCorrection := !(3 ≤ noProgressIterations : Bool) && recoverableFailure
  violatedRules :=
    (if 3 ≤ noProgressIterations then [.noRepeatedNoProgressContinuation] else []) ++
      if recoverableFailure then [.noFakeProgress] else []

section

variable {Path IoError : Type} (fs : FileSystem Path IoError) (workspace : Path)
  (text mode : String) (noProgressIterations : UInt32) (postCompaction recoverableFailure : Bool)

theorem violatedRules_workspaceRequest :
    (workspaceRequest fs workspace text mode noProgressIterations postCompaction
      recoverableFailure).violatedRules =
        (workspaceDecision noProgressIterations recoverableFailure).violatedRules := by
  cases postCompaction <;> cases recoverableFailure <;>
    simp [workspaceRequest, workspaceDecision, sampleRequest, healthyRequest,
      ReasoningHarnessRequest.withNoProgress, ReasoningHarnessRequest.withPostCompaction,
      ReasoningHarnessRequest.withToolFailure, ReasoningHarnessRequest.violatedRules,
      ReasoningHarnessRequest.noProgressViolation]

theorem shouldEnterSelfCorrection_workspaceRequest :
    (workspaceRequest fs workspace text mode noProgressIterations postCompaction
      recoverableFailure).shouldEnterSelfCorrection = recoverableFailure := by
  cases postCompaction <;> cases recoverableFailure <;> rfl

/-- Three steps are done, so no checkpoint is due below the limit. -/
theorem decideReasoningHarness_workspaceRequest :
    decideReasoningHarness (workspaceRequest fs workspace text mode noProgressIterations
      postCompaction recoverableFailure) =
        workspaceDecision noProgressIterations recoverableFailure := by
  have hlimit := handoff_workspaceRequest_iff fs workspace text mode noProgressIterations
    postCompaction recoverableFailure
  have hrules := violatedRules_workspaceRequest fs workspace text mode noProgressIterations
    postCompaction recoverableFailure
  have henters := shouldEnterSelfCorrection_workspaceRequest fs workspace text mode
    noProgressIterations postCompaction recoverableFailure
  have hsteps : (workspaceRequest fs workspace text mode noProgressIterations postCompaction
      recoverableFailure).progress.completedSteps = 3 := by
    cases postCompaction <;> cases recoverableFailure <;> rfl
  have hcheckpoint : (workspaceRequest fs workspace text mode noProgressIterations postCompaction
      recoverableFailure).escalationPolicy.requestCheckpointBeforeHandoff = true := by
    cases postCompaction <;> cases recoverableFailure <;> rfl
  rw [ReasoningHarness.handoff_iff_stopped] at hlimit
  rcases ReasoningHarness.decideReasoningHarness_cases (workspaceRequest fs workspace text mode
    noProgressIterations postCompaction recoverableFailure) with ⟨hstopped, hd⟩ |
      ⟨hnot, henter, hd⟩ | ⟨hnot, hstays, hd⟩
  · have hthree := hlimit.mp hstopped
    rw [hd, hrules, hcheckpoint]
    simp [workspaceDecision, hthree]
  · have hbelow := hlimit.not.mp hnot
    obtain rfl : recoverableFailure = true := henters.symm.trans henter
    rw [hd, hrules, hsteps]
    simp [workspaceDecision, hbelow]
  · have hbelow := hlimit.not.mp hnot
    obtain rfl : recoverableFailure = false := henters.symm.trans hstays
    rw [hd, hrules, hsteps]
    simp [workspaceDecision, hbelow]

end

namespace Console

variable {Path IoError : Type} (console : Console Path IoError)

/-- What `decide-workspace` does. It fails on a path that is no directory, then on an
objective that is missing, given twice or not readable, and prints nothing. Otherwise it
prints the request if asked to, and a decision that depends on two of its flags : the
iterations without progress and the recoverable failure. -/
theorem exec_decideWorkspace (workspace : Path) (objective : Option String)
    (objectiveFile : Option Path) (mode : String) (noProgressIterations : UInt32)
    (postCompaction recoverableFailure printRequest : Bool) :
    console.exec (.decideWorkspace workspace objective objectiveFile mode noProgressIterations
      postCompaction recoverableFailure printRequest) =
    if console.fs.pathExists workspace = false ∨ console.fs.isDir workspace = false then
      (.error (.message ("workspace does not exist or is not a directory: " ++
        console.fs.display workspace)), [])
    else
      match readObjective console.fs objective objectiveFile with
      | .error failure => (.error (.ofWorkspace failure), [])
      | .ok text =>
        (.ok (), (if printRequest then
            [.document (Wire.encode (workspaceRequest console.fs workspace text mode
              noProgressIterations postCompaction recoverableFailure)), .line ""]
          else []) ++ report (workspaceDecision noProgressIterations recoverableFailure)) := by
  rw [exec_eq, prepare, buildWorkspaceRequest]
  by_cases hmissing : console.fs.pathExists workspace = false ∨ console.fs.isDir workspace = false
  · have hguard : (!console.fs.pathExists workspace || !console.fs.isDir workspace) = true := by
      simpa using hmissing
    rw [if_pos hguard, if_pos hmissing]
    rfl
  · have hguard : ¬(!console.fs.pathExists workspace || !console.fs.isDir workspace) = true := by
      simpa using hmissing
    rw [if_neg hguard, if_neg hmissing]
    cases readObjective console.fs objective objectiveFile with
    | error failure => rfl
    | ok text =>
      rw [← decideReasoningHarness_workspaceRequest console.fs workspace text mode
        noProgressIterations postCompaction recoverableFailure]
      rfl

end Console

/-! ## White space around an objective -/

/-- The text is white space. -/
def IsBlank (text : String) : Prop :=
  ∀ c ∈ text.toList, isWhitespace c = true

theorem trim_eq (text : String) : trim text = .ofList (Text.trimmed isWhitespace text.toList) :=
  rfl

theorem trim_append {front text back : String} (hfront : IsBlank front) (hback : IsBlank back) :
    trim (front ++ text ++ back) = trim text := by
  rw [trim_eq, trim_eq, String.toList_append, String.toList_append,
    Text.trimmed_append hfront hback]

theorem trim_trim (text : String) : trim (trim text) = trim text := by
  rw [trim_eq, trim_eq, String.toList_ofList, Text.trimmed_trimmed]

/-- What is trimmed is blank. -/
theorem exists_eq_append_trim (text : String) :
    ∃ front back, text = front ++ trim text ++ back ∧ IsBlank front ∧ IsBlank back := by
  obtain ⟨front, back, htext, hfront, hback⟩ :=
    Text.exists_eq_append_trimmed isWhitespace text.toList
  refine ⟨.ofList front, .ofList back, ?_, ?_, ?_⟩
  · rw [← String.toList_inj, String.toList_append, String.toList_append, trim_eq]
    simp only [String.toList_ofList]
    exact htext
  · rwa [IsBlank, String.toList_ofList]
  · rwa [IsBlank, String.toList_ofList]

theorem objective_workspaceRequest {Path IoError : Type} (fs : FileSystem Path IoError)
    (workspace : Path) (text mode : String) (noProgressIterations : UInt32)
    (postCompaction recoverableFailure : Bool) :
    (workspaceRequest fs workspace text mode noProgressIterations postCompaction
      recoverableFailure).objective = trim text := by
  cases postCompaction <;> cases recoverableFailure <;> rfl

/-- The text is read up to white space around it. -/
theorem workspaceRequest_congr {Path IoError : Type} (fs : FileSystem Path IoError)
    (workspace : Path) {text text' : String} (h : trim text = trim text') (mode : String)
    (noProgressIterations : UInt32) (postCompaction recoverableFailure : Bool) :
    workspaceRequest fs workspace text mode noProgressIterations postCompaction
        recoverableFailure =
      workspaceRequest fs workspace text' mode noProgressIterations postCompaction
        recoverableFailure := by
  rw [workspaceRequest, workspaceRequest, h]

/-- White space around an objective is lost, and nothing else. The objective of an accepted
request is the text that was given or read, without white space at either end, and given as
text again, with any white space around it, it makes the same request. -/
theorem objective_of_workspaceRequest {Path IoError : Type} {fs : FileSystem Path IoError}
    {workspace : Path} {objective : Option String} {objectiveFile : Option Path} {mode : String}
    {noProgressIterations : UInt32} {postCompaction recoverableFailure : Bool}
    {request : ReasoningHarnessRequest}
    (h : buildWorkspaceRequest fs workspace objective objectiveFile mode noProgressIterations
      postCompaction recoverableFailure = .ok request) :
    (∃ text front back, readObjective fs objective objectiveFile = .ok text ∧
      text = front ++ request.objective ++ back ∧ IsBlank front ∧ IsBlank back) ∧
    (∀ c ∈ request.objective.toList.head?, isWhitespace c = false) ∧
    (∀ c ∈ request.objective.toList.getLast?, isWhitespace c = false) ∧
    ∀ front back, IsBlank front → IsBlank back →
      buildWorkspaceRequest fs workspace (some (front ++ request.objective ++ back)) none mode
        noProgressIterations postCompaction recoverableFailure = .ok request := by
  obtain ⟨text, hread, rfl⟩ := exists_of_buildWorkspaceRequest h
  rw [objective_workspaceRequest]
  obtain ⟨front, back, htext, hfront, hback⟩ := exists_eq_append_trim text
  have hends := Text.not_of_mem_ends_trimmed (p := isWhitespace) text.toList
  rw [trim_eq, String.toList_ofList, ← trim_eq]
  refine ⟨⟨text, front, back, hread, htext, hfront, hback⟩, hends.1, hends.2, ?_⟩
  intro front' back' hfront' hback'
  have htrim : trim (front' ++ trim text ++ back') = trim text :=
    (trim_append hfront' hback').trans (trim_trim text)
  unfold buildWorkspaceRequest at h ⊢
  split_ifs at h ⊢ with hdir
  rw [← workspaceRequest_congr fs workspace htrim]
  rfl

/-- The objective of a request with the sample objective, padded. -/
theorem objective_of_workspaceRequest_padded :
    buildWorkspaceRequest directoriesOnly "workspaces/muldex"
        (some (" " ++ (postCompactionRequest 2).objective ++ "\n")) none "build" 2 true false =
      .ok (postCompactionRequest 2) :=
  (objective_of_workspaceRequest (buildWorkspaceRequest_postCompaction 2)).2.2.2 " " "\n"
    (by simp [IsBlank, isWhitespace]) (by simp [IsBlank, isWhitespace])

end Muldex
