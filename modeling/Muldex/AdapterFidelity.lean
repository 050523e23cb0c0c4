import Muldex.UpstreamAdapter

/-!
# What the adapters keep

An adapter writes one snapshot into several places of a request, and narrows its counters
on the way.

The bootstrap adapter describes the session twice, at the top level of the request and in
the continuation record. The sandbox and the two flags agree. The approval policy, the
permission profile and the agent mode of the record are fixed values, and so the two
descriptions never agree (`bootstrap_continuation_inconsistent`).

The live adapter narrows a window number and a total. Both narrowings keep the order of
what they report. Beyond 32 bits the first saturates, and the second reports nothing
(`narrowing_keeps_order_iff`).
-/

namespace Muldex

/-! ## One session in two places -/

/-- The record describes the session of the request as the request does. -/
structure DescribesSession (request : ReasoningHarnessRequest)
    (record : CodexSessionContinuationSnapshot) : Prop where
  approvalPolicy : record.safety.approvalPolicy = request.safety.approvalPolicy
  sandboxMode : record.safety.sandboxMode = request.safety.sandboxMode
  networkAccess : record.safety.networkAccessEnabled = request.safety.networkAccessEnabled
  explicitApproval : record.safety.requiresExplicitApprovalForNextStep =
    request.safety.requiresExplicitApprovalForNextStep
  permissionProfile :
    record.safety.permissionProfileSummary = request.safety.permissionProfileSummary
  activeAgentMode : record.activeAgentMode = request.runtimeMode.activeAgentMode

/-- The continuation record, if there is one, agrees with the request around it. -/
def ContinuationConsistent (request : ReasoningHarnessRequest) : Prop :=
  ∀ record ∈ request.codexContinuation, DescribesSession request record

/-- The continuation record of a bootstrap snapshot. -/
def bootstrapRecord (snapshot : CodexBootstrapSnapshot) : CodexSessionContinuationSnapshot where
  sourceThreadId := snapshot.threadId
  sourceTurnId := snapshot.turnId
  sourceModel := snapshot.model
  sourceProvider := snapshot.modelProvider
  activeAgentMode := none
  safety := ⟨.workspaceWrite, .unknown, "derived from bootstrap snapshot", false, false⟩
  referenceContextPresent := snapshot.referenceContextPresent

theorem codexContinuation_bootstrap (snapshot : CodexBootstrapSnapshot) :
    (codexBootstrapSnapshotToHarnessRequest snapshot).codexContinuation =
      some (bootstrapRecord snapshot) :=
  codexContinuation_withModalitiesHint _ _

theorem safety_bootstrap (snapshot : CodexBootstrapSnapshot) :
    (codexBootstrapSnapshotToHarnessRequest snapshot).safety =
      ⟨.workspaceWrite, approvalPolicyOfName snapshot.approvalPolicy, snapshot.permissionProfile,
        false, false⟩ :=
  safety_withModalitiesHint _ _

theorem activeAgentMode_bootstrap (snapshot : CodexBootstrapSnapshot) :
    (codexBootstrapSnapshotToHarnessRequest snapshot).runtimeMode.activeAgentMode =
      some snapshot.collaborationMode :=
  congrArg RuntimeModeState.activeAgentMode (runtimeMode_withModalitiesHint _ _)

/-- The bootstrap adapter never describes its session consistently. The sandbox and the two
flags always agree, the approval policy where its name is not one of the three known
ones, the permission profile where it is the fixed text, and the agent mode never. -/
theorem bootstrap_continuation_inconsistent (s : CodexBootstrapSnapshot) :
    ¬ContinuationConsistent (codexBootstrapSnapshotToHarnessRequest s) ∧
    ∀ record ∈ (codexBootstrapSnapshotToHarnessRequest s).codexContinuation,
      record.safety.sandboxMode =
        (codexBootstrapSnapshotToHarnessRequest s).safety.sandboxMode ∧
      record.safety.networkAccessEnabled =
        (codexBootstrapSnapshotToHarnessRequest s).safety.networkAccessEnabled ∧
      record.safety.requiresExplicitApprovalForNextStep =
        (codexBootstrapSnapshotToHarnessRequest s).safety.requiresExplicitApprovalForNextStep ∧
      (record.safety.approvalPolicy =
          (codexBootstrapSnapshotToHarnessRequest s).safety.approvalPolicy ↔
        s.approvalPolicy ∉ ["OnRequest", "Never", "UnlessTrusted"]) ∧
      (record.safety.permissionProfileSummary =
          (codexBootstrapSnapshotToHarnessRequest s).safety.permissionProfileSummary ↔
        s.permissionProfile = "derived from bootstrap snapshot") ∧
      record.activeAgentMode ≠
        (codexBootstrapSnapshotToHarnessRequest s).runtimeMode.activeAgentMode := by
  rw [ContinuationConsistent, codexContinuation_bootstrap]
  constructor
  · intro hconsistent
    have hmode := (hconsistent _ rfl).activeAgentMode
    rw [activeAgentMode_bootstrap] at hmode
    exact nomatch hmode
  · rintro record ⟨⟩
    rw [safety_bootstrap, activeAgentMode_bootstrap]
    refine ⟨rfl, rfl, rfl, ?_, eq_comm, nofun⟩
    exact eq_comm.trans (approvalPolicyOfName_eq_unknown_iff _)

/-- The bootstrap snapshot of the tests. -/
def sampleBootstrapSnapshot : CodexBootstrapSnapshot where
  threadId := "thread-1"
  turnId := "turn-1"
  cwd := "/workspace"
  model := "gpt-5.4"
  modelProvider := "llm-router"
  collaborationMode := "build"
  personality := some "pragmatic"
  approvalPolicy := "OnRequest"
  permissionProfile := "managed"
  serviceTier := none
  showRawAgentReasoning := false
  modelContextWindow := some 258400
  autoCompactTokenLimit := some 193800
  autoCompactTokenLimitScope := "body_after_prefix"
  referenceContextPresent := true
  promptInputCount := 3
  inputModalities := ["Text", "Image"]
  toolsVisibleCount := 11
  promptPreviewTextItems := 3

/-- The record of the tests' snapshot does not know the approval policy that the request
has from it. -/
theorem not_forall_continuationConsistent :
    ¬∀ snapshot, ContinuationConsistent (codexBootstrapSnapshotToHarnessRequest snapshot) := by
  intro h
  have hpolicy := (h sampleBootstrapSnapshot _ (codexContinuation_bootstrap _)).approvalPolicy
  rw [safety_bootstrap] at hpolicy
  exact absurd hpolicy (by decide)

/-! ## Narrowing -/

/-- A larger window number is not reported as a smaller count, and a larger total that is
not negative is reported, and not as smaller. -/
structure NarrowingKeepsOrder (s s' : CodexLiveContinuationSnapshot) : Prop where
  windows : s.autoCompactWindowNumber ≤ s'.autoCompactWindowNumber →
    (codexLiveSnapshotToHarnessRequest s).contextPressure.recentCompactionCount ≤
      (codexLiveSnapshotToHarnessRequest s').contextPressure.recentCompactionCount
  totals : ∀ t ∈ s.totalInputTokens, ∀ t' ∈ s'.totalInputTokens, 0 ≤ t → t ≤ t' →
    ∃ n ∈ (codexLiveSnapshotToHarnessRequest s).contextPressure.activeContextTokens,
      ∃ n' ∈ (codexLiveSnapshotToHarnessRequest s').contextPressure.activeContextTokens, n ≤ n'

/-- The saturating narrowing keeps the order. -/
theorem narrowSaturating_mono {n n' : UInt64} (h : n ≤ n') :
    narrowSaturating n ≤ narrowSaturating n' := by
  rw [UInt32.le_iff_toNat_le, toNat_narrowSaturating, toNat_narrowSaturating]
  have hle := UInt64.le_iff_toNat_le.mp h
  omega

/-- What is not negative is narrowed if it fits. -/
theorem exists_narrowSigned_iff {t : Int64} (h : 0 ≤ t) :
    (∃ n, narrowSigned t = some n) ↔ t.toInt < UInt32.size := by
  have hpos : 0 ≤ t.toInt := Int64.le_iff_toInt_le.mp h
  constructor
  · rintro ⟨n, hn⟩
    have hsize := n.toNat_lt_size
    have hvalue := (narrowSigned_eq_some_iff t n).mp hn
    omega
  · intro hlt
    refine ⟨.ofNat t.toInt.toNat, (narrowSigned_eq_some_iff _ _).mpr ?_⟩
    rw [UInt32.toNat_ofNat_of_lt' (by omega)]
    omega

/-- Narrowing keeps the order of two values that both fit. -/
theorem narrowSigned_mono {t t' : Int64} {n n' : UInt32} (h : t ≤ t')
    (hn : narrowSigned t = some n) (hn' : narrowSigned t' = some n') : n ≤ n' := by
  rw [narrowSigned_eq_some_iff] at hn hn'
  have hle := Int64.le_iff_toInt_le.mp h
  rw [UInt32.le_iff_toNat_le]
  omega

theorem activeContextTokens_live {snapshot : CodexLiveContinuationSnapshot} {t : Int64}
    (h : t ∈ snapshot.totalInputTokens) :
    (codexLiveSnapshotToHarnessRequest snapshot).contextPressure.activeContextTokens =
      narrowSigned t := by
  change snapshot.totalInputTokens.bind narrowSigned = _
  rw [Option.mem_def.mp h, Option.bind_some]

/-- Narrowing keeps the order of two live snapshots exactly when, of totals in order, the
larger fits into 32 bits. -/
theorem narrowing_keeps_order_iff (s s' : CodexLiveContinuationSnapshot) :
    NarrowingKeepsOrder s s' ↔
      ∀ t ∈ s.totalInputTokens, ∀ t' ∈ s'.totalInputTokens, 0 ≤ t → t ≤ t' →
        t'.toInt < UInt32.size := by
  constructor
  · intro horder t ht t' ht' hpos hle
    obtain ⟨-, -, n', hn', -⟩ := horder.totals t ht t' ht' hpos hle
    rw [activeContextTokens_live ht'] at hn'
    exact (exists_narrowSigned_iff (Int64.le_trans hpos hle)).mp ⟨n', hn'⟩
  · intro hfits
    refine ⟨narrowSaturating_mono, fun t ht t' ht' hpos hle => ?_⟩
    have hfit' := hfits t ht t' ht' hpos hle
    have hfit := (Int64.le_iff_toInt_le.mp hle).trans_lt hfit'
    obtain ⟨n, hn⟩ := (exists_narrowSigned_iff hpos).mpr hfit
    obtain ⟨n', hn'⟩ := (exists_narrowSigned_iff (Int64.le_trans hpos hle)).mpr hfit'
    rw [activeContextTokens_live ht, activeContextTokens_live ht']
    exact ⟨n, hn, n', hn', narrowSigned_mono hle hn hn'⟩

/-- The live snapshot of the tests with another total. -/
def liveSnapshot (total : Int64) : CodexLiveContinuationSnapshot where
  threadId := "thread-1"
  activeTurnPresent := true
  pendingInputPresent := true
  triggerTurnMailboxPresent := false
  autoCompactWindowNumber := 2
  totalInputTokens := some total
  totalCachedInputTokens := some 40000
  totalOutputTokens := some 5000

/-- Beyond 32 bits a total is reported as unknown. -/
theorem not_forall_narrowingKeepsOrder : ¬∀ s s', NarrowingKeepsOrder s s' := by
  intro h
  obtain ⟨-, -, n', hn', -⟩ := (h (liveSnapshot 120000) (liveSnapshot 5000000000)).totals
    120000 rfl 5000000000 rfl (by decide) (by decide)
  rw [activeContextTokens_live rfl] at hn'
  have hpos : (0 : Int64) ≤ 5000000000 := by decide
  exact absurd ((exists_narrowSigned_iff hpos).mp ⟨n', hn'⟩) (by decide)

end Muldex
