import Muldex.Monotone

/-!
# The flags of a continuation decision

Besides the verdict a decision carries flags, which each of its four return sites sets
by hand. Two of them disagree with the verdict in places :

* a post-compaction stall suppresses duplicate injections, and the stall condition,
  which is tried first, does not : a stall that grows from the one into the other loses
  the suppression (`suppression_kept_iff`);
* an approval that only queues a wakeup is not reported as a downgrade
  (`downgradeAgrees_iff`).
-/

namespace Muldex

namespace DeterministicOrchestrator

/-! ## Duplicate suppression -/

/-- The request is answered with a decision to suppress duplicate injections. -/
def Suppresses (request : ContinueRequest) : Prop :=
  ∃ decision, decideContinue request = .ok decision ∧ decision.suppressDuplicateInjection = true

/-- Some stop condition that holds suppresses on its own : the stall only a duplicate that
was detected, the other two anything. -/
def SuppressionDemanded (request : ContinueRequest) : Prop :=
  FollowUpLoop request ∨ (Stalled request ∧ request.duplicateInjectionDetected = true) ∨
    PostCompactionStall request

/-- The stall condition hides a post-compaction stall. -/
theorem suppresses_iff (request : ContinueRequest) :
    Suppresses request ↔ request.duplicateInjectionDetected = true ∨ FollowUpLoop request ∨
      (PostCompactionStall request ∧ ¬Stalled request) := by
  rcases decideContinue_cases request with ⟨h₁, hd⟩ | ⟨h₁, h₂, hd⟩ | ⟨-, h₂, h₃, hd⟩ |
    ⟨h₁, -, h₃, hd⟩
  · simp [Suppresses, hd, refusal, h₁]
  · simp [Suppresses, hd, refusal, h₁, h₂]
  · simp [Suppresses, hd, refusal, h₂, h₃]
  · simp [Suppresses, hd, approval, h₁, h₃]

/-- The request with another stall : other counts, another pending flag, another outcome of
the last recovery. -/
def withStall (request : ContinueRequest) (followUps noProgress : UInt32)
    (pending hadProgress : Bool) : ContinueRequest :=
  { request with
    repeatedFollowUpCount := followUps
    progress := { request.progress with noProgressIterationCount := noProgress }
    postCompaction := { request.postCompaction with pendingPostCompaction := pending }
    recovery := { request.recovery with lastRecoveryHadProgress := hadProgress } }

/-- The second request is the first with a stall that is at least as bad. -/
structure OnlyMoreStalled (r r' : ContinueRequest) : Prop where
  followUps : r.repeatedFollowUpCount ≤ r'.repeatedFollowUpCount
  noProgress : r.progress.noProgressIterationCount ≤ r'.progress.noProgressIterationCount
  pending : r.postCompaction.pendingPostCompaction = true →
    r'.postCompaction.pendingPostCompaction = true
  recovery : r'.recovery.lastRecoveryHadProgress = true → r.recovery.lastRecoveryHadProgress = true
  rest : r' = withStall r r'.repeatedFollowUpCount r'.progress.noProgressIterationCount
    r'.postCompaction.pendingPostCompaction r'.recovery.lastRecoveryHadProgress

variable {r r' : ContinueRequest}

theorem OnlyMoreStalled.recentStateChanges (h : OnlyMoreStalled r r') :
    r'.recentStateChanges = r.recentStateChanges := by
  rw [h.rest]
  rfl

theorem OnlyMoreStalled.duplicateInjectionDetected (h : OnlyMoreStalled r r') :
    r'.duplicateInjectionDetected = r.duplicateInjectionDetected := by
  rw [h.rest]
  rfl

theorem OnlyMoreStalled.atLeastAsStalled (h : OnlyMoreStalled r r') : AtLeastAsStalled r r' where
  followUps := h.followUps
  noProgress := h.noProgress
  pending := h.pending
  recovery := h.recovery
  changes := by rw [h.recentStateChanges]; exact id

/-- Suppression is kept by a worse stall exactly when a duplicate is detected, or the
follow-ups loop, or the stall condition does not come to hide a post-compaction stall that
was not hidden before. A request carries all the suppression its stop conditions demand
exactly when a duplicate is detected, or the follow-ups loop, or the stall condition hides
no post-compaction stall. -/
theorem suppression_kept_iff (h : OnlyMoreStalled r r') :
    ((Suppresses r → Suppresses r') ↔
      r.duplicateInjectionDetected = true ∨ FollowUpLoop r' ∨ ¬PostCompactionStall r ∨
        Stalled r ∨ ¬Stalled r') ∧
    ((SuppressionDemanded r' → Suppresses r') ↔
      r'.duplicateInjectionDetected = true ∨ FollowUpLoop r' ∨ ¬PostCompactionStall r' ∨
        ¬Stalled r') := by
  have hworse := h.atLeastAsStalled
  have hduplicate := h.duplicateInjectionDetected
  constructor
  · rw [suppresses_iff, suppresses_iff, hduplicate]
    constructor
    · intro hkept
      by_cases hhidden : PostCompactionStall r ∧ ¬Stalled r
      · rcases hkept (Or.inr (Or.inr hhidden)) with hc | hc | hc
        · exact Or.inl hc
        · exact Or.inr (Or.inl hc)
        · exact Or.inr (Or.inr (Or.inr (Or.inr hc.2)))
      · rcases not_and_or.mp hhidden with hc | hc
        · exact Or.inr (Or.inr (Or.inl hc))
        · exact Or.inr (Or.inr (Or.inr (Or.inl (not_not.mp hc))))
    · rintro hcondition (hc | hc | ⟨hcompact, hstall⟩)
      · exact Or.inl hc
      · exact Or.inr (Or.inl (hworse.followUpLoop hc))
      · rcases hcondition with hc | hc | hc | hc | hc
        · exact Or.inl hc
        · exact Or.inr (Or.inl hc)
        · exact absurd hcompact hc
        · exact absurd hc hstall
        · exact Or.inr (Or.inr ⟨hworse.postCompactionStall hcompact, hc⟩)
  · rw [suppresses_iff, SuppressionDemanded]
    constructor
    · intro hcarried
      by_cases hcompact : PostCompactionStall r'
      · rcases hcarried (Or.inr (Or.inr hcompact)) with hc | hc | hc
        · exact Or.inl hc
        · exact Or.inr (Or.inl hc)
        · exact Or.inr (Or.inr (Or.inr hc.2))
      · exact Or.inr (Or.inr (Or.inl hcompact))
    · rintro hcondition (hc | ⟨-, hc⟩ | hcompact)
      · exact Or.inr (Or.inl hc)
      · exact Or.inl hc
      · rcases hcondition with hc | hc | hc | hc
        · exact Or.inl hc
        · exact Or.inr (Or.inl hc)
        · exact absurd hcompact hc
        · exact Or.inr (Or.inr ⟨hcompact, hc⟩)

/-- The sample request after `n` iterations without progress, with a compaction pending
and a recovery that failed. -/
def compactedRequest (n : UInt32) : ContinueRequest :=
  { sampleContinueRequest with
    progress := { sampleContinueRequest.progress with noProgressIterationCount := n }
    postCompaction := ⟨true, true, none, none⟩
    recovery := ⟨some .toolFailure, 1, false⟩ }

theorem onlyMoreStalled_compactedRequest {n n' : UInt32} (h : n ≤ n') :
    OnlyMoreStalled (compactedRequest n) (compactedRequest n') :=
  ⟨UInt32.le_refl _, h, id, id, rfl⟩

/-- From one iteration to two, the suppression that the compaction demands is there. -/
theorem suppression_kept_compactedRequest : Suppresses (compactedRequest 2) := by
  have hstep : OnlyMoreStalled (compactedRequest 1) (compactedRequest 2) :=
    onlyMoreStalled_compactedRequest (by decide)
  have hstall : ¬Stalled (compactedRequest 2) := fun h => absurd h.1 (by decide)
  exact (suppression_kept_iff hstep).2.mpr (Or.inr (Or.inr (Or.inr hstall)))
    (Or.inr (Or.inr ⟨rfl, by decide⟩))

/-- From two iterations to three it is lost. -/
theorem not_forall_suppression_kept :
    ¬∀ r r', OnlyMoreStalled r r' → Suppresses r → Suppresses r' := by
  intro h
  obtain ⟨decision, hd, hsuppressed⟩ :=
    h (compactedRequest 2) (compactedRequest 3) (onlyMoreStalled_compactedRequest (by decide))
      ⟨_, rfl, rfl⟩
  obtain rfl : refusal _ false = decision := Except.ok.inj hd
  exact absurd hsuppressed (by decide)

/-! ## Wakeup downgrade -/

/-- The mode starts no new turn. -/
def KeepsIdle (mode : ContinueMode) : Prop :=
  mode = .queueOnly ∨ mode = .handoff ∨ mode = .stop

/-- The request is answered with a decision whose downgrade flag agrees with its mode. -/
def DowngradeAgrees (request : ContinueRequest) : Prop :=
  ∃ decision, decideContinue request = .ok decision ∧
    (decision.downgradeTriggerTurn = true ↔ KeepsIdle decision.mode)

/-- A wakeup that injects a duplicate. -/
def DuplicateWakeup (request : ContinueRequest) : Prop :=
  request.continueReason = .triggerTurnWakeup ∧ request.duplicateInjectionDetected = true

/-- An approval keeps the session idle exactly for a wakeup that injects a duplicate. -/
theorem keepsIdle_approval_iff (request : ContinueRequest) :
    KeepsIdle (approval request).mode ↔ DuplicateWakeup request := by
  have hwakeup : (decide (request.continueReason = .triggerTurnWakeup) &&
      request.duplicateInjectionDetected) = true ↔ DuplicateWakeup request := by
    simp [DuplicateWakeup]
  rw [← hwakeup]
  unfold approval KeepsIdle
  split_ifs with h <;> simp [h]

/-- The flag agrees with the mode on what is refused, and on approvals of anything but a
wakeup that injects a duplicate. -/
theorem downgradeAgrees_iff (request : ContinueRequest) :
    DowngradeAgrees request ↔ ¬DuplicateWakeup request ∨ FollowUpLoop request ∨
      Stalled request ∨ PostCompactionStall request := by
  rcases decideContinue_cases request with ⟨h₁, hd⟩ | ⟨-, h₂, hd⟩ | ⟨-, -, h₃, hd⟩ |
    ⟨h₁, h₂, h₃, hd⟩
  · simp [DowngradeAgrees, hd, refusal, KeepsIdle, h₁]
  · simp [DowngradeAgrees, hd, refusal, KeepsIdle, h₂]
  · simp [DowngradeAgrees, hd, refusal, KeepsIdle, h₃]
  · have hflag : (approval request).downgradeTriggerTurn = false := rfl
    simp [DowngradeAgrees, hd, keepsIdle_approval_iff, hflag, h₁, h₂, h₃]

/-- The sample request as a wakeup that injects a duplicate. -/
def duplicateWakeupRequest : ContinueRequest :=
  { sampleContinueRequest with
    continueReason := .triggerTurnWakeup
    duplicateInjectionDetected := true }

/-- A wakeup that injects a duplicate is queued, and not reported as downgraded. -/
theorem not_forall_downgradeAgrees : ¬∀ request, DowngradeAgrees request := by
  intro h
  obtain ⟨decision, hd, hagrees⟩ := h duplicateWakeupRequest
  obtain rfl : approval duplicateWakeupRequest = decision := Except.ok.inj hd
  exact absurd (hagrees.mpr (Or.inl rfl)) (by decide)

end DeterministicOrchestrator

end Muldex
