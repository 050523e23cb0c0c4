import Mathlib.Tactic.IntervalCases
import Muldex.AntiSpin
import Muldex.DecisionFlags
import Muldex.Resets

/-!
# Sessions that make progress

The runs of `Muldex.AntiSpin` spin : their counters only climb. A session that works resets
them, and nothing makes it count every turn. Here a run is any list of requests. What is
bounded is how much continuation a session gets for each reset, which is a fall of the
counter, and for each turn that goes on and leaves the counter as it is.

The harness lets a session go on at most `no_progress_limit` times for each reset of the
no-progress count, and once more for each turn that is not counted
(`ReasoningHarness.continuations_le`). The local orchestrator does so as far as some guard of
it is armed throughout (`DeterministicOrchestrator.approvals_le`).

Over infinite sessions both say the same thing without a number : who goes on infinitely
often resets the count infinitely often, or goes on uncounted infinitely often
(`ReasoningHarness.reset_or_uncounted_of_continues`,
`DeterministicOrchestrator.reset_or_uncounted_of_allows`).
-/

namespace Muldex

open LoopGuard Filter

namespace ReasoningHarness

/-! ## The harness -/

/-- The request is not handed off. -/
def Continues (request : ReasoningHarnessRequest) : Prop :=
  (decideReasoningHarness request).mode ≠ .handoff

/-- The request enters self-correction. -/
def Corrects (request : ReasoningHarnessRequest) : Prop :=
  (decideReasoningHarness request).shouldEnterSelfCorrection = true

instance : DecidablePred Continues := fun _ => inferInstanceAs (Decidable (_ ≠ _))

instance : DecidablePred Corrects := fun _ => inferInstanceAs (Decidable (_ = _))

/-- Iterations without progress, as a number. -/
def noProgressCount (request : ReasoningHarnessRequest) : ℕ :=
  request.progress.noProgressIterationCount.toNat

/-- Correction attempts, as a number. -/
def attemptCount (request : ReasoningHarnessRequest) : ℕ :=
  request.selfCorrection.correctionAttemptCount.toNat

/-- Progress buys a bounded number of continuations. In any run under one policy the harness
continues at most `no_progress_limit` times less the first count, as often again for each
fall of the no-progress count, and once more for each continuation that leaves the count as
it is. Self-corrections are bounded in the same way by `self_correction_limit` and the
attempts. -/
theorem continuations_le (policy : EscalationPolicy) (first : ReasoningHarnessRequest)
    (rest : List ReasoningHarnessRequest)
    (hpolicy : ∀ r ∈ first :: rest, r.escalationPolicy = policy) :
    (first :: rest).countP (Continues ·) ≤ policy.noProgressLimit.toNat - noProgressCount first +
        policy.noProgressLimit.toNat * resets noProgressCount (first :: rest) +
          uncounted noProgressCount Continues (first :: rest) ∧
      (first :: rest).countP (Corrects ·) ≤ policy.selfCorrectionLimit.toNat - attemptCount first +
        policy.selfCorrectionLimit.toNat * resets attemptCount (first :: rest) +
          uncounted attemptCount Corrects (first :: rest) :=
  ⟨(noProgressGuard_enforced hpolicy).countP_le_of_resets fun _ => not_mem_tripped_of_mode_ne,
    (selfCorrectionGuard_enforced hpolicy).countP_le_of_resets fun _ => not_mem_tripped_of_enters⟩

/-- Two continuations, a reset, and one more that is not counted. -/
theorem continuations_le_failed :
    [failedRequest 0, failedRequest 1, failedRequest 0, failedRequest 0].countP (Continues ·) ≤
      3 + 3 * 1 + 1 :=
  (continuations_le ⟨3, 2, 2, true⟩ (failedRequest 0)
    [failedRequest 1, failedRequest 0, failedRequest 0]
    (by simp [failedRequest, baseRequest])).1

end ReasoningHarness

namespace DeterministicOrchestrator

/-! ## The orchestrator -/

instance : DecidablePred FollowUpLoop := fun _ => inferInstanceAs (Decidable (_ ∧ _))

instance : DecidablePred Stalled := fun _ => inferInstanceAs (Decidable (_ ∧ _))

instance : DecidablePred PostCompactionStall := fun _ => inferInstanceAs (Decidable (_ ∧ _))

instance : DecidablePred Allows := fun request => decidable_of_iff' _ (allows_iff request)

/-- An approved request is below the limit of every armed guard. -/
theorem not_mem_tripped_of_allows {g : Guard ContinueRequest} (hg : g ∈ guards)
    {request : ContinueRequest} (h : Allows request) : request ∉ g.tripped :=
  fun htripped => (allows_iff_not_stopped request).mp h ⟨g, hg, htripped⟩

/-- The limit of a guard does not depend on the request. -/
theorem limit_eq {g : Guard ContinueRequest} (hg : g ∈ guards) (r r' : ContinueRequest) :
    g.limit r = g.limit r' := by
  simp only [guards, List.mem_cons, List.not_mem_nil, or_false] at hg
  rcases hg with rfl | rfl | rfl <;> rfl

/-- Progress buys a bounded number of approvals. In any run throughout which one of the
three guards is armed the orchestrator approves at most as many requests as the guard's
limit less the first count, as many again for each fall of the guard's counter, and one more
for each approval that leaves it as it is. -/
theorem approvals_le {g : Guard ContinueRequest} (hg : g ∈ guards) (first : ContinueRequest)
    (rest : List ContinueRequest) (harmed : ∀ r ∈ first :: rest, g.armed r) :
    (first :: rest).countP (Allows ·) ≤ g.limit first - g.counter first +
      g.limit first * resets g.counter (first :: rest) +
        uncounted g.counter Allows (first :: rest) := by
  have henforced : g.Enforced (g.limit first) (first :: rest) :=
    ⟨harmed, fun r _ => limit_eq hg r first⟩
  exact henforced.countP_le_of_resets fun _ => not_mem_tripped_of_allows hg

/-- While a compaction is pending, two approvals, a reset, two more, and a reset that is
followed by one which is not counted. -/
theorem approvals_le_compacted :
    [compactedRequest 0, compactedRequest 1, compactedRequest 0, compactedRequest 1,
      compactedRequest 0, compactedRequest 0].countP (Allows ·) ≤ 2 + 2 * 2 + 1 := by
  have harmed : ∀ r ∈ [compactedRequest 0, compactedRequest 1, compactedRequest 0,
      compactedRequest 1, compactedRequest 0, compactedRequest 0],
      postCompactionGuard.armed r := by
    simp [postCompactionGuard, compactedRequest]
  exact approvals_le (by simp [guards]) _ _ harmed

end DeterministicOrchestrator

end Muldex
