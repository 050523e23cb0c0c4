import Muldex.Policy
import Muldex.ReasoningHarness

/-!
# Anti-spin over whole runs

A run is the list of requests of one task, in order. The harness is bounded : if each
decision that is not a handoff is followed by one more iteration without progress, at
most `no_progress_limit` of them are made, and the same holds of self-corrections and
attempts (`ReasoningHarness.bounded_continuation`). Both are `Guard.Enforced.countP_le`,
since the two guards are armed at every request.

The local orchestrator is not. On a run of pure spinning its stall guard is only armed
where the last recovery made no progress, and a session that never recovered reports
that it did. `DeterministicOrchestrator.cutAtThree_iff` is the exact condition under
which the run is cut at its fourth request.
-/

namespace Muldex

open LoopGuard

namespace ReasoningHarness

/-- A request that is not handed off is below its no-progress limit. -/
theorem not_mem_tripped_of_mode_ne {request : ReasoningHarnessRequest}
    (h : (decideReasoningHarness request).mode ≠ .handoff) :
    request ∉ noProgressGuard.tripped :=
  fun htripped => h (handoff_of_tripped (by simp [guards]) htripped)

/-- A request that enters self-correction is below its self-correction limit. -/
theorem not_mem_tripped_of_enters {request : ReasoningHarnessRequest}
    (h : (decideReasoningHarness request).shouldEnterSelfCorrection = true) :
    request ∉ selfCorrectionGuard.tripped :=
  fun htripped => ((shouldEnterSelfCorrection_iff request).mp h).1
    (handoff_of_tripped (by simp [guards]) htripped)

variable {policy : EscalationPolicy} {run : List ReasoningHarnessRequest}

theorem noProgressGuard_enforced (hpolicy : ∀ r ∈ run, r.escalationPolicy = policy) :
    noProgressGuard.Enforced policy.noProgressLimit.toNat run where
  armed _ _ := trivial
  limit r hr := by rw [← hpolicy r hr]; rfl

theorem selfCorrectionGuard_enforced (hpolicy : ∀ r ∈ run, r.escalationPolicy = policy) :
    selfCorrectionGuard.Enforced policy.selfCorrectionLimit.toNat run where
  armed _ _ := trivial
  limit r hr := by rw [← hpolicy r hr]; rfl

/-- Once the attempts reach the limit, every decision is a handoff. -/
theorem handoff_of_attempts_used_up {p : ReasoningHarnessRequest → Prop}
    (hpolicy : ∀ r ∈ run, r.escalationPolicy = policy)
    (hrun : run.IsChain (Climbs selfCorrectionGuard.counter p)) {i j : ℕ} (hij : i ≤ j)
    (hj : j < run.length)
    (hi : policy.selfCorrectionLimit ≤ run[i].selfCorrection.correctionAttemptCount) :
    (decideReasoningHarness run[j]).mode = .handoff := by
  have henforced := selfCorrectionGuard_enforced hpolicy
  have htripped : run[i] ∈ selfCorrectionGuard.tripped := by
    refine ⟨trivial, ?_⟩
    rw [henforced.limit _ (List.getElem_mem _)]
    exact UInt32.le_iff_toNat_le.mp hi
  exact handoff_of_tripped (by simp [guards])
    (selfCorrectionGuard.tripped_of_isChain (henforced.isChain_tightens hrun) hij hj htripped)

/-- Bounded continuation and bounded self-correction. In a run under one policy, if every
decision that is not a handoff is followed by a higher no-progress count, at most
`no_progress_limit` minus the first count are made. If every self-correction entered is
followed by a higher attempt count, at most `self_correction_limit` minus the first count
are entered, and from the first request that reaches the limit on every decision is a
handoff. -/
theorem bounded_continuation (policy : EscalationPolicy) (first : ReasoningHarnessRequest)
    (rest : List ReasoningHarnessRequest)
    (hpolicy : ∀ r ∈ first :: rest, r.escalationPolicy = policy) :
    ((first :: rest).IsChain (Climbs (fun r => r.progress.noProgressIterationCount.toNat)
        fun r => (decideReasoningHarness r).mode ≠ .handoff) →
      (first :: rest).countP (fun r => (decideReasoningHarness r).mode ≠ .handoff) ≤
        policy.noProgressLimit.toNat - first.progress.noProgressIterationCount.toNat) ∧
    ((first :: rest).IsChain (Climbs (fun r => r.selfCorrection.correctionAttemptCount.toNat)
        fun r => (decideReasoningHarness r).shouldEnterSelfCorrection = true) →
      (first :: rest).countP (fun r => (decideReasoningHarness r).shouldEnterSelfCorrection) ≤
          policy.selfCorrectionLimit.toNat - first.selfCorrection.correctionAttemptCount.toNat ∧
        ∀ (i j : ℕ) (_ : i ≤ j) (_ : j < (first :: rest).length),
          policy.selfCorrectionLimit ≤ (first :: rest)[i].selfCorrection.correctionAttemptCount →
            (decideReasoningHarness (first :: rest)[j]).mode = .handoff) := by
  refine ⟨fun hrun => ?_, fun hrun => ⟨?_, fun i j hij hj hi => ?_⟩⟩
  · exact (noProgressGuard_enforced hpolicy).countP_le (fun _ => not_mem_tripped_of_mode_ne) hrun
  · have hcount := (selfCorrectionGuard_enforced hpolicy).countP_le
      (fun _ => not_mem_tripped_of_enters) hrun
    simp only [Bool.decide_eq_true] at hcount
    exact hcount
  · exact handoff_of_attempts_used_up hpolicy hrun hij hj hi

/-- The base request after a tool failure, with both counters at `n`. -/
def failedRequest (n : UInt32) : ReasoningHarnessRequest :=
  { baseRequest with
    progress := ⟨1, some 4, some 1, n⟩
    recovery := ⟨some .toolFailure, n, false⟩
    selfCorrection := ⟨true, n, none, false⟩ }

/-- Two corrections, then the handoff. -/
theorem bounded_continuation_failed :
    [failedRequest 0, failedRequest 1, failedRequest 2].countP
        (fun r => (decideReasoningHarness r).mode ≠ .handoff) ≤ 3 ∧
      [failedRequest 0, failedRequest 1, failedRequest 2].countP
        (fun r => (decideReasoningHarness r).shouldEnterSelfCorrection) ≤ 2 ∧
      (decideReasoningHarness (failedRequest 2)).mode = .handoff := by
  have hbounded := bounded_continuation ⟨3, 2, 2, true⟩ (failedRequest 0)
    [failedRequest 1, failedRequest 2] (by simp [failedRequest, baseRequest])
  have hcorrection := hbounded.2 (by simp [Climbs, failedRequest])
  exact ⟨hbounded.1 (by simp [Climbs, failedRequest]), hcorrection.1,
    hcorrection.2 2 2 le_rfl (by simp) (by decide)⟩

end ReasoningHarness

namespace DeterministicOrchestrator

/-! ## Pure spinning -/

/-- A run that only spins : no step is completed, nothing meaningful changes, and each
request comes one more iteration without progress after the one before. -/
structure PureSpin (run : List ContinueRequest) : Prop where
  sameSteps : ∀ r ∈ run, ∀ r' ∈ run, r.progress.completedSteps = r'.progress.completedSteps
  noChange : ∀ r ∈ run, ∀ change ∈ r.recentStateChanges, change = .noMeaningfulChange
  start : ∀ r ∈ run.head?, r.progress.noProgressIterationCount.toNat = 0
  climb : run.IsChain fun r r' =>
    r'.progress.noProgressIterationCount.toNat = r.progress.noProgressIterationCount.toNat + 1

/-- Only the first three requests are approved. -/
def CutAtThree (run : List ContinueRequest) : Prop :=
  ∀ (i : ℕ) (_ : i < run.length), Allows run[i] → i < 3

/-- The request shows its spinning to some guard : it has been followed up three times,
or its last recovery made no progress, or a compaction is pending. -/
def ShowsSpin (request : ContinueRequest) : Prop :=
  3 ≤ request.repeatedFollowUpCount ∨ request.recovery.lastRecoveryHadProgress = false ∨
    request.postCompaction.pendingPostCompaction = true

/-- After three iterations without progress or change, the cascade stops what shows it. -/
theorem mem_stopped_iff_showsSpin {request : ContinueRequest}
    (hchange : ∀ change ∈ request.recentStateChanges, change = .noMeaningfulChange)
    (hcount : 3 ≤ request.progress.noProgressIterationCount.toNat) :
    request ∈ stopped guards ↔ ShowsSpin request := by
  have hfollow : request ∈ followUpGuard.tripped ↔ 3 ≤ request.repeatedFollowUpCount :=
    ⟨fun h => UInt32.le_iff_toNat_le.mpr h.2, fun h => ⟨hchange, UInt32.le_iff_toNat_le.mp h⟩⟩
  have hstall : request ∈ stallGuard.tripped ↔ request.recovery.lastRecoveryHadProgress = false :=
    ⟨fun h => h.1, fun h => ⟨h, hcount⟩⟩
  have hcompact : request ∈ postCompactionGuard.tripped ↔
      request.postCompaction.pendingPostCompaction = true :=
    ⟨fun h => h.1, fun h => ⟨h, (show 2 ≤ 3 by decide).trans hcount⟩⟩
  rw [mem_stopped_guards, hfollow, hstall, hcompact, ShowsSpin]

/-- A run of pure spinning is cut at its fourth request exactly when every request from
the fourth on shows its spinning to some guard. -/
theorem cutAtThree_iff {run : List ContinueRequest} (hspin : PureSpin run) :
    CutAtThree run ↔ ∀ (i : ℕ) (_ : i < run.length), 3 ≤ i → ShowsSpin run[i] := by
  refine forall₂_congr fun i hi => ?_
  have hcount := counter_getElem hspin.start hspin.climb hi
  rw [allows_iff_not_stopped, ← not_imp_not, not_lt, not_not]
  refine imp_congr_right fun h3 => ?_
  exact mem_stopped_iff_showsSpin (hspin.noChange _ (List.getElem_mem hi)) (h3.trans_eq hcount.symm)

/-- The sample request after `n` iterations without progress or change. -/
def spinningRequest (hadProgress : Bool) (n : UInt32) : ContinueRequest :=
  { sampleContinueRequest with
    recentStateChanges := [.noMeaningfulChange]
    progress := ⟨1, some 3, none, n⟩
    recovery := ⟨none, 0, hadProgress⟩ }

/-- Four requests of pure spinning. -/
def spinningRun (hadProgress : Bool) : List ContinueRequest :=
  [spinningRequest hadProgress 0, spinningRequest hadProgress 1, spinningRequest hadProgress 2,
    spinningRequest hadProgress 3]

theorem pureSpin_spinningRun (hadProgress : Bool) : PureSpin (spinningRun hadProgress) where
  sameSteps := by simp [spinningRun, spinningRequest]
  noChange := by simp [spinningRun, spinningRequest]
  start := by simp [spinningRun, spinningRequest]
  climb := by simp [spinningRun, spinningRequest]

/-- A session whose recovery flag is down is cut. -/
theorem cutAtThree_spinningRun : CutAtThree (spinningRun false) := by
  refine (cutAtThree_iff (pureSpin_spinningRun false)).mpr fun i hi h3 => ?_
  obtain rfl : i = 3 := by simp [spinningRun] at hi; omega
  exact Or.inr (Or.inl rfl)

/-- A session that never recovered, and reports that its recovery made progress, is not :
its fourth request is approved. -/
theorem not_forall_cutAtThree : ¬∀ run, PureSpin run → CutAtThree run := by
  intro h
  have hcut := h _ (pureSpin_spinningRun true) 3 (by decide) ⟨_, rfl, rfl⟩
  omega

end DeterministicOrchestrator

end Muldex
