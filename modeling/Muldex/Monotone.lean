import Muldex.Policy
import Muldex.ReasoningHarness

/-!
# A worse stall is not judged milder

Both deciders are monotone in the evidence of a stall. A request that is at least as
stalled relaxes none of the guards (`AtLeastAsStalled.tightens`), so what was handed off
or refused still is, whichever guard of the cascade does it now. In the harness this
persists along a run in which no counter is reset (`ReasoningHarness.escalation_mono`).
-/

namespace Muldex

open LoopGuard

namespace ReasoningHarness

/-- The second request is at least as stalled as the first : no counter is lower, no limit
is higher, and a last compaction that changed nothing is still one. -/
structure AtLeastAsStalled (r r' : ReasoningHarnessRequest) : Prop where
  noProgress : r.progress.noProgressIterationCount ≤ r'.progress.noProgressIterationCount
  attempts : r.selfCorrection.correctionAttemptCount ≤ r'.selfCorrection.correctionAttemptCount
  compactions : r.contextPressure.recentCompactionCount ≤ r'.contextPressure.recentCompactionCount
  noProgressLimit : r'.escalationPolicy.noProgressLimit ≤ r.escalationPolicy.noProgressLimit
  selfCorrectionLimit :
    r'.escalationPolicy.selfCorrectionLimit ≤ r.escalationPolicy.selfCorrectionLimit
  repeatedCompactionLimit :
    r'.escalationPolicy.repeatedCompactionLimit ≤ r.escalationPolicy.repeatedCompactionLimit
  stateChange : r.contextPressure.lastCompactionHadStateChange = false →
    r'.contextPressure.lastCompactionHadStateChange = false

variable {r r' : ReasoningHarnessRequest}

/-- None of the limits relaxes. -/
theorem AtLeastAsStalled.tightens (h : AtLeastAsStalled r r') : ∀ g ∈ guards, g.Tightens r r' := by
  intro g hg
  simp only [guards, List.mem_cons, List.not_mem_nil, or_false] at hg
  rcases hg with rfl | rfl | rfl
  · exact ⟨id, UInt32.le_iff_toNat_le.mp h.noProgress, UInt32.le_iff_toNat_le.mp h.noProgressLimit⟩
  · exact ⟨id, UInt32.le_iff_toNat_le.mp h.attempts,
      UInt32.le_iff_toNat_le.mp h.selfCorrectionLimit⟩
  · exact ⟨h.stateChange, UInt32.le_iff_toNat_le.mp h.compactions,
      UInt32.le_iff_toNat_le.mp h.repeatedCompactionLimit⟩

/-- What is handed off still is. -/
theorem handoff_of_atLeastAsStalled (h : AtLeastAsStalled r r')
    (hr : (decideReasoningHarness r).mode = .handoff) :
    (decideReasoningHarness r').mode = .handoff := by
  rw [handoff_iff_stopped] at hr ⊢
  exact stopped_of_tightens h.tightens hr

/-- The no-progress limit is still reached. -/
theorem AtLeastAsStalled.noProgressViolation (h : AtLeastAsStalled r r')
    (hr : r.noProgressViolation = true) : r'.noProgressViolation = true := by
  rw [← mem_tripped_noProgressGuard] at hr ⊢
  exact (h.tightens noProgressGuard (by simp [guards])).tripped hr

/-- The rules reported are still reported, if the last recovery looks no better and the
correction is still active. -/
theorem violatedRules_of_atLeastAsStalled (h : AtLeastAsStalled r r')
    (hrecovery : r'.recovery.lastRecoveryHadProgress = true →
      r.recovery.lastRecoveryHadProgress = true)
    (hactive : r.selfCorrection.active = true → r'.selfCorrection.active = true)
    {rule : ProhibitionRule} (hrule : rule ∈ r.violatedRules) : rule ∈ r'.violatedRules := by
  rw [mem_violatedRules] at hrule ⊢
  rcases hrule with ⟨hlimit, hrule⟩ | ⟨hfakes, hrule⟩
  · exact Or.inl ⟨h.noProgressViolation hlimit, hrule⟩
  · have hfakes' : FakesProgress r' :=
      ⟨Bool.eq_false_iff.mpr fun hp => Bool.eq_false_iff.mp hfakes.1 (hrecovery hp),
        hactive hfakes.2⟩
    exact Or.inr ⟨hfakes', hrule⟩

/-- Escalation is monotone. A request at least as stalled as one handed off is handed off,
with the same rules reported if the last recovery looks no better and the correction is
still active, and a handoff persists along a run in which no counter is reset. -/
theorem escalation_mono :
    (∀ r r', AtLeastAsStalled r r' → (decideReasoningHarness r).mode = .handoff →
      (decideReasoningHarness r').mode = .handoff) ∧
    (∀ r r', AtLeastAsStalled r r' →
      (r'.recovery.lastRecoveryHadProgress = true → r.recovery.lastRecoveryHadProgress = true) →
      (r.selfCorrection.active = true → r'.selfCorrection.active = true) →
      ∀ rule ∈ (decideReasoningHarness r).violatedRules,
        rule ∈ (decideReasoningHarness r').violatedRules) ∧
    ∀ run : List ReasoningHarnessRequest, run.IsChain AtLeastAsStalled →
      run.Pairwise fun r r' => (decideReasoningHarness r).mode = .handoff →
        (decideReasoningHarness r').mode = .handoff := by
  refine ⟨fun r r' h hr => ?_, fun r r' h hrecovery hactive rule hrule => ?_,
    fun run hrun => ?_⟩
  · exact handoff_of_atLeastAsStalled h hr
  · rw [violatedRules_decideReasoningHarness] at hrule ⊢
    exact violatedRules_of_atLeastAsStalled h hrecovery hactive hrule
  · simp only [handoff_iff_stopped]
    exact pairwise_stopped (hrun.imp fun _ _ h => h.tightens)

/-- The base request after three iterations without progress, `n` corrections and `n`
compactions. -/
def stalledRequest (n : UInt32) : ReasoningHarnessRequest :=
  { baseRequest with
    progress := ⟨1, some 4, some 1, 3⟩
    selfCorrection := ⟨true, n, none, false⟩
    contextPressure := { baseRequest.contextPressure with recentCompactionCount := n } }

/-- A handoff at three iterations persists through a correction and a compaction. -/
theorem escalation_mono_stalledRequest :
    (decideReasoningHarness (stalledRequest 1)).mode = .handoff := by
  have hstep : AtLeastAsStalled (stalledRequest 0) (stalledRequest 1) :=
    ⟨by decide, by decide, by decide, by decide, by decide, by decide, id⟩
  have hpersists := escalation_mono.2.2 [stalledRequest 0, stalledRequest 1]
    (List.isChain_pair.mpr hstep)
  exact List.pairwise_pair.mp hpersists (by decide)

end ReasoningHarness

namespace DeterministicOrchestrator

/-- The second request is at least as stalled as the first : no count is lower, a pending
compaction still is pending, the last recovery looks no better, and there is a meaningful
change only if there was one. -/
structure AtLeastAsStalled (r r' : ContinueRequest) : Prop where
  followUps : r.repeatedFollowUpCount ≤ r'.repeatedFollowUpCount
  noProgress : r.progress.noProgressIterationCount ≤ r'.progress.noProgressIterationCount
  pending : r.postCompaction.pendingPostCompaction = true →
    r'.postCompaction.pendingPostCompaction = true
  recovery : r'.recovery.lastRecoveryHadProgress = true → r.recovery.lastRecoveryHadProgress = true
  changes : (∃ change ∈ r'.recentStateChanges, change ≠ .noMeaningfulChange) →
    ∃ change ∈ r.recentStateChanges, change ≠ .noMeaningfulChange

variable {r r' : ContinueRequest}

/-- None of the stop conditions relaxes. -/
theorem AtLeastAsStalled.tightens (h : AtLeastAsStalled r r') : ∀ g ∈ guards, g.Tightens r r' := by
  intro g hg
  simp only [guards, List.mem_cons, List.not_mem_nil, or_false] at hg
  rcases hg with rfl | rfl | rfl
  · refine ⟨fun hunchanged change hchange => ?_, UInt32.le_iff_toNat_le.mp h.followUps, le_rfl⟩
    by_contra hne
    obtain ⟨change₀, hchange₀, hne₀⟩ := h.changes ⟨change, hchange, hne⟩
    exact hne₀ (hunchanged change₀ hchange₀)
  · refine ⟨fun hfailed => ?_, UInt32.le_iff_toNat_le.mp h.noProgress, le_rfl⟩
    exact Bool.eq_false_iff.mpr fun hp => Bool.eq_false_iff.mp hfailed (h.recovery hp)
  · exact ⟨h.pending, UInt32.le_iff_toNat_le.mp h.noProgress, le_rfl⟩

theorem AtLeastAsStalled.followUpLoop (h : AtLeastAsStalled r r') (hr : FollowUpLoop r) :
    FollowUpLoop r' := by
  rw [← mem_tripped_followUpGuard] at hr ⊢
  exact (h.tightens followUpGuard (by simp [guards])).tripped hr

theorem AtLeastAsStalled.stalled (h : AtLeastAsStalled r r') (hr : Stalled r) : Stalled r' := by
  rw [← mem_tripped_stallGuard] at hr ⊢
  exact (h.tightens stallGuard (by simp [guards])).tripped hr

theorem AtLeastAsStalled.postCompactionStall (h : AtLeastAsStalled r r')
    (hr : PostCompactionStall r) : PostCompactionStall r' := by
  rw [← mem_tripped_postCompactionGuard] at hr ⊢
  exact (h.tightens postCompactionGuard (by simp [guards])).tripped hr

/-- Refusal is monotone. What is refused still is when the stall is no better, though
perhaps by another guard, and whatever else the list of changes looks like. -/
theorem refuses_of_atLeastAsStalled (h : AtLeastAsStalled r r') (hr : Refuses r) : Refuses r' := by
  rw [refuses_iff_stopped] at hr ⊢
  exact stopped_of_tightens h.tightens hr

/-- The sample request after `followUps` follow-ups, with the given changes. -/
def followedUpRequest (followUps : UInt32) (changes : List StateChangeKind) : ContinueRequest :=
  { sampleContinueRequest with
    repeatedFollowUpCount := followUps
    recentStateChanges := changes }

/-- One follow-up more, reported as no change twice and not as an empty list. -/
theorem refuses_of_atLeastAsStalled_followedUpRequest :
    Refuses (followedUpRequest 4 [.noMeaningfulChange, .noMeaningfulChange]) := by
  have hstep : AtLeastAsStalled (followedUpRequest 3 [])
      (followedUpRequest 4 [.noMeaningfulChange, .noMeaningfulChange]) :=
    ⟨by decide, by decide, id, id, by simp [followedUpRequest]⟩
  exact refuses_of_atLeastAsStalled hstep ⟨_, rfl, rfl⟩

end DeterministicOrchestrator

end Muldex
