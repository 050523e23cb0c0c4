import Muldex.Cadence
import Muldex.Policy
import Muldex.ReasoningHarness

/-!
# Periodic checkpoints

Where they do not hand off, both deciders request a checkpoint every five completed
steps. They see one request at a time and no earlier count, so what they test is that
the count stands on a positive multiple of five : each is a reminder of period five that
is exempt at handoffs (`Cadence.Reminder`).

A count that jumps over a multiple of five is therefore not noticed by either
(`not_forall_noneSkipped`). One that rises by at most one from each request to the next
is, and then no five steps in a row without a handoff go without a checkpoint
(`noneSkipped_checkpoints_iff`).
-/

namespace Muldex

open Cadence

/-- The steps completed stand on a positive multiple of five, in the width of the counter
and as a number. -/
theorem completedSteps_due_iff (steps : UInt32) :
    (decide (steps > 0) && decide (steps % 5 = 0)) = true ↔
      0 < steps.toNat ∧ steps.toNat % 5 = 0 := by
  have hpos : 0 < steps ↔ 0 < steps.toNat := UInt32.lt_iff_toNat_lt
  have hmod : steps % 5 = 0 ↔ steps.toNat % 5 = 0 := by
    rw [← UInt32.toNat_inj, UInt32.toNat_mod]
    rfl
  rw [Bool.and_eq_true, decide_eq_true_iff, decide_eq_true_iff, gt_iff_lt, hpos, hmod]

namespace ReasoningHarness

/-- The count of the steps completed. -/
def completedSteps (request : ReasoningHarnessRequest) : ℕ :=
  request.progress.completedSteps.toNat

/-- Below the limits, a checkpoint is requested every five steps. -/
theorem shouldCheckpoint_iff {request : ReasoningHarnessRequest}
    (h : (decideReasoningHarness request).mode ≠ .handoff) :
    (decideReasoningHarness request).shouldCheckpoint = true ↔ Due 5 completedSteps request := by
  rw [ne_eq, handoff_iff_stopped] at h
  rcases decideReasoningHarness_cases request with ⟨hstopped, -⟩ | ⟨-, -, hd⟩ | ⟨-, -, hd⟩
  · exact absurd hstopped h
  · rw [hd]
    exact completedSteps_due_iff _
  · rw [hd]
    exact completedSteps_due_iff _

/-- The harness as a reminder of checkpoints. -/
def checkpoints : Reminder ReasoningHarnessRequest where
  period := 5
  counter := completedSteps
  exempt request := (decideReasoningHarness request).mode = .handoff
  reminds request := (decideReasoningHarness request).shouldCheckpoint = true
  reminds_iff _ := shouldCheckpoint_iff

end ReasoningHarness

namespace DeterministicOrchestrator

/-- The count of the steps completed. -/
def completedSteps (request : ContinueRequest) : ℕ :=
  request.progress.completedSteps.toNat

/-- The request is answered with a handoff. -/
def HandsOff (request : ContinueRequest) : Prop :=
  ∃ decision, decideContinue request = .ok decision ∧ decision.mode = .handoff

/-- The request is answered with a decision to make a checkpoint. -/
def RequestsCheckpoint (request : ContinueRequest) : Prop :=
  ∃ decision, decideContinue request = .ok decision ∧ decision.requestCheckpoint = true

/-- What is not handed off is approved. -/
theorem eq_approval_of_not_handsOff {request : ContinueRequest} (h : ¬HandsOff request) :
    decideContinue request = .ok (approval request) := by
  rcases refusal_or_approval request with ⟨-, rationale, suppress, hd⟩ | ⟨-, hd⟩
  · exact absurd ⟨_, hd, rfl⟩ h
  · exact hd

/-- With approval, a checkpoint is requested every five steps. -/
theorem requestsCheckpoint_iff {request : ContinueRequest} (h : ¬HandsOff request) :
    RequestsCheckpoint request ↔ Due 5 completedSteps request := by
  have hflag : RequestsCheckpoint request ↔ (approval request).requestCheckpoint = true := by
    simp [RequestsCheckpoint, eq_approval_of_not_handsOff h]
  rw [hflag]
  exact completedSteps_due_iff _

/-- The orchestrator as a reminder of checkpoints. -/
def checkpoints : Reminder ContinueRequest where
  period := 5
  counter := completedSteps
  exempt := HandsOff
  reminds := RequestsCheckpoint
  reminds_iff _ := requestsCheckpoint_iff

end DeterministicOrchestrator

/-! ## Runs -/

/-- Neither decider skips a checkpoint in a run exactly when the steps completed land on a
multiple of five wherever they reach or pass one between two decisions in a row that are
not handoffs. So neither skips one where the steps rise by at most one at a time, and
then no five steps without a handoff go without a checkpoint. -/
theorem noneSkipped_checkpoints_iff :
    ((∀ run, ReasoningHarness.checkpoints.NoneSkipped run ↔
        ReasoningHarness.checkpoints.LandsOnMultiples run) ∧
      (∀ run, run.IsChain (Steps ReasoningHarness.completedSteps) →
        ReasoningHarness.checkpoints.NoneSkipped run) ∧
      ∀ first last : ReasoningHarnessRequest, ∀ rest,
        (first :: rest).IsChain (Steps ReasoningHarness.completedSteps) →
        (∀ r ∈ rest, (decideReasoningHarness r).mode ≠ .handoff) → last ∈ rest →
        ReasoningHarness.completedSteps first + 5 ≤ ReasoningHarness.completedSteps last →
        ∃ r ∈ rest, (decideReasoningHarness r).shouldCheckpoint = true) ∧
    (∀ run, DeterministicOrchestrator.checkpoints.NoneSkipped run ↔
        DeterministicOrchestrator.checkpoints.LandsOnMultiples run) ∧
      (∀ run, run.IsChain (Steps DeterministicOrchestrator.completedSteps) →
        DeterministicOrchestrator.checkpoints.NoneSkipped run) ∧
      ∀ first last : ContinueRequest, ∀ rest,
        (first :: rest).IsChain (Steps DeterministicOrchestrator.completedSteps) →
        (∀ r ∈ rest, ¬DeterministicOrchestrator.HandsOff r) → last ∈ rest →
        DeterministicOrchestrator.completedSteps first + 5 ≤
          DeterministicOrchestrator.completedSteps last →
        ∃ r ∈ rest, DeterministicOrchestrator.RequestsCheckpoint r := by
  have hperiod : 0 < 5 := by decide
  refine ⟨⟨fun run => ?_, fun run hrun => ?_, fun first last rest => ?_⟩,
    fun run => ?_, fun run hrun => ?_, fun first last rest => ?_⟩
  · exact Reminder.noneSkipped_iff run
  · exact Reminder.noneSkipped_of_steps hrun
  · exact ReasoningHarness.checkpoints.exists_reminds hperiod
  · exact Reminder.noneSkipped_iff run
  · exact Reminder.noneSkipped_of_steps hrun
  · exact DeterministicOrchestrator.checkpoints.exists_reminds hperiod

/-- The base request after so many steps. -/
def steppedRequest (steps : UInt32) : ReasoningHarnessRequest :=
  { ReasoningHarness.baseRequest with progress := ⟨steps, some 8, some 1, 0⟩ }

/-- The sample continue request after so many steps. -/
def steppedContinueRequest (steps : UInt32) : ContinueRequest :=
  { sampleContinueRequest with progress := ⟨steps, some 8, some 1, 0⟩ }

/-- From four steps to five, both request a checkpoint. -/
theorem noneSkipped_checkpoints_stepped :
    ReasoningHarness.checkpoints.NoneSkipped [steppedRequest 4, steppedRequest 5] ∧
      DeterministicOrchestrator.checkpoints.NoneSkipped
        [steppedContinueRequest 4, steppedContinueRequest 5] := by
  constructor
  · exact noneSkipped_checkpoints_iff.1.2.1 _ (List.isChain_pair.mpr ⟨by decide, by decide⟩)
  · exact noneSkipped_checkpoints_iff.2.2.1 _ (List.isChain_pair.mpr ⟨by decide, by decide⟩)

/-- From four steps to six, neither does. -/
theorem not_forall_noneSkipped :
    (¬∀ run, run.IsChain (fun r r' => ReasoningHarness.completedSteps r ≤
        ReasoningHarness.completedSteps r') → ReasoningHarness.checkpoints.NoneSkipped run) ∧
      ¬∀ run, run.IsChain (fun r r' => DeterministicOrchestrator.completedSteps r ≤
        DeterministicOrchestrator.completedSteps r') →
          DeterministicOrchestrator.checkpoints.NoneSkipped run := by
  constructor
  · intro h
    have hrun := h [steppedRequest 4, steppedRequest 6] (List.isChain_pair.mpr (by decide))
    have hbefore : (decideReasoningHarness (steppedRequest 4)).mode ≠ .handoff := by decide
    have hafter : (decideReasoningHarness (steppedRequest 6)).mode ≠ .handoff := by decide
    have hrequested : (decideReasoningHarness (steppedRequest 6)).shouldCheckpoint = true :=
      List.isChain_pair.mp hrun ⟨hbefore, hafter, by decide⟩
    exact absurd hrequested (by decide)
  · intro h
    have hrun := h [steppedContinueRequest 4, steppedContinueRequest 6]
      (List.isChain_pair.mpr (by decide))
    have hnot (steps : UInt32) : ¬DeterministicOrchestrator.HandsOff
        (steppedContinueRequest steps) := by
      rintro ⟨decision, hd, hmode⟩
      obtain rfl := Except.ok.inj hd
      cases hmode
    obtain ⟨decision, hd, hrequested⟩ :=
      List.isChain_pair.mp hrun ⟨hnot 4, hnot 6, by decide⟩
    obtain rfl := Except.ok.inj hd
    exact absurd hrequested (by decide)

end Muldex
