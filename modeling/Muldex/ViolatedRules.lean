import Muldex.TwoPaths

/-!
# What a decision reports

A harness decision comes with a rationale and a list of violated rules. The list is
filled from two conditions, the no-progress limit and a correction that fakes progress
(`mem_violatedRules`), and a handoff has three limits and one rationale. So a handoff is
explained by its report only where one of the two conditions holds, and two handoffs are
told apart only where they differ in one (`handoff_explained_iff`).

The list of prohibited behaviours of the request is not read. The rules reported are
among it where it names the two that can be (`violatedRules_prohibited_iff`), which is
what the adapters' lists do. What else it names is never reported, the duplicate
injection of a signal snapshot for one (`duplicateReported_iff`).
-/

namespace Muldex

open LoopGuard

namespace ReasoningHarness

/-! ## Telling reports apart -/

/-- The no-progress rule is reported at the no-progress limit. -/
theorem noRepeatedNoProgressContinuation_mem_iff (request : ReasoningHarnessRequest) :
    .noRepeatedNoProgressContinuation ∈ request.violatedRules ↔
      request.noProgressViolation = true := by
  simp [mem_violatedRules]

/-- The fake-progress rule is reported for a correction that fakes progress. -/
theorem noFakeProgress_mem_iff (request : ReasoningHarnessRequest) :
    .noFakeProgress ∈ request.violatedRules ↔ FakesProgress request := by
  simp [mem_violatedRules]

/-- Some rule is reported where one of the two conditions holds. -/
theorem violatedRules_ne_nil_iff (request : ReasoningHarnessRequest) :
    request.violatedRules ≠ [] ↔
      request.noProgressViolation = true ∨ FakesProgress request := by
  constructor
  · intro hne
    obtain ⟨rule, hrule⟩ := List.exists_mem_of_ne_nil _ hne
    rcases (mem_violatedRules request rule).mp hrule with ⟨hc, -⟩ | ⟨hc, -⟩
    · exact Or.inl hc
    · exact Or.inr hc
  · rintro (hc | hc)
    · exact List.ne_nil_of_mem ((noRepeatedNoProgressContinuation_mem_iff request).mpr hc)
    · exact List.ne_nil_of_mem ((noFakeProgress_mem_iff request).mpr hc)

/-- Two requests report the same rules where they agree on the two conditions. -/
theorem violatedRules_eq_iff (r r' : ReasoningHarnessRequest) :
    r.violatedRules = r'.violatedRules ↔
      (r.noProgressViolation = true ↔ r'.noProgressViolation = true) ∧
        (FakesProgress r ↔ FakesProgress r') := by
  constructor
  · intro heq
    rw [← noRepeatedNoProgressContinuation_mem_iff, ← noRepeatedNoProgressContinuation_mem_iff,
      ← noFakeProgress_mem_iff, ← noFakeProgress_mem_iff, heq]
    exact ⟨Iff.rfl, Iff.rfl⟩
  · rintro ⟨hlimit, hfakes⟩
    have hfakes' : (!r.recovery.lastRecoveryHadProgress && r.selfCorrection.active) =
        (!r'.recovery.lastRecoveryHadProgress && r'.selfCorrection.active) := by
      rw [Bool.eq_iff_iff]
      simpa [FakesProgress] using hfakes
    rw [ReasoningHarnessRequest.violatedRules, ReasoningHarnessRequest.violatedRules,
      Bool.eq_iff_iff.mpr hlimit, hfakes']

/-- No rule is reported twice. -/
theorem nodup_violatedRules (request : ReasoningHarnessRequest) :
    request.violatedRules.Nodup := by
  unfold ReasoningHarnessRequest.violatedRules
  split_ifs <;> decide

/-! ## Handoffs -/

/-- The limits of the harness. -/
inductive HarnessLimit where
  | noProgress
  | selfCorrection
  | repeatedCompaction

/-- The guard of a limit. -/
def HarnessLimit.guard : HarnessLimit → Guard ReasoningHarnessRequest
  | noProgress => noProgressGuard
  | selfCorrection => selfCorrectionGuard
  | repeatedCompaction => compactionGuard

/-- The limits a request reaches. -/
def reachedLimits (request : ReasoningHarnessRequest) : Set HarnessLimit :=
  {limit | request ∈ limit.guard.tripped}

/-- A request is handed off for some limit it reaches. -/
theorem handoff_iff_reachedLimits (request : ReasoningHarnessRequest) :
    (decideReasoningHarness request).mode = .handoff ↔ (reachedLimits request).Nonempty := by
  rw [handoff_iff_stopped, mem_stopped_guards]
  constructor
  · rintro (h | h | h)
    · exact ⟨.noProgress, h⟩
    · exact ⟨.selfCorrection, h⟩
    · exact ⟨.repeatedCompaction, h⟩
  · rintro ⟨limit, h⟩
    cases limit with
    | noProgress => exact Or.inl h
    | selfCorrection => exact Or.inr (Or.inl h)
    | repeatedCompaction => exact Or.inr (Or.inr h)

theorem noProgress_mem_reachedLimits (request : ReasoningHarnessRequest) :
    .noProgress ∈ reachedLimits request ↔ request.noProgressViolation = true :=
  mem_tripped_noProgressGuard request

/-- A handoff reports some rule exactly when it reaches the no-progress limit or fakes
progress. Two handoffs for different limits are told apart exactly when they disagree on
one of the two. -/
theorem handoff_explained_iff (r r' : ReasoningHarnessRequest) :
    ((decideReasoningHarness r).mode = .handoff →
      ((decideReasoningHarness r).violatedRules ≠ [] ↔
        .noProgress ∈ reachedLimits r ∨ FakesProgress r)) ∧
    ((decideReasoningHarness r).mode = .handoff → (decideReasoningHarness r').mode = .handoff →
      reachedLimits r ≠ reachedLimits r' →
      (¬((decideReasoningHarness r).rationale = (decideReasoningHarness r').rationale ∧
          (decideReasoningHarness r).violatedRules = (decideReasoningHarness r').violatedRules) ↔
        ¬((.noProgress ∈ reachedLimits r ↔ .noProgress ∈ reachedLimits r') ∧
          (FakesProgress r ↔ FakesProgress r')))) := by
  refine ⟨fun _ => ?_, fun hr hr' _ => not_congr ?_⟩
  · rw [violatedRules_decideReasoningHarness, noProgress_mem_reachedLimits]
    exact violatedRules_ne_nil_iff r
  · have hrationale := (rationale_and_checkpoint_of_handoff hr).1
    have hrationale' := (rationale_and_checkpoint_of_handoff hr').1
    rw [hrationale, hrationale', violatedRules_decideReasoningHarness,
      violatedRules_decideReasoningHarness, violatedRules_eq_iff, noProgress_mem_reachedLimits,
      noProgress_mem_reachedLimits]
    exact and_iff_right rfl

/-- The base request after so many iterations without progress, corrections and
compactions without a state change. -/
def limitRequest (noProgress attempts compactions : UInt32) : ReasoningHarnessRequest :=
  { baseRequest with
    progress := ⟨1, some 4, some 1, noProgress⟩
    selfCorrection := ⟨true, attempts, none, false⟩
    contextPressure := {
      baseRequest.contextPressure with
      recentCompactionCount := compactions
      lastCompactionHadStateChange := false } }

/-- At the no-progress limit the handoff is explained, and told apart from one at the
self-correction limit. -/
theorem handoff_explained_limitRequest :
    (decideReasoningHarness (limitRequest 3 0 0)).violatedRules ≠ [] ∧
      ¬((decideReasoningHarness (limitRequest 3 0 0)).rationale =
          (decideReasoningHarness (limitRequest 0 2 0)).rationale ∧
        (decideReasoningHarness (limitRequest 3 0 0)).violatedRules =
          (decideReasoningHarness (limitRequest 0 2 0)).violatedRules) := by
  have hiff := handoff_explained_iff (limitRequest 3 0 0) (limitRequest 0 2 0)
  have hreached : HarnessLimit.noProgress ∈ reachedLimits (limitRequest 3 0 0) :=
    (noProgress_mem_reachedLimits _).mpr (by decide)
  have hnot : HarnessLimit.noProgress ∉ reachedLimits (limitRequest 0 2 0) :=
    (noProgress_mem_reachedLimits _).not.mpr (by decide)
  refine ⟨(hiff.1 (by decide)).mpr (Or.inl hreached), (hiff.2 (by decide) (by decide) ?_).mpr ?_⟩
  · intro heq
    exact hnot (heq ▸ hreached)
  · exact fun hagree => hnot (hagree.1.mp hreached)

/-- At the self-correction limit it is not explained, nor told apart from a handoff at the
compaction limit. -/
theorem not_forall_handoff_explained :
    (¬∀ r, (decideReasoningHarness r).mode = .handoff →
        (decideReasoningHarness r).violatedRules ≠ []) ∧
      ¬∀ r r', (decideReasoningHarness r).mode = .handoff →
        (decideReasoningHarness r').mode = .handoff → reachedLimits r ≠ reachedLimits r' →
        ¬((decideReasoningHarness r).rationale = (decideReasoningHarness r').rationale ∧
          (decideReasoningHarness r).violatedRules =
            (decideReasoningHarness r').violatedRules) := by
  constructor
  · intro hexplained
    exact hexplained (limitRequest 0 2 0) (by decide) (by decide)
  · intro hdistinct
    have hreached : HarnessLimit.selfCorrection ∈ reachedLimits (limitRequest 0 2 0) :=
      (mem_tripped_selfCorrectionGuard _).mpr (by decide)
    refine hdistinct (limitRequest 0 2 0) (limitRequest 0 0 2) (by decide) (by decide)
      (fun heq => ?_) (by decide)
    rw [heq] at hreached
    exact absurd ((mem_tripped_selfCorrectionGuard _).mp hreached) (by decide)

/-! ## The contract of the request -/

/-- The rules reported are prohibited where the two that can be are. -/
theorem forall_violatedRules_mem_iff (request : ReasoningHarnessRequest) :
    (∀ rule ∈ request.violatedRules, rule ∈ request.prohibitedBehaviors) ↔
      (request.noProgressViolation = true →
        .noRepeatedNoProgressContinuation ∈ request.prohibitedBehaviors) ∧
      (FakesProgress request → .noFakeProgress ∈ request.prohibitedBehaviors) := by
  constructor
  · intro hall
    exact ⟨fun hc => hall _ ((noRepeatedNoProgressContinuation_mem_iff request).mpr hc),
      fun hc => hall _ ((noFakeProgress_mem_iff request).mpr hc)⟩
  · rintro ⟨hlimit, hfakes⟩ rule hrule
    rcases (mem_violatedRules request rule).mp hrule with ⟨hc, rfl⟩ | ⟨hc, rfl⟩
    · exact hlimit hc
    · exact hfakes hc

/-- A request that prohibits both rules reports prohibited rules only. -/
theorem mem_prohibitedBehaviors_of_mem_violatedRules {request : ReasoningHarnessRequest}
    (hlimit : .noRepeatedNoProgressContinuation ∈ request.prohibitedBehaviors)
    (hfakes : .noFakeProgress ∈ request.prohibitedBehaviors) :
    ∀ rule ∈ (decideReasoningHarness request).violatedRules,
      rule ∈ request.prohibitedBehaviors := by
  rw [violatedRules_decideReasoningHarness, forall_violatedRules_mem_iff]
  exact ⟨fun _ => hlimit, fun _ => hfakes⟩

/-- No rule is reported twice. The rules reported are among the prohibited ones exactly
when the request prohibits the rule of each condition that holds, and this is so for
every request of an adapter. -/
theorem violatedRules_prohibited_iff :
    (∀ r, (decideReasoningHarness r).violatedRules.Nodup) ∧
    (∀ r, (∀ rule ∈ (decideReasoningHarness r).violatedRules, rule ∈ r.prohibitedBehaviors) ↔
      (r.noProgressViolation = true →
        .noRepeatedNoProgressContinuation ∈ r.prohibitedBehaviors) ∧
      (FakesProgress r → .noFakeProgress ∈ r.prohibitedBehaviors)) ∧
    (∀ s, ∀ rule ∈ (decideReasoningHarness (codexSnapshotToHarnessRequest s)).violatedRules,
      rule ∈ (codexSnapshotToHarnessRequest s).prohibitedBehaviors) ∧
    (∀ s, ∀ rule ∈ (decideReasoningHarness (codexLiveSnapshotToHarnessRequest s)).violatedRules,
      rule ∈ (codexLiveSnapshotToHarnessRequest s).prohibitedBehaviors) ∧
    ∀ s, ∀ rule ∈
        (decideReasoningHarness (codexBootstrapSnapshotToHarnessRequest s)).violatedRules,
      rule ∈ (codexBootstrapSnapshotToHarnessRequest s).prohibitedBehaviors := by
  refine ⟨fun r => ?_, fun r => ?_, fun s => ?_, fun s => ?_, fun s => ?_⟩
  · rw [violatedRules_decideReasoningHarness]
    exact nodup_violatedRules r
  · rw [violatedRules_decideReasoningHarness]
    exact forall_violatedRules_mem_iff r
  · exact mem_prohibitedBehaviors_of_mem_violatedRules (by simp [codexSnapshotToHarnessRequest])
      (by simp [codexSnapshotToHarnessRequest])
  · exact mem_prohibitedBehaviors_of_mem_violatedRules
      (by simp [codexLiveSnapshotToHarnessRequest]) (by simp [codexLiveSnapshotToHarnessRequest])
  · exact mem_prohibitedBehaviors_of_mem_violatedRules
      (by simp [codexBootstrapSnapshotToHarnessRequest])
      (by simp [codexBootstrapSnapshotToHarnessRequest])

/-- A request that prohibits nothing is still reported at the no-progress limit. -/
theorem not_forall_violatedRules_prohibited :
    ¬∀ r, (∀ rule ∈ (decideReasoningHarness r).violatedRules, rule ∈ r.prohibitedBehaviors) ∧
      (decideReasoningHarness r).violatedRules.Nodup := by
  intro h
  have hmem := (h { limitRequest 3 0 0 with prohibitedBehaviors := [] }).1
    .noRepeatedNoProgressContinuation (by decide)
  exact absurd hmem (by decide)

/-! ## Duplicate injections -/

/-- No request is reported to inject a duplicate. -/
theorem noDuplicateInjection_not_mem_violatedRules (request : ReasoningHarnessRequest) :
    .noDuplicateInjection ∉ (decideReasoningHarness request).violatedRules := by
  rw [violatedRules_decideReasoningHarness, mem_violatedRules]
  rintro (⟨-, hrule⟩ | ⟨-, hrule⟩) <;> cases hrule

/-- The duplicate injection of a snapshot is reported if it was detected, and only then. -/
structure DuplicateReported (snapshot : CodexSignalSnapshot) : Prop where
  detected : snapshot.duplicateInjectionDetected = true → .noDuplicateInjection ∈
    (decideReasoningHarness (codexSnapshotToHarnessRequest snapshot)).violatedRules
  undetected : snapshot.duplicateInjectionDetected = false → .noDuplicateInjection ∉
    (decideReasoningHarness (codexSnapshotToHarnessRequest snapshot)).violatedRules

/-- Although the adapter prohibits it, a duplicate injection is reported as it should be
exactly where none was detected. -/
theorem duplicateReported_iff (snapshot : CodexSignalSnapshot) :
    .noDuplicateInjection ∈ (codexSnapshotToHarnessRequest snapshot).prohibitedBehaviors ∧
      (DuplicateReported snapshot ↔ snapshot.duplicateInjectionDetected = false) := by
  have hnot := noDuplicateInjection_not_mem_violatedRules (codexSnapshotToHarnessRequest snapshot)
  refine ⟨by simp [codexSnapshotToHarnessRequest], fun hreported => ?_, fun hclear => ?_⟩
  · exact Bool.eq_false_iff.mpr fun hdetected => hnot (hreported.detected hdetected)
  · exact ⟨fun hdetected => absurd hdetected (by simp [hclear]), fun _ => hnot⟩

/-- A duplicate injection detected in a snapshot is not reported. -/
theorem not_forall_duplicateReported : ¬∀ snapshot, DuplicateReported snapshot := by
  intro h
  have hdetected : (followUpSnapshot 0 0).duplicateInjectionDetected = true := rfl
  exact absurd ((h (followUpSnapshot 0 0)).detected hdetected) (by decide)

end ReasoningHarness

end Muldex
