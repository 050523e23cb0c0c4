import Mathlib.Order.Filter.Finite
import Mathlib.Tactic.IntervalCases
import Mathlib.Tactic.Ring
import Muldex.Sessions
import Muldex.TwoPaths

/-!
# Sessions judged by both deciders

Nothing in a session fixes who judges its next turn. Here each turn is judged by either
decider, in any order : by the local orchestrator on a continue request that carries the
snapshot, or by the harness on the adapted snapshot.

What can stop a turn is one of five budgets (`Turn.goesOn_iff`). The two deciders count
iterations without progress in one place, so they share a budget : a turn cannot go on
longer by being sent to the other one. Each budget pays for a bounded number of turns for
each reset of its counter, which is a fall of it, and for one more turn each time it pays and
its counter stays as it is, whoever judges the turns between (`Budget.spends_le`). The bound
is attained for any number of resets and of uncounted turns (`Budget.spends_attained`). An
infinite session that spends a budget forever resets it forever, or spends it uncounted
forever (`Budget.reset_or_uncounted_of_spends`).

A turn that no budget is armed at always goes on (`Turn.goesOn_of_not_watched`). These are
the turns the orchestrator judges after a recovery that made progress, with no compaction
pending and some change to show (`Turn.not_watched_iff`). They and the five budgets account
for the whole of a session (`Turn.goesOn_le`) : one that goes on forever has such turns
forever, or it resets one and the same budget forever or spends it uncounted forever
(`Turn.unwatched_or_reset_or_uncounted`).
-/

namespace Muldex

open LoopGuard Filter ReasoningHarness DeterministicOrchestrator

/-- Who judges a turn. -/
inductive Decider where
  | orchestrator
  | harness
  deriving DecidableEq

/-- A turn of a session : its snapshot, the continue request that carries it, and its
judge. -/
structure Turn where
  decider : Decider
  snapshot : CodexSignalSnapshot
  request : ContinueRequest
  carries : CarriesSnapshot snapshot request

/-- The judge of the turn lets the session go on. -/
def Turn.GoesOn (turn : Turn) : Prop :=
  match turn.decider with
  | .orchestrator => Allows turn.request
  | .harness => Continues (codexSnapshotToHarnessRequest turn.snapshot)

instance : DecidablePred Turn.GoesOn := fun turn =>
  match h : turn.decider with
  | .orchestrator => decidable_of_iff (Allows turn.request) (by rw [Turn.GoesOn, h])
  | .harness => decidable_of_iff (Continues (codexSnapshotToHarnessRequest turn.snapshot))
      (by rw [Turn.GoesOn, h])

/-- What a session can use up. -/
inductive Budget where
  | noProgress
  | followUps
  | postCompaction
  | attempts
  | compactions
  deriving DecidableEq

instance : Fintype Budget where
  elems := {.noProgress, .followUps, .postCompaction, .attempts, .compactions}
  complete budget := by cases budget <;> decide

namespace Budget

/-- The budgets as guards. The first is shared, the next two are the orchestrator's, and the
last two the harness's. -/
def guard : Budget → Guard Turn
  | noProgress => {
      armed := fun turn => turn.decider = .harness ∨ turn.snapshot.lastRecoveryHadProgress = false
      counter := fun turn => turn.snapshot.noProgressIterationCount.toNat
      limit := fun _ => 3 }
  | followUps => {
      armed := fun turn => turn.decider = .orchestrator ∧
        ∀ change ∈ turn.snapshot.recentStateChanges, change = .noMeaningfulChange
      counter := fun turn => turn.snapshot.repeatedFollowUpCount.toNat
      limit := fun _ => 3 }
  | postCompaction => {
      armed := fun turn => turn.decider = .orchestrator ∧
        turn.snapshot.pendingPostCompaction = true
      counter := fun turn => turn.snapshot.noProgressIterationCount.toNat
      limit := fun _ => 2 }
  | attempts => {
      armed := fun turn => turn.decider = .harness
      counter := fun turn => turn.snapshot.selfCorrectionAttemptCount.toNat
      limit := fun _ => 2 }
  | compactions => {
      armed := fun turn => turn.decider = .harness ∧
        turn.snapshot.lastCompactionHadStateChange = false
      counter := fun turn => turn.snapshot.recentCompactionCount.toNat
      limit := fun _ => 2 }

/-- The limit of the budget. -/
def limit : Budget → ℕ
  | noProgress | followUps => 3
  | postCompaction | attempts | compactions => 2

@[simp] theorem guard_limit (budget : Budget) (turn : Turn) :
    budget.guard.limit turn = budget.limit := by
  cases budget <;> rfl

instance (budget : Budget) : DecidablePred budget.guard.armed := fun _ =>
  match budget with
  | noProgress => inferInstanceAs (Decidable (_ ∨ _))
  | followUps | postCompaction | compactions => inferInstanceAs (Decidable (_ ∧ _))
  | attempts => inferInstanceAs (Decidable (_ = _))

/-- The turn goes on, and the budget pays for it. -/
def Spends (budget : Budget) (turn : Turn) : Prop :=
  budget.guard.armed turn ∧ turn.GoesOn

instance (budget : Budget) : DecidablePred budget.Spends := fun _ =>
  inferInstanceAs (Decidable (_ ∧ _))

end Budget

/-- What the harness does not hand off is within its limits. -/
theorem continues_codexSnapshot_iff (snapshot : CodexSignalSnapshot) :
    Continues (codexSnapshotToHarnessRequest snapshot) ↔ ¬LimitReached snapshot :=
  (handoff_codexSnapshot_iff snapshot).not

/-- What the orchestrator allows of a request that carries a snapshot. -/
theorem allows_iff_of_carries {s : CodexSignalSnapshot} {c : ContinueRequest}
    (h : CarriesSnapshot s c) :
    Allows c ↔
      ¬((3 ≤ s.repeatedFollowUpCount ∧
          ∀ change ∈ s.recentStateChanges, change = .noMeaningfulChange) ∨
        (3 ≤ s.noProgressIterationCount ∧ s.lastRecoveryHadProgress = false) ∨
        s.pendingPostCompaction = true ∧ 2 ≤ s.noProgressIterationCount) := by
  rw [allows_iff, FollowUpLoop, Stalled, PostCompactionStall, h.recentStateChanges,
    h.repeatedFollowUpCount, h.noProgressIterationCount, h.recovery, h.postCompaction]

/-- A turn goes on exactly if no budget that is armed at it is used up. -/
theorem Turn.goesOn_iff (turn : Turn) :
    turn.GoesOn ↔ ∀ budget : Budget, turn ∉ budget.guard.tripped := by
  have hall : (∀ budget : Budget, turn ∉ budget.guard.tripped) ↔
      turn ∉ Budget.noProgress.guard.tripped ∧ turn ∉ Budget.followUps.guard.tripped ∧
        turn ∉ Budget.postCompaction.guard.tripped ∧ turn ∉ Budget.attempts.guard.tripped ∧
        turn ∉ Budget.compactions.guard.tripped :=
    ⟨fun h => ⟨h _, h _, h _, h _, h _⟩, fun ⟨h₁, h₂, h₃, h₄, h₅⟩ budget => by
      cases budget <;> assumption⟩
  rw [hall]
  obtain ⟨decider, snapshot, request, hcarries⟩ := turn
  cases decider with
  | orchestrator =>
    change Allows request ↔ _
    rw [allows_iff_of_carries hcarries]
    simp only [Budget.guard, Guard.mem_tripped, UInt32.le_iff_toNat_le, UInt32.reduceToNat]
    grind
  | harness =>
    change Continues (codexSnapshotToHarnessRequest snapshot) ↔ _
    rw [continues_codexSnapshot_iff, LimitReached]
    simp only [Budget.guard, Guard.mem_tripped, UInt32.le_iff_toNat_le, UInt32.reduceToNat]
    grind

namespace Budget

/-- A turn that goes on has not used up a budget. -/
theorem not_mem_tripped_of_goesOn (budget : Budget) {turn : Turn} (h : turn.GoesOn) :
    turn ∉ budget.guard.tripped :=
  turn.goesOn_iff.mp h budget

/-- However the turns of a session are shared out between the deciders, a budget pays for at
most its limit of them less its first count, for as many again for each fall of its counter,
and for one more for each turn it pays for that leaves its counter as it is. Turns at which it
is not armed do not count, and do not add to it. -/
theorem spends_le (budget : Budget) (first : Turn) (rest : List Turn) :
    (first :: rest).countP (budget.Spends ·) ≤ budget.limit - budget.guard.counter first +
      budget.limit * resets budget.guard.counter (first :: rest) +
        uncounted budget.guard.counter budget.Spends (first :: rest) :=
  budget.guard.countP_armed_le budget.guard_limit fun _ => budget.not_mem_tripped_of_goesOn

/-- A snapshot at which the budget is armed and has been used `i` times. -/
def snapshot (budget : Budget) (i : UInt32) : CodexSignalSnapshot :=
  let calm := { followUpSnapshot 0 0 with
    recentStateChanges := [.newConfirmedFinding]
    lastCompactionHadStateChange := true }
  match budget with
  | noProgress => { calm with noProgressIterationCount := i }
  | followUps => { calm with recentStateChanges := [], repeatedFollowUpCount := i }
  | postCompaction => { calm with pendingPostCompaction := true, noProgressIterationCount := i }
  | attempts => { calm with selfCorrectionAttemptCount := i }
  | compactions => { calm with lastCompactionHadStateChange := false, recentCompactionCount := i }

/-- A turn at which the budget is armed and has been used `i` times. -/
def turn (budget : Budget) (i : ℕ) : Turn where
  decider :=
    match budget with
    | noProgress | attempts | compactions => .harness
    | followUps | postCompaction => .orchestrator
  snapshot := budget.snapshot (.ofNat i)
  request := continueRequestOf (budget.snapshot (.ofNat i))
  carries := carriesSnapshot_continueRequestOf _

/-- Below the limit the budget pays for its turns. -/
theorem spends_turn (budget : Budget) {i : ℕ} (h : i < budget.limit) :
    budget.guard.counter (budget.turn i) = i ∧ budget.Spends (budget.turn i) := by
  cases budget <;> simp only [limit] at h <;> interval_cases i <;>
    exact ⟨by decide, by decide⟩

/-- The bound on what a budget pays for is attained, for any number of resets and of turns
that are not counted. -/
theorem spends_attained (budget : Budget) (m k : ℕ) :
    ∃ first rest, budget.guard.counter first = 0 ∧
      resets budget.guard.counter (first :: rest) = k ∧
      uncounted budget.guard.counter budget.Spends (first :: rest) = m ∧
      (first :: rest).countP (budget.Spends ·) = budget.limit + budget.limit * k + m := by
  obtain ⟨n, hn, hlimit⟩ : ∃ n, 0 < n ∧ budget.limit = n + 1 := by
    cases budget <;> exact ⟨_, by decide, rfl⟩
  obtain ⟨rest, hrest⟩ := exists_paddedRounds_eq_cons budget.turn n m k
  have hcounter : ∀ i ≤ n, budget.guard.counter (budget.turn i) = i :=
    fun i hi => (budget.spends_turn (by omega)).1
  have hspends : ∀ i ≤ n, budget.Spends (budget.turn i) :=
    fun i hi => (budget.spends_turn (by omega)).2
  refine ⟨budget.turn 0, rest, hcounter 0 (Nat.zero_le n), ?_, ?_, ?_⟩ <;> rw [← hrest]
  · exact resets_paddedRounds hcounter hn m k
  · exact uncounted_paddedRounds hcounter hn hspends m k
  · rw [countP_paddedRounds hspends, hlimit]
    ring

end Budget

/-! ## All budgets together -/

/-- Some budget is armed at the turn. -/
def Turn.Watched (turn : Turn) : Prop :=
  ∃ budget : Budget, budget.guard.armed turn

instance : DecidablePred Turn.Watched := fun turn =>
  inferInstanceAs (Decidable (∃ budget : Budget, budget.guard.armed turn))

/-- The turns that no budget watches are the orchestrator's, after a recovery that made
progress, with no compaction pending and some change to show. -/
theorem Turn.not_watched_iff (turn : Turn) :
    ¬turn.Watched ↔ turn.decider = .orchestrator ∧
      turn.snapshot.lastRecoveryHadProgress = true ∧
      turn.snapshot.pendingPostCompaction = false ∧
      ∃ change ∈ turn.snapshot.recentStateChanges, change ≠ .noMeaningfulChange := by
  have hall : ¬turn.Watched ↔ ¬Budget.noProgress.guard.armed turn ∧
      ¬Budget.followUps.guard.armed turn ∧ ¬Budget.postCompaction.guard.armed turn ∧
      ¬Budget.attempts.guard.armed turn ∧ ¬Budget.compactions.guard.armed turn := by
    rw [Turn.Watched, not_exists]
    exact ⟨fun h => ⟨h _, h _, h _, h _, h _⟩, fun ⟨h₁, h₂, h₃, h₄, h₅⟩ budget => by
      cases budget <;> assumption⟩
  rw [hall]
  simp only [Budget.guard]
  cases turn.decider <;> grind

/-- A turn that no budget watches goes on. -/
theorem Turn.goesOn_of_not_watched {turn : Turn} (h : ¬turn.Watched) : turn.GoesOn :=
  turn.goesOn_iff.mpr fun budget htripped => h ⟨budget, htripped.1⟩

/-- A watched turn that goes on is paid for by a budget. -/
theorem Turn.exists_spends {turn : Turn} (hwatched : turn.Watched) (hgoesOn : turn.GoesOn) :
    ∃ budget : Budget, budget.Spends turn := by
  obtain ⟨budget, harmed⟩ := hwatched
  exact ⟨budget, harmed, hgoesOn⟩

/-- However the turns of a session are shared out between the deciders, the session goes on
for no more turns than the unwatched ones and what its budgets pay for : each its limit less
the first count, as much again for each fall of its counter, and one turn for each it pays for
that leaves its counter as it is. -/
theorem Turn.goesOn_le (first : Turn) (rest : List Turn) :
    (first :: rest).countP (Turn.GoesOn ·) ≤ (first :: rest).countP (¬Turn.Watched ·) +
      ∑ budget : Budget, (budget.limit - budget.guard.counter first +
        budget.limit * resets budget.guard.counter (first :: rest) +
          uncounted budget.guard.counter budget.Spends (first :: rest)) := by
  calc (first :: rest).countP (Turn.GoesOn ·)
      ≤ (first :: rest).countP (¬Turn.Watched ·) +
          ∑ budget : Budget, (first :: rest).countP (budget.Spends ·) :=
        countP_le_add_sum (fun turn hgoesOn => by
          by_cases hwatched : turn.Watched
          · exact .inr (Turn.exists_spends hwatched hgoesOn)
          · exact .inl hwatched) _
    _ ≤ _ := Nat.add_le_add_left (Finset.sum_le_sum fun budget _ =>
        budget.guard.countP_armed_le budget.guard_limit
          fun _ => budget.not_mem_tripped_of_goesOn) _

end Muldex
