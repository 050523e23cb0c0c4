import Mathlib.Data.List.Chain
import Mathlib.Tactic.Common

/-!
# Cadence of a counter

Something is due each time a counter has gone through another period. A decision that
sees a single value of the counter can tell whether the counter stands on a multiple of
the period (`Due`), and not whether it has reached or passed one since the last decision
(`Passes`). A `Reminder` is such a decision : where it is not exempt, it reminds exactly
when something is due.

So a reminder skips nothing exactly when the counter lands on a multiple wherever it
reaches or passes one (`Reminder.noneSkipped_iff`). A counter that rises by at most one at
a time does (`Steps.due_of_passes`), and in a run of such steps no span of a whole period goes
without a reminder (`Reminder.exists_reminds`).
-/

namespace Cadence

variable {Ω : Type*}

/-- The counter stands on a positive multiple of the period. -/
def Due (period : ℕ) (counter : Ω → ℕ) (ω : Ω) : Prop :=
  0 < counter ω ∧ counter ω % period = 0

/-- From `ω` to `ω'` the counter reaches or passes a further multiple of the period. -/
def Passes (period : ℕ) (counter : Ω → ℕ) (ω ω' : Ω) : Prop :=
  counter ω / period < counter ω' / period

instance (period : ℕ) (counter : Ω → ℕ) (ω ω' : Ω) : Decidable (Passes period counter ω ω') :=
  inferInstanceAs (Decidable (_ < _))

/-- From `ω` to `ω'` the counter stays or rises by one. -/
structure Steps (counter : Ω → ℕ) (ω ω' : Ω) : Prop where
  mono : counter ω ≤ counter ω'
  step : counter ω' ≤ counter ω + 1

variable {period : ℕ} {counter : Ω → ℕ} {ω ω' : Ω}

/-- Where a multiple is reached or passed, something is due at the multiples. -/
theorem Passes.due_iff_dvd (h : Passes period counter ω ω') :
    Due period counter ω' ↔ period ∣ counter ω' := by
  have hpos : 0 < counter ω' := Nat.pos_of_div_pos ((Nat.zero_le _).trans_lt h)
  rw [Due, Nat.dvd_iff_mod_eq_zero]
  exact and_iff_right hpos

/-- A step that reaches a multiple lands on it. -/
theorem Steps.due_of_passes (hstep : Steps counter ω ω') (h : Passes period counter ω ω') :
    Due period counter ω' := by
  rw [h.due_iff_dvd]
  have hrise : counter ω' = counter ω + 1 := by
    rcases hstep.mono.eq_or_lt with heq | hlt
    · rw [Passes, heq] at h
      exact absurd h (lt_irrefl _)
    · have := hstep.step
      omega
  by_contra hdvd
  rw [Passes, hrise, Nat.succ_div_of_not_dvd (hrise ▸ hdvd)] at h
  exact lt_irrefl _ h

/-- In a run of steps at which nothing is due the counter stays within its period. -/
theorem div_le_of_forall_not_due :
    ∀ {first : Ω} {rest : List Ω}, (first :: rest).IsChain (Steps counter) →
      (∀ ω ∈ rest, ¬Due period counter ω) →
      ∀ ω ∈ rest, counter ω / period ≤ counter first / period
  | _, [], _, _, _, hω => nomatch hω
  | first, next :: rest, hrun, hdue, ω, hω => by
    obtain ⟨hstep, hrest⟩ := List.isChain_cons_cons.mp hrun
    have hnext : counter next / period ≤ counter first / period := by
      by_contra hpasses
      exact hdue next List.mem_cons_self (hstep.due_of_passes (Nat.not_le.mp hpasses))
    rcases List.mem_cons.mp hω with rfl | hmem
    · exact hnext
    · have hquiet : ∀ ω ∈ rest, ¬Due period counter ω :=
        fun ω hω => hdue ω (List.mem_cons_of_mem next hω)
      exact (div_le_of_forall_not_due hrest hquiet ω hmem).trans hnext

/-! ## Reminders -/

/-- A decision that reminds of what is due, and is exempt at some observations. -/
structure Reminder (Ω : Type*) where
  period : ℕ
  counter : Ω → ℕ
  exempt : Ω → Prop
  reminds : Ω → Prop
  reminds_iff : ∀ ω, ¬exempt ω → (reminds ω ↔ Due period counter ω)

namespace Reminder

variable (c : Reminder Ω)

/-- Of two observations in a row neither is exempt, and the counter reaches or passes a
multiple between them. -/
structure Obliged (ω ω' : Ω) : Prop where
  before : ¬c.exempt ω
  after : ¬c.exempt ω'
  passes : Passes c.period c.counter ω ω'

/-- Wherever a multiple is reached or passed, the next decision reminds of it. -/
def NoneSkipped (run : List Ω) : Prop :=
  run.IsChain fun ω ω' => c.Obliged ω ω' → c.reminds ω'

/-- Wherever a multiple is reached or passed, the counter stands on one. -/
def LandsOnMultiples (run : List Ω) : Prop :=
  run.IsChain fun ω ω' => c.Obliged ω ω' → c.period ∣ c.counter ω'

variable {c}

/-- Of what is reached or passed, a reminder is given at the multiples. -/
theorem Obliged.reminds_iff_dvd (h : c.Obliged ω ω') : c.reminds ω' ↔ c.period ∣ c.counter ω' :=
  (c.reminds_iff ω' h.after).trans h.passes.due_iff_dvd

/-- Nothing is skipped exactly when the counter lands on the multiples. -/
theorem noneSkipped_iff (run : List Ω) : c.NoneSkipped run ↔ c.LandsOnMultiples run := by
  constructor
  · exact List.IsChain.imp fun _ _ h hobliged => hobliged.reminds_iff_dvd.mp (h hobliged)
  · exact List.IsChain.imp fun _ _ h hobliged => hobliged.reminds_iff_dvd.mpr (h hobliged)

/-- A counter that rises by at most one at a time skips nothing. -/
theorem noneSkipped_of_steps {run : List Ω} (hrun : run.IsChain (Steps c.counter)) :
    c.NoneSkipped run :=
  hrun.imp fun _ ω' hstep h => (c.reminds_iff ω' h.after).mpr (hstep.due_of_passes h.passes)

/-- No span of a whole period goes without a reminder, in a run of steps without
exemptions. -/
theorem exists_reminds (hperiod : 0 < c.period) {first last : Ω} {rest : List Ω}
    (hrun : (first :: rest).IsChain (Steps c.counter)) (hexempt : ∀ ω ∈ rest, ¬c.exempt ω)
    (hlast : last ∈ rest) (hspan : c.counter first + c.period ≤ c.counter last) :
    ∃ ω ∈ rest, c.reminds ω := by
  by_contra hnone
  have hquiet : ∀ ω ∈ rest, ¬Due c.period c.counter ω :=
    fun ω hω hdue => hnone ⟨ω, hω, (c.reminds_iff ω (hexempt ω hω)).mpr hdue⟩
  have hwithin := div_le_of_forall_not_due hrun hquiet last hlast
  have hbeyond : c.counter first / c.period + 1 ≤ c.counter last / c.period := by
    rw [← Nat.add_div_right _ hperiod]
    exact Nat.div_le_div_right hspan
  exact absurd hwithin (Nat.not_le.mpr hbeyond)

end Reminder

end Cadence
