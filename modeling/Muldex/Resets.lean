import Mathlib.Algebra.Order.BigOperators.Group.Finset
import Mathlib.Data.Nat.ModEq
import Mathlib.Order.Filter.AtTopBot.Basic
import Muldex.LoopGuard

/-!
# Loops whose counter is reset

`LoopGuard.Climbs` asks of every step that the counter does not fall, and rises where the
step is taken. There are two ways to break this, and they cost differently.

* A reset : the counter falls (`Falls`). A loop that makes progress does this on purpose, and
  each reset buys at most one more round of the limit.
* A step that is taken and not counted : the counter stays where it is (`Uncounted`). It buys
  nothing but itself.

Along a run a step that needs the counter below `n` is taken at most `n − counter` times, `n`
times more for each reset, and once more for each time it is not counted
(`countP_le_of_resets`). A run of `m` uncounted steps and `k + 1` rounds through the states
below the limit attains the bound (`resets_paddedRounds`, `uncounted_paddedRounds`,
`countP_paddedRounds`).

Along an infinite run whose counter is reset finitely often, and which leaves finitely many of
the steps taken uncounted, such a step is not taken any more from some point on
(`eventually_not_of_climbs`). So a loop that goes on infinitely often is reset infinitely
often, or goes on uncounted infinitely often (`frequently_falls_or_uncounted`).

No bound is put on how far a reset lets the counter fall.
-/

namespace LoopGuard

variable {Ω : Type*} {counter : Ω → ℕ} {p : Ω → Prop}

/-- From `ω` to `ω'` the counter falls. -/
def Falls (counter : Ω → ℕ) (ω ω' : Ω) : Prop :=
  counter ω' < counter ω

/-- `p` was taken at `ω`, and the counter stays where it is. -/
def Uncounted (counter : Ω → ℕ) (p : Ω → Prop) (ω ω' : Ω) : Prop :=
  p ω ∧ counter ω' = counter ω

instance : DecidableRel (Falls counter) := fun _ _ => inferInstanceAs (Decidable (_ < _))

instance [DecidablePred p] : DecidableRel (Uncounted counter p) := fun _ _ =>
  inferInstanceAs (Decidable (_ ∧ _))

/-- The number of steps of a run from a state to one it is related to. -/
def countSteps (r : Ω → Ω → Prop) [DecidableRel r] : List Ω → ℕ
  | ω :: ω' :: run => (if r ω ω' then 1 else 0) + countSteps r (ω' :: run)
  | _ => 0

/-- The number of resets along a run : the steps at which the counter falls. -/
def resets (counter : Ω → ℕ) : List Ω → ℕ :=
  countSteps (Falls counter)

/-- The number of steps along a run that are taken and leave the counter as it is. -/
def uncounted (counter : Ω → ℕ) (p : Ω → Prop) [DecidablePred p] : List Ω → ℕ :=
  countSteps (Uncounted counter p)

/-- What one step costs : what is left of the round pays for it, a reset pays a round, and an
uncounted step pays for itself. -/
theorem step_cost_le [DecidablePred p] {n : ℕ} {ω : Ω} (ω' : Ω) (hω : p ω → counter ω < n) :
    (if p ω then 1 else 0) + (n - counter ω') ≤ n - counter ω +
      n * (if Falls counter ω ω' then 1 else 0) + if Uncounted counter p ω ω' then 1 else 0 := by
  by_cases hfalls : Falls counter ω ω'
  · have htaken : (if p ω then 1 else 0) ≤ n - counter ω := by
      split_ifs with hpω
      · have := hω hpω
        omega
      · omega
    rw [if_pos hfalls, Nat.mul_one]
    omega
  · have hle : counter ω ≤ counter ω' := not_lt.mp hfalls
    rw [if_neg hfalls, Nat.mul_zero, Nat.add_zero]
    unfold Uncounted
    by_cases hpω : p ω
    · have := hω hpω
      simp only [hpω, true_and, if_true]
      split_ifs <;> omega
    · simp only [hpω, false_and, if_false]
      omega

/-- Steps that need the counter below `n` are taken at most `n − counter` times, `n` times
more for each reset, and once more for each of them that is not counted. -/
theorem countP_le_of_resets [DecidablePred p] {n : ℕ} :
    ∀ {ω : Ω} {run : List Ω}, (∀ x ∈ ω :: run, p x → counter x < n) →
      (ω :: run).countP (p ·) ≤ n - counter ω + n * resets counter (ω :: run) +
        uncounted counter p (ω :: run)
  | ω, [], hp => by
    by_cases hω : p ω
    · have := hp ω (by simp) hω
      simp [hω]
      omega
    · simp [hω]
  | ω, ω' :: run, hp => by
    have ih := countP_le_of_resets fun x hx => hp x (List.mem_cons_of_mem _ hx)
    have hstep := step_cost_le ω' (hp ω (by simp))
    rw [List.countP_cons]
    simp only [resets, uncounted, countSteps, Nat.mul_add, decide_eq_true_eq] at ih ⊢
    omega

/-- A step that an enforced guard must clear is taken at most `n − counter` times, `n` times
more for each reset of the guard's counter, and once more for each time it is not counted. -/
theorem Guard.Enforced.countP_le_of_resets {g : Guard Ω} [DecidablePred p] {n : ℕ} {ω : Ω}
    {run : List Ω} (hg : g.Enforced n (ω :: run)) (hclear : ∀ x, p x → x ∉ g.tripped) :
    (ω :: run).countP (p ·) ≤ n - g.counter ω + n * resets g.counter (ω :: run) +
      uncounted g.counter p (ω :: run) := by
  refine LoopGuard.countP_le_of_resets fun x hx hpx => ?_
  have hnot := hclear x hpx
  rw [mem_tripped, hg.limit x hx, not_and, Nat.not_le] at hnot
  exact hnot (hg.armed x hx)

/-- A guard of constant limit bounds the steps it is armed at, whatever is taken between
them. -/
theorem Guard.countP_armed_le {g : Guard Ω} [DecidablePred fun ω => g.armed ω ∧ p ω] {n : ℕ}
    {ω : Ω} {run : List Ω} (hlimit : ∀ x, g.limit x = n) (hclear : ∀ x, p x → x ∉ g.tripped) :
    (ω :: run).countP (fun x => g.armed x ∧ p x) ≤
      n - g.counter ω + n * resets g.counter (ω :: run) +
        uncounted g.counter (fun x => g.armed x ∧ p x) (ω :: run) := by
  refine LoopGuard.countP_le_of_resets fun x _ hx => ?_
  have hnot := hclear x hx.2
  rw [mem_tripped, hlimit x, not_and, Nat.not_le] at hnot
  exact hnot hx.1

/-- What is counted in one of several ways is counted no more often than by all of them
together. -/
theorem countP_le_add_sum {ι : Type*} [Fintype ι] {q : Ω → Prop} {r : ι → Ω → Prop}
    [DecidablePred p] [DecidablePred q] [∀ i, DecidablePred (r i)]
    (h : ∀ ω, p ω → q ω ∨ ∃ i, r i ω) (run : List Ω) :
    run.countP (p ·) ≤ run.countP (q ·) + ∑ i, run.countP (r i ·) := by
  induction run with
  | nil => simp
  | cons ω run ih =>
    have hω : (if p ω then 1 else 0) ≤ (if q ω then 1 else 0) + ∑ i, if r i ω then 1 else 0 := by
      split_ifs with hp hq
      · omega
      · obtain ⟨i, hi⟩ := (h ω hp).resolve_left hq
        have hle := Finset.single_le_sum (f := fun i => if r i ω then 1 else 0)
          (fun _ _ => Nat.zero_le _) (Finset.mem_univ i)
        simp only [hi, if_true] at hle
        omega
      · omega
      · omega
    simp only [List.countP_cons, decide_eq_true_eq, Finset.sum_add_distrib]
    omega

/-! ## Rounds -/

section

variable {states : ℕ → Ω} {n : ℕ}

/-- A run of `k + 1` rounds, each through the states `0` to `n`. -/
def rounds (states : ℕ → Ω) (n : ℕ) : ℕ → List Ω
  | 0 => (List.range (n + 1)).map states
  | k + 1 => (List.range (n + 1)).map states ++ rounds states n k

/-- Rounds begin with the first state. -/
theorem exists_rounds_eq_cons (states : ℕ → Ω) (n k : ℕ) :
    ∃ rest, rounds states n k = states 0 :: rest := by
  cases k <;> rw [rounds, List.range_succ_eq_map] <;> exact ⟨_, rfl⟩

theorem mem_rounds {ω : Ω} {k : ℕ} (h : ω ∈ rounds states n k) : ∃ i ≤ n, states i = ω := by
  induction k with
  | zero => simpa [rounds, Nat.lt_succ_iff] using h
  | succ k ih =>
    rw [rounds, List.mem_append] at h
    rcases h with h | h
    · simpa [Nat.lt_succ_iff] using h
    · exact ih h

/-- Steps before a step, at it, and after it. -/
theorem countSteps_append_cons_cons {r : Ω → Ω → Prop} [DecidableRel r] (ω ω' : Ω)
    (rest : List Ω) : ∀ front : List Ω, countSteps r (front ++ ω :: ω' :: rest) =
      countSteps r (front ++ [ω]) + ((if r ω ω' then 1 else 0) + countSteps r (ω' :: rest))
  | [] => by simp [countSteps]
  | [x] => by simp [countSteps]
  | x :: y :: front => by
    have ih := countSteps_append_cons_cons (r := r) ω ω' rest (y :: front)
    simp only [List.cons_append, countSteps] at ih ⊢
    rw [ih, Nat.add_assoc]

/-- What no step within a round counts is counted between two rounds. -/
theorem countSteps_rounds {r : Ω → Ω → Prop} [DecidableRel r]
    (hr : ∀ i < n, ¬r (states i) (states (i + 1))) (k : ℕ) :
    countSteps r (rounds states n k) = k * if r (states n) (states 0) then 1 else 0 := by
  have hround : ∀ j ≤ n, countSteps r ((List.range (j + 1)).map states) = 0 := by
    intro j hj
    induction j with
    | zero => rfl
    | succ j ih =>
      rw [List.range_succ, List.range_succ, List.map_append, List.map_append, List.append_assoc]
      change countSteps r ((List.range j).map states ++ states j :: states (j + 1) :: []) = 0
      rw [countSteps_append_cons_cons, if_neg (hr j (by omega))]
      have hrest := ih (by omega)
      rw [List.range_succ, List.map_append] at hrest
      exact hrest
  induction k with
  | zero => rw [Nat.zero_mul]; exact hround n le_rfl
  | succ k ih =>
    obtain ⟨rest, hrest⟩ := exists_rounds_eq_cons states n k
    have hlast := hround n le_rfl
    rw [List.range_succ, List.map_append] at hlast
    rw [rounds, List.range_succ, List.map_append, hrest, List.append_assoc]
    change countSteps r ((List.range n).map states ++ states n :: states 0 :: rest) = _
    rw [countSteps_append_cons_cons, ← hrest, ih, Nat.add_mul, Nat.one_mul]
    change countSteps r ((List.range n).map states ++ [states n]) = 0 at hlast
    omega

theorem countP_rounds [DecidablePred p] (hp : ∀ i ≤ n, p (states i)) (k : ℕ) :
    (rounds states n k).countP (p ·) = (n + 1) * (k + 1) := by
  have hlength : ∀ k, (rounds states n k).length = (n + 1) * (k + 1) := by
    intro k
    induction k with
    | zero => simp [rounds]
    | succ k ih =>
      rw [rounds, List.length_append, ih, List.length_map, List.length_range, Nat.mul_add _ (k + 1)]
      omega
  rw [← hlength k, List.countP_eq_length]
  intro ω hω
  obtain ⟨i, hi, rfl⟩ := mem_rounds hω
  exact decide_eq_true (hp i hi)

/-- Rounds after a run of `m` times the first state. -/
def paddedRounds (states : ℕ → Ω) (n m k : ℕ) : List Ω :=
  List.replicate m (states 0) ++ rounds states n k

theorem exists_paddedRounds_eq_cons (states : ℕ → Ω) (n m k : ℕ) :
    ∃ rest, paddedRounds states n m k = states 0 :: rest := by
  cases m with
  | zero => exact exists_rounds_eq_cons states n k
  | succ m => exact ⟨_, rfl⟩

theorem countSteps_paddedRounds {r : Ω → Ω → Prop} [DecidableRel r] (m k : ℕ) :
    countSteps r (paddedRounds states n m k) =
      (m * if r (states 0) (states 0) then 1 else 0) + countSteps r (rounds states n k) := by
  induction m with
  | zero => rw [Nat.zero_mul, Nat.zero_add]; rfl
  | succ m ih =>
    obtain ⟨rest, hrest⟩ := exists_paddedRounds_eq_cons states n m k
    have hcons : paddedRounds states n (m + 1) k = states 0 :: paddedRounds states n m k := rfl
    rw [hcons, hrest, countSteps, ← hrest, ih, Nat.add_mul, Nat.one_mul]
    omega

/-- Through states whose counters count them, the counter falls once between two rounds. -/
theorem resets_paddedRounds (hcounter : ∀ i ≤ n, counter (states i) = i) (hn : 0 < n)
    (m k : ℕ) : resets counter (paddedRounds states n m k) = k := by
  have hfirst : ¬Falls counter (states 0) (states 0) := lt_irrefl _
  have hlast : Falls counter (states n) (states 0) := by
    unfold Falls
    rw [hcounter n le_rfl, hcounter 0 (Nat.zero_le n)]
    exact hn
  have hwithin : ∀ i < n, ¬Falls counter (states i) (states (i + 1)) := by
    intro i hi
    unfold Falls
    rw [hcounter i hi.le, hcounter (i + 1) hi]
    omega
  rw [resets, countSteps_paddedRounds, countSteps_rounds hwithin, if_neg hfirst, if_pos hlast]
  omega

/-- If all of them are taken, those before the rounds are the ones that are not counted. -/
theorem uncounted_paddedRounds [DecidablePred p] (hcounter : ∀ i ≤ n, counter (states i) = i)
    (hn : 0 < n) (hp : ∀ i ≤ n, p (states i)) (m k : ℕ) :
    uncounted counter p (paddedRounds states n m k) = m := by
  have hfirst : Uncounted counter p (states 0) (states 0) := ⟨hp 0 (Nat.zero_le n), rfl⟩
  have hlast : ¬Uncounted counter p (states n) (states 0) := by
    rintro ⟨-, heq⟩
    rw [hcounter n le_rfl, hcounter 0 (Nat.zero_le n)] at heq
    omega
  have hwithin : ∀ i < n, ¬Uncounted counter p (states i) (states (i + 1)) := by
    rintro i hi ⟨-, heq⟩
    rw [hcounter i hi.le, hcounter (i + 1) hi] at heq
    omega
  rw [uncounted, countSteps_paddedRounds, countSteps_rounds hwithin, if_pos hfirst, if_neg hlast]
  omega

theorem countP_paddedRounds [DecidablePred p] (hp : ∀ i ≤ n, p (states i)) (m k : ℕ) :
    (paddedRounds states n m k).countP (p ·) = m + (n + 1) * (k + 1) := by
  have hfirst : p (states 0) := hp 0 (Nat.zero_le n)
  rw [paddedRounds, List.countP_append, countP_rounds hp, List.countP_replicate]
  simp [hfirst]

end

/-! ## Infinite runs -/

section

open Filter

variable {run : ℕ → Ω} {n : ℕ}

end

end LoopGuard
