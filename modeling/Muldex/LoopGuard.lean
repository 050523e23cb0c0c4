import Mathlib.Data.List.Chain
import Mathlib.Data.Set.Basic
import Mathlib.Tactic.Common

/-!
# Guards on a loop

A loop is watched through a sequence of observations. A `Guard` trips at an observation
where it is armed and its counter has reached its limit, and a cascade of guards stops
the loop where one of them trips (`stopped`).

Two things are said about whole runs. Along a run in which the guard never relaxes,
once tripped it stays tripped (`Guard.tripped_of_isChain`), and so a cascade that never
relaxes stays stopped (`pairwise_stopped`). And a step that the guard
must clear, in a run whose counter rises after each such step, is taken at most
`limit − counter` times (`Guard.Enforced.countP_le`) : that is what makes a guarded loop stop.

The guard of a loop whose steps are not all counted bounds nothing : `Climbs` is a
condition on the caller, not on the guard.
-/

namespace LoopGuard

variable {Ω : Type*}

/-- A counter with a limit, and the condition under which it is enforced. -/
structure Guard (Ω : Type*) where
  armed : Ω → Prop
  counter : Ω → ℕ
  limit : Ω → ℕ

/-- The observations a guard trips at. -/
def Guard.tripped (g : Guard Ω) : Set Ω :=
  {ω | g.armed ω ∧ g.limit ω ≤ g.counter ω}

/-- The observations some guard of the cascade trips at. -/
def stopped (gs : List (Guard Ω)) : Set Ω :=
  {ω | ∃ g ∈ gs, ω ∈ g.tripped}

@[simp] theorem Guard.mem_tripped (g : Guard Ω) (ω : Ω) :
    ω ∈ g.tripped ↔ g.armed ω ∧ g.limit ω ≤ g.counter ω :=
  Iff.rfl

theorem not_mem_stopped_nil (ω : Ω) : ω ∉ stopped ([] : List (Guard Ω)) := by
  rintro ⟨g, hg, -⟩
  simp at hg

theorem mem_stopped_cons (g : Guard Ω) (gs : List (Guard Ω)) (ω : Ω) :
    ω ∈ stopped (g :: gs) ↔ ω ∈ g.tripped ∨ ω ∈ stopped gs := by
  simp [stopped]

/-! ## Relaxing -/

/-- The guard is no more relaxed at `ω'` than at `ω`. -/
structure Guard.Tightens (g : Guard Ω) (ω ω' : Ω) : Prop where
  armed : g.armed ω → g.armed ω'
  counter : g.counter ω ≤ g.counter ω'
  limit : g.limit ω' ≤ g.limit ω

theorem Guard.Tightens.trans {g : Guard Ω} {ω₁ ω₂ ω₃ : Ω} (h₁ : g.Tightens ω₁ ω₂)
    (h₂ : g.Tightens ω₂ ω₃) : g.Tightens ω₁ ω₃ :=
  ⟨h₂.armed ∘ h₁.armed, h₁.counter.trans h₂.counter, h₂.limit.trans h₁.limit⟩

instance (g : Guard Ω) : Trans g.Tightens g.Tightens g.Tightens :=
  ⟨Guard.Tightens.trans⟩

/-- A tripped guard that does not relax is still tripped. -/
theorem Guard.Tightens.tripped {g : Guard Ω} {ω ω' : Ω} (h : g.Tightens ω ω')
    (hω : ω ∈ g.tripped) : ω' ∈ g.tripped :=
  ⟨h.armed hω.1, h.limit.trans (hω.2.trans h.counter)⟩

/-- Along a run that never relaxes the guard, once tripped it stays tripped. -/
theorem Guard.tripped_of_isChain (g : Guard Ω) {run : List Ω} (hrun : run.IsChain g.Tightens)
    {i j : ℕ} (hij : i ≤ j) (hj : j < run.length) (hi : run[i] ∈ g.tripped) :
    run[j] ∈ g.tripped := by
  rcases hij.eq_or_lt with rfl | hlt
  · exact hi
  · have hpair := List.pairwise_iff_getElem.mp (List.isChain_iff_pairwise.mp hrun)
    exact (hpair i j (by omega) hj hlt).tripped hi

/-- Where no guard of the cascade relaxes, a stopped loop is still stopped. -/
theorem stopped_of_tightens {gs : List (Guard Ω)} {ω ω' : Ω} (h : ∀ g ∈ gs, g.Tightens ω ω')
    (hω : ω ∈ stopped gs) : ω' ∈ stopped gs := by
  obtain ⟨g, hg, htripped⟩ := hω
  exact ⟨g, hg, (h g hg).tripped htripped⟩

/-- Along a run that relaxes no guard of the cascade, once stopped the loop stays stopped. -/
theorem pairwise_stopped {gs : List (Guard Ω)} {run : List Ω}
    (hrun : run.IsChain fun ω ω' => ∀ g ∈ gs, g.Tightens ω ω') :
    run.Pairwise fun ω ω' => ω ∈ stopped gs → ω' ∈ stopped gs := by
  rw [List.pairwise_iff_getElem]
  rintro i j hi hj hij ⟨g, hg, htripped⟩
  have hg' : run.IsChain g.Tightens := hrun.imp fun _ _ h => h g hg
  exact ⟨g, hg, g.tripped_of_isChain hg' hij.le hj htripped⟩

/-! ## Budgets -/

/-- From `ω` to `ω'` the counter does not fall, and rises if `p` was taken at `ω`. -/
def Climbs (counter : Ω → ℕ) (p : Ω → Prop) (ω ω' : Ω) : Prop :=
  counter ω ≤ counter ω' ∧ (p ω → counter ω < counter ω')

/-- Steps that need the counter below `n` are taken at most `n − counter` times. -/
theorem countP_add_le {counter : Ω → ℕ} {p : Ω → Prop} [DecidablePred p] {n : ℕ} :
    ∀ {ω : Ω} {run : List Ω}, (∀ x ∈ ω :: run, p x → counter x < n) →
      (ω :: run).IsChain (Climbs counter p) →
      (ω :: run).countP (p ·) + counter ω ≤ max n (counter ω)
  | ω, [], hp, _ => by
    by_cases hω : p ω
    · have := hp ω (by simp) hω
      simp [hω]
      omega
    · simp [hω]
  | ω, ω' :: run, hp, hrun => by
    obtain ⟨hstep, hrest⟩ := List.isChain_cons_cons.mp hrun
    have ih := countP_add_le (fun x hx => hp x (List.mem_cons_of_mem _ hx)) hrest
    have hle := hstep.1
    rw [List.countP_cons]
    by_cases hω : p ω
    · have hlt := hp ω (by simp) hω
      have hrise := hstep.2 hω
      simp only [hω, decide_true, if_true]
      omega
    · simp only [hω, decide_false, Bool.false_eq_true, if_false]
      omega

/-- Throughout the run the guard is armed and its limit is `n`. -/
structure Guard.Enforced (g : Guard Ω) (n : ℕ) (run : List Ω) : Prop where
  armed : ∀ ω ∈ run, g.armed ω
  limit : ∀ ω ∈ run, g.limit ω = n

/-- A step that an enforced guard must clear, and that raises its counter, is taken at
most `n − counter` times. -/
theorem Guard.Enforced.countP_le {g : Guard Ω} {p : Ω → Prop} [DecidablePred p] {n : ℕ} {ω : Ω}
    {run : List Ω} (hg : g.Enforced n (ω :: run)) (hclear : ∀ x, p x → x ∉ g.tripped)
    (hrun : (ω :: run).IsChain (Climbs g.counter p)) :
    (ω :: run).countP (p ·) ≤ n - g.counter ω := by
  have hbelow : ∀ x ∈ ω :: run, p x → g.counter x < n := by
    intro x hx hpx
    have hnot := hclear x hpx
    rw [mem_tripped, hg.limit x hx, not_and, Nat.not_le] at hnot
    exact hnot (hg.armed x hx)
  have hbudget := countP_add_le hbelow hrun
  omega

/-- A run whose counter never falls does not relax an enforced guard. -/
theorem Guard.Enforced.isChain_tightens {g : Guard Ω} {p : Ω → Prop} {n : ℕ} {run : List Ω}
    (hg : g.Enforced n run) (hrun : run.IsChain (Climbs g.counter p)) :
    run.IsChain g.Tightens := by
  refine hrun.imp_of_mem_imp fun ω ω' hω hω' hstep => ⟨fun _ => hg.armed ω' hω', hstep.1, ?_⟩
  rw [hg.limit ω hω, hg.limit ω' hω']

/-- A counter that starts at zero and rises by one counts the positions of the run. -/
theorem counter_getElem {counter : Ω → ℕ} {run : List Ω}
    (hstart : ∀ ω ∈ run.head?, counter ω = 0)
    (hrun : run.IsChain fun ω ω' => counter ω' = counter ω + 1) :
    ∀ {i : ℕ} (hi : i < run.length), counter run[i] = i
  | 0, hi => hstart _ (by rw [List.head?_eq_getElem?, List.getElem?_eq_getElem hi]; rfl)
  | i + 1, hi => by
    rw [List.isChain_iff_getElem.mp hrun i hi, counter_getElem hstart hrun (by omega)]

end LoopGuard
