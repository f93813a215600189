import Mathlib.Logic.Relation

/-!
# Interleavings of deterministic threads

A system of threads over one shared state, each of which either takes its next step or is
blocked: `step th s` is the state after thread `th` steps, `none` when it cannot. An
interleaving is a schedule of threads run one step at a time; the states some interleaving
reaches are the reflexive transitive closure of a step of any thread. A state in which no
thread can step is stuck, and every interleaving from it stays there: the shape of a deadlock
or a lost wakeup.
-/

namespace Dragonfly.Base.Interleave

variable {θ σ : Type} (step : θ → σ → Option σ)

/-- One step of some thread. -/
def Step (s s' : σ) : Prop := ∃ th, step th s = some s'

/-- The states an interleaving from `s₀` reaches. -/
def Reachable (s₀ : σ) : σ → Prop := Relation.ReflTransGen (Step step) s₀

/-- The threads of a schedule step in turn: the state after, `none` if one of them is
blocked when its turn comes. -/
def run : List θ → σ → Option σ
  | [], s => some s
  | th :: sched, s => (step th s).bind (run sched)

/-- No thread can step. -/
def Stuck (s : σ) : Prop := ∀ th, step th s = none

variable {step}

@[simp] theorem run_nil (s : σ) : run step [] s = some s := rfl

theorem run_cons {th : θ} {s s' : σ} (h : step th s = some s') (sched : List θ) :
    run step (th :: sched) s = run step sched s' := by
  simp [run, h]

theorem run_append (a b : List θ) (s : σ) :
    run step (a ++ b) s = (run step a s).bind (run step b) := by
  induction a generalizing s with
  | nil => rfl
  | cons th a ih =>
    cases h : step th s with
    | none => simp [run, h]
    | some s' => rw [List.cons_append, run_cons h, run_cons h, ih]

/-- The state a schedule runs to is reachable. -/
theorem reachable_of_run {sched : List θ} {s₀ s : σ} (h : run step sched s₀ = some s) :
    Reachable step s₀ s := by
  induction sched generalizing s₀ with
  | nil =>
    cases h
    exact Relation.ReflTransGen.refl
  | cons th sched ih =>
    cases hth : step th s₀ with
    | none => simp [run, hth] at h
    | some s' =>
      rw [run_cons hth] at h
      exact Relation.ReflTransGen.head ⟨th, hth⟩ (ih h)

/-- No interleaving leaves a stuck state. -/
theorem Stuck.reachable_eq {s s' : σ} (hs : Stuck step s) (hr : Reachable step s s') : s' = s := by
  induction hr with
  | refl => rfl
  | tail _ hstep ih =>
    obtain ⟨th, hth⟩ := hstep
    subst ih
    rw [hs th] at hth
    cases hth

/-- A property that holds at `s₀` and that every step of every thread keeps holds at every
reachable state. -/
theorem Reachable.invariant {P : σ → Prop} {s₀ s : σ} (h0 : P s₀)
    (hstep : ∀ th s s', P s → step th s = some s' → P s') (hr : Reachable step s₀ s) : P s := by
  induction hr with
  | refl => exact h0
  | tail _ hlast ih =>
    obtain ⟨th, hth⟩ := hlast
    exact hstep th _ _ ih hth

/-- A property that every thread of a schedule keeps, when it steps, holds after the schedule
runs. -/
theorem run_invariant {P : σ → Prop} {sched : List θ} {s₀ s : σ} (h0 : P s₀)
    (hstep : ∀ th ∈ sched, ∀ s s', P s → step th s = some s' → P s')
    (h : run step sched s₀ = some s) : P s := by
  induction sched generalizing s₀ with
  | nil =>
    cases h
    exact h0
  | cons th sched ih =>
    cases hth : step th s₀ with
    | none => simp [run, hth] at h
    | some s' =>
      rw [run_cons hth] at h
      exact ih (hstep th List.mem_cons_self _ _ h0 hth)
        (fun th' hth' => hstep th' (List.mem_cons_of_mem _ hth')) h

end Dragonfly.Base.Interleave
