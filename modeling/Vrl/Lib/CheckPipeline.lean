import Mathlib.Data.List.Forall2

/-!
# Vrl.Lib.CheckPipeline

Verifiers that make their checks one after the other and stop at the first that
fails.

A `Step` works on the verifier's own state. What the step is for is said by a
`Check`, and `Decides` ties the two together: from a state without failures, the
step goes on when the check holds and stops with the check's code when it does
not. Such steps in a row report the first check that fails (**`run_decides`**),
whatever the checks after it would say.
-/

namespace CheckPipeline

variable {σ E : Type}

/-! ### Checks -/

/-- A check: whether it holds, and the code it fails with. -/
structure Check (E : Type) where
  holds : Bool
  code : E

/-- The code of the first check that fails. -/
def firstFailure : List (Check E) → Option E
  | [] => none
  | c :: cs => if c.holds then firstFailure cs else some c.code

@[simp] theorem firstFailure_nil : firstFailure ([] : List (Check E)) = none := rfl

theorem firstFailure_eq_none_iff {cs : List (Check E)} :
    firstFailure cs = none ↔ ∀ c ∈ cs, c.holds = true := by
  induction cs with
  | nil => simp [firstFailure]
  | cons c cs ih =>
      rw [firstFailure]
      by_cases hc : c.holds = true
      · rw [if_pos hc, ih, List.forall_mem_cons]
        exact ⟨fun h => ⟨hc, h⟩, fun h => h.2⟩
      · rw [if_neg hc, List.forall_mem_cons]
        exact ⟨fun h => absurd h (Option.some_ne_none _), fun h => absurd h.1 hc⟩

/-- The code reported is that of a check that fails. -/
theorem code_mem_of_firstFailure {cs : List (Check E)} {e : E} (h : firstFailure cs = some e) :
    ∃ c ∈ cs, c.holds = false ∧ c.code = e := by
  induction cs with
  | nil => cases h
  | cons c cs ih =>
      rw [firstFailure] at h
      by_cases hc : c.holds = true
      · rw [if_pos hc] at h
        obtain ⟨c', hmem, hcode⟩ := ih h
        exact ⟨c', List.mem_cons_of_mem _ hmem, hcode⟩
      · rw [if_neg hc] at h
        exact ⟨c, List.mem_cons_self .., Bool.eq_false_iff.mpr hc, Option.some.inj h⟩

/-- A check that fails decides over the checks after it. -/
theorem getD_firstFailure_cons (c : Check E) (cs : List (Check E)) (status : E) :
    (firstFailure (c :: cs)).getD status =
      if c.holds then (firstFailure cs).getD status else c.code := by
  rw [firstFailure]
  by_cases hc : c.holds = true
  · simp [hc]
  · simp [hc]

/-- A status that is a failed check's code, or one to accept, is accepted exactly if all
checks hold. -/
theorem accepts_firstFailure_iff {accepts : E → Prop} {cs : List (Check E)} {status : E}
    (hstatus : accepts status) (hcodes : ∀ c ∈ cs, ¬ accepts c.code) :
    accepts ((firstFailure cs).getD status) ↔ ∀ c ∈ cs, c.holds = true := by
  rw [← firstFailure_eq_none_iff]
  cases hfirst : firstFailure cs with
  | none => exact iff_of_true hstatus rfl
  | some e =>
      obtain ⟨c, hc, -, hcode⟩ := code_mem_of_firstFailure hfirst
      refine iff_of_false ?_ (Option.some_ne_none e)
      rw [Option.getD_some, ← hcode]
      exact hcodes c hc

/-- A check with another name for its code. -/
def Check.rename {F : Type} (f : E → F) (c : Check E) : Check F := ⟨c.holds, f c.code⟩

theorem firstFailure_rename {F : Type} (f : E → F) (cs : List (Check E)) :
    firstFailure (cs.map (Check.rename f)) = (firstFailure cs).map f := by
  induction cs with
  | nil => rfl
  | cons c cs ih =>
      rw [List.map_cons, firstFailure, firstFailure, ih]
      show (if c.holds then _ else _) = _
      by_cases hc : c.holds = true
      · rw [if_pos hc, if_pos hc]
      · rw [if_neg hc, if_neg hc]
        rfl

theorem firstFailure_append (cs ds : List (Check E)) :
    firstFailure (cs ++ ds) = (firstFailure cs).or (firstFailure ds) := by
  induction cs with
  | nil => rfl
  | cons c cs ih =>
      rw [List.cons_append, firstFailure, firstFailure]
      by_cases hc : c.holds = true
      · rw [if_pos hc, if_pos hc, ih]
      · rw [if_neg hc, if_neg hc, Option.some_or]

/-- A check that the ones before it imply decides nothing. -/
theorem firstFailure_append_cons_implied {cs ds : List (Check E)} {c : Check E}
    (h : (∀ d ∈ cs, d.holds = true) → c.holds = true) :
    firstFailure (cs ++ c :: ds) = firstFailure (cs ++ ds) := by
  rw [firstFailure_append, firstFailure_append]
  cases hcs : firstFailure cs with
  | some e => rfl
  | none => rw [firstFailure, if_pos (h (firstFailure_eq_none_iff.mp hcs))]

/-- A test of every item finds no item that fails it. -/
theorem all_eq_isNone_find? {α : Type} (p : α → Bool) (l : List α) :
    l.all p = (l.find? fun a => !p a).isNone := by
  induction l with
  | nil => rfl
  | cons a l ih =>
      rw [List.all_cons, List.find?_cons]
      cases p a with
      | true => exact ih
      | false => rfl

/-! ### Steps -/

/-- A step of a verifier: the new state, and whether to go on. -/
abbrev Step (σ : Type) := σ → σ × Bool

/-- Steps one after the other, up to the first that stops. -/
def run : List (Step σ) → Step σ
  | [], s => (s, true)
  | step :: steps, s => if (step s).2 then run steps (step s).1 else ((step s).1, false)

/-- What a procedure does after a step: it returns when the step stopped, and
otherwise goes on with the rest. -/
def orReturn (out : σ × Bool) (rest : σ → σ) : σ := if out.2 then rest out.1 else out.1

theorem orReturn_run_nil (s : σ) (rest : σ → σ) : orReturn (run [] s) rest = rest s := rfl

/-- A procedure that returns after any step that stops, runs its steps. -/
theorem orReturn_run_cons (step : Step σ) (steps : List (Step σ)) (s : σ) (rest : σ → σ) :
    orReturn (run (step :: steps) s) rest =
      orReturn (step s) fun s' => orReturn (run steps s') rest := by
  rw [run]
  by_cases hgo : (step s).2 = true
  · simp [orReturn, hgo]
  · simp [orReturn, hgo]

variable (clean : σ → Prop) (failed : E → σ → Prop)

/-- The step makes the check. -/
structure Decides (step : Step σ) (c : Check E) : Prop where
  pass : ∀ s, clean s → c.holds = true → (step s).2 = true ∧ clean (step s).1
  fail : ∀ s, clean s → c.holds = false → (step s).2 = false ∧ failed c.code (step s).1

/-- What a run of steps is to report: nothing, or one code. -/
def Reports : Option E → σ × Bool → Prop
  | none, (s, goOn) => goOn = true ∧ clean s
  | some e, (s, goOn) => goOn = false ∧ failed e s

/-- **Steps in a row report the first check that fails.** -/
theorem run_decides {steps : List (Step σ)} {checks : List (Check E)}
    (h : List.Forall₂ (Decides clean failed) steps checks) {s : σ} (hs : clean s) :
    Reports clean failed (firstFailure checks) (run steps s) := by
  induction h generalizing s with
  | nil => exact ⟨rfl, hs⟩
  | @cons step c steps checks hd _ ih =>
      rw [run, firstFailure]
      cases hc : c.holds with
      | true =>
          obtain ⟨hgo, hclean⟩ := hd.pass s hs hc
          rw [if_pos hgo, if_pos rfl]
          exact ih hclean
      | false =>
          obtain ⟨hstop, hfail⟩ := hd.fail s hs hc
          rw [hstop]
          exact ⟨rfl, hfail⟩

/-! ### Steps that may raise -/

section Raising

variable {ε : Type}

/-- A step that raises, or leaves a new state and says whether to go on. -/
abbrev RaisingStep (ε σ : Type) := σ → Except ε (σ × Bool)

/-- Such steps one after the other, up to the first that stops or raises. -/
def runRaising : List (RaisingStep ε σ) → RaisingStep ε σ
  | [], s => .ok (s, true)
  | step :: steps, s =>
      match step s with
      | .error e => .error e
      | .ok (s', true) => runRaising steps s'
      | .ok (s', false) => .ok (s', false)

/-- What a procedure does after a step that may raise. -/
def orReturnRaising (out : Except ε (σ × Bool)) (rest : σ → Except ε σ) : Except ε σ :=
  match out with
  | .error e => .error e
  | .ok (s, true) => rest s
  | .ok (s, false) => .ok s

theorem orReturnRaising_run_nil (s : σ) (rest : σ → Except ε σ) :
    orReturnRaising (runRaising [] s) rest = rest s := rfl

theorem orReturnRaising_run_cons (step : RaisingStep ε σ) (steps : List (RaisingStep ε σ)) (s : σ)
    (rest : σ → Except ε σ) :
    orReturnRaising (runRaising (step :: steps) s) rest =
      orReturnRaising (step s) fun s' => orReturnRaising (runRaising steps s') rest := by
  rw [runRaising]
  match step s with
  | .error e => rfl
  | .ok (s', true) => rfl
  | .ok (s', false) => rfl

/-- A procedure that simulates one that never raises goes on or returns as that one does. -/
theorem orReturnRaising_simulates {τ : Type} (f : σ → τ) {out : σ × Bool}
    {out' : Except ε (τ × Bool)} {rest : σ → σ} {rest' : τ → Except ε τ}
    (hout : out' = .ok (f out.1, out.2)) (hrest : ∀ s, rest' (f s) = .ok (f (rest s))) :
    orReturnRaising out' rest' = .ok (f (orReturn out rest)) := by
  obtain ⟨s, goOn⟩ := out
  rw [hout]
  cases goOn with
  | true => exact hrest s
  | false => rfl

/-- The step makes the check whenever it does not raise. -/
structure RaisingDecides (step : RaisingStep ε σ) (c : Check E) : Prop where
  pass : ∀ s out, clean s → step s = .ok out → c.holds = true → out.2 = true ∧ clean out.1
  fail : ∀ s out, clean s → step s = .ok out → c.holds = false →
    out.2 = false ∧ failed c.code out.1

variable {clean failed}

/-- The computation raises nothing, and its value passes a test. -/
def okAnd {α : Type} (x : Except ε α) (p : α → Bool) : Bool :=
  match x with
  | .ok a => p a
  | .error _ => false

@[simp] theorem okAnd_ok {α : Type} (a : α) (p : α → Bool) :
    okAnd (.ok a : Except ε α) p = p a := rfl

theorem okAnd_and {α : Type} (x : Except ε α) (p : α → Bool) (b : Bool) :
    (okAnd x p && b) = okAnd x fun a => p a && b := by
  cases x <;> rfl

/-- A step that computes a value first makes the test of it. -/
theorem RaisingDecides.bind {α : Type} {x : Except ε α} {p : α → Bool} {code : E}
    {step : α → RaisingStep ε σ} (h : ∀ a, RaisingDecides clean failed (step a) ⟨p a, code⟩) :
    RaisingDecides clean failed (fun s => x >>= fun a => step a s) ⟨okAnd x p, code⟩ := by
  cases x with
  | ok a => exact h a
  | error e =>
      constructor
      · intro s out _ hout
        cases hout
      · intro s out _ hout
        cases hout

/-- A step that stops unless a test is met. -/
theorem RaisingDecides.test {p : Bool} {code : E} {rejects accepts : σ → σ × Bool}
    (hrejects : ∀ s, clean s → (rejects s).2 = false ∧ failed code (rejects s).1)
    (haccepts : ∀ s, clean s → (accepts s).2 = true ∧ clean (accepts s).1) :
    RaisingDecides (ε := ε) clean failed
      (fun s => if !p then .ok (rejects s) else .ok (accepts s)) ⟨p, code⟩ := by
  constructor
  · intro s out hs hout hp
    cases hp
    cases hout
    exact haccepts s hs
  · intro s out hs hout hp
    cases hp
    cases hout
    exact hrejects s hs

/-- A step that never stops. -/
theorem RaisingDecides.accepts {code : E} {accepts : σ → σ × Bool}
    (haccepts : ∀ s, clean s → (accepts s).2 = true ∧ clean (accepts s).1) :
    RaisingDecides (ε := ε) clean failed (fun s => .ok (accepts s)) ⟨true, code⟩ := by
  constructor
  · intro s out hs hout _
    cases hout
    exact haccepts s hs
  · intro s out _ _ hfails
    cases hfails

/-- A step that always stops. -/
theorem RaisingDecides.rejects {code : E} {rejects : σ → σ × Bool}
    (hrejects : ∀ s, clean s → (rejects s).2 = false ∧ failed code (rejects s).1) :
    RaisingDecides (ε := ε) clean failed (fun s => .ok (rejects s)) ⟨false, code⟩ := by
  constructor
  · intro s out _ _ hholds
    cases hholds
  · intro s out hs hout _
    cases hout
    exact hrejects s hs

/-- **Steps in a row that do not raise report the first check that fails.** -/
theorem runRaising_decides {steps : List (RaisingStep ε σ)} {checks : List (Check E)}
    (h : List.Forall₂ (RaisingDecides clean failed) steps checks) {s : σ} (hs : clean s)
    {out : σ × Bool} (hout : runRaising steps s = .ok out) :
    Reports clean failed (firstFailure checks) out := by
  induction h generalizing s with
  | nil =>
      cases hout
      exact ⟨rfl, hs⟩
  | @cons step c steps checks hd _ ih =>
      rw [runRaising] at hout
      rw [firstFailure]
      cases hstep : step s with
      | error e =>
          rw [hstep] at hout
          cases hout
      | ok first =>
          rw [hstep] at hout
          cases hc : c.holds with
          | true =>
              obtain ⟨hgo, hclean⟩ := hd.pass s first hs hstep hc
              obtain ⟨s', goOn⟩ := first
              subst hgo
              rw [if_pos rfl]
              exact ih hclean hout
          | false =>
              obtain ⟨hstop, hfail⟩ := hd.fail s first hs hstep hc
              obtain ⟨s', goOn⟩ := first
              subst hstop
              cases hout
              exact ⟨rfl, hfail⟩

/-- The step never raises. -/
def Completes (step : RaisingStep ε σ) : Prop := ∀ s, ∃ out, step s = .ok out

theorem Completes.bind {α : Type} {x : Except ε α} {a : α} {step : α → RaisingStep ε σ}
    (hx : x = .ok a) (h : Completes (step a)) : Completes fun s => x >>= fun a => step a s := by
  rw [hx]
  exact h

theorem Completes.ite {p : Bool} {step step' : RaisingStep ε σ} (h : Completes step)
    (h' : Completes step') : Completes fun s => if p then step s else step' s := by
  cases p with
  | true => exact h
  | false => exact h'

theorem Completes.ok (step : σ → σ × Bool) : Completes (ε := ε) fun s => .ok (step s) :=
  fun s => ⟨step s, rfl⟩

/-- Steps that never raise do not raise in a row. -/
theorem runRaising_completes {steps : List (RaisingStep ε σ)}
    (h : ∀ step ∈ steps, Completes step) : Completes (runRaising steps) := by
  intro s
  induction steps generalizing s with
  | nil => exact ⟨_, rfl⟩
  | cons step steps ih =>
      rw [runRaising]
      obtain ⟨⟨s', goOn⟩, hstep⟩ := h step (List.mem_cons_self ..) s
      rw [hstep]
      cases goOn with
      | false => exact ⟨_, rfl⟩
      | true => exact ih (fun step hmem => h step (List.mem_cons_of_mem _ hmem)) s'

theorem orReturnRaising_completes {out : Except ε (σ × Bool)} {rest : σ → Except ε σ}
    (hout : ∃ o, out = .ok o) (hrest : ∀ s, ∃ s', rest s = .ok s') :
    ∃ s, orReturnRaising out rest = .ok s := by
  obtain ⟨⟨s, goOn⟩, ho⟩ := hout
  rw [ho]
  cases goOn with
  | false => exact ⟨s, rfl⟩
  | true => exact hrest s

end Raising

/-! ### Checks that are all made -/

/-- The code of the last check that fails. -/
def lastFailure : List (Check E) → Option E
  | [] => none
  | c :: cs => (lastFailure cs).or (if c.holds then none else some c.code)

@[simp] theorem lastFailure_nil : lastFailure ([] : List (Check E)) = none := rfl

/-- The code reported is that of a check that fails. -/
theorem code_mem_of_lastFailure {cs : List (Check E)} {e : E} (h : lastFailure cs = some e) :
    ∃ c ∈ cs, c.holds = false ∧ c.code = e := by
  induction cs with
  | nil => cases h
  | cons c cs ih =>
      rw [lastFailure, Option.or_eq_some_iff] at h
      rcases h with h | ⟨-, h⟩
      · obtain ⟨c', hmem, hcode⟩ := ih h
        exact ⟨c', List.mem_cons_of_mem _ hmem, hcode⟩
      · by_cases hc : c.holds = true
        · rw [if_pos hc] at h
          cases h
        · rw [if_neg hc] at h
          exact ⟨c, List.mem_cons_self .., Bool.eq_false_iff.mpr hc, Option.some.inj h⟩

/-- A check that fails sets the status over what it was. -/
def overwrite (status : E) (c : Check E) : E := if c.holds then status else c.code

/-- A check that fails changes the status that the checks after it start from. -/
theorem getD_lastFailure_cons (c : Check E) (cs : List (Check E)) (status : E) :
    (lastFailure (c :: cs)).getD status = (lastFailure cs).getD (overwrite status c) := by
  rw [lastFailure, overwrite]
  cases lastFailure cs with
  | some e => rfl
  | none =>
      by_cases hc : c.holds = true
      · simp [hc]
      · simp [hc]

/-- **Checks that overwrite the status report the last one that fails.** -/
theorem foldl_overwrite (cs : List (Check E)) (status : E) :
    cs.foldl overwrite status = (lastFailure cs).getD status := by
  induction cs generalizing status with
  | nil => rfl
  | cons c cs ih => rw [List.foldl_cons, ih, getD_lastFailure_cons]

end CheckPipeline
