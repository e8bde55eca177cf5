import Vrl.Lib.CheckPipeline
import Vrl.Lib.Python

/-!
# Vrl.Lib.Demands

Procedures that raise, and what they demand of their input.

A demand is a `Check`: whether it is met, and the code of the error that is raised if it is not.
A computation `Demands` a list of them if it raises with the code of the first that is not met,
and returns if all are. The rules follow how computations are put together: one after the other
(`Demands.bind`), after a guard (`Demands.guard`), over a list (**`Demands.mapM`**).

A step of a verifier can also stop without raising. `Ends` says the same of it, with a code of
its own for that.
-/

namespace CheckPipeline

variable {ε E α β : Type} {code : ε → E}

/-- The code with which a computation raises. -/
def raised (code : ε → E) : Except ε α → Option E
  | .ok _ => none
  | .error e => some (code e)

theorem raised_eq_none_iff {x : Except ε α} : raised code x = none ↔ ∃ a, x = .ok a := by
  cases x <;> simp [raised]

/-- The computation raises with the code of the first demand that is not met, and returns if all
are met. -/
def Demands (code : ε → E) (x : Except ε α) (cs : List (Check E)) : Prop :=
  raised code x = firstFailure cs

/-- Which demands a computation makes when it is entered only under a condition. -/
def when (p : Bool) (cs : List (Check E)) : List (Check E) := if p then cs else []

theorem Demands.ok (a : α) : Demands code (.ok a) [] := rfl

theorem Demands.bind {x : Except ε α} {f : α → Except ε β} {cs ds : List (Check E)}
    (hx : Demands code x cs) (hf : ∀ a, x = .ok a → Demands code (f a) ds) :
    Demands code (x >>= f) (cs ++ ds) := by
  unfold Demands at hx ⊢
  rw [firstFailure_append, ← hx]
  cases x with
  | error e => rfl
  | ok a => exact hf a rfl

/-- A computation whose value is put to use without raising. -/
theorem Demands.bind_ok {x : Except ε α} {f : α → β} {cs : List (Check E)}
    (hx : Demands code x cs) : Demands code (x >>= fun a => .ok (f a)) cs := by
  unfold Demands at hx ⊢
  rw [← hx]
  cases x <;> rfl

/-- A computation with one demand, and the rest. -/
theorem Demands.bind_cons {x : Except ε α} {f : α → Except ε β} {c : Check E}
    {ds : List (Check E)} (hx : Demands code x [c])
    (hf : ∀ a, x = .ok a → Demands code (f a) ds) : Demands code (x >>= f) (c :: ds) :=
  hx.bind hf

/-- A guard in front of the rest. -/
theorem Demands.guard {p : Bool} {e : ε} {x : Except ε α} {ds : List (Check E)}
    (hx : p = true → Demands code x ds) :
    Demands code (if !p then .error e else x) (⟨p, code e⟩ :: ds) := by
  unfold Demands
  rw [firstFailure]
  cases p with
  | false => rfl
  | true => exact hx rfl

/-- A condition under which the rest is entered. -/
theorem Demands.when {p : Bool} {a : α} {x : Except ε α} {cs : List (Check E)}
    (hx : p = true → Demands code x cs) :
    Demands code (if p then x else .ok a) (when p cs) := by
  cases p with
  | false => rfl
  | true => exact hx rfl

/-- A condition without which the rest is not entered. -/
theorem Demands.unless {p : Bool} {a : α} {x : Except ε α} {cs : List (Check E)}
    (hx : p = true → Demands code x cs) :
    Demands code (if !p then .ok a else x) (CheckPipeline.when p cs) := by
  cases p with
  | false => rfl
  | true => exact hx rfl

/-- What returns makes no demand. -/
theorem Demands.of_returns {x : Except ε α} (h : ∃ a, x = .ok a) : Demands code x [] := by
  obtain ⟨a, rfl⟩ := h
  exact .ok a

theorem Demands.map {x : Except ε α} {cs : List (Check E)} (f : α → β)
    (hx : Demands code x cs) : Demands code (x.map f) cs := by
  unfold Demands at hx ⊢
  rw [← hx]
  cases x <;> rfl

/-- **A loop makes the demands on every item, one after the other.** -/
theorem Demands.mapM {f : α → Except ε β} {demands : α → List (Check E)} {l : List α}
    (h : ∀ a ∈ l, Demands code (f a) (demands a)) :
    Demands code (l.mapM f) (l.flatMap demands) := by
  induction l with
  | nil => exact .ok _
  | cons a l ih =>
      rw [List.mapM_cons, List.flatMap_cons]
      refine (h a (List.mem_cons_self ..)).bind fun b _ => ?_
      rw [← List.append_nil (l.flatMap demands)]
      exact (ih fun a ha => h a (List.mem_cons_of_mem _ ha)).bind fun bs _ => .ok _

/-! ### Steps that stop or raise -/

variable {σ : Type}

/-- How a step ends that does not go on: with no code if it stops, with a code if it raises. -/
def ending (code : ε → E) : Except ε (σ × Bool) → Option (Option E)
  | .ok (_, true) => none
  | .ok (_, false) => some none
  | .error e => some (some (code e))

/-- From every state, the step ends as the first demand says that is not met, and goes on if all
are met. -/
def Ends (code : ε → E) (step : RaisingStep ε σ) (cs : List (Check (Option E))) : Prop :=
  ∀ s, ending code (step s) = firstFailure cs

theorem ending_ok (out : σ × Bool) :
    ending code (.ok out) = if out.2 then none else some none := by
  obtain ⟨s, goOn⟩ := out
  cases goOn <;> rfl

theorem Ends.accepts (accepts : σ → σ × Bool) (h : ∀ s, (accepts s).2 = true) :
    Ends code (fun s => .ok (accepts s)) [] := by
  intro s
  show ending code (.ok (accepts s)) = none
  rw [ending_ok, h, if_pos rfl]

theorem Ends.rejects (rejects : σ → σ × Bool) (h : ∀ s, (rejects s).2 = false)
    {cs : List (Check (Option E))} :
    Ends code (fun s => .ok (rejects s)) (⟨false, none⟩ :: cs) := by
  intro s
  show ending code (.ok (rejects s)) = some none
  rw [ending_ok, h]
  rfl

/-- A step that stops unless a test is met. -/
theorem Ends.test {p : Bool} {rejects : σ → σ × Bool} {step : RaisingStep ε σ}
    {cs : List (Check (Option E))} (hrejects : ∀ s, (rejects s).2 = false)
    (hstep : p = true → Ends code step cs) :
    Ends code (fun s => if !p then .ok (rejects s) else step s) (⟨p, none⟩ :: cs) := by
  cases p with
  | false => exact .rejects rejects hrejects
  | true =>
      intro s
      exact hstep rfl s

/-- A step that computes a value first, which is known. -/
theorem Ends.bind_ok {x : Except ε α} {a : α} {step : α → RaisingStep ε σ}
    {ds : List (Check (Option E))} (hx : x = .ok a) (hstep : Ends code (step a) ds) :
    Ends code (fun s => x >>= fun a => step a s) ds := by
  rw [hx]
  exact hstep

/-- A step that computes a value first. -/
theorem Ends.bind {x : Except ε α} {cs : List (Check E)} {step : α → RaisingStep ε σ}
    {ds : List (Check (Option E))} (hx : Demands code x cs)
    (hstep : ∀ a, x = .ok a → Ends code (step a) ds) :
    Ends code (fun s => x >>= fun a => step a s) (cs.map (Check.rename some) ++ ds) := by
  intro s
  rw [firstFailure_append, firstFailure_rename, ← hx]
  cases x with
  | error e => rfl
  | ok a => exact hstep a rfl s

/-- A step that computes a value with one demand first. -/
theorem Ends.bind_cons {x : Except ε α} {holds : Bool} {c : E} {step : α → RaisingStep ε σ}
    {ds : List (Check (Option E))} (hx : Demands code x [⟨holds, c⟩])
    (hstep : ∀ a, x = .ok a → Ends code (step a) ds) :
    Ends code (fun s => x >>= fun a => step a s) (⟨holds, some c⟩ :: ds) :=
  .bind hx hstep

/-- **A step and then others**, whose demands may rely on those of the step. -/
theorem Ends.cons {step : RaisingStep ε σ} {steps : List (RaisingStep ε σ)}
    {cs ds : List (Check (Option E))} (hstep : Ends code step cs)
    (hsteps : firstFailure cs = none → Ends code (runRaising steps) ds) :
    Ends code (runRaising (step :: steps)) (cs ++ ds) := by
  intro s
  have hend := hstep s
  rw [firstFailure_append, ← hend, runRaising]
  cases hout : step s with
  | error e => rfl
  | ok out =>
      obtain ⟨s', goOn⟩ := out
      rw [hout] at hend
      cases goOn with
      | false => rfl
      | true => exact hsteps hend.symm s'

theorem Ends.nil : Ends code (runRaising ([] : List (RaisingStep ε σ))) [] := fun _ => rfl

/-! ### Procedures that stop or raise -/

/-- The procedure raises if and as the first demand says that is not met. Where that one only
stops a step, the procedure returns. -/
def Settles (code : ε → E) (x : Except ε α) (cs : List (Check (Option E))) : Prop :=
  raised code x = (firstFailure cs).join

/-- A procedure that returns after a step that stops. -/
theorem Settles.orReturn {out : Except ε (σ × Bool)} {rest : σ → Except ε σ}
    {cs ds : List (Check (Option E))} (hout : ending code out = firstFailure cs)
    (hrest : firstFailure cs = none → ∀ s, Settles code (rest s) ds) :
    Settles code (orReturnRaising out rest) (cs ++ ds) := by
  unfold Settles
  rw [firstFailure_append, ← hout]
  match out with
  | .error e => rfl
  | .ok (s, true) => exact hrest hout.symm s
  | .ok (s, false) => rfl

/-- A procedure that notes whether a step stopped, and returns. -/
theorem Settles.of_ends {out : Except ε (σ × Bool)} {note : σ × Bool → Except ε α}
    {cs : List (Check (Option E))} (hout : ending code out = firstFailure cs)
    (hnote : ∀ o, ∃ a, note o = .ok a) : Settles code (out >>= note) cs := by
  unfold Settles
  rw [← hout]
  cases out with
  | error e => rfl
  | ok o =>
      obtain ⟨a, ha⟩ := hnote o
      rw [Except.ok_bind, ha]
      obtain ⟨s, goOn⟩ := o
      cases goOn <;> rfl

/-- A procedure whose value is put to use without raising. -/
theorem Settles.bind_ok {x : Except ε α} {f : α → β} {cs : List (Check (Option E))}
    (hx : Settles code x cs) : Settles code (x >>= fun a => .ok (f a)) cs := by
  unfold Settles at hx ⊢
  rw [← hx]
  cases x <;> rfl

theorem Settles.bind {x : Except ε α} {f : α → Except ε β} {cs : List (Check E)}
    {ds : List (Check (Option E))} (hx : Demands code x cs)
    (hf : ∀ a, x = .ok a → Settles code (f a) ds) :
    Settles code (x >>= f) (cs.map (Check.rename some) ++ ds) := by
  unfold Settles
  rw [firstFailure_append, firstFailure_rename, ← hx]
  cases x with
  | error e => rfl
  | ok a => exact hf a rfl

/-- A condition under which the rest is entered. -/
theorem Settles.when {p : Bool} {a : α} {x : Except ε α} {cs : List (Check (Option E))}
    (hx : p = true → Settles code x cs) :
    Settles code (if !p then .ok a else x) (CheckPipeline.when p cs) := by
  cases p with
  | false => rfl
  | true => exact hx rfl

theorem Settles.returns_iff {x : Except ε α} {cs : List (Check (Option E))}
    (h : Settles code x cs) : (∃ a, x = .ok a) ↔ ∀ e, firstFailure cs ≠ some (some e) := by
  have hraised : raised code x = none ↔ ∃ a, x = .ok a := raised_eq_none_iff
  rw [← hraised, h]
  cases firstFailure cs with
  | none => simp
  | some ending =>
      cases ending with
      | none => simp
      | some e => simp

end CheckPipeline
