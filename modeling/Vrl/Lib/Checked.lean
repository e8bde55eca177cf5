import Vrl.Lib.Python

/-!
# Vrl.Lib.Checked

Computations that note the names of the checks they pass, and stop at a refusal or an
exception with the names noted so far.
-/

/-- How a computation stopped: what it had passed, and the refusal or the exception. -/
structure Stop (ρ : Type) where
  checks : List String
  cause : ρ ⊕ PyError

/-- A computation that notes checks. -/
abbrev Checked (ρ α : Type) := StateT (List String) (Except (Stop ρ)) α

namespace Checked

variable {ρ α β : Type}

/-- Notes a check. -/
def passed (name : String) : Checked ρ Unit := fun checks => .ok ((), checks ++ [name])

/-- Notes some checks. -/
def passedAll (names : List String) : Checked ρ Unit := fun checks => .ok ((), checks ++ names)

/-- Stops with a refusal. -/
def refuse (refusal : ρ) : Checked ρ α := fun checks => .error ⟨checks, .inl refusal⟩

/-- A step that may raise. -/
def lift (x : Except PyError α) : Checked ρ α := fun checks =>
  match x with
  | .ok a => .ok (a, checks)
  | .error e => .error ⟨checks, .inr e⟩

/-- A value that has to be there. -/
def demand (value : Option α) (refusal : ρ) : Checked ρ α := fun checks =>
  match value with
  | some a => .ok (a, checks)
  | none => .error ⟨checks, .inl refusal⟩

/-- A check: it stops with a refusal, or is noted under a name. -/
def require (holds : Bool) (refusal : ρ) (name : String) : Checked ρ Unit :=
  if holds then passed name else refuse refusal

section Run

variable (checks : List String)

theorem bind_run (x : Checked ρ α) (f : α → Checked ρ β) :
    (x >>= f) checks = (x checks).bind fun r => f r.1 r.2 := rfl

@[simp] theorem pure_run (a : α) : (pure a : Checked ρ α) checks = .ok (a, checks) := rfl

@[simp] theorem passed_bind (name : String) (f : Unit → Checked ρ β) :
    (passed name >>= f) checks = f () (checks ++ [name]) := rfl

@[simp] theorem passedAll_bind (names : List String) (f : Unit → Checked ρ β) :
    (passedAll names >>= f) checks = f () (checks ++ names) := rfl

@[simp] theorem lift_ok_bind (a : α) (f : α → Checked ρ β) :
    (lift (.ok a) >>= f) checks = f a checks := rfl

@[simp] theorem demand_some_bind (a : α) (refusal : ρ) (f : α → Checked ρ β) :
    (demand (some a) refusal >>= f) checks = f a checks := rfl

@[simp] theorem require_true_bind (refusal : ρ) (name : String) (f : Unit → Checked ρ β) :
    (require true refusal name >>= f) checks = f () (checks ++ [name]) := rfl

/-! A computation is peeled apart from the front: each step has succeeded. -/

variable {checks} {r : β × List String}

theorem lift_bind_eq_ok_iff {x : Except PyError α} {f : α → Checked ρ β} :
    (lift x >>= f) checks = .ok r ↔ ∃ a, x = .ok a ∧ f a checks = .ok r := by
  cases x with
  | error e => simp [bind_run, lift, Except.bind]
  | ok a => simp

theorem demand_bind_eq_ok_iff {value : Option α} {refusal : ρ} {f : α → Checked ρ β} :
    (demand value refusal >>= f) checks = .ok r ↔ ∃ a, value = some a ∧ f a checks = .ok r := by
  cases value with
  | none => simp [bind_run, demand, Except.bind]
  | some a => simp

theorem require_bind_eq_ok_iff {holds : Bool} {refusal : ρ} {name : String}
    {f : Unit → Checked ρ β} :
    (require holds refusal name >>= f) checks = .ok r ↔
      holds = true ∧ f () (checks ++ [name]) = .ok r := by
  cases holds with
  | false => simp [bind_run, require, refuse, Except.bind]
  | true => simp

end Run

end Checked
