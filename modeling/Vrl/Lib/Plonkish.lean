import Mathlib.Algebra.Ring.Basic
import Mathlib.Tactic.Ring

/-!
# Vrl.Lib.Plonkish

PLONK-style constraint systems: a table of advice columns and one instance
column, gates that are enabled row by row, and copy constraints between cells.

A gate says something about one row only. That two rows share a value is said by
copy constraints and by nothing else. `WiresAgree` is the property a circuit
designer has in mind when several cells are given one name;
`wiresAgree_iff_value` is its usual reading, a value for every name, and
`Satisfied.wiresAgree` says which copy constraints are enough for it.
-/

namespace Plonkish

variable {C N F : Type} [CommRing F]

/-! ### Constraint systems -/

/-- A cell of the table. -/
inductive Cell (C : Type) where
  | advice (column : C) (row : Nat)
  | inst (row : Nat)
  deriving DecidableEq

/-- A polynomial in the advice cells of one row. -/
inductive RowPoly (C : Type) where
  | advice (column : C)
  | add (p q : RowPoly C)
  | sub (p q : RowPoly C)
  | mul (p q : RowPoly C)

/-- A gate: a polynomial that vanishes on every row where its selector is on. -/
structure Gate (C : Type) where
  selector : Nat → Bool
  poly : RowPoly C

/-- The constraints of a circuit. -/
structure ConstraintSystem (C : Type) where
  gates : List (Gate C)
  copies : List (Cell C × Cell C)

/-- A filled table. -/
structure Assignment (C F : Type) where
  advice : C → Nat → F
  inst : Nat → F

/-- The value of a cell. -/
def Assignment.value (asg : Assignment C F) : Cell C → F
  | .advice c row => asg.advice c row
  | .inst row => asg.inst row

/-- The value of a polynomial on a row. -/
def RowPoly.eval (asg : Assignment C F) (row : Nat) : RowPoly C → F
  | .advice c => asg.advice c row
  | .add p q => p.eval asg row + q.eval asg row
  | .sub p q => p.eval asg row - q.eval asg row
  | .mul p q => p.eval asg row * q.eval asg row

/-- The table satisfies all gates and all copy constraints. -/
structure Satisfied (cs : ConstraintSystem C) (asg : Assignment C F) : Prop where
  gates : ∀ g ∈ cs.gates, ∀ row, g.selector row = true → g.poly.eval asg row = 0
  copies : ∀ p ∈ cs.copies, asg.value p.1 = asg.value p.2

/-- The same circuit with further copy constraints. -/
def ConstraintSystem.withCopies (cs : ConstraintSystem C) (copies : List (Cell C × Cell C)) :
    ConstraintSystem C :=
  { cs with copies := copies ++ cs.copies }

theorem satisfied_withCopies {cs : ConstraintSystem C} {copies : List (Cell C × Cell C)}
    {asg : Assignment C F} :
    Satisfied (cs.withCopies copies) asg ↔
      (∀ p ∈ copies, asg.value p.1 = asg.value p.2) ∧ Satisfied cs asg := by
  constructor
  · intro h
    refine ⟨fun p hp => h.copies p (List.mem_append_left _ hp), h.gates, fun p hp => ?_⟩
    exact h.copies p (List.mem_append_right _ hp)
  · rintro ⟨hcopies, h⟩
    refine ⟨h.gates, fun p hp => ?_⟩
    rcases List.mem_append.mp hp with hp | hp
    · exact hcopies p hp
    · exact h.copies p hp

/-! ### Named wires -/

variable (wireOf : Cell C → Option N)

/-- Cells that carry the same name hold the same value. -/
def WiresAgree (asg : Assignment C F) : Prop :=
  ∀ x y w, wireOf x = some w → wireOf y = some w → asg.value x = asg.value y

variable {wireOf}

/-- Agreeing wires are a value for every name. -/
theorem wiresAgree_iff_value {asg : Assignment C F} :
    WiresAgree wireOf asg ↔ ∃ v : N → F, ∀ x w, wireOf x = some w → asg.value x = v w := by
  classical
  constructor
  · intro h
    refine ⟨fun w => if hw : ∃ x, wireOf x = some w then asg.value hw.choose else 0, ?_⟩
    intro x w hx
    have hw : ∃ x, wireOf x = some w := ⟨x, hx⟩
    simp only [dif_pos hw]
    exact h x hw.choose w hx hw.choose_spec
  · rintro ⟨v, hv⟩ x y w hx hy
    rw [hv x w hx, hv y w hy]

/-- Copy constraints from every cell of a wire to one representative make the
wires agree. -/
theorem Satisfied.wiresAgree {cs : ConstraintSystem C} {asg : Assignment C F}
    (h : Satisfied cs asg) (rep : N → Cell C)
    (hrep : ∀ x w, wireOf x = some w → x = rep w ∨ (x, rep w) ∈ cs.copies) :
    WiresAgree wireOf asg := by
  refine wiresAgree_iff_value.mpr ⟨fun w => asg.value (rep w), fun x w hx => ?_⟩
  rcases hrep x w hx with rfl | hcopy
  · rfl
  · exact h.copies _ hcopy

end Plonkish
