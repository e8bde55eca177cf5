import Mathlib.Algebra.Field.Defs
import Mathlib.Data.ZMod.Basic
import Mathlib.Tactic.LinearCombination
import Mathlib.Tactic.FinCases
import Vrl.Lib.Plonkish
import Vrl.Zk.PlonkAdapter

/-!
# Vrl.Zk.ImportCircuit

The constraint system of the import circuit as the backend builds it
(`zk/rust_backend/src/main.rs`), against the wires that the compiler's gate table
names.

`synthesize` enables a gate on each of its eight rows and binds cells to the
instance column. It adds no copy constraint between rows, so the names in the gate
table have no force: each row may hold its own value for a wire. What a satisfying
table has to meet besides, for the wires to agree, is `LinksHold`.
-/

open Plonkish

namespace Vrl

variable {F : Type} [Field F]

/-! ### The circuit -/

/-- The advice columns. -/
inductive Column where
  | a
  | b
  | c
  deriving DecidableEq, Repr

/-- `EXPECTED_GATE_COUNT`. -/
def expectedGateCount : Nat := 8

/-- `mul_gate`: `a * b - c`, enabled on the rows below 5. -/
def mulGate : Gate Column where
  selector row := decide (row < 5)
  poly := .sub (.mul (.advice .a) (.advice .b)) (.advice .c)

/-- `add_gate`: `a + b - c`, enabled on the other rows of the region. -/
def addGate : Gate Column where
  selector row := decide (5 ≤ row ∧ row < expectedGateCount)
  poly := .sub (.add (.advice .a) (.advice .b)) (.advice .c)

/-- The constraints that `configure` and `synthesize` produce: the landed cost and
the public bindings, placed below the gates, are bound to the instance column. -/
def importCircuit (bindingCount : Nat) : ConstraintSystem Column where
  gates := [mulGate, addGate]
  copies := (.advice .c 7, .inst 0) ::
    (List.range bindingCount).map fun index =>
      (.advice .a (expectedGateCount + index), .inst (index + 1))

/-- The wire that the gate table names for a cell. -/
def wireOf : Cell Column → Option String
  | .advice .a row => gates[row]?.map PlonkGate.wireA
  | .advice .b row => gates[row]?.map PlonkGate.wireB
  | .advice .c row => gates[row]?.map PlonkGate.wireC
  | .inst _ => none

/-! ### What the gates say -/

section Gates

variable {n : Nat} {asg : Assignment Column F} (h : Satisfied (importCircuit n) asg)

include h

theorem mul_row (row : Nat) (hrow : row < 5) :
    asg.advice .c row = asg.advice .a row * asg.advice .b row := by
  have hg := h.gates mulGate (List.mem_cons_self ..) row (decide_eq_true hrow)
  simp only [mulGate, RowPoly.eval] at hg
  linear_combination -hg

theorem add_row (row : Nat) (hrow : 5 ≤ row ∧ row < 8) :
    asg.advice .c row = asg.advice .a row + asg.advice .b row := by
  have hg := h.gates addGate (List.mem_cons_of_mem _ (List.mem_cons_self ..)) row
    (decide_eq_true hrow)
  simp only [addGate, RowPoly.eval] at hg
  linear_combination -hg

theorem landed_cost_binding : asg.advice .c 7 = asg.inst 0 :=
  h.copies _ (List.mem_cons_self ..)

end Gates

/-! ### What the gates do not say -/

/-- The landed cost is the sum of the amounts in the rows that add them up. -/
def LandedCostIsSum (asg : Assignment Column F) : Prop :=
  asg.inst 0 = asg.advice .a 7 + asg.advice .a 5 + asg.advice .b 5 + asg.advice .b 6

/-- The links between rows that no constraint enforces, in terms of the cells the
prover is free to choose: the shared factor one, the amounts carried from the copy
gates to the fee gate, and the two partial sums. -/
structure LinksHold (asg : Assignment Column F) : Prop where
  one : ∀ row, 1 ≤ row → row < 5 → asg.advice .b row = asg.advice .b 1
  copied : ∀ row, 1 ≤ row → row < 5 → asg.advice .a row = 0 ∨ asg.advice .b 1 = 1
  duty : asg.advice .a 5 = asg.advice .a 1
  s301 : asg.advice .b 5 = asg.advice .a 2
  feePartial : asg.advice .a 6 = asg.advice .a 5 + asg.advice .b 5
  feeFull : asg.advice .b 7 = asg.advice .a 6 + asg.advice .b 6

/-- Only the first eight rows of the advice columns carry names. -/
theorem row_lt_of_wireOf {col : Column} {row : Nat} {w : String}
    (hw : wireOf (.advice col row) = some w) : row < 8 := by
  by_contra hrow
  have hnone : gates[row]? = none := List.getElem?_eq_none (by simpa [gates] using hrow)
  cases col <;> simp [wireOf, hnone] at hw

/-- The first cell of each wire. -/
def wireCell (wire : String) : Cell Column :=
  match wire with
  | "customs_value_fp" => .advice .a 0
  | "quantity_fp" => .advice .b 0
  | "extended_value_fp" => .advice .c 0
  | "duty_amount_fp" => .advice .a 1
  | "one_fp" => .advice .b 1
  | "s301_amount_fp" => .advice .a 2
  | "mpf_amount_fp" => .advice .a 3
  | "hmf_amount_fp" => .advice .a 4
  | "fee_partial_fp" => .advice .a 6
  | "mpf_hmf_sum_fp" => .advice .b 6
  | "fee_full_fp" => .advice .b 7
  | "base_sum_fp" => .advice .a 7
  | "landed_cost_fp" => .advice .c 7
  -- no cell carries another name
  | _ => .inst 0

section Links

variable {n : Nat} {asg : Assignment Column F}

/-- Agreeing wires link the rows. -/
theorem linksHold_of_wiresAgree (h : Satisfied (importCircuit n) asg)
    (hw : WiresAgree wireOf asg) : LinksHold asg := by
  have hcopied : ∀ row, 1 ≤ row → row < 5 → asg.advice .a row = asg.advice .c row := by
    intro row h1 h5
    interval_cases row
    · exact hw (.advice .a 1) (.advice .c 1) "duty_amount_fp" rfl rfl
    · exact hw (.advice .a 2) (.advice .c 2) "s301_amount_fp" rfl rfl
    · exact hw (.advice .a 3) (.advice .c 3) "mpf_amount_fp" rfl rfl
    · exact hw (.advice .a 4) (.advice .c 4) "hmf_amount_fp" rfl rfl
  have hone : ∀ row, 1 ≤ row → row < 5 → asg.advice .b row = asg.advice .b 1 := by
    intro row h1 h5
    interval_cases row
    · rfl
    · exact hw (.advice .b 2) (.advice .b 1) "one_fp" rfl rfl
    · exact hw (.advice .b 3) (.advice .b 1) "one_fp" rfl rfl
    · exact hw (.advice .b 4) (.advice .b 1) "one_fp" rfl rfl
  have hsubtotal : asg.advice .a 6 = asg.advice .c 5 :=
    hw (.advice .a 6) (.advice .c 5) "fee_partial_fp" rfl rfl
  have hfull : asg.advice .b 7 = asg.advice .c 6 :=
    hw (.advice .b 7) (.advice .c 6) "fee_full_fp" rfl rfl
  refine ⟨hone, fun row h1 h5 => ?_, ?_, ?_, ?_, ?_⟩
  · -- a copy gate says `a = a * b`, which leaves `a = 0` or `b = 1`
    have hmul := mul_row h row h5
    rw [← hcopied row h1 h5, hone row h1 h5] at hmul
    have hzero : asg.advice .a row * (asg.advice .b 1 - 1) = 0 := by
      linear_combination -hmul
    rcases mul_eq_zero.mp hzero with h0 | h0
    · exact Or.inl h0
    · exact Or.inr (sub_eq_zero.mp h0)
  · exact hw (.advice .a 5) (.advice .a 1) "duty_amount_fp" rfl rfl
  · exact hw (.advice .b 5) (.advice .a 2) "s301_amount_fp" rfl rfl
  · rw [hsubtotal, add_row h 5 (by decide)]
  · rw [hfull, add_row h 6 (by decide)]

/-- Linked rows make the wires agree. -/
theorem wiresAgree_of_linksHold (h : Satisfied (importCircuit n) asg) (hl : LinksHold asg) :
    WiresAgree wireOf asg := by
  have hcopied : ∀ row, 1 ≤ row → row < 5 → asg.advice .c row = asg.advice .a row := by
    intro row h1 h5
    rw [mul_row h row h5, hl.one row h1 h5]
    rcases hl.copied row h1 h5 with h0 | h0
    · rw [h0, zero_mul]
    · rw [h0, mul_one]
  have hsubtotal : asg.advice .c 5 = asg.advice .a 6 := by
    rw [add_row h 5 (by decide), hl.feePartial]
  have hfull : asg.advice .c 6 = asg.advice .b 7 := by
    rw [add_row h 6 (by decide), hl.feeFull]
  refine wiresAgree_iff_value.mpr ⟨fun w => asg.value (wireCell w), fun x w hw => ?_⟩
  cases x with
  | inst row => cases hw
  | advice col row =>
      have hrow := row_lt_of_wireOf hw
      interval_cases row <;> cases col <;> cases hw
      -- the first cell of each wire gives it its value
      any_goals rfl
      · exact hcopied 1 (by decide) (by decide)
      · exact hl.one 2 (by decide) (by decide)
      · exact hcopied 2 (by decide) (by decide)
      · exact hl.one 3 (by decide) (by decide)
      · exact hcopied 3 (by decide) (by decide)
      · exact hl.one 4 (by decide) (by decide)
      · exact hcopied 4 (by decide) (by decide)
      · exact hl.duty
      · exact hl.s301
      · exact hsubtotal
      · exact hfull

/-- If the wires agree, the landed cost is the sum. -/
theorem landedCostIsSum_of_wiresAgree (h : Satisfied (importCircuit n) asg)
    (hw : WiresAgree wireOf asg) : LandedCostIsSum asg := by
  have hsubtotal : asg.advice .a 6 = asg.advice .c 5 :=
    hw (.advice .a 6) (.advice .c 5) "fee_partial_fp" rfl rfl
  have hfull : asg.advice .b 7 = asg.advice .c 6 :=
    hw (.advice .b 7) (.advice .c 6) "fee_full_fp" rfl rfl
  calc asg.inst 0 = asg.advice .c 7 := (landed_cost_binding h).symm
    _ = asg.advice .a 7 + asg.advice .c 6 := by rw [add_row h 7 (by decide), hfull]
    _ = asg.advice .a 7 + (asg.advice .c 5 + asg.advice .b 6) := by
        rw [add_row h 6 (by decide), hsubtotal]
    _ = asg.advice .a 7 + asg.advice .a 5 + asg.advice .b 5 + asg.advice .b 6 := by
        rw [add_row h 5 (by decide)]
        ring

/-- **What the circuit leaves open.** In a satisfying table the wires agree, and the
landed cost is the sum, exactly when the prover has linked the rows. -/
theorem import_circuit_sound_iff (h : Satisfied (importCircuit n) asg) :
    (WiresAgree wireOf asg ∧ LandedCostIsSum asg) ↔ LinksHold asg := by
  constructor
  · rintro ⟨hw, -⟩
    exact linksHold_of_wiresAgree h hw
  · intro hl
    have hw := wiresAgree_of_linksHold h hl
    exact ⟨hw, landedCostIsSum_of_wiresAgree h hw⟩

end Links

/-! ### A table whose rows are not linked -/

/-- The order of the field `pasta::Fp` that the backend computes in. -/
def pastaFp : Nat := 0x40000000000000000000000000000000224698fc094cf91b992d30ed00000001

/-- A table in which row 5 adds a duty of one that row 1 knows nothing of, and that
never reaches the landed cost. All other cells are zero. -/
def unlinkedTable : Assignment Column (ZMod pastaFp) where
  advice col row := if row = 5 ∧ col ≠ .b then 1 else 0
  inst _ := 0

theorem unlinkedTable_satisfied : Satisfied (importCircuit 12) unlinkedTable := by
  constructor
  · intro g hg row hrow
    simp only [importCircuit, List.mem_cons, List.not_mem_nil, or_false] at hg
    rcases hg with rfl | rfl
    · have h5 : row ≠ 5 := Nat.ne_of_lt (of_decide_eq_true hrow)
      simp [mulGate, RowPoly.eval, unlinkedTable, h5]
    · by_cases h5 : row = 5
      · simp [addGate, RowPoly.eval, unlinkedTable, h5]
      · simp [addGate, RowPoly.eval, unlinkedTable, h5]
  · intro p hp
    simp only [importCircuit, List.mem_cons, List.mem_map, List.mem_range] at hp
    rcases hp with rfl | ⟨index, -, rfl⟩
    · rfl
    · have h5 : expectedGateCount + index ≠ 5 := by
        rw [expectedGateCount]
        omega
      simp [Assignment.value, unlinkedTable, h5]

/-- The circuit accepts a table in which the duty has two values and the landed cost
leaves one of them out. -/
theorem import_circuit_unsound :
    Satisfied (importCircuit 12) unlinkedTable ∧
      wireOf (.advice .a 1) = wireOf (.advice .a 5) ∧
      unlinkedTable.advice .a 1 ≠ unlinkedTable.advice .a 5 ∧
      unlinkedTable.inst 0 ≠ unlinkedTable.advice .a 7 + unlinkedTable.advice .a 5 +
        unlinkedTable.advice .b 5 + unlinkedTable.advice .b 6 := by
  have hone : (1 : ZMod pastaFp) ≠ 0 := by
    have : Fact (1 < pastaFp) := ⟨by norm_num [pastaFp]⟩
    exact one_ne_zero
  refine ⟨unlinkedTable_satisfied, rfl, ?_, ?_⟩
  · simp [unlinkedTable, hone.symm]
  · simp [unlinkedTable, hone.symm]

/-- The columns that an honest prover fills in, for a shipment of two units at a
customs value of three, with a duty of one and a harbour fee of one. -/
def honestColumn : Column → List ℚ
  | .a => [3, 1, 0, 0, 1, 1, 1, 6]
  | .b => [2, 1, 1, 1, 1, 0, 1, 2]
  | .c => [6, 1, 0, 0, 1, 1, 2, 8]

/-- The honest prover's table. -/
def honestTable : Assignment Column ℚ where
  advice col row := (honestColumn col).getD row 0
  inst row := if row = 0 then 8 else 0

theorem honestTable_satisfied : Satisfied (importCircuit 12) honestTable := by
  constructor
  · intro g hg row hrow
    simp only [importCircuit, List.mem_cons, List.not_mem_nil, or_false] at hg
    rcases hg with rfl | rfl
    · have h5 : row < 5 := of_decide_eq_true hrow
      interval_cases row <;> norm_num [mulGate, RowPoly.eval, honestTable, honestColumn]
    · obtain ⟨h5, h8⟩ : 5 ≤ row ∧ row < 8 := of_decide_eq_true hrow
      interval_cases row <;> norm_num [addGate, RowPoly.eval, honestTable, honestColumn]
  · intro p hp
    simp only [importCircuit, List.mem_cons, List.mem_map, List.mem_range] at hp
    rcases hp with rfl | ⟨index, -, rfl⟩
    · simp [Assignment.value, honestTable, honestColumn]
    · have hbelow : (honestColumn .a)[expectedGateCount + index]? = none :=
        List.getElem?_eq_none (Nat.le_add_right ..)
      simp [Assignment.value, honestTable, hbelow]

theorem import_circuit_sound_iff_honest :
    (WiresAgree wireOf honestTable ∧ LandedCostIsSum honestTable) ↔ LinksHold honestTable :=
  import_circuit_sound_iff honestTable_satisfied

/-! ### The constraints that are missing -/

/-- A copy constraint from every named cell to the first cell of its wire. -/
def wireCopies : List (Cell Column × Cell Column) :=
  (List.range expectedGateCount).flatMap fun row =>
    [Column.a, Column.b, Column.c].filterMap fun col =>
      (wireOf (.advice col row)).map fun w => (.advice col row, wireCell w)

theorem mem_wireCopies {x : Cell Column} {w : String} (hw : wireOf x = some w) :
    (x, wireCell w) ∈ wireCopies := by
  cases x with
  | inst row => cases hw
  | advice col row =>
      refine List.mem_flatMap.mpr ⟨row, List.mem_range.mpr (row_lt_of_wireOf hw), ?_⟩
      refine List.mem_filterMap.mpr ⟨col, by cases col <;> simp, ?_⟩
      rw [hw]
      rfl

/-- With the copy constraints that the gate table calls for, the circuit is sound. -/
theorem importCircuit_withCopies_sound {n : Nat} {asg : Assignment Column F}
    (h : Satisfied ((importCircuit n).withCopies wireCopies) asg) :
    WiresAgree wireOf asg ∧ LandedCostIsSum asg := by
  have hw : WiresAgree wireOf asg := h.wiresAgree wireCell fun x w hx =>
    Or.inr (List.mem_append_left _ (mem_wireCopies hx))
  exact ⟨hw, landedCostIsSum_of_wiresAgree (satisfied_withCopies.mp h).2 hw⟩

end Vrl
