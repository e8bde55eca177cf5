import Mathlib.FieldTheory.Finite.Basic
import Vrl.Lib.CoefficientList
import Vrl.Zk.FieldOrder
import Vrl.Zk.FieldUtils

/-!
# Vrl.Zk.FieldPolynomials

What the operations of `zk/field_utils.py` compute, as polynomials over the field of
`FIELD_ORDER` elements.

An integer stands for its residue, a list of integers for the polynomial of their residues
(`toPoly`). Evaluation is evaluation (**`cast_polyEval`**), the product and the sum are the
product and the sum (**`toPoly_polyMul`**, **`toPoly_polyAdd`**), and two lists stand for one
polynomial when their coefficients agree modulo `FIELD_ORDER` (**`toPoly_eq_iff`**).
-/

open Polynomial CoefficientList

namespace Vrl

/-- The field of `FIELD_ORDER` elements. -/
abbrev Fp : Type := ZMod fieldOrder

/-- The polynomial that a list of coefficients stands for. -/
noncomputable def toPoly (cs : List Int) : Fp[X] := ofCoeffs (cs.map (Int.cast : Int → Fp))

/-! ### Residues -/

theorem fieldOrder_ne_zero : (fieldOrder : Int) ≠ 0 := by decide

@[simp] theorem cast_mod (a : Int) : ((a % fieldOrder : Int) : Fp) = a := ZMod.intCast_mod a _

theorem cast_eq_cast_iff {a b : Int} : (a : Fp) = b ↔ a ≡ b [ZMOD fieldOrder] :=
  ZMod.intCast_eq_intCast_iff a b fieldOrder

/-- Reduced integers that stand for one residue are equal. -/
theorem eq_of_cast_eq {a b : Int} (ha : a % fieldOrder = a) (hb : b % fieldOrder = b)
    (h : (a : Fp) = b) : a = b := by
  have hmod : a % fieldOrder = b % fieldOrder := cast_eq_cast_iff.mp h
  rwa [ha, hb] at hmod

@[simp] theorem cast_fieldPow (b : Int) (e : Nat) : ((fieldPow b e : Int) : Fp) = (b : Fp) ^ e := by
  have hb : ((b % fieldOrder).toNat : Int) = b % fieldOrder :=
    Int.toNat_of_nonneg (Int.emod_nonneg b fieldOrder_ne_zero)
  rw [fieldPow, Int.cast_natCast, natCast_powMod, ← Int.cast_natCast, hb, cast_mod]

/-- The power of `field_inv` is the inverse. -/
theorem cast_fieldPow_inv {x : Int} (hx : (x : Fp) ≠ 0) :
    ((fieldPow x (fieldOrder - 2) : Int) : Fp) = (x : Fp)⁻¹ := by
  have hpow : (x : Fp) ^ (fieldOrder - 2 + 1) = 1 := ZMod.pow_card_sub_one_eq_one hx
  rw [cast_fieldPow, ← mul_eq_one_iff_eq_inv₀ hx, ← pow_succ, hpow]

theorem cast_fieldInv {x : Int} (hx : (x : Fp) ≠ 0) : ((fieldInv x : Int) : Fp) = (x : Fp)⁻¹ :=
  cast_fieldPow_inv hx

/-! ### Lists of coefficients -/

@[simp] theorem toPoly_nil : toPoly [] = 0 := rfl

@[simp] theorem toPoly_cons (c : Int) (cs : List Int) :
    toPoly (c :: cs) = C (c : Fp) + X * toPoly cs := rfl

theorem toPoly_append (as bs : List Int) :
    toPoly (as ++ bs) = toPoly as + X ^ as.length * toPoly bs := by
  rw [toPoly, List.map_append, ofCoeffs_append, List.length_map]
  rfl

@[simp] theorem toPoly_replicate_zero (n : Nat) : toPoly (List.replicate n 0) = 0 := by
  rw [toPoly, List.map_replicate, Int.cast_zero, ofCoeffs_replicate_zero]

theorem cast_getD (cs : List Int) (i : Nat) :
    ((cs.getD i 0 : Int) : Fp) = (cs.map (Int.cast : Int → Fp)).getD i 0 := by
  rw [show (0 : Fp) = ((0 : Int) : Fp) from Int.cast_zero.symm, List.getD_map]

theorem coeff_toPoly (cs : List Int) (i : Nat) : (toPoly cs).coeff i = (cs.getD i 0 : Int) := by
  rw [toPoly, coeff_ofCoeffs, cast_getD]

theorem coeff_toPoly_last (cs : List Int) :
    (toPoly cs).coeff (cs.length - 1) = (cs.getLastD 0 : Int) := by
  rw [coeff_toPoly, List.getD_eq_getElem?_getD, ← List.getLast?_eq_getElem?,
    List.getLastD_eq_getLast?]

/-- **Lists stand for one polynomial when their coefficients agree modulo `FIELD_ORDER`.** -/
theorem toPoly_eq_iff {as bs : List Int} :
    toPoly as = toPoly bs ↔ ∀ i, as.getD i 0 ≡ bs.getD i 0 [ZMOD fieldOrder] := by
  simp only [Polynomial.ext_iff, coeff_toPoly, cast_eq_cast_iff]

theorem toPoly_dropLast {cs : List Int} (h : (toPoly cs).coeff (cs.length - 1) = 0) :
    toPoly cs.dropLast = toPoly cs := by
  rw [toPoly, List.map_dropLast]
  refine ofCoeffs_dropLast ?_
  rwa [List.length_map]

theorem toPoly_set {cs : List Int} {i : Nat} (h : i < cs.length) (v : Int) :
    toPoly (cs.set i v) = toPoly cs + C ((v : Fp) - (cs.getD i 0 : Int)) * X ^ i :=
  ofCoeffs_map_set Int.cast h 0 v

/-! ### Evaluation -/

theorem cast_foldl_polyEvalStep (x : Int) (cs : List Int) (s : Int × Int) :
    (((cs.foldl (polyEvalStep x) s).1 : Int) : Fp) = s.1 + s.2 * (toPoly cs).eval (x : Fp) := by
  induction cs generalizing s with
  | nil => simp
  | cons c cs ih =>
      rw [List.foldl_cons, ih, polyEvalStep, cast_mod, cast_mod, toPoly_cons]
      push_cast
      rw [eval_add, eval_C, eval_mul, eval_X]
      ring

/-- **`poly_eval` evaluates the polynomial.** -/
theorem cast_polyEval (cs : List Int) (x : Int) :
    ((polyEval cs x : Int) : Fp) = (toPoly cs).eval (x : Fp) := by
  rw [polyEval, cast_foldl_polyEvalStep]
  simp

theorem eval_toPoly (cs : List Int) (x : Fp) :
    (toPoly cs).eval x = ∑ i ∈ Finset.range cs.length, ((cs.getD i 0 : Int) : Fp) * x ^ i := by
  rw [toPoly, eval_ofCoeffs, List.length_map]
  exact Finset.sum_congr rfl fun i _ => by rw [cast_getD]

/-- Its result is reduced. -/
theorem polyEval_mod (cs : List Int) (x : Int) : polyEval cs x % fieldOrder = polyEval cs x := by
  induction cs using List.reverseRecOn with
  | nil => rfl
  | append_singleton cs c _ =>
      rw [polyEval, List.foldl_append, List.foldl_cons, List.foldl_nil, polyEvalStep]
      exact Int.emod_emod_of_dvd _ (dvd_refl _)

/-! ### Products and sums -/

theorem toPoly_polyMulRow (ai : Int) (i : Nat) (b : List Int) {result : List Int}
    (h : i + b.length ≤ result.length) :
    toPoly (polyMulRow ai i b result) = toPoly result + C (ai : Fp) * X ^ i * toPoly b := by
  have hstep : ∀ r bj : Int, (((r + ai * bj) % fieldOrder : Int) : Fp) = r + ai * bj := by
    intro r bj
    rw [cast_mod]
    push_cast
    rfl
  have hrow := ofCoeffs_map_foldl_row (Int.cast : Int → Fp) hstep 0 i b 0 h
  rw [ofCoeffs_map_const_mul] at hrow
  calc
    toPoly (polyMulRow ai i b result) = toPoly result + X ^ i * (C (ai : Fp) * toPoly b) := hrow
    _ = toPoly result + C (ai : Fp) * X ^ i * toPoly b := by ring

/-- The outer loop adds the product of what it has read and `b`. -/
theorem toPoly_foldl_polyMulRow (b : List Int) (a : List Int) (m : Nat) {result : List Int}
    (h : m + a.length + b.length ≤ result.length + 1) :
    toPoly ((a.zipIdx m).foldl
        (fun result (ai, i) => if ai = 0 then result else polyMulRow ai i b result) result) =
      toPoly result + X ^ m * toPoly a * toPoly b := by
  induction a generalizing m result with
  | nil => simp
  | cons ai a ih =>
      rw [List.length_cons] at h
      rw [List.zipIdx_cons, List.foldl_cons]
      dsimp only
      split_ifs with hzero
      · rw [ih (m + 1) (by omega), toPoly_cons, hzero, Int.cast_zero, C_0]
        ring
      · rw [ih (m + 1) (by rw [length_polyMulRow]; omega), toPoly_polyMulRow _ _ _ (by omega),
          toPoly_cons]
        ring

/-- **`poly_mul` multiplies.** -/
theorem toPoly_polyMul (a b : List Int) : toPoly (polyMul a b) = toPoly a * toPoly b := by
  rw [polyMul]
  split_ifs with hnil
  · obtain rfl | rfl := hnil <;> simp
  · rw [toPoly_foldl_polyMulRow, toPoly_replicate_zero]
    · ring
    · rw [List.length_replicate]
      omega

theorem toPoly_polyAddInto (a : List Int) {result : List Int} (h : a.length ≤ result.length) :
    toPoly (polyAddInto result a) = toPoly result + toPoly a := by
  have hstep : ∀ r v : Int, (((r + v) % fieldOrder : Int) : Fp) = r + v := by
    intro r v
    rw [cast_mod, Int.cast_add]
  have hlength : 0 + 0 + a.length ≤ result.length := by omega
  have hrow := ofCoeffs_map_foldl_row (Int.cast : Int → Fp) hstep 0 0 a 0 hlength
  simp only [Nat.zero_add, pow_zero, one_mul] at hrow
  exact hrow

/-- **`poly_add` adds.** -/
theorem toPoly_polyAdd (a b : List Int) : toPoly (polyAdd a b) = toPoly a + toPoly b := by
  rw [polyAdd, toPoly_polyAddInto b (by simp), toPoly_polyAddInto a (by simp),
    toPoly_replicate_zero, zero_add]

end Vrl
