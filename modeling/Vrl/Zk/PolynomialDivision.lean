import Mathlib.Tactic.LinearCombination
import Vrl.Zk.FieldPolynomials

/-!
# Vrl.Zk.PolynomialDivision

The divisions of `zk/field_utils.py`.

`poly_divmod` is a loop of single rounds, so the proof has two layers: one round takes a
multiple of the divisor off the remainder and with it the leading coefficient
(`toPoly_polyDivmodRow_dropLast`), and the loop collects the multiples
(`polyDivmodLoop_spec`).

`poly_divmod_linear` runs down from the leading coefficient. Its invariant multiplies the
quotient found so far by `X - z` (`LinearDivision`).
-/

open Polynomial CoefficientList

namespace Vrl

/-! ### Long division -/

section LongDivision

variable {divisor : List Int} {leadInv : Int}

theorem toPoly_polyDivmodRow (coeff : Int) {remainder : List Int}
    (h : divisor.length ≤ remainder.length) :
    toPoly (polyDivmodRow divisor coeff remainder) =
      toPoly remainder -
        X ^ (remainder.length - divisor.length) * (C (coeff : Fp) * toPoly divisor) := by
  have hstep : ∀ r d : Int, (((r - coeff * d) % fieldOrder : Int) : Fp) = r + -coeff * d := by
    intro r d
    rw [cast_mod]
    push_cast
    ring
  have hlength :
      remainder.length - divisor.length + 0 + divisor.length ≤ remainder.length := by
    omega
  have hrow := ofCoeffs_map_foldl_row (Int.cast : Int → Fp) hstep 0 _ divisor 0 hlength
  rw [ofCoeffs_map_const_mul, C_neg] at hrow
  calc
    toPoly (polyDivmodRow divisor coeff remainder) =
        toPoly remainder +
          X ^ (remainder.length - divisor.length) * (-C (coeff : Fp) * toPoly divisor) := hrow
    _ = _ := by ring

/-- A round takes a multiple of the divisor off the remainder, and the coefficient that it
removes from the list has become zero. -/
theorem toPoly_polyDivmodRow_dropLast (hne : divisor ≠ [])
    (hinv : (leadInv : Fp) * (toPoly divisor).coeff (divisor.length - 1) = 1)
    {remainder : List Int} (h : divisor.length ≤ remainder.length) :
    toPoly (polyDivmodRow divisor (remainder.getLastD 0 * leadInv % fieldOrder)
        remainder).dropLast =
      toPoly remainder - X ^ (remainder.length - divisor.length) *
        (C ((remainder.getLastD 0 * leadInv % fieldOrder : Int) : Fp) * toPoly divisor) := by
  have hpos : 0 < divisor.length := List.length_pos_iff.mpr hne
  have hlast := coeff_toPoly_last remainder
  have hindex :
      remainder.length - 1 = divisor.length - 1 + (remainder.length - divisor.length) := by
    omega
  rw [toPoly_dropLast, toPoly_polyDivmodRow _ h]
  -- The leading coefficients cancel.
  rw [length_polyDivmodRow, toPoly_polyDivmodRow _ h, coeff_sub, hlast, hindex, coeff_X_pow_mul,
    coeff_C_mul, cast_mod, Int.cast_mul, mul_assoc, hinv, mul_one, sub_self]

/-- The loop keeps the dividend: what it appends to the quotient, times the divisor, plus the
remainder. -/
theorem polyDivmodLoop_spec (hne : divisor ≠ [])
    (hinv : (leadInv : Fp) * (toPoly divisor).coeff (divisor.length - 1) = 1)
    (remainder quotient : List Int) :
    ∃ qs r, polyDivmodLoop divisor (divisor.length - 1) leadInv remainder quotient =
        (r, quotient ++ qs) ∧
      qs.length = remainder.length - (divisor.length - 1) ∧
      r.length ≤ divisor.length - 1 ∧
      toPoly remainder = toPoly qs.reverse * toPoly divisor + toPoly r := by
  have hpos : 0 < divisor.length := List.length_pos_iff.mpr hne
  induction hn : remainder.length using Nat.strong_induction_on generalizing remainder quotient with
  | _ n ih =>
      subst hn
      rw [polyDivmodLoop]
      split_ifs with hlt
      · have hround := toPoly_polyDivmodRow_dropLast hne hinv
          (show divisor.length ≤ remainder.length by omega)
        generalize hcoeff : remainder.getLastD 0 * leadInv % fieldOrder = coeff at hround ⊢
        have hlength : (polyDivmodRow divisor coeff remainder).dropLast.length =
            remainder.length - 1 := by
          rw [List.length_dropLast, length_polyDivmodRow]
        obtain ⟨qs, r, hloop, hqs, hr, hrest⟩ :=
          ih _ (by omega) (polyDivmodRow divisor coeff remainder).dropLast (quotient ++ [coeff]) rfl
        refine ⟨coeff :: qs, r, ?_, ?_, hr, ?_⟩
        · rw [hloop, List.append_assoc, List.singleton_append]
        · rw [List.length_cons, hqs, hlength]
          omega
        · have hqs' : qs.length = remainder.length - divisor.length := by omega
          rw [hround, sub_eq_iff_eq_add] at hrest
          rw [hrest, List.reverse_cons, toPoly_append, List.length_reverse, hqs', toPoly_cons,
            toPoly_nil]
          ring
      · refine ⟨[], remainder, ?_, ?_, ?_, ?_⟩
        · rw [List.append_nil]
        · rw [List.length_nil]
          omega
        · omega
        · rw [List.reverse_nil, toPoly_nil, zero_mul, zero_add]

/-- **Long division**: the dividend is the quotient times the divisor plus a remainder shorter
than the divisor. -/
theorem polyDivmod_eq_mul_add (dividend divisor : List Int) (hne : divisor ≠ [])
    (hlead : ¬ divisor.getLast hne ≡ 0 [ZMOD fieldOrder]) :
    ∃ q r, polyDivmod dividend divisor = .ok (q, r) ∧
      (∀ i, dividend.getD i 0 ≡ (polyMul q divisor).getD i 0 + r.getD i 0 [ZMOD fieldOrder]) ∧
      r.length ≤ divisor.length - 1 := by
  have hcast : ((divisor.getLast hne : Int) : Fp) ≠ 0 := by
    rwa [← Int.cast_zero, ne_eq, cast_eq_cast_iff]
  have hcoeff : (toPoly divisor).coeff (divisor.length - 1) = (divisor.getLast hne : Int) := by
    rw [coeff_toPoly_last, List.getLastD_eq_getLast?, List.getLast?_eq_some_getLast hne,
      Option.getD_some]
  have hinv : ((fieldPow (divisor.getLast hne) (fieldOrder - 2) : Int) : Fp) *
      (toPoly divisor).coeff (divisor.length - 1) = 1 := by
    rw [hcoeff, cast_fieldPow_inv hcast, inv_mul_cancel₀ hcast]
  obtain ⟨qs, r, hloop, -, hr, hdiv⟩ := polyDivmodLoop_spec hne hinv dividend []
  refine ⟨qs.reverse, r, ?_, ?_, hr⟩
  · rw [polyDivmod, List.getLast?_eq_some_getLast hne]
    dsimp only
    rw [hloop, List.nil_append]
  · intro i
    have hi := congrArg (fun p => Polynomial.coeff p i) hdiv
    rw [← toPoly_polyMul, coeff_add, coeff_toPoly, coeff_toPoly, coeff_toPoly, ← Int.cast_add,
      cast_eq_cast_iff] at hi
    exact hi

theorem polyDivmod_eq_mul_add_sample :
    ∃ q r, polyDivmod [3, 10, 13, 11] [3, 4, 5] = .ok (q, r) ∧
      (∀ i, [3, 10, 13, 11].getD i 0 ≡ (polyMul q [3, 4, 5]).getD i 0 + r.getD i 0
        [ZMOD fieldOrder]) ∧
      r.length ≤ 2 :=
  polyDivmod_eq_mul_add [3, 10, 13, 11] [3, 4, 5] (by decide) (by decide)

end LongDivision

/-! ### Division by a linear polynomial -/

section LinearDivision

variable {z : Int}

/-- The state of `poly_divmod_linear` when the coefficients below `m` and the lowest one are
still to be read. -/
structure LinearDivision (p : List Int) (z : Int) (m : Nat) (s : List Int × Int) : Prop where
  length_eq : s.1.length = p.length - 1
  unread : ∀ i < m, s.1.getD i 0 = 0
  product : toPoly s.1 * (X - C (z : Fp)) = X ^ m * (X * toPoly (p.drop (m + 1)) - C (s.2 : Fp))

theorem LinearDivision.init (p : List Int) (z : Int) :
    LinearDivision p z (p.length - 1) (List.replicate (p.length - 1) 0, 0) where
  length_eq := List.length_replicate
  unread i hi := by rw [List.getD_replicate _ hi]
  product := by
    rw [List.drop_of_length_le (by omega)]
    simp

/-- One round reads the next coefficient down. -/
theorem LinearDivision.step {p : List Int} {m : Nat} {s : List Int × Int} (hm : m + 1 < p.length)
    (h : LinearDivision p z (m + 1) s) :
    LinearDivision p z m (polyDivmodLinearStep p z s (m + 1)) where
  length_eq := by rw [polyDivmodLinearStep, List.length_set, h.length_eq]
  unread i hi := by
    have hunread := h.unread i (by omega)
    rw [List.getD_eq_getElem?_getD] at hunread ⊢
    rw [polyDivmodLinearStep, Nat.add_sub_cancel, List.getElem?_set_ne (by omega), hunread]
  product := by
    have hset : m < s.1.length := by
      rw [h.length_eq]
      omega
    have hcoeff : p.getD (m + 1) 0 = p[m + 1] := List.getD_eq_getElem _ _ hm
    rw [polyDivmodLinearStep, Nat.add_sub_cancel, toPoly_set hset, h.unread m (by omega),
      List.drop_eq_getElem_cons hm, toPoly_cons, hcoeff]
    simp only [cast_mod, Int.cast_add, Int.cast_mul, Int.cast_zero, sub_zero, C_add, C_mul]
    linear_combination h.product

/-- The rounds that are left finish the division. -/
theorem LinearDivision.run {p : List Int} (m : Nat) {s : List Int × Int} (hm : m < p.length)
    (h : LinearDivision p z m s) :
    LinearDivision p z 0 ((List.range' 1 m).reverse.foldl (polyDivmodLinearStep p z) s) := by
  induction m generalizing s with
  | zero => exact h
  | succ m ih =>
      rw [List.range'_1_concat, List.reverse_append, List.reverse_singleton,
        List.singleton_append, List.foldl_cons, Nat.add_comm 1 m]
      exact ih (by omega) (h.step hm)

theorem toPoly_polyDivmodLinearLoop (first : Int) (rest : List Int) (z : Int) :
    toPoly (polyDivmodLinearLoop (first :: rest) z).1 * (X - C (z : Fp)) =
      X * toPoly rest - C ((polyDivmodLinearLoop (first :: rest) z).2 : Fp) := by
  have h := (LinearDivision.init (first :: rest) z).run _ (by simp)
  have hproduct := h.product
  rw [pow_zero, one_mul] at hproduct
  exact hproduct

/-- The loop does not read the lowest coefficient. -/
theorem polyDivmodLinearLoop_cons (first other : Int) (rest : List Int) (z : Int) :
    polyDivmodLinearLoop (first :: rest) z = polyDivmodLinearLoop (other :: rest) z := by
  refine List.foldl_ext _ _ _ fun s i hi => ?_
  obtain ⟨i, rfl⟩ : ∃ j, i = j + 1 := by
    rw [List.mem_reverse, List.mem_range'_1] at hi
    exact ⟨i - 1, by omega⟩
  rw [polyDivmodLinearStep, polyDivmodLinearStep, List.getD_cons_succ, List.getD_cons_succ]

/-- **Opening at a point**: `poly_divmod_linear` divides by `X - z`, its remainder is the value
at `z`, and the quotient is what `kzg_open_coeffs` returns. -/
theorem polyDivmodLinear_opening (p : List Int) (hne : p ≠ []) (z : Int) :
    ∃ q r, polyDivmodLinear p z = .ok (q, r) ∧
      r = polyEval p z ∧
      (∀ i, (polyAdd (polyMul [-z, 1] q) [r]).getD i 0 ≡ p.getD i 0 [ZMOD fieldOrder]) ∧
      (∀ v, kzgOpenCoeffs p z v = .ok q) ∧
      ∀ w, (w - z) * polyEval q w ≡ polyEval p w - polyEval p z [ZMOD fieldOrder] := by
  obtain ⟨first, rest, rfl⟩ := List.exists_cons_of_ne_nil hne
  generalize hloop : polyDivmodLinearLoop (first :: rest) z = s
  have hproduct := toPoly_polyDivmodLinearLoop first rest z
  rw [hloop] at hproduct
  have hdiv : toPoly s.1 * (X - C (z : Fp)) + C (((first + s.2) % fieldOrder : Int) : Fp) =
      toPoly (first :: rest) := by
    rw [hproduct, toPoly_cons, cast_mod, Int.cast_add, C_add]
    ring
  have heval : ∀ w : Int, (w - z : Fp) * polyEval s.1 w + ((first + s.2) % fieldOrder : Int) =
      (polyEval (first :: rest) w : Int) := by
    intro w
    rw [cast_polyEval, cast_polyEval, ← hdiv]
    simp only [eval_add, eval_mul, eval_sub, eval_X, eval_C]
    ring
  have hr : (first + s.2) % fieldOrder = polyEval (first :: rest) z := by
    refine eq_of_cast_eq (Int.emod_emod_of_dvd _ (dvd_refl _)) (polyEval_mod _ _) ?_
    rw [← heval z, sub_self, zero_mul, zero_add]
  refine ⟨s.1, (first + s.2) % fieldOrder, ?_, hr, ?_, ?_, ?_⟩
  · rw [polyDivmodLinear, hloop]
  · rw [← toPoly_eq_iff, toPoly_polyAdd, toPoly_polyMul, ← hdiv]
    simp only [toPoly_cons, toPoly_nil, Int.cast_neg, Int.cast_one, C_neg, C_1]
    ring
  · intro v
    rw [kzgOpenCoeffs, polyDivmodLinear, polyDivmodLinearLoop_cons _ first, hloop]
    rfl
  · intro w
    rw [← cast_eq_cast_iff, ← hr]
    push_cast
    rw [← heval w]
    push_cast
    ring

theorem polyDivmodLinear_opening_sample :
    ∃ q r, polyDivmodLinear [6, -5, 1] 2 = .ok (q, r) ∧
      r = polyEval [6, -5, 1] 2 ∧
      (∀ i, (polyAdd (polyMul [-2, 1] q) [r]).getD i 0 ≡ [6, -5, 1].getD i 0
        [ZMOD fieldOrder]) ∧
      (∀ v, kzgOpenCoeffs [6, -5, 1] 2 v = .ok q) ∧
      ∀ w, (w - 2) * polyEval q w ≡ polyEval [6, -5, 1] w - polyEval [6, -5, 1] 2
        [ZMOD fieldOrder] :=
  polyDivmodLinear_opening [6, -5, 1] (by decide) 2

end LinearDivision

end Vrl
