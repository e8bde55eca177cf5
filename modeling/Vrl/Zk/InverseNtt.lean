import Mathlib.GroupTheory.OrderOfElement
import Vrl.Lib.DiscreteFourier
import Vrl.Zk.FieldPolynomials

/-!
# Vrl.Zk.InverseNtt

`intt` interpolates on the powers of `OMEGA` (`zk/field_utils.py`).

What `_find_omega` accepts is a primitive eighth root of unity
(**`isPrimitiveRoot_of_findOmega`**). Evaluation at its powers is the discrete Fourier
transform (`cast_polyEval_omega_pow`), and `intt` is the transform of the inverse root,
divided by the number of points (`cast_getD_intt`).
-/

open DiscreteFourier Finset

namespace Vrl

/-! ### The root of unity -/

theorem fieldPow_mod (b : Int) (e : Nat) : fieldPow b e % fieldOrder = fieldPow b e := by
  rw [fieldPow, powMod_eq, ← Int.natCast_mod, Nat.mod_mod]

theorem one_mod_fieldOrder : (1 : Int) % fieldOrder = 1 :=
  Int.emod_eq_of_lt Int.one_nonneg (mod_cast fieldOrder_prime.one_lt)

/-- The two powers that `_find_omega` looks at. -/
theorem pow_of_omegaOf {candidate : Nat} {root : Int} (h : omegaOf candidate = some root) :
    (root : Fp) ^ 8 = 1 ∧ (root : Fp) ^ 4 ≠ 1 := by
  rw [omegaOf] at h
  split_ifs at h with hpow
  obtain ⟨hone, hne⟩ := hpow
  rw [Option.some.inj h] at hone hne
  refine ⟨?_, fun hfour => hne ?_⟩
  · rw [← cast_fieldPow]
    exact (congrArg Int.cast hone).trans Int.cast_one
  · refine eq_of_cast_eq (fieldPow_mod _ _) one_mod_fieldOrder ?_
    rw [cast_fieldPow, Int.cast_one]
    exact hfour

theorem omegaOf_of_findOmegaAmong {candidates : List Nat} {root : Int}
    (h : findOmegaAmong candidates = .ok root) : ∃ candidate, omegaOf candidate = some root := by
  rw [findOmegaAmong] at h
  cases hfind : candidates.findSome? omegaOf with
  | none =>
      rw [hfind] at h
      cases h
  | some found =>
      rw [hfind] at h
      obtain ⟨candidate, -, hcandidate⟩ := List.exists_of_findSome?_eq_some hfind
      rw [Except.ok.inj h] at hcandidate
      exact ⟨candidate, hcandidate⟩

/-- **What `_find_omega` returns is a primitive root of unity.** -/
theorem isPrimitiveRoot_of_findOmega {root : Int} (h : findOmega = .ok root) :
    IsPrimitiveRoot (root : Fp) domainSize := by
  obtain ⟨candidate, hcandidate⟩ := omegaOf_of_findOmegaAmong h
  obtain ⟨height, hfour⟩ := pow_of_omegaOf hcandidate
  have horder : orderOf (root : Fp) = 2 ^ (2 + 1) :=
    orderOf_eq_prime_pow (p := 2) (n := 2) hfour height
  have hprimitive := IsPrimitiveRoot.orderOf (root : Fp)
  rwa [horder] at hprimitive

theorem fieldOmega_isPrimitiveRoot : IsPrimitiveRoot (fieldOmega : Fp) domainSize :=
  isPrimitiveRoot_of_findOmega findOmega_eq

theorem natCast_domainSize_ne_zero : (domainSize : Fp) ≠ 0 :=
  natCast_ne_zero fieldOmega_isPrimitiveRoot (by decide)

theorem cast_fieldInv_domainSize :
    ((fieldInv domainSize : Int) : Fp) = (domainSize : Fp)⁻¹ := by
  have hne : ((domainSize : Int) : Fp) ≠ 0 := by
    rw [Int.cast_natCast]
    exact natCast_domainSize_ne_zero
  rw [cast_fieldInv hne, Int.cast_natCast]

theorem cast_fieldInv_fieldOmega : ((fieldInv fieldOmega : Int) : Fp) = (fieldOmega : Fp)⁻¹ :=
  cast_fieldInv (fieldOmega_isPrimitiveRoot.ne_zero (by decide))

/-! ### Both functions as transforms -/

/-- The values of a list. -/
def residues (cs : List Int) (i : Nat) : Fp := (cs.getD i 0 : Int)

/-- Evaluation at the powers of the root is the transform. -/
theorem cast_polyEval_omega_pow (cs : List Int) (j : Nat) :
    ((polyEval cs (fieldOmega ^ j) : Int) : Fp) =
      transform (fieldOmega : Fp) cs.length (residues cs) j := by
  rw [cast_polyEval, eval_toPoly, transform]
  refine sum_congr rfl fun i _ => ?_
  rw [Int.cast_pow, ← pow_mul, Nat.mul_comm j i]
  rfl

/-- A loop that adds up modulo `FIELD_ORDER`. -/
theorem cast_foldl_add_mod (f : Nat → Int) (n : Nat) :
    (((List.range n).foldl (fun s j => (s + f j) % fieldOrder) 0 : Int) : Fp) =
      ∑ j ∈ range n, (f j : Fp) := by
  induction n with
  | zero => simp
  | succ n ih =>
      rw [List.range_succ, List.foldl_append, List.foldl_cons, List.foldl_nil, cast_mod,
        Int.cast_add, ih, sum_range_succ]

theorem cast_inttSum (values : List Int) (k : Nat) :
    ((inttSum values (fieldInv fieldOmega) k : Int) : Fp) =
      transform (fieldOmega : Fp)⁻¹ values.length (residues values) k := by
  rw [inttSum, cast_foldl_add_mod, transform]
  refine sum_congr rfl fun j _ => ?_
  rw [Int.cast_mul, cast_fieldPow, cast_fieldInv_fieldOmega]
  rfl

@[simp] theorem length_intt (values : List Int) : (intt values).length = values.length := by
  simp [intt]

theorem getElem_intt (values : List Int) {k : Nat} (hk : k < (intt values).length) :
    (intt values)[k] =
      inttSum values (fieldInv fieldOmega) k * fieldInv values.length % fieldOrder := by
  simp [intt]

/-- `intt` is the transform of the inverse root, divided by the number of points. -/
theorem residues_intt {values : List Int} (hlen : values.length = domainSize) {k : Nat}
    (hk : k < domainSize) :
    residues (intt values) k =
      transform (fieldOmega : Fp)⁻¹ domainSize (residues values) k * (domainSize : Fp)⁻¹ := by
  have hk' : k < (intt values).length := by rwa [length_intt, hlen]
  rw [residues, List.getD_eq_getElem _ _ hk', getElem_intt, cast_mod, Int.cast_mul, cast_inttSum,
    hlen, cast_fieldInv_domainSize]

/-! ### Inverse of each other -/

theorem polyEval_intt {values : List Int} (hlen : values.length = domainSize) {j : Nat}
    (hj : j < domainSize) :
    polyEval (intt values) (fieldOmega ^ j) ≡ values.getD j 0 [ZMOD fieldOrder] := by
  rw [← cast_eq_cast_iff]
  calc
    ((polyEval (intt values) (fieldOmega ^ j) : Int) : Fp) =
        transform (fieldOmega : Fp) domainSize (residues (intt values)) j := by
      rw [cast_polyEval_omega_pow, length_intt, hlen]
    _ = transform (fieldOmega : Fp) domainSize
          (transform (fieldOmega : Fp)⁻¹ domainSize (residues values)) j * (domainSize : Fp)⁻¹ := by
      rw [transform_congr fun k hk => residues_intt hlen hk, transform_mul]
    _ = residues values j := by
      rw [transform_transform_inv fieldOmega_isPrimitiveRoot _ hj,
        mul_inv_cancel_right₀ natCast_domainSize_ne_zero]

theorem intt_polyEval {p : List Int} (hlen : p.length = domainSize)
    (hreduced : ∀ c ∈ p, 0 ≤ c ∧ c < fieldOrder) :
    intt ((List.range domainSize).map fun j => polyEval p (fieldOmega ^ j)) = p := by
  generalize hvalues : (List.range domainSize).map (fun j => polyEval p (fieldOmega ^ j)) = values
  have hlength : values.length = domainSize := by
    rw [← hvalues, List.length_map, List.length_range]
  have hresidues : ∀ j < domainSize,
      residues values j = transform (fieldOmega : Fp) domainSize (residues p) j := by
    intro j hj
    rw [← hlen, ← cast_polyEval_omega_pow, residues, ← hvalues, List.getD_eq_getElem _ _ (by simpa)]
    simp
  refine List.ext_getElem (by rw [length_intt, hlength, hlen]) fun k hk hkp => ?_
  have hk' : k < domainSize := by rwa [hlen] at hkp
  refine eq_of_cast_eq ?_ ?_ ?_
  · rw [getElem_intt]
    exact Int.emod_emod_of_dvd _ (dvd_refl _)
  · obtain ⟨hnonneg, hlt⟩ := hreduced _ (List.getElem_mem hkp)
    exact Int.emod_eq_of_lt hnonneg hlt
  · calc
      (((intt values)[k] : Int) : Fp) = residues (intt values) k := by
        rw [residues, List.getD_eq_getElem _ _ hk]
      _ = residues p k := by
        rw [residues_intt hlength hk', transform_congr hresidues,
          transform_inv_transform fieldOmega_isPrimitiveRoot _ hk',
          mul_inv_cancel_right₀ natCast_domainSize_ne_zero]
      _ = ((p[k] : Int) : Fp) := by rw [residues, List.getD_eq_getElem _ _ hkp]

/-- **`intt` and evaluation on the domain are inverse to each other.** -/
theorem intt_inverse :
    findOmega = .ok fieldOmega ∧
      (∀ values : List Int, values.length = domainSize → ∀ j < domainSize,
        polyEval (intt values) (fieldOmega ^ j) ≡ values.getD j 0 [ZMOD fieldOrder]) ∧
      ∀ p : List Int, p.length = domainSize → (∀ c ∈ p, 0 ≤ c ∧ c < fieldOrder) →
        intt ((List.range domainSize).map fun j => polyEval p (fieldOmega ^ j)) = p :=
  ⟨findOmega_eq, fun _ hlen _ hj => polyEval_intt hlen hj,
    fun _ hlen hreduced => intt_polyEval hlen hreduced⟩

theorem intt_inverse_sample :
    polyEval (intt [100, 200, 300, 400, 500, 600, 700, 800]) (fieldOmega ^ 7) ≡ 800
        [ZMOD fieldOrder] ∧
      intt ((List.range domainSize).map fun j =>
        polyEval [1, 2, 3, 0, 0, 0, 0, 0] (fieldOmega ^ j)) = [1, 2, 3, 0, 0, 0, 0, 0] :=
  ⟨intt_inverse.2.1 [100, 200, 300, 400, 500, 600, 700, 800] rfl 7 (by decide),
    intt_inverse.2.2 [1, 2, 3, 0, 0, 0, 0, 0] rfl (by decide +kernel)⟩

end Vrl
