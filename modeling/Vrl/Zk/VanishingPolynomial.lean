import Vrl.Zk.InverseNtt
import Vrl.Zk.PolynomialDivision

/-!
# Vrl.Zk.VanishingPolynomial

Division by the polynomial that vanishes on the domain (`zk/field_utils.py`).

What is left of a polynomial by the division has its values on the domain, and as it is short
enough, it is what `intt` returns for them (**`vanishing_remainder_interpolates`**). So the
division comes out even exactly for the polynomials that vanish on the domain, and a constraint
that holds on every row can be told from the division of one polynomial
(**`quotient_iff_gates`**).
-/

open Polynomial DiscreteFourier Finset

namespace Vrl

/-! ### Multiples, and the vanishing polynomial -/

theorem toPoly_polyScalarMul (p : List Int) (scalar : Int) :
    toPoly (polyScalarMul p scalar) = C (scalar : Fp) * toPoly p := by
  induction p with
  | nil => simp [polyScalarMul]
  | cons c p ih =>
      rw [polyScalarMul, List.map_cons, ← polyScalarMul, toPoly_cons, toPoly_cons, ih, cast_mod,
        Int.cast_mul, C_mul]
      ring

/-- **`vanishing_poly` is the polynomial `X ^ n - 1`**, for a domain that is not empty. -/
theorem toPoly_vanishingPoly {n : Nat} (hn : n ≠ 0) : toPoly (vanishingPoly n) = X ^ n - 1 := by
  have hlength : 0 < (List.replicate (n + 1) (0 : Int)).length := by simp
  have hset : n < ((List.replicate (n + 1) (0 : Int)).set 0 (fieldOrder - 1)).length := by simp
  have hfirst : (List.replicate (n + 1) (0 : Int)).getD 0 0 = 0 := by simp
  have hlast : ((List.replicate (n + 1) (0 : Int)).set 0 (fieldOrder - 1)).getD n 0 = 0 := by
    rw [List.getD_eq_getElem?_getD, List.getElem?_set_ne (by omega)]
    simp
  have hminus : ((fieldOrder - 1 : Int) : Fp) = -1 := by
    rw [Int.cast_sub, Int.cast_one, Int.cast_natCast, ZMod.natCast_self, zero_sub]
  rw [vanishingPoly, toPoly_set hset, hlast, toPoly_set hlength, hfirst, hminus]
  simp
  ring

theorem vanishingPoly_length (n : Nat) : (vanishingPoly n).length = n + 1 := by
  rw [vanishingPoly]
  simp

theorem vanishingPoly_ne_nil (n : Nat) : vanishingPoly n ≠ [] := by
  rw [ne_eq, ← List.length_eq_zero_iff, vanishingPoly_length]
  exact Nat.succ_ne_zero n

/-- The leading coefficient is one. -/
theorem vanishingPoly_getLast? (n : Nat) : (vanishingPoly n).getLast? = some 1 := by
  rw [List.getLast?_eq_getElem?, vanishingPoly_length, Nat.add_sub_cancel, vanishingPoly,
    List.getElem?_set_self (by simp)]

/-! ### What the division leaves -/

/-- Division by the vanishing polynomial of the domain. -/
theorem polyDivmod_vanishingPoly (p : List Int) :
    ∃ q r, polyDivmod p (vanishingPoly domainSize) = .ok (q, r) ∧ r.length ≤ domainSize ∧
      toPoly p = toPoly q * (X ^ domainSize - 1) + toPoly r := by
  have hone : ((fieldPow 1 (fieldOrder - 2) : Int) : Fp) = 1 := by
    rw [cast_fieldPow, Int.cast_one, one_pow]
  have hlead : (toPoly (vanishingPoly domainSize)).coeff
      ((vanishingPoly domainSize).length - 1) = 1 := by
    rw [coeff_toPoly_last, List.getLastD_eq_getLast?, vanishingPoly_getLast?, Option.getD_some,
      Int.cast_one]
  obtain ⟨qs, r, hloop, -, hr, hdiv⟩ := polyDivmodLoop_spec (vanishingPoly_ne_nil domainSize)
    (by rw [hone, hlead, one_mul]) p []
  refine ⟨qs.reverse, r, ?_, ?_, ?_⟩
  · rw [polyDivmod, vanishingPoly_getLast?]
    dsimp only
    rw [hloop, List.nil_append]
  · rwa [vanishingPoly_length, Nat.add_sub_cancel] at hr
  · rwa [toPoly_vanishingPoly (by decide)] at hdiv

/-- The remainder has the values of the polynomial on the domain. -/
theorem polyEval_remainder {p q r : List Int}
    (h : toPoly p = toPoly q * (X ^ domainSize - 1) + toPoly r) (j : Nat) :
    polyEval r (fieldOmega ^ j) = polyEval p (fieldOmega ^ j) := by
  have hpow : ((fieldOmega : Fp) ^ j) ^ domainSize = 1 := by
    rw [← pow_mul, Nat.mul_comm, pow_mul, fieldOmega_isPrimitiveRoot.pow_eq_one, one_pow]
  refine eq_of_cast_eq (polyEval_mod _ _) (polyEval_mod _ _) ?_
  rw [cast_polyEval, cast_polyEval, h]
  simp [hpow]

/-- A list that is short enough has the transform of a full one. -/
theorem transform_residues {r : List Int} (h : r.length ≤ domainSize) (k : Nat) :
    transform (fieldOmega : Fp) r.length (residues r) k =
      transform (fieldOmega : Fp) domainSize (residues r) k := by
  refine sum_subset (range_mono h) fun i _ hi => ?_
  have hzero : residues r i = 0 := by
    rw [residues, List.getD_eq_default _ _ (by simpa using hi), Int.cast_zero]
  rw [hzero]
  simp

/-- **What is short enough is determined by its values on the domain**: it is what `intt` returns
for them. -/
theorem residues_intt_polyEval {r : List Int} (h : r.length ≤ domainSize) (k : Nat) :
    residues (intt ((List.range domainSize).map fun j => polyEval r (fieldOmega ^ j))) k =
      residues r k := by
  generalize hvalues : (List.range domainSize).map (fun j => polyEval r (fieldOmega ^ j)) = values
  have hlength : values.length = domainSize := by
    rw [← hvalues, List.length_map, List.length_range]
  have hresidues : ∀ j < domainSize,
      residues values j = transform (fieldOmega : Fp) domainSize (residues r) j := by
    intro j hj
    rw [← transform_residues h, ← cast_polyEval_omega_pow, residues, ← hvalues,
      List.getD_eq_getElem _ _ (by simpa)]
    simp
  rcases Nat.lt_or_ge k domainSize with hk | hk
  · rw [residues_intt hlength hk, transform_congr hresidues,
      transform_inv_transform fieldOmega_isPrimitiveRoot _ hk,
      mul_inv_cancel_right₀ natCast_domainSize_ne_zero]
  · rw [residues, residues, List.getD_eq_default _ _ (by rwa [length_intt, hlength]),
      List.getD_eq_default _ _ (h.trans hk)]

theorem residues_eq_iff {as bs : List Int} {k : Nat} :
    residues as k = residues bs k ↔ as.getD k 0 ≡ bs.getD k 0 [ZMOD fieldOrder] :=
  cast_eq_cast_iff

/-- All coefficients are zero exactly when all values on the domain are. -/
theorem vanishes_iff {r : List Int} (h : r.length ≤ domainSize) :
    (∀ k, r.getD k 0 ≡ 0 [ZMOD fieldOrder]) ↔
      ∀ j < domainSize, polyEval r (fieldOmega ^ j) = 0 := by
  constructor
  · intro hzero j _
    have hpoly : toPoly r = toPoly [] := toPoly_eq_iff.mpr fun k => by simpa using hzero k
    refine eq_of_cast_eq (polyEval_mod _ _) (Int.zero_emod _) ?_
    rw [cast_polyEval, hpoly]
    simp
  · intro hvalues k
    have hzero : (List.range domainSize).map (fun j => polyEval r (fieldOmega ^ j)) =
        (List.range domainSize).map fun j => polyEval [] (fieldOmega ^ j) := by
      refine List.map_congr_left fun j hj => ?_
      rw [hvalues j (List.mem_range.mp hj)]
      rfl
    have hinterpolated := residues_intt_polyEval h k
    rw [hzero, residues_intt_polyEval (Nat.zero_le _), eq_comm, residues_eq_iff] at hinterpolated
    simpa using hinterpolated

/-- **Division by the vanishing polynomial.** It never fails. What it leaves of a polynomial is
what `intt` returns for the values on the domain, and so nothing exactly when the polynomial
vanishes there. -/
theorem vanishing_remainder_interpolates (p : List Int) :
    ∃ q r, polyDivmod p (vanishingPoly domainSize) = .ok (q, r) ∧
      (∀ i, p.getD i 0 ≡ (polyAdd (polyMul q (vanishingPoly domainSize)) r).getD i 0
        [ZMOD fieldOrder]) ∧
      (∀ i, r.getD i 0 ≡
        (intt ((List.range domainSize).map fun j => polyEval p (fieldOmega ^ j))).getD i 0
        [ZMOD fieldOrder]) ∧
      ((∀ i, r.getD i 0 ≡ 0 [ZMOD fieldOrder]) ↔
        ∀ j < domainSize, polyEval p (fieldOmega ^ j) = 0) := by
  obtain ⟨q, r, hdivmod, hlength, hdiv⟩ := polyDivmod_vanishingPoly p
  have hvalues := polyEval_remainder hdiv
  refine ⟨q, r, hdivmod, ?_, fun i => ?_, ?_⟩
  · rw [← toPoly_eq_iff, toPoly_polyAdd, toPoly_polyMul, toPoly_vanishingPoly (by decide)]
    exact hdiv
  · have hinterpolated := residues_intt_polyEval hlength i
    simp only [hvalues] at hinterpolated
    exact residues_eq_iff.mp hinterpolated.symm
  · rw [vanishes_iff hlength]
    simp only [hvalues]

/-! ### One division for a constraint on every row -/

/-- The polynomial of the rows of a multiplication gate: that of the products of two columns,
less that of the third. -/
def gatePoly (a b c : List Int) : List Int :=
  polyAdd (polyMul (intt a) (intt b)) (polyScalarMul (intt c) (-1))

/-- **The quotient agrees with the rows.** The gate polynomial of three columns divides evenly by
the vanishing polynomial exactly when the gate holds on every row. -/
theorem quotient_iff_gates {a b c : List Int} (ha : a.length = domainSize)
    (hb : b.length = domainSize) (hc : c.length = domainSize) :
    (∃ q r, polyDivmod (gatePoly a b c) (vanishingPoly domainSize) = .ok (q, r) ∧
        ∀ i, r.getD i 0 ≡ 0 [ZMOD fieldOrder]) ↔
      ∀ j < domainSize, a.getD j 0 * b.getD j 0 ≡ c.getD j 0 [ZMOD fieldOrder] := by
  have heval : ∀ j < domainSize, ((polyEval (gatePoly a b c) (fieldOmega ^ j) : Int) : Fp) =
      residues a j * residues b j - residues c j := by
    intro j hj
    have hcolumn : ∀ {column : List Int}, column.length = domainSize →
        (toPoly (intt column)).eval ((fieldOmega ^ j : Int) : Fp) = residues column j := by
      intro column hcolumn
      rw [← cast_polyEval]
      exact cast_eq_cast_iff.mpr (polyEval_intt hcolumn hj)
    rw [cast_polyEval, gatePoly, toPoly_polyAdd, toPoly_polyMul, toPoly_polyScalarMul, eval_add,
      eval_mul, eval_mul, eval_C, hcolumn ha, hcolumn hb, hcolumn hc]
    push_cast
    ring
  have hrow : ∀ j < domainSize, polyEval (gatePoly a b c) (fieldOmega ^ j) = 0 ↔
      a.getD j 0 * b.getD j 0 ≡ c.getD j 0 [ZMOD fieldOrder] := by
    intro j hj
    have hvalue := heval j hj
    rw [← cast_eq_cast_iff, Int.cast_mul]
    constructor
    · intro hzero
      rw [hzero, Int.cast_zero, eq_comm, sub_eq_zero] at hvalue
      exact hvalue
    · intro hgate
      refine eq_of_cast_eq (polyEval_mod _ _) (Int.zero_emod _) ?_
      rw [hvalue, Int.cast_zero, sub_eq_zero]
      exact hgate
  obtain ⟨q, r, hdivmod, hlength, hdiv⟩ := polyDivmod_vanishingPoly (gatePoly a b c)
  have hvalues := polyEval_remainder hdiv
  have hvanishes := vanishes_iff hlength
  simp only [hvalues] at hvanishes
  constructor
  · rintro ⟨q', r', hdivmod', hzero⟩ j hj
    rw [hdivmod] at hdivmod'
    cases hdivmod'
    exact (hrow j hj).mp (hvanishes.mp hzero j hj)
  · intro hgates
    exact ⟨q, r, hdivmod, hvanishes.mpr fun j hj => (hrow j hj).mpr (hgates j hj)⟩

theorem quotient_iff_gates_sample :
    (∃ q r, polyDivmod (gatePoly [1, 2, 3, 4, 5, 6, 7, 8] [1, 2, 3, 4, 5, 6, 7, 8]
          [1, 4, 9, 16, 25, 36, 49, 64]) (vanishingPoly domainSize) = .ok (q, r) ∧
        ∀ i, r.getD i 0 ≡ 0 [ZMOD fieldOrder]) ↔
      ∀ j < domainSize, [1, 2, 3, 4, 5, 6, 7, 8].getD j 0 * [1, 2, 3, 4, 5, 6, 7, 8].getD j 0 ≡
        [1, 4, 9, 16, 25, 36, 49, 64].getD j 0 [ZMOD fieldOrder] :=
  quotient_iff_gates rfl rfl rfl

end Vrl
