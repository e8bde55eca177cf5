import Mathlib.Algebra.Polynomial.Eval.Degree
import Mathlib.Algebra.Polynomial.Coeff
import Mathlib.Data.List.GetD
import Mathlib.Tactic.Ring

/-!
# Vrl.Lib.CoefficientList

Polynomials as lists of their coefficients, lowest first, the way programs keep them.

Programs change such a list in place, one coefficient at a time, and keep representatives of
the coefficients, such as integers for residues. A change of one coefficient adds a monomial
(**`ofCoeffs_map_set`**), so a loop that changes coefficients in a row adds the polynomial of
what it adds to each (**`ofCoeffs_map_foldl_row`**).
-/

open Polynomial

namespace CoefficientList

variable {R : Type*} [CommRing R]

/-- The polynomial of a list of coefficients. -/
noncomputable def ofCoeffs : List R → R[X]
  | [] => 0
  | c :: cs => C c + X * ofCoeffs cs

@[simp] theorem ofCoeffs_nil : ofCoeffs ([] : List R) = 0 := rfl

@[simp] theorem ofCoeffs_cons (c : R) (cs : List R) :
    ofCoeffs (c :: cs) = C c + X * ofCoeffs cs := rfl

/-! ### Coefficients -/

/-- A coefficient that is not in the list is zero. -/
theorem coeff_ofCoeffs (cs : List R) (i : Nat) : (ofCoeffs cs).coeff i = cs.getD i 0 := by
  induction cs generalizing i with
  | nil => simp
  | cons c cs ih =>
      cases i with
      | zero => simp
      | succ i => simp [ih, coeff_X_mul, coeff_C_succ]

theorem ofCoeffs_eq_iff (cs ds : List R) :
    ofCoeffs cs = ofCoeffs ds ↔ ∀ i, cs.getD i 0 = ds.getD i 0 := by
  simp only [Polynomial.ext_iff, coeff_ofCoeffs]

/-- A last coefficient of zero may be left out. -/
theorem ofCoeffs_dropLast {cs : List R} (h : (ofCoeffs cs).coeff (cs.length - 1) = 0) :
    ofCoeffs cs.dropLast = ofCoeffs cs := by
  rw [ofCoeffs_eq_iff]
  intro i
  rw [coeff_ofCoeffs] at h
  rw [List.getD_eq_getElem?_getD, List.getElem?_dropLast]
  split_ifs with hi
  · rw [List.getD_eq_getElem?_getD]
  · obtain heq | hlt : i = cs.length - 1 ∨ cs.length ≤ i := by omega
    · rw [heq, h, Option.getD_none]
    · rw [List.getD_eq_default _ _ hlt, Option.getD_none]

theorem eval_ofCoeffs_cons (x c : R) (cs : List R) :
    (ofCoeffs (c :: cs)).eval x = c + x * (ofCoeffs cs).eval x := by
  simp

/-- The value of a polynomial, as a sum of monomials. -/
theorem eval_ofCoeffs (x : R) (cs : List R) :
    (ofCoeffs cs).eval x = ∑ i ∈ Finset.range cs.length, cs.getD i 0 * x ^ i := by
  induction cs with
  | nil => simp
  | cons c cs ih =>
      rw [eval_ofCoeffs_cons, ih, List.length_cons, Finset.sum_range_succ', Finset.mul_sum]
      simp only [List.getD_cons_zero, List.getD_cons_succ, pow_zero, mul_one]
      rw [add_comm]
      congr 1
      refine Finset.sum_congr rfl fun i _ => ?_
      ring

theorem ofCoeffs_append (cs ds : List R) :
    ofCoeffs (cs ++ ds) = ofCoeffs cs + X ^ cs.length * ofCoeffs ds := by
  induction cs with
  | nil => simp
  | cons c cs ih =>
      rw [List.cons_append, ofCoeffs_cons, ofCoeffs_cons, ih, List.length_cons]
      ring

@[simp] theorem ofCoeffs_replicate_zero (n : Nat) : ofCoeffs (List.replicate n (0 : R)) = 0 := by
  induction n with
  | zero => rfl
  | succ n ih => rw [List.replicate_succ, ofCoeffs_cons, ih, C_0, mul_zero, add_zero]

theorem ofCoeffs_map_const_mul {β : Type*} (c : R) (f : β → R) (bs : List β) :
    ofCoeffs (bs.map fun b => c * f b) = C c * ofCoeffs (bs.map f) := by
  induction bs with
  | nil => simp
  | cons b bs ih =>
      rw [List.map_cons, List.map_cons, ofCoeffs_cons, ofCoeffs_cons, ih, C_mul]
      ring

/-! ### Changes in place

The entries are representatives of coefficients, and `φ` is what they represent. -/

variable {α β : Type*} (φ : α → R)

/-- A changed coefficient adds a monomial. -/
theorem ofCoeffs_map_set {cs : List α} {i : Nat} (h : i < cs.length) (d v : α) :
    ofCoeffs ((cs.set i v).map φ) = ofCoeffs (cs.map φ) + C (φ v - φ (cs.getD i d)) * X ^ i := by
  induction cs generalizing i with
  | nil => cases h
  | cons c cs ih =>
      cases i with
      | zero =>
          rw [List.set_cons_zero, List.getD_cons_zero, List.map_cons, List.map_cons,
            ofCoeffs_cons, ofCoeffs_cons, C_sub]
          ring
      | succ i =>
          rw [List.set_cons_succ, List.getD_cons_succ, List.map_cons, List.map_cons,
            ofCoeffs_cons, ofCoeffs_cons, ih (Nat.lt_of_succ_lt_succ h)]
          ring

/-- A loop over a list that changes one coefficient after the other, by what `step` adds. -/
theorem ofCoeffs_map_foldl_row {step : α → β → α} {added : β → R}
    (hstep : ∀ c b, φ (step c b) = φ c + added b) (d : α) (shift : Nat) (bs : List β) (m : Nat)
    {cs : List α} (h : shift + m + bs.length ≤ cs.length) :
    ofCoeffs (((bs.zipIdx m).foldl
        (fun cs b => cs.set (shift + b.2) (step (cs.getD (shift + b.2) d) b.1)) cs).map φ) =
      ofCoeffs (cs.map φ) + X ^ (shift + m) * ofCoeffs (bs.map added) := by
  induction bs generalizing m cs with
  | nil => simp
  | cons b bs ih =>
      rw [List.length_cons] at h
      have hset : shift + (m + 1) + bs.length ≤
          (cs.set (shift + m) (step (cs.getD (shift + m) d) b)).length := by
        rw [List.length_set]
        omega
      rw [List.zipIdx_cons, List.foldl_cons, ih (m + 1) hset,
        ofCoeffs_map_set φ (by omega) d, hstep, add_sub_cancel_left, List.map_cons, ofCoeffs_cons]
      ring

end CoefficientList
