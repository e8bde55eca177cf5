import Vrl.Lib.Python
import Vrl.Lib.ModularPower
import Vrl.Zk.PlonkAdapter

/-!
# Vrl.Zk.FieldUtils

The field arithmetic of the prover (`zk/field_utils.py`): the evaluation domain, and
polynomials as lists of their coefficients, lowest degree first.

Coefficients are Python integers of any size and sign; each operation reduces what it writes
modulo `FIELD_ORDER`, and nothing that it only reads.
-/

namespace Vrl

/-- `N`, the size of the evaluation domain. -/
def domainSize : Nat := 8

/-- `pow(b, e, FIELD_ORDER)`. -/
def fieldPow (b : Int) (e : Nat) : Int := powMod (b % fieldOrder).toNat e fieldOrder

/-! ### The evaluation domain -/

/-- One candidate of `_find_omega`. -/
def omegaOf (candidate : Nat) : Option Int :=
  let root := fieldPow candidate ((fieldOrder - 1) / domainSize)
  if fieldPow root domainSize = 1 ∧ fieldPow root (domainSize / 2) ≠ 1 then some root else none

/-- The loop of `_find_omega`. -/
def findOmegaAmong (candidates : List Nat) : Except PyError Int :=
  match candidates.findSome? omegaOf with
  | some root => .ok root
  | none =>
      .error ⟨.runtimeError, "Unable to derive a primitive 8th root of unity for Pasta Fp"⟩

/-- `_find_omega`, over `range(2, 512)`. -/
def findOmega : Except PyError Int := findOmegaAmong (List.range' 2 510)

/-- `OMEGA`, what `_find_omega` returns when the module is loaded (`findOmega_eq`). -/
def fieldOmega : Int :=
  26389178552394651245246837090492411671330744266237564696174733440959711379620

/-- The first candidate that qualifies is 5. -/
theorem findOmega_eq : findOmega = .ok fieldOmega := by decide +kernel

/-- `field_inv`. -/
def fieldInv (x : Int) : Int := fieldPow x (fieldOrder - 2)

/-! ### Evaluation and interpolation -/

/-- One coefficient of `poly_eval`, with the result and the power of `x` so far. -/
def polyEvalStep (x : Int) (s : Int × Int) (c : Int) : Int × Int :=
  ((s.1 + c * s.2) % fieldOrder, s.2 * x % fieldOrder)

/-- `poly_eval`. -/
def polyEval (coeffs : List Int) (x : Int) : Int := (coeffs.foldl (polyEvalStep x) (0, 1)).1

/-- The inner loop of `intt`. -/
def inttSum (values : List Int) (omegaInv : Int) (k : Nat) : Int :=
  (List.range values.length).foldl
    (fun s j => (s + values.getD j 0 * fieldPow omegaInv (j * k)) % fieldOrder) 0

/-- `intt`. -/
def intt (values : List Int) : List Int :=
  let n := values.length
  let omegaInv := fieldInv fieldOmega
  let nInv := fieldInv n
  (List.range n).map fun k => inttSum values omegaInv k * nInv % fieldOrder

/-! ### Division by a linear polynomial -/

/-- One round of `poly_divmod_linear`, with the quotient and the carried value so far. -/
def polyDivmodLinearStep (poly : List Int) (z : Int) (s : List Int × Int) (i : Nat) :
    List Int × Int :=
  let running := (poly.getD i 0 + s.2) % fieldOrder
  (s.1.set (i - 1) running, running * z % fieldOrder)

/-- The loop of `poly_divmod_linear`, over `range(n - 1, 0, -1)`. -/
def polyDivmodLinearLoop (poly : List Int) (z : Int) : List Int × Int :=
  (List.range' 1 (poly.length - 1)).reverse.foldl (polyDivmodLinearStep poly z)
    (List.replicate (poly.length - 1) 0, 0)

/-- `poly_divmod_linear`. -/
def polyDivmodLinear (poly : List Int) (z : Int) : Except PyError (List Int × Int) :=
  let (q, running) := polyDivmodLinearLoop poly z
  match poly with
  | [] => .error ⟨.lookupError, "list index out of range"⟩
  | first :: _ => .ok (q, (first + running) % fieldOrder)

/-- `kzg_open_coeffs`. -/
def kzgOpenCoeffs (polyCoeffs : List Int) (z v : Int) : Except PyError (List Int) :=
  match polyCoeffs with
  | [] => .error ⟨.lookupError, "list index out of range"⟩
  | first :: rest => do
      let (q, _remainder) ← polyDivmodLinear ((first - v) % fieldOrder :: rest) z
      return q

/-! ### Sums, products and long division -/

/-- A loop that sets entries of a list keeps its length. -/
theorem length_foldl_set {α : Type} (idx : α → Nat) (f : List Int → α → Int) (bs : List α)
    (r : List Int) : (bs.foldl (fun r b => r.set (idx b) (f r b)) r).length = r.length := by
  induction bs generalizing r with
  | nil => rfl
  | cons b bs ih => rw [List.foldl_cons, ih, List.length_set]

/-- The inner loop of `poly_mul`. -/
def polyMulRow (ai : Int) (i : Nat) (b result : List Int) : List Int :=
  b.zipIdx.foldl
    (fun result (bj, j) =>
      result.set (i + j) ((result.getD (i + j) 0 + ai * bj) % fieldOrder))
    result

@[simp] theorem length_polyMulRow (ai : Int) (i : Nat) (b result : List Int) :
    (polyMulRow ai i b result).length = result.length :=
  length_foldl_set (fun s : Int × Nat => i + s.2)
    (fun r s => (r.getD (i + s.2) 0 + ai * s.1) % fieldOrder) b.zipIdx result

/-- `poly_mul`. -/
def polyMul (a b : List Int) : List Int :=
  if a = [] ∨ b = [] then [0]
  else
    a.zipIdx.foldl (fun result (ai, i) => if ai = 0 then result else polyMulRow ai i b result)
      (List.replicate (a.length + b.length - 1) 0)

/-- A loop of `poly_add`. -/
def polyAddInto (result a : List Int) : List Int :=
  a.zipIdx.foldl (fun result (v, i) => result.set i ((result.getD i 0 + v) % fieldOrder)) result

@[simp] theorem length_polyAddInto (result a : List Int) :
    (polyAddInto result a).length = result.length :=
  length_foldl_set (fun s : Int × Nat => s.2) (fun r s => (r.getD s.2 0 + s.1) % fieldOrder)
    a.zipIdx result

/-- `poly_add`. -/
def polyAdd (a b : List Int) : List Int :=
  polyAddInto (polyAddInto (List.replicate (max a.length b.length) 0) a) b

/-- `poly_scalar_mul`. -/
def polyScalarMul (p : List Int) (scalar : Int) : List Int :=
  p.map fun c => c * scalar % fieldOrder

/-- `vanishing_poly`. For `n = 0` the second entry that is set is the first. -/
def vanishingPoly (n : Nat) : List Int :=
  ((List.replicate (n + 1) (0 : Int)).set 0 (fieldOrder - 1)).set n 1

/-- The inner loop of `poly_divmod`, which keeps the length of the remainder. -/
def polyDivmodRow (divisor : List Int) (coeff : Int) (remainder : List Int) : List Int :=
  divisor.zipIdx.foldl
    (fun r (d, i) =>
      let idx := remainder.length - divisor.length + i
      r.set idx ((r.getD idx 0 - coeff * d) % fieldOrder))
    remainder

@[simp] theorem length_polyDivmodRow (divisor : List Int) (coeff : Int) (remainder : List Int) :
    (polyDivmodRow divisor coeff remainder).length = remainder.length :=
  length_foldl_set (fun s : Int × Nat => remainder.length - divisor.length + s.2)
    (fun r s =>
      (r.getD (remainder.length - divisor.length + s.2) 0 - coeff * s.1) % fieldOrder)
    divisor.zipIdx remainder

/-- The loop of `poly_divmod`; `degDiv` and `leadInv` are what is computed before it. -/
def polyDivmodLoop (divisor : List Int) (degDiv : Nat) (leadInv : Int)
    (remainder quotient : List Int) : List Int × List Int :=
  if degDiv < remainder.length then
    let coeff := remainder.getLastD 0 * leadInv % fieldOrder
    polyDivmodLoop divisor degDiv leadInv (polyDivmodRow divisor coeff remainder).dropLast
      (quotient ++ [coeff])
  else (remainder, quotient)
termination_by remainder.length
decreasing_by
  rw [List.length_dropLast, length_polyDivmodRow]
  omega

/-- `poly_divmod`: the quotient and the remainder. -/
def polyDivmod (dividend divisor : List Int) : Except PyError (List Int × List Int) :=
  match divisor.getLast? with
  | none => .error ⟨.lookupError, "list index out of range"⟩
  | some lead =>
      let (remainder, quotient) :=
        polyDivmodLoop divisor (divisor.length - 1) (fieldPow lead (fieldOrder - 2)) dividend []
      .ok (quotient.reverse, remainder)

end Vrl
