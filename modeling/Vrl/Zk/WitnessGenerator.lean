import Vrl.Zk.Interfaces
import Vrl.Zk.PlonkAdapter

/-!
# Vrl.Zk.WitnessGenerator

Wire assignments and instance values of the import circuit
(`zk/witness/generator.py`).
-/

open Pydantic TextCodec

namespace Vrl.Zk

variable (std : PyStd)

/-! ### Field elements -/

/-- `FIXED_POINT_SCALE`. -/
def fixedPointScale : Int := 1000000

/-- `to_fixed_point` of a value with a text. -/
def toFixedPoint (text : String) : Except PyError Int := do
  let decimalValue ←
    match PyDecimal.ofText (strip text.toList) with
    | some d => .ok d
    | none => .error (PyDecimal.invalidOperation "[<class 'decimal.ConversionSyntax'>]")
  let scaled ← decimalValue.mul context (.ofInt fixedPointScale)
  return (← scaled.toInt .halfUp) % fieldOrder

/-- The limb of 16 digits that begins at an index. -/
def limbAt (cs : List Char) (index : Nat) : Except PyError Int :=
  match PyInt.readBase16 ((cs.drop index).take 16) with
  | some limb => .ok limb
  | none => .error ⟨.valueError, "invalid literal for int() with base 16"⟩

/-- `hash_hex_to_limbs`. -/
def hashHexToLimbs (hexValue : String) : Except PyError (List Int) :=
  let cs := hexValue.toList
  if cs.length = 64 then [0, 16, 32, 48].mapM (limbAt cs)
  else .error ⟨.valueError, "Expected 64 hex chars, got " ++ String.ofList (natText cs.length)⟩

/-- `canonical_public_inputs_hash`. -/
def canonicalPublicInputsHash (publicInputs : List (String × String)) : Except PyError String :=
  canonicalHash std (ofStringDict (Json.sortMembers publicInputs))

/-- `build_instance_values`. -/
def buildInstanceValues (landedCostFp : Int) (traceHash circuitHash publicInputsHash : String) :
    Except PyError (List Int) := do
  let traceLimbs ← hashHexToLimbs traceHash
  let circuitLimbs ← hashHexToLimbs circuitHash
  let publicInputsLimbs ← hashHexToLimbs publicInputsHash
  return landedCostFp :: (traceLimbs ++ circuitLimbs ++ publicInputsLimbs)

/-- Sixteen digits, or as many as are left, are a limb. -/
theorem limbAt_ok {cs : List Char} {index : Nat} (hindex : index < cs.length)
    (hdigits : ∀ c ∈ (cs.drop index).take 16, isHexAnyCase c = true) :
    ∃ limb : Nat, limbAt cs index = .ok limb ∧ limb < 16 ^ 16 := by
  have hlength : ((cs.drop index).take 16).length ≤ 16 := by
    rw [List.length_take]
    exact Nat.min_le_left _ _
  have hne : (cs.drop index).take 16 ≠ [] := by
    intro hnil
    have hlen := congrArg List.length hnil
    rw [List.length_take, List.length_drop, List.length_nil] at hlen
    omega
  refine ⟨_, by rw [limbAt, PyInt.readBase16_of_isHexAnyCase hdigits hne], ?_⟩
  exact (PyInt.foldl_hexValue_lt _).trans_le (Nat.pow_le_pow_right (by decide) hlength)

/-- A text of 64 digits has its four limbs. -/
theorem hashHexToLimbs_of_digits {hash : String} (hlength : hash.toList.length = 64)
    (hdigits : ∀ c ∈ hash.toList, isLowerHex c = true) :
    ∃ limbs, hashHexToLimbs hash = .ok limbs := by
  have hlimb : ∀ index, index < 64 → ∃ limb, limbAt hash.toList index = .ok limb := by
    intro index hindex
    have hany : ∀ c ∈ (hash.toList.drop index).take 16, isHexAnyCase c = true := fun c hc =>
      PyInt.isHexAnyCase_of_isLowerHex
        (hdigits c (List.mem_of_mem_drop (List.mem_of_mem_take hc)))
    obtain ⟨limb, hlimb, -⟩ := limbAt_ok (hlength ▸ hindex) hany
    exact ⟨limb, hlimb⟩
  obtain ⟨l0, h0⟩ := hlimb 0 (by omega)
  obtain ⟨l1, h1⟩ := hlimb 16 (by omega)
  obtain ⟨l2, h2⟩ := hlimb 32 (by omega)
  obtain ⟨l3, h3⟩ := hlimb 48 (by omega)
  refine ⟨[l0, l1, l2, l3], ?_⟩
  simp only [hashHexToLimbs, hlength, if_true, List.mapM_cons, List.mapM_nil, h0, h1, h2, h3]
  rfl

/-- A digest of full length has its four limbs. -/
theorem hashHexToLimbs_ok (hfull : std.IsFullLength) (text : String) :
    ∃ limbs, hashHexToLimbs (std.hexdigest text) = .ok limbs :=
  hashHexToLimbs_of_digits (hfull text) (std.isLowerHex_hexdigest text)

/-- Digests of full length have instance values. -/
theorem buildInstanceValues_ok (hfull : std.IsFullLength) (landedCostFp : Int)
    (traceText circuitText inputsText : String) :
    ∃ values, buildInstanceValues landedCostFp (std.hexdigest traceText)
      (std.hexdigest circuitText) (std.hexdigest inputsText) = .ok values := by
  obtain ⟨traceLimbs, htrace⟩ := hashHexToLimbs_ok std hfull traceText
  obtain ⟨circuitLimbs, hcircuit⟩ := hashHexToLimbs_ok std hfull circuitText
  obtain ⟨inputsLimbs, hinputs⟩ := hashHexToLimbs_ok std hfull inputsText
  exact ⟨_, by rw [buildInstanceValues, htrace, hcircuit, hinputs]; rfl⟩

/-! ### Assignments -/

/-- `PlonkAssignment`. -/
structure PlonkAssignment where
  aCol : List Int
  bCol : List Int
  cCol : List Int
  wireMap : List (String × Int)
  publicInputsHash : String

/-- `column[index]`. -/
def columnAt (column : List Int) (index : Nat) : Except PyError Int :=
  match column[index]? with
  | some value => .ok value
  | none => .error ⟨.lookupError, "tuple index out of range"⟩

/-- `PlonkAssignment.verify_gate_constraints`: products on the first five rows, sums on the
other three. -/
def PlonkAssignment.verifyGateConstraints (assignment : PlonkAssignment) :
    Except PyError (List Bool) := do
  let products ← (List.range' 0 5).mapM fun index => do
    let a ← columnAt assignment.aCol index
    let b ← columnAt assignment.bCol index
    let c ← columnAt assignment.cCol index
    return decide ((a * b - c) % fieldOrder = 0)
  let sums ← (List.range' 5 3).mapM fun index => do
    let a ← columnAt assignment.aCol index
    let b ← columnAt assignment.bCol index
    let c ← columnAt assignment.cCol index
    return decide ((a + b - c) % fieldOrder = 0)
  return products ++ sums

/-- `int(value)`. -/
def intOf : PyVal → Except PyError Int
  | .int i => .ok i
  | .bool b => .ok b.toInt
  | .decimal (.finite neg coeff exp) =>
      let n := if 0 ≤ exp then coeff * 10 ^ exp.toNat else coeff / 10 ^ (-exp).toNat
      .ok (PyInt.withSign neg n)
  | .decimal (.infinity _) => .error ⟨.overflowError, "cannot convert Infinity to integer"⟩
  | .decimal (.nan ..) => .error ⟨.valueError, "cannot convert NaN to integer"⟩
  | .str s =>
      match PyInt.readBase10 s.toList with
      | some i => .ok i
      | none => .error ⟨.valueError, "invalid literal for int() with base 10"⟩
  | value => .error ⟨.typeError, "int() argument must be a string, a bytes-like object or a " ++
      "real number, not '" ++ value.typeName ++ "'"⟩

/-- `_derive_fee_components`. -/
def deriveFeeComponents (privateInputs : List (String × PyVal)) :
    Except PyError (Int × Int × Int × Int) := do
  let request ← ImportCalculationRequest.modelValidate std (.dict privateInputs)
  let response ← calculateImportLandedCost std request
  let fixed (d : PyDecimal) := toFixedPoint (String.ofList d.text)
  return (← fixed response.result.dutyAmount, ← fixed response.result.section301Amount,
    ← fixed response.result.mpfAmount, ← fixed response.result.hmfAmount)

/-- `generate_assignment`. -/
def generateAssignment (witness : Witness std) : Except PyError PlonkAssignment := do
  let customsValueFp ← toFixedPoint (textOf (← getItem witness.privateInputs "customs_value"))
  let freightFp ← toFixedPoint (textOf (← getItem witness.privateInputs "freight"))
  let insuranceFp ← toFixedPoint (textOf (← getItem witness.privateInputs "insurance"))
  let quantityFp := (← intOf (← getItem witness.privateInputs "quantity")) % fieldOrder
  let landedCostFp ← toFixedPoint (← getItem witness.publicInputs "landed_cost")
  let extendedValueFp := customsValueFp * quantityFp % fieldOrder
  let (dutyAmountFp, s301AmountFp, mpfAmountFp, hmfAmountFp) ←
    deriveFeeComponents std witness.privateInputs
  let oneFp := 1
  let feePartialFp := (dutyAmountFp + s301AmountFp) % fieldOrder
  let mpfHmfSumFp := (mpfAmountFp + hmfAmountFp) % fieldOrder
  let feeFullFp := (feePartialFp + mpfHmfSumFp) % fieldOrder
  let baseSumFp := (extendedValueFp + freightFp + insuranceFp) % fieldOrder
  return {
    aCol := [customsValueFp, dutyAmountFp, s301AmountFp, mpfAmountFp, hmfAmountFp, dutyAmountFp,
      feePartialFp, baseSumFp]
    bCol := [quantityFp, oneFp, oneFp, oneFp, oneFp, s301AmountFp, mpfHmfSumFp, feeFullFp]
    cCol := [extendedValueFp, dutyAmountFp, s301AmountFp, mpfAmountFp, hmfAmountFp, feePartialFp,
      feeFullFp, landedCostFp]
    wireMap := [("customs_value_fp", customsValueFp), ("quantity_fp", quantityFp),
      ("extended_value_fp", extendedValueFp), ("one_fp", oneFp), ("duty_amount_fp", dutyAmountFp),
      ("s301_amount_fp", s301AmountFp), ("mpf_amount_fp", mpfAmountFp),
      ("hmf_amount_fp", hmfAmountFp), ("fee_partial_fp", feePartialFp),
      ("mpf_hmf_sum_fp", mpfHmfSumFp), ("fee_full_fp", feeFullFp), ("base_sum_fp", baseSumFp),
      ("landed_cost_fp", landedCostFp), ("freight_fp", freightFp), ("insurance_fp", insuranceFp)]
    publicInputsHash := ← canonicalPublicInputsHash std witness.publicInputs }

end Vrl.Zk
