import Vrl.Core.Tariffs
import Vrl.Models.Schemas

/-!
# Vrl.Core.Engine

The deterministic landed-cost engine (`core/engine.py`), the integrity artifact over
its result (`core/proof.py`), and the witness extracted from it
(`core/zk_interface.py`).

`computeAmounts` is the arithmetic: everything else of a response follows from the
request, the tariff rule and the amounts.
-/

open Pydantic

namespace Vrl

variable (std : PyStd)

/-! ### Amounts -/

/-- `MPF_RATE`. -/
def mpfRate : PyDecimal := .finite false 3464 (-6)

/-- `MPF_MIN`. -/
def mpfMin : PyDecimal := .finite false 3271 (-2)

/-- `MPF_MAX`. -/
def mpfMax : PyDecimal := .finite false 63462 (-2)

/-- `HMF_RATE`. -/
def hmfRate : PyDecimal := .finite false 1250 (-6)

example : rate (.str "0.003464") = .ok mpfRate ∧ money (.str "32.71") = .ok mpfMin ∧
    money (.str "634.62") = .ok mpfMax ∧ rate (.str "0.00125") = .ok hmfRate := by
  decide +kernel

/-- `money(a * b)`. -/
def moneyProduct (a b : PyDecimal) : Except PyError PyDecimal := do
  money (.decimal (← a.mul context b))

/-- The sum of some amounts, added up from the left. -/
def sumFrom (start : PyDecimal) (summands : List PyDecimal) : Except PyError PyDecimal :=
  summands.foldlM (fun total summand => total.add context summand) start

/-- The amounts of a calculation. -/
structure Amounts where
  extendedCustomsValue : PyDecimal
  dutyAmount : PyDecimal
  section301Amount : PyDecimal
  mpfAmount : PyDecimal
  hmfAmount : PyDecimal
  landedCost : PyDecimal
  deriving DecidableEq, Repr

/-- The amounts that `calculate_import_landed_cost` computes, in its order. -/
def computeAmounts (request : ImportCalculationRequest) (rule : TariffRule) :
    Except PyError Amounts := do
  let extendedCustomsValue ← moneyProduct request.customsValue.1 (.ofInt request.quantity.1)
  let dutyAmount ← moneyProduct extendedCustomsValue rule.dutyRate
  let section301Amount ←
    if rule.section301OriginCountries.contains request.countryOfOrigin then
      moneyProduct extendedCustomsValue rule.section301Rate
    else money (.str "0")
  let mpfAmount ← clampMoney (.decimal (← extendedCustomsValue.mul context mpfRate))
    (some (.decimal mpfMin)) (some (.decimal mpfMax))
  let hmfAmount ←
    if request.shippingMode = .ocean then moneyProduct extendedCustomsValue hmfRate
    else money (.str "0")
  let landedCost ← money (.decimal (← sumFrom extendedCustomsValue [request.freight.1,
    request.insurance.1, dutyAmount, section301Amount, mpfAmount, hmfAmount]))
  return ⟨extendedCustomsValue, dutyAmount, section301Amount, mpfAmount, hmfAmount, landedCost⟩

/-! ### The trace -/

/-- The text of a value in a trace: `_decimal_string`, or `str`. -/
def stepText : PyVal → String
  | .decimal d => String.ofList d.plainText
  | value => textOf value

/-- `_make_step`. -/
def makeStep (step ruleRef : String) (inputs outputs : List (String × PyVal)) : TraceStep :=
  ⟨step, ruleRef, inputs.map fun m => (m.1, stepText m.2), outputs.map fun m => (m.1, stepText m.2)⟩

/-- The eight steps of the trace. -/
def buildTrace (request : ImportCalculationRequest) (rule : TariffRule) (amounts : Amounts)
    (requestHash datasetHash : String) : List TraceStep :=
  let extended := ("extended_customs_value", PyVal.decimal amounts.extendedCustomsValue)
  [makeStep "canonical_input" "INPUT-CANON" request.payload
      [("input_hash", .str requestHash), ("dataset_version", .str datasetVersion),
        ("dataset_hash", .str datasetHash)],
    makeStep "tariff_lookup" rule.ruleRef
      [("hs_code", .str request.hsCode), ("country_of_origin", .str request.countryOfOrigin)]
      [("rule_ref", .str rule.ruleRef), ("description", .str rule.description),
        ("duty_rate", .decimal rule.dutyRate), ("section_301_rate", .decimal rule.section301Rate)],
    makeStep "extended_customs_value" rule.ruleRef
      [("unit_customs_value", .decimal request.customsValue.1),
        ("quantity", .int request.quantity.1)]
      [extended],
    makeStep "base_duty" rule.ruleRef [extended, ("duty_rate", .decimal rule.dutyRate)]
      [("duty_amount", .decimal amounts.dutyAmount)],
    makeStep "section_301" rule.ruleRef
      [extended, ("country_of_origin", .str request.countryOfOrigin)]
      [("section_301_amount", .decimal amounts.section301Amount)],
    makeStep "mpf" "MPF-2026"
      [extended, ("mpf_rate", .decimal mpfRate), ("minimum", .decimal mpfMin),
        ("maximum", .decimal mpfMax)]
      [("mpf_amount", .decimal amounts.mpfAmount)],
    makeStep "hmf" "HMF-2026" [extended, ("shipping_mode", .str request.shippingMode.text)]
      [("hmf_amount", .decimal amounts.hmfAmount)],
    makeStep "landed_cost" "LC-2026"
      [extended, ("freight", .decimal request.freight.1),
        ("insurance", .decimal request.insurance.1), ("duty_amount", .decimal amounts.dutyAmount),
        ("section_301_amount", .decimal amounts.section301Amount),
        ("mpf_amount", .decimal amounts.mpfAmount), ("hmf_amount", .decimal amounts.hmfAmount)]
      [("landed_cost", .decimal amounts.landedCost)]]

/-! ### The response -/

/-- The `CalculationResult` of a calculation. -/
def buildResult (request : ImportCalculationRequest) (rule : TariffRule) (amounts : Amounts)
    (datasetHash : String) : Except PyError CalculationResult := do
  return {
    datasetVersion
    datasetHash
    hsCode := request.hsCode
    countryOfOrigin := request.countryOfOrigin
    quantity := request.quantity.1
    tariffRuleRef := rule.ruleRef
    tariffDescription := rule.description
    unitCustomsValue := ← money (.decimal request.customsValue.1)
    extendedCustomsValue := amounts.extendedCustomsValue
    freight := ← money (.decimal request.freight.1)
    insurance := ← money (.decimal request.insurance.1)
    dutyRate := ← rate (.decimal rule.dutyRate)
    section301Rate := ← rate (.decimal rule.section301Rate)
    dutyAmount := amounts.dutyAmount
    section301Amount := amounts.section301Amount
    mpfAmount := amounts.mpfAmount
    hmfAmount := amounts.hmfAmount
    landedCost := amounts.landedCost }

/-- The payload of a trace. -/
def tracePayload (trace : List TraceStep) : PyVal := .list (trace.map TraceStep.payload)

theorem floatFree_tracePayload (trace : List TraceStep) :
    floatFree (tracePayload trace) = true := by
  rw [tracePayload, floatFree, floatFreeItems_iff]
  intro v hv
  obtain ⟨step, -, rfl⟩ := List.mem_map.mp hv
  simp [TraceStep.payload, floatFree, floatFreeMembers]

@[simp] theorem hasLongInt_tracePayload (trace : List TraceStep) :
    hasLongInt (tracePayload trace) = false := by
  rw [tracePayload, hasLongInt, hasLongIntItems_eq_any, List.any_eq_false]
  intro v hv
  obtain ⟨step, -, rfl⟩ := List.mem_map.mp hv
  simp [TraceStep.payload, hasLongInt, hasLongIntMembers]

/-- `build_integrity_artifact`. -/
def buildIntegrityArtifact (requestPayload resultPayload tracePayload : PyVal) :
    Except PyError IntegrityArtifact := do
  let inputHash ← canonicalHash std requestPayload
  let outputHash ← canonicalHash std resultPayload
  let traceHash ← canonicalHash std tracePayload
  let integrityHash := sha256Hex std (inputHash ++ outputHash ++ traceHash)
  return { inputHash, outputHash, traceHash, integrityHash }

/-- `calculate_import_landed_cost`. -/
def calculateImportLandedCost (request : ImportCalculationRequest) :
    Except PyError CalculationResponse := do
  let request ← ImportCalculationRequest.modelValidate std (.dict request.payload)
  let requestHash ← canonicalHash std (.dict request.payload)
  let rule ← lookupTariffRule std request.hsCode
  let amounts ← computeAmounts request rule
  let datasetHash ← datasetHash std
  let trace := buildTrace request rule amounts requestHash datasetHash
  let result ← buildResult request rule amounts datasetHash
  let integrity ← buildIntegrityArtifact std (.dict request.payload) result.payload
    (tracePayload trace)
  return { result, trace, integrity }

/-! ### The witness -/

/-- `ZKWitness`. -/
structure ZKWitness where
  publicInputs : List (String × String)
  privateInputs : List (String × PyVal)
  traceSteps : List TraceStep
  inputHash : String
  outputHash : String
  traceHash : String

/-- `extract_witness`. -/
def extractWitness (request : ImportCalculationRequest) (response : CalculationResponse) :
    ZKWitness where
  publicInputs := [("hs_code", request.hsCode), ("country_of_origin", request.countryOfOrigin),
    ("shipping_mode", request.shippingMode.text),
    ("landed_cost", String.ofList response.result.landedCost.text)]
  privateInputs := request.payload
  traceSteps := response.trace
  inputHash := response.integrity.inputHash
  outputHash := response.integrity.outputHash
  traceHash := response.integrity.traceHash

end Vrl
