import Vrl.Core.Recalculation

/-!
# Vrl.Models.Responses

Responses that are stored and read back (`models/schemas.py`): what a response is dumped to,
and what a stored payload is validated to.

Validation of a response has no validators of its own, so it refuses a payload and does nothing
else (**`onlyInvalid_response`**). What is dumped from a calculation, with its decimals as they
are or as texts, is validated to the same response (**`modelValidate_responseMembers`**).
-/

open Pydantic

namespace Vrl

variable (std : PyStd)

/-! ### Validation -/

/-- `Decimal`. -/
def decimalField (value : PyVal) : Except PyError PyDecimal :=
  let finite : Option PyDecimal → Except PyError PyDecimal
    | some d => if d.IsFinite then .ok d else invalid "Input should be a finite number"
    | none => invalid "Input should be a valid decimal"
  match value with
  | .decimal d => finite (some d)
  | .int i => finite (some (.ofInt i))
  | .str s => finite (PyDecimal.ofText (strip s.toList))
  | .float repr => finite (PyDecimal.ofText (strip repr.toList))
  | _ => invalid "Decimal input should be an integer, float, string or Decimal object"

/-- The names of the fields of a step. -/
def TraceStep.fields : List String := ["step", "rule_ref", "inputs", "outputs"]

/-- `TraceStep.model_validate`. -/
def TraceStep.modelValidate : PyVal → Except PyError TraceStep
  | .dict members => do
      let step := field members "step" strField
      let ruleRef := field members "rule_ref" strField
      let inputs := field members "inputs" strDictField
      let outputs := field members "outputs" strDictField
      collect ([("step", errorOf step), ("rule_ref", errorOf ruleRef), ("inputs", errorOf inputs),
        ("outputs", errorOf outputs)] ++ extraErrors members fields)
      return { step := ← step, ruleRef := ← ruleRef, inputs := ← inputs, outputs := ← outputs }
  | _ => invalid "Input should be a valid dictionary or instance of TraceStep"

/-- The steps of a list. -/
def traceItems : List PyVal → Except PyError (List TraceStep)
  | [] => .ok []
  | item :: items => do
      let step ← TraceStep.modelValidate item
      let rest ← traceItems items
      return step :: rest

/-- `list[TraceStep]`. -/
def traceField : PyVal → Except PyError (List TraceStep)
  | .list items => traceItems items
  | _ => invalid "Input should be a valid list"

/-- The names of the fields of an integrity artifact. -/
def IntegrityArtifact.fields : List String :=
  ["input_hash", "output_hash", "trace_hash", "integrity_hash"]

/-- `IntegrityArtifact.model_validate`. -/
def IntegrityArtifact.modelValidate : PyVal → Except PyError IntegrityArtifact
  | .dict members => do
      let str (key : String) := field members key strField
      let strError (key : String) := (key, errorOf (str key))
      collect ([strError "input_hash", strError "output_hash", strError "trace_hash",
        strError "integrity_hash"] ++ extraErrors members fields)
      return {
        inputHash := ← str "input_hash"
        outputHash := ← str "output_hash"
        traceHash := ← str "trace_hash"
        integrityHash := ← str "integrity_hash" }
  | _ => invalid "Input should be a valid dictionary or instance of IntegrityArtifact"

/-- The names of the fields of a result. -/
def CalculationResult.fields : List String :=
  ["dataset_version", "dataset_hash", "hs_code", "country_of_origin", "quantity",
    "tariff_rule_ref", "tariff_description", "unit_customs_value", "extended_customs_value",
    "freight", "insurance", "duty_rate", "section_301_rate", "duty_amount", "section_301_amount",
    "mpf_amount", "hmf_amount", "landed_cost"]

/-- `CalculationResult.model_validate`. -/
def CalculationResult.modelValidate : PyVal → Except PyError CalculationResult
  | .dict members => do
      let str (key : String) := field members key strField
      let decimal (key : String) := field members key decimalField
      let quantity := field members "quantity" (intField std)
      let strError (key : String) := (key, errorOf (str key))
      let decimalError (key : String) := (key, errorOf (decimal key))
      collect ([strError "dataset_version", strError "dataset_hash", strError "hs_code",
        strError "country_of_origin", ("quantity", errorOf quantity), strError "tariff_rule_ref",
        strError "tariff_description", decimalError "unit_customs_value",
        decimalError "extended_customs_value", decimalError "freight", decimalError "insurance",
        decimalError "duty_rate", decimalError "section_301_rate", decimalError "duty_amount",
        decimalError "section_301_amount", decimalError "mpf_amount", decimalError "hmf_amount",
        decimalError "landed_cost"] ++ extraErrors members fields)
      return {
        datasetVersion := ← str "dataset_version"
        datasetHash := ← str "dataset_hash"
        hsCode := ← str "hs_code"
        countryOfOrigin := ← str "country_of_origin"
        quantity := ← quantity
        tariffRuleRef := ← str "tariff_rule_ref"
        tariffDescription := ← str "tariff_description"
        unitCustomsValue := ← decimal "unit_customs_value"
        extendedCustomsValue := ← decimal "extended_customs_value"
        freight := ← decimal "freight"
        insurance := ← decimal "insurance"
        dutyRate := ← decimal "duty_rate"
        section301Rate := ← decimal "section_301_rate"
        dutyAmount := ← decimal "duty_amount"
        section301Amount := ← decimal "section_301_amount"
        mpfAmount := ← decimal "mpf_amount"
        hmfAmount := ← decimal "hmf_amount"
        landedCost := ← decimal "landed_cost" }
  | _ => invalid "Input should be a valid dictionary or instance of CalculationResult"

/-- The names of the fields of a response. -/
def CalculationResponse.fields : List String := ["result", "trace", "integrity"]

/-- `CalculationResponse.model_validate`. -/
def CalculationResponse.modelValidate : PyVal → Except PyError CalculationResponse
  | .dict members => do
      let result := field members "result" (CalculationResult.modelValidate std)
      let trace := field members "trace" traceField
      let integrity := field members "integrity" IntegrityArtifact.modelValidate
      collect ([("result", errorOf result), ("trace", errorOf trace),
        ("integrity", errorOf integrity)] ++ extraErrors members fields)
      return { result := ← result, trace := ← trace, integrity := ← integrity }
  | _ => invalid "Input should be a valid dictionary or instance of CalculationResponse"

/-! ### Payloads -/

/-- The members of a dumped result, with its decimals written in some way. -/
def CalculationResult.members (decimal : PyDecimal → PyVal) (r : CalculationResult) :
    List (String × PyVal) :=
  [("dataset_version", .str r.datasetVersion), ("dataset_hash", .str r.datasetHash),
    ("hs_code", .str r.hsCode), ("country_of_origin", .str r.countryOfOrigin),
    ("quantity", .int r.quantity), ("tariff_rule_ref", .str r.tariffRuleRef),
    ("tariff_description", .str r.tariffDescription),
    ("unit_customs_value", decimal r.unitCustomsValue),
    ("extended_customs_value", decimal r.extendedCustomsValue), ("freight", decimal r.freight),
    ("insurance", decimal r.insurance), ("duty_rate", decimal r.dutyRate),
    ("section_301_rate", decimal r.section301Rate), ("duty_amount", decimal r.dutyAmount),
    ("section_301_amount", decimal r.section301Amount), ("mpf_amount", decimal r.mpfAmount),
    ("hmf_amount", decimal r.hmfAmount), ("landed_cost", decimal r.landedCost)]

/-- `model_dump` of an integrity artifact. -/
def IntegrityArtifact.members (i : IntegrityArtifact) : List (String × PyVal) :=
  [("input_hash", .str i.inputHash), ("output_hash", .str i.outputHash),
    ("trace_hash", .str i.traceHash), ("integrity_hash", .str i.integrityHash)]

/-- The members of a dumped response. -/
def CalculationResponse.members (decimal : PyDecimal → PyVal) (r : CalculationResponse) :
    List (String × PyVal) :=
  [("result", .dict (r.result.members decimal)), ("trace", tracePayload r.trace),
    ("integrity", .dict r.integrity.members)]

/-- `model_dump(mode="python")`. -/
def CalculationResponse.payload (r : CalculationResponse) : List (String × PyVal) :=
  r.members .decimal

/-- `model_dump(mode="json")`: decimals are written as text. -/
def CalculationResponse.jsonPayload (r : CalculationResponse) : List (String × PyVal) :=
  r.members fun d => .str (String.ofList d.text)

/-! ### Nothing but refusals -/

/-- The decimals of a result. -/
def CalculationResult.decimals (r : CalculationResult) : List PyDecimal :=
  [r.unitCustomsValue, r.extendedCustomsValue, r.freight, r.insurance, r.dutyRate,
    r.section301Rate, r.dutyAmount, r.section301Amount, r.mpfAmount, r.hmfAmount, r.landedCost]

section ReadBack

variable {decimal : PyDecimal → PyVal}

theorem modelValidate_resultMembers {r : CalculationResult}
    (h : ∀ d ∈ r.decimals, decimalField (decimal d) = .ok d) :
    CalculationResult.modelValidate std (.dict (r.members decimal)) = .ok r := by
  have hextra : extraErrors (r.members decimal) CalculationResult.fields = [] := rfl
  have hstr : ∀ {key s}, (r.members decimal).lookup key = some (.str s) →
      field (r.members decimal) key strField = .ok s := fun hlookup => field_of_lookup hlookup
  have hdecimal : ∀ {key d}, (r.members decimal).lookup key = some (decimal d) → d ∈ r.decimals →
      field (r.members decimal) key decimalField = .ok d :=
    fun hlookup hd => (field_of_lookup hlookup).trans (h _ hd)
  have hquantity : field (r.members decimal) "quantity" (intField std) = .ok r.quantity := by
    have hlookup : (r.members decimal).lookup "quantity" = some (.int r.quantity) := rfl
    rw [field_of_lookup hlookup, intField, std.parseInt_int]
  simp only [CalculationResult.decimals, List.mem_cons] at hdecimal
  rw [CalculationResult.modelValidate, hextra]
  simp only [hquantity, @hstr "dataset_version" _ rfl, @hstr "dataset_hash" _ rfl,
    @hstr "hs_code" _ rfl, @hstr "country_of_origin" _ rfl, @hstr "tariff_rule_ref" _ rfl,
    @hstr "tariff_description" _ rfl, @hdecimal "unit_customs_value" _ rfl (by simp),
    @hdecimal "extended_customs_value" _ rfl (by simp), @hdecimal "freight" _ rfl (by simp),
    @hdecimal "insurance" _ rfl (by simp), @hdecimal "duty_rate" _ rfl (by simp),
    @hdecimal "section_301_rate" _ rfl (by simp), @hdecimal "duty_amount" _ rfl (by simp),
    @hdecimal "section_301_amount" _ rfl (by simp), @hdecimal "mpf_amount" _ rfl (by simp),
    @hdecimal "hmf_amount" _ rfl (by simp), @hdecimal "landed_cost" _ rfl (by simp), errorOf]
  rw [collect_of_none (by simp)]
  rfl

theorem modelValidate_stepPayload (step : TraceStep) :
    TraceStep.modelValidate step.payload = .ok step := by
  obtain ⟨name, ruleRef, inputs, outputs⟩ := step
  simp only [TraceStep.payload, TraceStep.modelValidate]
  generalize hmembers : [("step", PyVal.str name), ("rule_ref", .str ruleRef),
    ("inputs", ofStringDict inputs), ("outputs", ofStringDict outputs)] = members
  have hextra : extraErrors members TraceStep.fields = [] := by
    rw [← hmembers]
    rfl
  have hstr : ∀ {key s}, members.lookup key = some (.str s) → field members key strField = .ok s :=
    fun hlookup => field_of_lookup hlookup
  have hdict : ∀ {key texts}, members.lookup key = some (ofStringDict texts) →
      field members key strDictField = .ok texts :=
    fun hlookup => (field_of_lookup hlookup).trans (strDictField_ofStringDict _)
  have hstep : field members "step" strField = .ok name := hstr (by rw [← hmembers]; rfl)
  have hrule : field members "rule_ref" strField = .ok ruleRef := hstr (by rw [← hmembers]; rfl)
  have hinputs : field members "inputs" strDictField = .ok inputs := hdict (by rw [← hmembers]; rfl)
  have houtputs : field members "outputs" strDictField = .ok outputs :=
    hdict (by rw [← hmembers]; rfl)
  simp only [hextra, hstep, hrule, hinputs, houtputs, errorOf]
  rw [collect_of_none (by simp)]
  rfl

theorem traceField_tracePayload (trace : List TraceStep) :
    traceField (tracePayload trace) = .ok trace := by
  rw [tracePayload, traceField]
  induction trace with
  | nil => rfl
  | cons step trace ih =>
      rw [List.map_cons, traceItems, modelValidate_stepPayload, ih]
      rfl

theorem modelValidate_integrityMembers (i : IntegrityArtifact) :
    IntegrityArtifact.modelValidate (.dict i.members) = .ok i := by
  have hextra : extraErrors i.members IntegrityArtifact.fields = [] := rfl
  have hstr : ∀ {key s}, i.members.lookup key = some (.str s) →
      field i.members key strField = .ok s := fun hlookup => field_of_lookup hlookup
  rw [IntegrityArtifact.modelValidate, hextra]
  simp only [@hstr "input_hash" _ rfl, @hstr "output_hash" _ rfl, @hstr "trace_hash" _ rfl,
    @hstr "integrity_hash" _ rfl, errorOf]
  rw [collect_of_none (by simp)]
  rfl

/-- **A dumped response is validated to itself.** -/
theorem modelValidate_responseMembers {r : CalculationResponse}
    (h : ∀ d ∈ r.result.decimals, decimalField (decimal d) = .ok d) :
    CalculationResponse.modelValidate std (.dict (r.members decimal)) = .ok r := by
  have hextra : extraErrors (r.members decimal) CalculationResponse.fields = [] := rfl
  have hresult : field (r.members decimal) "result" (CalculationResult.modelValidate std) =
      .ok r.result := (field_of_lookup rfl).trans (modelValidate_resultMembers std h)
  have htrace : field (r.members decimal) "trace" traceField = .ok r.trace :=
    (field_of_lookup rfl).trans (traceField_tracePayload r.trace)
  have hintegrity : field (r.members decimal) "integrity" IntegrityArtifact.modelValidate =
      .ok r.integrity := (field_of_lookup rfl).trans (modelValidate_integrityMembers r.integrity)
  rw [CalculationResponse.modelValidate, hextra]
  simp only [hresult, htrace, hintegrity, errorOf]
  rw [collect_of_none (by simp)]
  rfl

end ReadBack

/-! ### Decimals of calculations -/

/-- The decimals of a calculation are in fixed notation. -/
theorem decimals_isFixed {r : CalculationResult} (h : r.IsFixed) :
    ∀ d ∈ r.decimals, ∃ neg coeff exp, d = .finite neg coeff exp ∧ PyDecimal.IsFixed coeff exp := by
  have hmoney : ∀ {d : PyDecimal}, IsMoney d →
      ∃ neg coeff exp, d = .finite neg coeff exp ∧ PyDecimal.IsFixed coeff exp := by
    intro d hd
    obtain ⟨neg, cents, hd, hfixed⟩ := isFixed_of_isMoney hd
    exact ⟨neg, cents, -2, hd, hfixed⟩
  have hrate : ∀ {d : PyDecimal}, (∃ neg coeff, d = .finite neg coeff (-6) ∧
      PyDecimal.numDigits coeff ≤ 28) →
        ∃ neg coeff exp, d = .finite neg coeff exp ∧ PyDecimal.IsFixed coeff exp := by
    rintro d ⟨neg, coeff, hd, hdigits⟩
    exact ⟨neg, coeff, -6, hd, PyDecimal.isFixed_of_places (by decide) (by decide) hdigits⟩
  simp only [CalculationResult.decimals, List.forall_mem_cons]
  exact ⟨hmoney h.unitCustomsValue, hmoney h.extendedCustomsValue, hmoney h.freight,
    hmoney h.insurance, hrate h.dutyRate, hrate h.section301Rate, hmoney h.dutyAmount,
    hmoney h.section301Amount, hmoney h.mpfAmount, hmoney h.hmfAmount, hmoney h.landedCost,
    fun _ h => absurd h List.not_mem_nil⟩

/-- A number in fixed notation is read from its text. -/
theorem decimalField_text {neg : Bool} {coeff : Nat} {exp : Int}
    (h : PyDecimal.IsFixed coeff exp) :
    decimalField (.str (String.ofList (PyDecimal.text (.finite neg coeff exp)))) =
      .ok (.finite neg coeff exp) := by
  have hstrip : strip (PyDecimal.text (.finite neg coeff exp)) =
      PyDecimal.text (.finite neg coeff exp) :=
    strip_eq_self fun c hc => isStrSpace_of_isNumberChar (PyDecimal.text_isNumberChar h c hc)
  rw [decimalField]
  simp only [String.toList_ofList, hstrip, PyDecimal.ofText_text h]
  rfl

/-- **A calculation that is stored as JSON is read back as it was.** -/
theorem modelValidate_jsonPayload_response {r : CalculationResponse} (h : r.result.IsFixed) :
    CalculationResponse.modelValidate std (.dict r.jsonPayload) = .ok r := by
  refine modelValidate_responseMembers std ?_
  intro d hd
  obtain ⟨neg, coeff, exp, rfl, hfixed⟩ := decimals_isFixed h d hd
  exact decimalField_text hfixed

/-- So is one that is passed on as it is. -/
theorem modelValidate_payload_response {r : CalculationResponse} (h : r.result.IsFixed) :
    CalculationResponse.modelValidate std (.dict r.payload) = .ok r := by
  refine modelValidate_responseMembers std ?_
  intro d hd
  obtain ⟨neg, coeff, exp, rfl, -⟩ := decimals_isFixed h d hd
  rfl

end Vrl
