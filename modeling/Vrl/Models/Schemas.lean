import Vrl.Lib.Pydantic
import Vrl.Security.Guards
import Vrl.Utils.Decimal

/-!
# Vrl.Models.Schemas

Requests and responses of the landed-cost engine (`models/schemas.py`).

A request is only built by `ImportCalculationRequest.modelValidate`, and carries what
its validation has established: positive or non-negative amounts of two decimals, and
a quantity in its range.
-/

open Pydantic

namespace Vrl

variable (std : PyStd)

/-! ### The fields of a request -/

/-- The modes of shipping. -/
inductive ShippingMode where
  | ocean
  | air
  | truck
  deriving DecidableEq, Repr

/-- The text of a mode. -/
def ShippingMode.text : ShippingMode → String
  | .ocean => "ocean"
  | .air => "air"
  | .truck => "truck"

/-- `gt=Decimal("0")`. -/
def isPositive (d : PyDecimal) : Bool := decide (PyDecimal.lt (.ofInt 0) d = .ok true)

/-- `ge=Decimal("0")`. -/
def isNonNegative (d : PyDecimal) : Bool := decide (PyDecimal.lt d (.ofInt 0) = .ok false)

/-- The amounts that pass a check. -/
def Amount (check : PyDecimal → Bool) : Type := { d : PyDecimal // IsMoney d ∧ check d = true }

instance (check : PyDecimal → Bool) : DecidableEq (Amount check) :=
  inferInstanceAs (DecidableEq { d : PyDecimal // IsMoney d ∧ check d = true })

/-- `ge=1, le=1_000_000`. -/
def Quantity : Type := { i : Int // 1 ≤ i ∧ i ≤ 1000000 }

instance : DecidableEq Quantity := inferInstanceAs (DecidableEq { i : Int // 1 ≤ i ∧ i ≤ 1000000 })

/-- `ImportCalculationRequest`. -/
structure ImportCalculationRequest where
  hsCode : String
  countryOfOrigin : String
  customsValue : Amount isPositive
  freight : Amount isNonNegative
  insurance : Amount isNonNegative
  quantity : Quantity
  shippingMode : ShippingMode
  deriving DecidableEq

/-! ### Validation -/

/-- `str(value)`, or a text that no field takes where the value is a collection. -/
def textOf (value : PyVal) : String := value.scalarText.getD "["

/-- `normalize_hs_code`, and the pattern `^\d{10}$`. Digits that are not decimal, which
`isdigit` lets pass, do not match the pattern. -/
def hsCodeField (value : PyVal) : Except PyError String :=
  let text := strip (textOf value).toList
  if text = [] ∨ text.all isDecimalDigit = false then
    .error ⟨.valueError, "HS code must contain exactly 10 digits"⟩
  else if text.length = 10 then .ok (String.ofList text)
  else invalid "String should match pattern '^\\d\x7b10\x7d$'"

/-- `normalize_country`, and the pattern `^[A-Z]{2}$`. -/
def countryField (value : PyVal) : Except PyError String :=
  let text := std.upper (String.ofList (strip (textOf value).toList))
  if text.toList.length = 2 ∧ text.toList.all Char.isUpper then .ok text
  else invalid "String should match pattern '^[A-Z]\x7b2\x7d$'"

/-- `normalize_shipping_mode`, and the literals. -/
def shippingModeField (value : PyVal) : Except PyError ShippingMode :=
  let text := std.lower (String.ofList (strip (textOf value).toList))
  if text = "ocean" then .ok .ocean
  else if text = "air" then .ok .air
  else if text = "truck" then .ok .truck
  else invalid "Input should be 'ocean', 'air' or 'truck'"

/-- `normalize_money`, and the bound of the field. -/
def amountField (check : PyDecimal → Bool) (refusal : String) (value : PyVal) :
    Except PyError (Amount check) :=
  match h : money value with
  | .error e => .error e
  | .ok d =>
      if hfin : d.IsFinite then
        if hcheck : check d = true then .ok ⟨d, isMoney_of_money h hfin, hcheck⟩
        else invalid refusal
      else invalid "Input should be a finite number"

/-- `customs_value`. -/
def customsValueField : PyVal → Except PyError (Amount isPositive) :=
  amountField isPositive "Input should be greater than 0"

/-- `freight` and `insurance`. -/
def chargeField : PyVal → Except PyError (Amount isNonNegative) :=
  amountField isNonNegative "Input should be greater than or equal to 0"

/-- `quantity`. -/
def quantityField (value : PyVal) : Except PyError Quantity := do
  let i ← intField std value
  if h : 1 ≤ i ∧ i ≤ 1000000 then return ⟨i, h⟩
  else if i < 1 then invalid "Input should be greater than or equal to 1"
  else invalid "Input should be less than or equal to 1000000"

/-- The names of the fields. -/
def ImportCalculationRequest.fields : List String :=
  ["hs_code", "country_of_origin", "customs_value", "freight", "insurance", "quantity",
    "shipping_mode"]

/-- `guard_payload`: a `ValueError` of a model validator ends the validation. -/
def guardPayload (members : List (String × PyVal)) : Except PyError Unit :=
  match enforcePayloadGuards std members with
  | .ok () => .ok ()
  | .error e => if isCollected e then invalid e.message else .error e

/-- `ImportCalculationRequest.model_validate`. -/
def ImportCalculationRequest.modelValidate (payload : PyVal) :
    Except PyError ImportCalculationRequest :=
  match payload with
  | .dict members => do
      guardPayload std members
      let hsCode := field members "hs_code" hsCodeField
      let countryOfOrigin := field members "country_of_origin" (countryField std)
      let customsValue := field members "customs_value" customsValueField
      let freight := field members "freight" chargeField
      let insurance := field members "insurance" chargeField
      let quantity := field members "quantity" (quantityField std)
      let shippingMode := field members "shipping_mode" (shippingModeField std)
      collect ([("hs_code", errorOf hsCode), ("country_of_origin", errorOf countryOfOrigin),
        ("customs_value", errorOf customsValue), ("freight", errorOf freight),
        ("insurance", errorOf insurance), ("quantity", errorOf quantity),
        ("shipping_mode", errorOf shippingMode)] ++ extraErrors members fields)
      return {
        hsCode := ← hsCode
        countryOfOrigin := ← countryOfOrigin
        customsValue := ← customsValue
        freight := ← freight
        insurance := ← insurance
        quantity := ← quantity
        shippingMode := ← shippingMode }
  | _ => invalid "Input should be a valid dictionary or instance of ImportCalculationRequest"

/-- `model_dump(mode="python")`. -/
def ImportCalculationRequest.payload (r : ImportCalculationRequest) : List (String × PyVal) :=
  [("hs_code", .str r.hsCode), ("country_of_origin", .str r.countryOfOrigin),
    ("customs_value", .decimal r.customsValue.1), ("freight", .decimal r.freight.1),
    ("insurance", .decimal r.insurance.1), ("quantity", .int r.quantity.1),
    ("shipping_mode", .str r.shippingMode.text)]

/-! ### Responses -/

@[simp] theorem floatFree_ofStrings (texts : List String) : floatFree (ofStrings texts) = true := by
  rw [ofStrings, floatFree, floatFreeItems_iff]
  intro v hv
  obtain ⟨s, -, rfl⟩ := List.mem_map.mp hv
  rfl

@[simp] theorem floatFree_ofStringDict (members : List (String × String)) :
    floatFree (ofStringDict members) = true := by
  rw [ofStringDict, floatFree, floatFreeMembers_iff]
  intro m hm
  obtain ⟨m', -, rfl⟩ := List.mem_map.mp hm
  rfl

@[simp] theorem hasLongInt_ofStrings (texts : List String) : hasLongInt (ofStrings texts) = false := by
  rw [ofStrings, hasLongInt, hasLongIntItems_eq_any, List.any_eq_false]
  intro v hv
  obtain ⟨s, -, rfl⟩ := List.mem_map.mp hv
  exact Bool.false_ne_true

@[simp] theorem hasLongInt_ofStringDict (members : List (String × String)) :
    hasLongInt (ofStringDict members) = false := by
  rw [ofStringDict, hasLongInt, hasLongIntMembers_eq_any, List.any_eq_false]
  intro m hm
  obtain ⟨m', -, rfl⟩ := List.mem_map.mp hm
  exact Bool.false_ne_true

/-- `TraceStep`. -/
structure TraceStep where
  step : String
  ruleRef : String
  inputs : List (String × String)
  outputs : List (String × String)

/-- `model_dump` of a step. -/
def TraceStep.payload (s : TraceStep) : PyVal :=
  .dict [("step", .str s.step), ("rule_ref", .str s.ruleRef), ("inputs", ofStringDict s.inputs),
    ("outputs", ofStringDict s.outputs)]

/-- `IntegrityArtifact`. -/
structure IntegrityArtifact where
  inputHash : String
  outputHash : String
  traceHash : String
  integrityHash : String
  deriving DecidableEq

/-- `CalculationResult`. -/
structure CalculationResult where
  datasetVersion : String
  datasetHash : String
  hsCode : String
  countryOfOrigin : String
  quantity : Int
  tariffRuleRef : String
  tariffDescription : String
  unitCustomsValue : PyDecimal
  extendedCustomsValue : PyDecimal
  freight : PyDecimal
  insurance : PyDecimal
  dutyRate : PyDecimal
  section301Rate : PyDecimal
  dutyAmount : PyDecimal
  section301Amount : PyDecimal
  mpfAmount : PyDecimal
  hmfAmount : PyDecimal
  landedCost : PyDecimal

/-- `model_dump` of a result. -/
def CalculationResult.payload (r : CalculationResult) : PyVal :=
  .dict [("dataset_version", .str r.datasetVersion), ("dataset_hash", .str r.datasetHash),
    ("hs_code", .str r.hsCode), ("country_of_origin", .str r.countryOfOrigin),
    ("quantity", .int r.quantity), ("tariff_rule_ref", .str r.tariffRuleRef),
    ("tariff_description", .str r.tariffDescription),
    ("unit_customs_value", .decimal r.unitCustomsValue),
    ("extended_customs_value", .decimal r.extendedCustomsValue), ("freight", .decimal r.freight),
    ("insurance", .decimal r.insurance), ("duty_rate", .decimal r.dutyRate),
    ("section_301_rate", .decimal r.section301Rate), ("duty_amount", .decimal r.dutyAmount),
    ("section_301_amount", .decimal r.section301Amount), ("mpf_amount", .decimal r.mpfAmount),
    ("hmf_amount", .decimal r.hmfAmount), ("landed_cost", .decimal r.landedCost)]

/-- `CalculationResponse`. -/
structure CalculationResponse where
  result : CalculationResult
  trace : List TraceStep
  integrity : IntegrityArtifact

end Vrl
