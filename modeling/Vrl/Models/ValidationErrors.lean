import Vrl.Lib.DecimalRounding
import Vrl.Models.Schemas

/-!
# Vrl.Models.ValidationErrors

What the validation of a request raises (`models/schemas.py`, `utils/decimal.py`).

Of what its validators raise pydantic only makes a `ValidationError` of a `ValueError`.
`to_decimal` turns the `InvalidOperation` of a text that is no number into one, but not every
value that gets to the validators is treated like this: `canonicalize` refuses a float with a
`TypeError`, `to_decimal` does the same with whatever is neither a number nor a text, and
`quantize` raises `InvalidOperation` for infinities, signaling NaNs and numbers that are too
large for two decimals. For all other payloads validation does as it should
(**`modelValidate_total_iff`**).
-/

open Pydantic

namespace Vrl

variable (std : PyStd)

/-! ### Amounts -/

/-- The values that `quantize` takes: numbers that have at most 28 digits once they are rounded
to two decimals, and quiet NaNs. -/
def RoundsToMoney : PyDecimal → Prop
  | .finite neg coeff exp => |(PyDecimal.finite neg coeff exp).toRat| < 10 ^ 26 - 1 / 200
  | .infinity _ => False
  | .nan _ signaling _ => signaling = false

/-- The values that are an amount or are refused as one: numbers that round to an amount, and
texts, unless they are read as another number. -/
def IsAmountLike : PyVal → Prop
  | .decimal d => RoundsToMoney d
  | .int i => RoundsToMoney (.ofInt i)
  | .str s => ∀ d, PyDecimal.ofText (strip s.toList) = some d → RoundsToMoney d
  | _ => False

theorem quantize_money_iff {d : PyDecimal} :
    (∃ r, d.quantize context .halfUp (-2) = .ok r) ↔ RoundsToMoney d := by
  cases d with
  | infinity neg => exact iff_of_false nofun not_false
  | nan neg signaling payload =>
      cases signaling with
      | true => exact iff_of_false nofun nofun
      | false => exact iff_of_true ⟨_, rfl⟩ rfl
  | finite neg coeff exp =>
      rw [PyDecimal.quantize_ok_iff (by decide), RoundsToMoney]
      generalize |(PyDecimal.finite neg coeff exp).toRat| = value
      have hcents : value / (10 : Rat) ^ (-2 : Int) = value * 100 := by
        rw [zpow_neg, div_inv_eq_mul]
        norm_num
      rw [hcents, context]
      show value * 100 + 1 / 2 < 10 ^ 28 ↔ _
      constructor <;> intro h <;> linarith

theorem onlyCollected_quantize_iff {d : PyDecimal} :
    OnlyCollected (d.quantize context .halfUp (-2)) ↔ RoundsToMoney d := by
  rw [← quantize_money_iff]
  cases hresult : d.quantize context .halfUp (-2) with
  | ok r => exact iff_of_true (onlyCollected_ok r) ⟨r, rfl⟩
  | error e =>
      rw [onlyCollected_error_iff, isCollected, PyDecimal.kind_of_quantize hresult]
      exact iff_of_false (by decide) (Except.not_exists_error_eq_ok e)

/-- `money` raises a `ValueError` or nothing exactly for what is like an amount. -/
theorem onlyCollected_money_iff {value : PyVal} :
    OnlyCollected (money value) ↔ IsAmountLike value := by
  cases value with
  | decimal d => exact onlyCollected_quantize_iff
  | int i => exact onlyCollected_quantize_iff (d := .ofInt i)
  | str s =>
      rw [money, toDecimal, IsAmountLike]
      by_cases hempty : strip s.toList = []
      · simp only [hempty, if_true, Except.error_bind]
        exact iff_of_true (onlyCollected_error_iff.mpr rfl) nofun
      · simp only [hempty, if_false]
        cases PyDecimal.ofText (strip s.toList) with
        | none => exact iff_of_true (onlyCollected_error_iff.mpr rfl) nofun
        | some d => simp [onlyCollected_quantize_iff]
  | none | bool b | float repr | uuid u | list items | dict members =>
      exact iff_of_false (fun h => Bool.false_ne_true (onlyCollected_error_iff.mp h)) not_false

theorem onlyCollected_amountField_iff {check : PyDecimal → Bool} {refusal : String}
    {value : PyVal} :
    OnlyCollected (amountField check refusal value) ↔ IsAmountLike value := by
  rw [← onlyCollected_money_iff, amountField]
  split
  · next e herror => rw [herror, onlyCollected_error_iff, onlyCollected_error_iff]
  · next d hok =>
      refine iff_of_true ?_ (by rw [hok]; exact onlyCollected_ok d)
      split_ifs
      · exact onlyCollected_ok _
      · exact (onlyInvalid_invalid _).onlyCollected
      · exact (onlyInvalid_invalid _).onlyCollected

/-! ### The other fields -/

theorem onlyCollected_hsCodeField (value : PyVal) : OnlyCollected (hsCodeField value) := by
  simp only [hsCodeField]
  split_ifs
  · exact onlyCollected_error_iff.mpr rfl
  · exact onlyCollected_ok _
  · exact (onlyInvalid_invalid _).onlyCollected

theorem onlyInvalid_countryField (value : PyVal) : OnlyInvalid (countryField std value) := by
  simp only [countryField]
  split_ifs
  · exact onlyInvalid_ok _
  · exact onlyInvalid_invalid _

theorem onlyInvalid_shippingModeField (value : PyVal) :
    OnlyInvalid (shippingModeField std value) := by
  simp only [shippingModeField]
  split_ifs
  · exact onlyInvalid_ok _
  · exact onlyInvalid_ok _
  · exact onlyInvalid_ok _
  · exact onlyInvalid_invalid _

theorem onlyInvalid_quantityField (value : PyVal) : OnlyInvalid (quantityField std value) := by
  refine (onlyInvalid_intField std value).bind fun i => ?_
  refine OnlyInvalid.dite (fun hrange => onlyInvalid_ok _) fun hrange => ?_
  split_ifs
  · exact onlyInvalid_invalid _
  · exact onlyInvalid_invalid _

/-! ### The request -/

/-- What validation promises: a request, whose amounts have two decimals, or a
`ValidationError`. -/
def ReturnsOrRefuses (result : Except PyError ImportCalculationRequest) : Prop :=
  (∃ r, result = .ok r ∧ IsMoney r.customsValue.1 ∧ IsMoney r.freight.1 ∧ IsMoney r.insurance.1) ∨
    ∃ e, result = .error e ∧ e.kind = .validationError

theorem returnsOrRefuses_iff {result : Except PyError ImportCalculationRequest} :
    ReturnsOrRefuses result ↔ OnlyInvalid result := by
  cases result with
  | ok r =>
      refine iff_of_true (.inl ⟨r, rfl, ?_⟩) (onlyInvalid_ok r)
      exact ⟨r.customsValue.2.1, r.freight.2.1, r.insurance.2.1⟩
  | error e => simp [ReturnsOrRefuses, OnlyInvalid]

/-- The fields of amounts. -/
def amountFields : List String := ["customs_value", "freight", "insurance"]

/-- The payloads that are judged: everything but a dictionary, and a dictionary without floats that
the guards refuse, or whose amounts, where they are given, are like amounts. -/
def IsJudged : PyVal → Prop
  | .dict members =>
      floatFreeMembers members = true ∧
        ((∃ e, enforcePayloadGuards std members = .error e) ∨
          ∀ key ∈ amountFields, ∀ value, members.lookup key = some value → IsAmountLike value)
  | _ => True

/-- The errors of all fields are collected exactly if those of the amounts are. -/
theorem collected_fields_iff (members : List (String × PyVal)) :
    (∀ result ∈ [("hs_code", errorOf (field members "hs_code" hsCodeField)),
        ("country_of_origin", errorOf (field members "country_of_origin" (countryField std))),
        ("customs_value", errorOf (field members "customs_value" customsValueField)),
        ("freight", errorOf (field members "freight" chargeField)),
        ("insurance", errorOf (field members "insurance" chargeField)),
        ("quantity", errorOf (field members "quantity" (quantityField std))),
        ("shipping_mode", errorOf (field members "shipping_mode" (shippingModeField std)))] ++
          extraErrors members ImportCalculationRequest.fields,
      ∀ e, result.2 = some e → isCollected e = true) ↔
      ∀ key ∈ amountFields, ∀ value, members.lookup key = some value → IsAmountLike value := by
  have hcode : OnlyCollected (field members "hs_code" hsCodeField) :=
    onlyCollected_field_iff.mpr fun value _ => onlyCollected_hsCodeField value
  have hcountry : OnlyCollected (field members "country_of_origin" (countryField std)) :=
    (onlyInvalid_field (onlyInvalid_countryField std)).onlyCollected
  have hquantity : OnlyCollected (field members "quantity" (quantityField std)) :=
    (onlyInvalid_field (onlyInvalid_quantityField std)).onlyCollected
  have hmode : OnlyCollected (field members "shipping_mode" (shippingModeField std)) :=
    (onlyInvalid_field (onlyInvalid_shippingModeField std)).onlyCollected
  have hextra : ∀ result ∈ extraErrors members ImportCalculationRequest.fields,
      ∀ e, result.2 = some e → isCollected e = true := by
    intro result hresult e he
    rw [isCollected, refuses_extraErrors members _ result hresult e he]
    rfl
  have hvalue : OnlyCollected (field members "customs_value" customsValueField) ↔
      ∀ value, members.lookup "customs_value" = some value → IsAmountLike value :=
    onlyCollected_field_iff.trans (by simp only [customsValueField, onlyCollected_amountField_iff])
  have hcharge : ∀ key, OnlyCollected (field members key chargeField) ↔
      ∀ value, members.lookup key = some value → IsAmountLike value := fun key =>
    onlyCollected_field_iff.trans (by simp only [chargeField, onlyCollected_amountField_iff])
  simp only [List.forall_mem_append, List.forall_mem_cons, ← onlyCollected_iff_errorOf,
    amountFields]
  rw [hvalue, hcharge "freight", hcharge "insurance"]
  constructor
  · rintro ⟨⟨_, _, hcustoms, hfreight, hinsurance, _⟩, _⟩
    exact ⟨hcustoms, hfreight, hinsurance, List.forall_mem_nil _⟩
  · rintro ⟨hcustoms, hfreight, hinsurance, _⟩
    exact ⟨⟨hcode, hcountry, hcustoms, hfreight, hinsurance, hquantity, hmode,
      List.forall_mem_nil _⟩, hextra⟩

/-- Behind the guards it depends on the fields of amounts. -/
theorem onlyInvalid_modelValidate_iff {members : List (String × PyVal)}
    (hguards : enforcePayloadGuards std members = .ok ()) :
    OnlyInvalid (ImportCalculationRequest.modelValidate std (.dict members)) ↔
      ∀ key ∈ amountFields, ∀ value, members.lookup key = some value → IsAmountLike value := by
  rw [← collected_fields_iff std members, ← onlyInvalid_collect_iff,
    ImportCalculationRequest.modelValidate, guardPayload, hguards, Except.ok_bind]
  constructor
  · exact fun h => h.of_bind
  · intro h e he
    rcases Except.bind_eq_error_iff.mp he with hreported | ⟨done, hnone, hrest⟩
    · exact h e hreported
    · -- with nothing to report all fields have a value
      have hvalues := collect_eq_ok_iff.mp hnone
      simp only [List.forall_mem_append, List.forall_mem_cons, errorOf_eq_none_iff] at hvalues
      obtain ⟨⟨⟨_, h1⟩, ⟨_, h2⟩, ⟨_, h3⟩, ⟨_, h4⟩, ⟨_, h5⟩, ⟨_, h6⟩, ⟨_, h7⟩, -⟩, -⟩ := hvalues
      rw [h1, h2, h3, h4, h5, h6, h7] at hrest
      cases hrest

/-- **Validation returns a request or raises a `ValidationError` exactly for the payloads that are
judged.** -/
theorem modelValidate_total_iff (payload : PyVal) :
    ReturnsOrRefuses (ImportCalculationRequest.modelValidate std payload) ↔
      IsJudged std payload := by
  rw [returnsOrRefuses_iff]
  cases payload with
  | dict members =>
      rw [IsJudged]
      cases hfree : floatFreeMembers members with
      | false =>
          obtain ⟨e, hguards, hkind⟩ := enforcePayloadGuards_of_float std hfree
          refine iff_of_false (fun h => ?_) fun h => Bool.false_ne_true h.1
          have hraised := h.of_bind e (by simp [guardPayload, hguards, isCollected, hkind])
          rw [hkind] at hraised
          cases hraised
      | true =>
          cases hguards : enforcePayloadGuards std members with
          | error e =>
              refine iff_of_true ?_ ⟨rfl, .inl ⟨e, rfl⟩⟩
              have hkind := kind_of_enforcePayloadGuards std hfree hguards
              rw [ImportCalculationRequest.modelValidate, guardPayload, hguards]
              simp only [isCollected, hkind, decide_true, Bool.true_or, if_true]
              exact onlyInvalid_invalid _
          | ok =>
              rw [onlyInvalid_modelValidate_iff std hguards]
              exact ⟨fun h => ⟨rfl, .inr h⟩, fun h => h.2.resolve_left nofun⟩
  | _ => exact iff_of_true (onlyInvalid_invalid _) trivial

/-- A customs value that `Decimal` reads, and `quantize` does not take. -/
def infiniteRequest : List (String × PyVal) :=
  [("hs_code", .str "8471300000"), ("country_of_origin", .str "CN"),
    ("customs_value", .str "Infinity"), ("freight", .str "0"), ("insurance", .str "0"),
    ("quantity", .int 1), ("shipping_mode", .str "ocean")]

/-- **Validation is not total**: `InvalidOperation` escapes for a customs value of `Infinity`. -/
theorem infinite_customs_value_raises :
    ¬ ∀ payload, ReturnsOrRefuses (ImportCalculationRequest.modelValidate lengthStd payload) := by
  intro h
  have hguards : enforcePayloadGuards lengthStd infiniteRequest = .ok () := by decide +kernel
  have hall := (onlyInvalid_modelValidate_iff lengthStd hguards).mp
    (returnsOrRefuses_iff.mp (h (.dict infiniteRequest)))
  exact hall "customs_value" (by decide) _ rfl (.infinity false) (by decide +kernel)

end Vrl
