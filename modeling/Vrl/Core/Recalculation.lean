import Vrl.Core.Engine
import Vrl.Models.Revalidation

/-!
# Vrl.Core.Recalculation

What a calculation is, and that it can be repeated.

A request that has been validated and whose code the tariffs know is validated to itself
(**`isCanonical_of_lookup`**), so the engine computes on the request that it is given
(**`calculate_eq_ok_iff`**). It returns a response exactly when the tariffs know the code and
the arithmetic stays in its range: hashing never fails.
-/

open Pydantic TextCodec

namespace Vrl

variable (std : PyStd)

/-! ### Requests that the tariffs know -/

theorem countryField_inv {value : PyVal} {country : String}
    (h : countryField std value = .ok country) :
    country.toList.length = 2 ∧ country.toList.all Char.isUpper = true := by
  unfold countryField at h
  by_cases hcountry : (std.upper (String.ofList (strip (textOf value).toList))).toList.length = 2 ∧
      (std.upper (String.ofList (strip (textOf value).toList))).toList.all Char.isUpper = true
  · simp only [if_pos hcountry] at h
    cases h
    exact hcountry
  · simp only [if_neg hcountry] at h
    cases h

theorem hsCodeField_inv {value : PyVal} {code : String} (h : hsCodeField value = .ok code) :
    code.toList = strip (textOf value).toList ∧ code.toList.length = 10 := by
  simp only [hsCodeField] at h
  split at h
  · cases h
  · split at h
    · next hlength =>
        cases h
        rw [String.toList_ofList]
        exact ⟨rfl, hlength⟩
    · cases h

/-- Code and country of a validated request have been read from its members. -/
theorem modelValidate_inv {members : List (String × PyVal)} {r : ImportCalculationRequest}
    (h : ImportCalculationRequest.modelValidate std (.dict members) = .ok r) :
    field members "hs_code" hsCodeField = .ok r.hsCode ∧
      field members "country_of_origin" (countryField std) = .ok r.countryOfOrigin := by
  simp only [ImportCalculationRequest.modelValidate, Except.bind_eq_ok_iff] at h
  obtain ⟨_, -, _, -, code, hcode, country, hcountry, h⟩ := h
  obtain ⟨_, -, _, -, _, -, _, -, _, -, h⟩ := h
  cases h
  exact ⟨hcode, hcountry⟩

theorem field_inv {α : Type} {members : List (String × PyVal)} {key : String}
    {validate : PyVal → Except PyError α} {a : α} (h : field members key validate = .ok a) :
    ∃ value, members.lookup key = some value ∧ validate value = .ok a := by
  rw [field] at h
  split at h
  · next hlookup => exact ⟨_, hlookup, h⟩
  · cases h

/-- The code of a validated request has ten characters, its country two capitals. -/
theorem texts_of_modelValidate {payload : PyVal} {r : ImportCalculationRequest}
    (h : ImportCalculationRequest.modelValidate std payload = .ok r) :
    r.hsCode.toList.length = 10 ∧ r.countryOfOrigin.toList.length = 2 ∧
      r.countryOfOrigin.toList.all Char.isUpper = true := by
  cases payload with
  | dict members =>
      obtain ⟨hcode, hcountry⟩ := modelValidate_inv std h
      obtain ⟨_, -, hcode⟩ := field_inv hcode
      obtain ⟨_, -, hcountry⟩ := field_inv hcountry
      exact ⟨(hsCodeField_inv hcode).2, countryField_inv std hcountry⟩
  | _ => cases h

/-- **A validated request that the tariffs know is canonical.** -/
theorem isCanonical_of_lookup {payload : PyVal} {r : ImportCalculationRequest}
    (hvalid : ImportCalculationRequest.modelValidate std payload = .ok r) {rule : TariffRule}
    (hrule : tariffRules.find? (fun rule => r.hsCode == rule.hsPrefix) = some rule) :
    r.IsCanonical := by
  obtain ⟨-, hlength, hcapitals⟩ := texts_of_modelValidate std hvalid
  have hcode : r.hsCode = rule.hsPrefix := by simpa using List.find?_some hrule
  have hknown : ∀ known ∈ tariffRules, known.hsPrefix.toList.length = 10 ∧
      ∀ c ∈ known.hsPrefix.toList, isDecimal c = true := by
    decide +kernel
  obtain ⟨hcodeLength, hdigits⟩ := hknown rule (List.mem_of_find?_eq_some hrule)
  rw [← hcode] at hcodeLength hdigits
  exact ⟨hcodeLength, hdigits, hlength, hcapitals⟩

/-! ### Calculations -/

/-- The response is the calculation of the request. -/
inductive IsCalculation (r : ImportCalculationRequest) : CalculationResponse → Prop where
  | intro {rule : TariffRule} {amounts : Amounts} {requestHash dataset : String}
      {result : CalculationResult} {integrity : IntegrityArtifact}
      (hrule : tariffRules.find? (fun rule => r.hsCode == rule.hsPrefix) = some rule)
      (hamounts : computeAmounts r rule = .ok amounts)
      (hrequest : canonicalHash std (.dict r.payload) = .ok requestHash)
      (hdataset : datasetHash std = .ok dataset)
      (hresult : buildResult r rule amounts dataset = .ok result)
      (hintegrity : buildIntegrityArtifact std (.dict r.payload) result.payload
        (tracePayload (buildTrace r rule amounts requestHash dataset)) = .ok integrity) :
      IsCalculation r ⟨result, buildTrace r rule amounts requestHash dataset, integrity⟩

variable {std}

/-- **The engine returns the calculation of a canonical request.** -/
theorem calculate_eq_ok_iff {r : ImportCalculationRequest} (h : r.IsCanonical)
    {response : CalculationResponse} :
    calculateImportLandedCost std r = .ok response ↔ IsCalculation std r response := by
  rw [calculateImportLandedCost, modelValidate_payload std h, Except.ok_bind]
  simp only [Except.bind_eq_ok_iff, lookupTariffRule_eq_ok]
  constructor
  · rintro ⟨requestHash, hrequest, rule, hrule, amounts, hamounts, dataset, hdataset, result,
      hresult, integrity, hintegrity, hresponse⟩
    cases hresponse
    exact .intro hrule hamounts hrequest hdataset hresult hintegrity
  · rintro ⟨hrule, hamounts, hrequest, hdataset, hresult, hintegrity⟩
    exact ⟨_, hrequest, _, hrule, _, hamounts, _, hdataset, _, hresult, _, hintegrity, rfl⟩

theorem strip_sublist (cs : List Char) : (strip cs).Sublist cs := by
  have hright := (List.dropWhile_sublist isStrSpace (l := (cs.dropWhile isStrSpace).reverse)).reverse
  rw [List.reverse_reverse] at hright
  exact hright.trans (List.dropWhile_sublist isStrSpace)

/-- A validated request that the engine answers is canonical. -/
theorem isCanonical_of_calculate {payload : PyVal} {r : ImportCalculationRequest}
    (hvalid : ImportCalculationRequest.modelValidate std payload = .ok r)
    {response : CalculationResponse} (h : calculateImportLandedCost std r = .ok response) :
    r.IsCanonical := by
  obtain ⟨r', hvalid', h⟩ := Except.bind_eq_ok_iff.mp h
  obtain ⟨_, -, h⟩ := Except.bind_eq_ok_iff.mp h
  obtain ⟨rule, hrule, -⟩ := Except.bind_eq_ok_iff.mp h
  rw [lookupTariffRule_eq_ok] at hrule
  -- the engine looks up the code that validating again gives, which is the same
  have hcode : r'.hsCode = r.hsCode := by
    obtain ⟨hfield, -⟩ := modelValidate_inv std hvalid'
    obtain ⟨value, hlookup, hfield⟩ := field_inv hfield
    cases hlookup
    obtain ⟨hstrip, hlength'⟩ := hsCodeField_inv hfield
    have hlength := (texts_of_modelValidate std hvalid).1
    have heq : strip r.hsCode.toList = r.hsCode.toList := by
      refine (strip_sublist _).eq_of_length ?_
      rw [hlength, ← hlength', hstrip]
      rfl
    rw [← String.toList_inj, hstrip]
    exact heq
  rw [hcode] at hrule
  exact isCanonical_of_lookup std hvalid hrule

/-! ### Amounts -/

/-- The amounts of a calculation are amounts of money. -/
structure Amounts.AreMoney (amounts : Amounts) : Prop where
  extendedCustomsValue : IsMoney amounts.extendedCustomsValue
  dutyAmount : IsMoney amounts.dutyAmount
  section301Amount : IsMoney amounts.section301Amount
  mpfAmount : IsMoney amounts.mpfAmount
  hmfAmount : IsMoney amounts.hmfAmount
  landedCost : IsMoney amounts.landedCost

theorem isFinite_of_isMoney {d : PyDecimal} (h : IsMoney d) : d.IsFinite := by
  obtain ⟨neg, cents, rfl, -⟩ := h
  trivial

/-- Money made of a number is an amount. -/
theorem isMoney_of_isFinite {d m : PyDecimal} (hd : d.IsFinite) (h : money (.decimal d) = .ok m) :
    IsMoney m :=
  isMoney_of_money h (PyDecimal.quantize_isFinite hd h)

theorem isMoney_moneyProduct {a b m : PyDecimal} (ha : a.IsFinite) (hb : b.IsFinite)
    (h : moneyProduct a b = .ok m) : IsMoney m := by
  obtain ⟨product, hproduct, h⟩ := Except.bind_eq_ok_iff.mp h
  exact isMoney_of_isFinite (PyDecimal.mul_isFinite ha hb hproduct) h

theorem isMoney_zero {m : PyDecimal} (h : money (.str "0") = .ok m) : IsMoney m := by
  have hzero : money (.str "0") = .ok (.finite false 0 (-2)) := by decide +kernel
  rw [hzero] at h
  cases h
  exact ⟨false, 0, rfl, by decide⟩

theorem isFinite_sumFrom {start total : PyDecimal} {summands : List PyDecimal}
    (hstart : start.IsFinite) (hsummands : ∀ d ∈ summands, d.IsFinite)
    (h : sumFrom start summands = .ok total) : total.IsFinite := by
  induction summands generalizing start with
  | nil =>
      cases h
      exact hstart
  | cons d summands ih =>
      rw [List.forall_mem_cons] at hsummands
      obtain ⟨sum, hsum, h⟩ := Except.bind_eq_ok_iff.mp h
      exact ih (PyDecimal.add_isFinite hstart hsummands.1 hsum) hsummands.2 h

/-- An amount that is clamped between the limits of the fee. -/
theorem isMoney_clampMoney {d m : PyDecimal} (hd : d.IsFinite)
    (h : clampMoney (.decimal d) (some (.decimal mpfMin)) (some (.decimal mpfMax)) = .ok m) :
    IsMoney m := by
  have hlimit : ∀ {limit l : PyDecimal}, IsMoney limit → money (.decimal limit) = .ok l →
      IsMoney l := fun hlimit hl => isMoney_of_isFinite (isFinite_of_isMoney hlimit) hl
  have hmin : IsMoney mpfMin := ⟨false, 3271, rfl, by decide⟩
  have hmax : IsMoney mpfMax := ⟨false, 63462, rfl, by decide⟩
  simp only [clampMoney, Except.bind_eq_ok_iff] at h
  obtain ⟨amount, hamount, minimum, hminimum, isLess, -, h⟩ := h
  split at h
  · cases h
    exact hlimit hmin hminimum
  · simp only [Except.bind_eq_ok_iff] at h
    obtain ⟨maximum, hmaximum, isMore, -, h⟩ := h
    split at h
    · cases h
      exact hlimit hmax hmaximum
    · cases h
      exact isMoney_of_isFinite hd hamount

theorem isFinite_rates {rule : TariffRule} (h : rule ∈ tariffRules) :
    rule.dutyRate.IsFinite ∧ rule.section301Rate.IsFinite := by
  revert rule
  decide

/-- **All amounts of a calculation are amounts of money.** -/
theorem areMoney_of_computeAmounts {r : ImportCalculationRequest} {rule : TariffRule}
    (hrule : rule ∈ tariffRules) {amounts : Amounts} (h : computeAmounts r rule = .ok amounts) :
    amounts.AreMoney := by
  obtain ⟨hdutyRate, h301Rate⟩ := isFinite_rates hrule
  obtain ⟨extended, hextended, h⟩ := Except.bind_eq_ok_iff.mp h
  obtain ⟨duty, hduty, h⟩ := Except.bind_eq_ok_iff.mp h
  obtain ⟨s301, hs301, h⟩ := Except.ite_bind_eq_ok h
  obtain ⟨mpfRaw, hmpfRaw, h⟩ := Except.bind_eq_ok_iff.mp h
  obtain ⟨mpf, hmpf, h⟩ := Except.bind_eq_ok_iff.mp h
  obtain ⟨hmf, hhmf, h⟩ := Except.ite_bind_eq_ok h
  obtain ⟨sum, hsum, h⟩ := Except.bind_eq_ok_iff.mp h
  obtain ⟨landed, hlanded, h⟩ := Except.bind_eq_ok_iff.mp h
  cases h
  have hquantity : (PyDecimal.ofInt r.quantity.1).IsFinite := trivial
  have hmpfRate : mpfRate.IsFinite := trivial
  have hhmfRate : hmfRate.IsFinite := trivial
  have hvalue := isFinite_of_isMoney r.customsValue.2.1
  have hextendedMoney : IsMoney extended := isMoney_moneyProduct hvalue hquantity hextended
  have hextendedFinite := isFinite_of_isMoney hextendedMoney
  have hdutyMoney : IsMoney duty := isMoney_moneyProduct hextendedFinite hdutyRate hduty
  have hs301Money : IsMoney s301 := by
    split at hs301
    · exact isMoney_moneyProduct hextendedFinite h301Rate hs301
    · exact isMoney_zero hs301
  have hmpfMoney : IsMoney mpf :=
    isMoney_clampMoney (PyDecimal.mul_isFinite hextendedFinite hmpfRate hmpfRaw) hmpf
  have hhmfMoney : IsMoney hmf := by
    split at hhmf
    · exact isMoney_moneyProduct hextendedFinite hhmfRate hhmf
    · exact isMoney_zero hhmf
  have hsumFinite : sum.IsFinite := by
    refine isFinite_sumFrom hextendedFinite ?_ hsum
    simp only [List.forall_mem_cons, List.not_mem_nil, IsEmpty.forall_iff, implies_true, and_true]
    exact ⟨isFinite_of_isMoney r.freight.2.1, isFinite_of_isMoney r.insurance.2.1,
      isFinite_of_isMoney hdutyMoney, isFinite_of_isMoney hs301Money,
      isFinite_of_isMoney hmpfMoney, isFinite_of_isMoney hhmfMoney⟩
  exact ⟨hextendedMoney, hdutyMoney, hs301Money, hmpfMoney, hhmfMoney,
    isMoney_of_isFinite hsumFinite hlanded⟩

/-- The decimals of a result are written in fixed notation: amounts with two places, rates
with six. -/
structure CalculationResult.IsFixed (result : CalculationResult) : Prop where
  unitCustomsValue : IsMoney result.unitCustomsValue
  extendedCustomsValue : IsMoney result.extendedCustomsValue
  freight : IsMoney result.freight
  insurance : IsMoney result.insurance
  dutyRate : ∃ neg coeff, result.dutyRate = .finite neg coeff (-6) ∧
    PyDecimal.numDigits coeff ≤ 28
  section301Rate : ∃ neg coeff, result.section301Rate = .finite neg coeff (-6) ∧
    PyDecimal.numDigits coeff ≤ 28
  dutyAmount : IsMoney result.dutyAmount
  section301Amount : IsMoney result.section301Amount
  mpfAmount : IsMoney result.mpfAmount
  hmfAmount : IsMoney result.hmfAmount
  landedCost : IsMoney result.landedCost

theorem rate_places {d m : PyDecimal} (hd : d.IsFinite) (h : rate (.decimal d) = .ok m) :
    ∃ neg coeff, m = .finite neg coeff (-6) ∧ PyDecimal.numDigits coeff ≤ 28 :=
  PyDecimal.quantize_finite h (PyDecimal.quantize_isFinite hd h) (by decide)

theorem isFixed_of_calculation {r : ImportCalculationRequest} {response : CalculationResponse}
    (h : IsCalculation std r response) : response.result.IsFixed := by
  obtain ⟨hrule, hamounts, -, -, hresult, -⟩ := h
  have hmem := List.mem_of_find?_eq_some hrule
  have hmoney := areMoney_of_computeAmounts hmem hamounts
  obtain ⟨hdutyRate, h301Rate⟩ := isFinite_rates hmem
  simp only [buildResult, Except.bind_eq_ok_iff] at hresult
  obtain ⟨unit, hunit, freight, hfreight, insurance, hinsurance, dutyRate, hduty, s301Rate, h301,
    hresult⟩ := hresult
  cases hresult
  rw [money_of_isMoney r.customsValue.2.1] at hunit
  rw [money_of_isMoney r.freight.2.1] at hfreight
  rw [money_of_isMoney r.insurance.2.1] at hinsurance
  cases hunit
  cases hfreight
  cases hinsurance
  exact ⟨r.customsValue.2.1, hmoney.extendedCustomsValue, r.freight.2.1, r.insurance.2.1,
    rate_places hdutyRate hduty, rate_places h301Rate h301, hmoney.dutyAmount,
    hmoney.section301Amount, hmoney.mpfAmount, hmoney.hmfAmount, hmoney.landedCost⟩

/-! ### Calculations that succeed -/

theorem rate_ok_of_mem {rule : TariffRule} (h : rule ∈ tariffRules) :
    (∃ d, rate (.decimal rule.dutyRate) = .ok d) ∧
      ∃ d, rate (.decimal rule.section301Rate) = .ok d := by
  have hrates : ∀ known ∈ tariffRules, (rate (.decimal known.dutyRate)).isOk = true ∧
      (rate (.decimal known.section301Rate)).isOk = true := by
    decide +kernel
  have hok : ∀ {x : Except PyError PyDecimal}, x.isOk = true → ∃ d, x = .ok d := by
    intro x hx
    cases x with
    | error e => cases hx
    | ok d => exact ⟨d, rfl⟩
  exact ⟨hok (hrates rule h).1, hok (hrates rule h).2⟩

theorem buildResult_ok (r : ImportCalculationRequest) {rule : TariffRule} (hrule : rule ∈ tariffRules)
    (amounts : Amounts) (dataset : String) :
    ∃ result, buildResult r rule amounts dataset = .ok result := by
  obtain ⟨⟨dutyRate, hduty⟩, section301Rate, h301⟩ := rate_ok_of_mem hrule
  rw [buildResult, money_of_isMoney r.customsValue.2.1, money_of_isMoney r.freight.2.1,
    money_of_isMoney r.insurance.2.1, hduty, h301]
  exact ⟨_, rfl⟩

theorem floatFree_payload (r : ImportCalculationRequest) : floatFree (.dict r.payload) = true := rfl

theorem buildIntegrityArtifact_ok {request result trace : PyVal} (hrequest : floatFree request = true)
    (hresult : floatFree result = true) (htrace : floatFree trace = true) :
    ∃ integrity, buildIntegrityArtifact std request result trace = .ok integrity := by
  obtain ⟨inputHash, hinput⟩ := canonicalHash_ok std hrequest
  obtain ⟨outputHash, houtput⟩ := canonicalHash_ok std hresult
  obtain ⟨traceHash, htrace⟩ := canonicalHash_ok std htrace
  exact ⟨_, by rw [buildIntegrityArtifact, hinput, houtput, htrace]; rfl⟩

/-- **The engine answers when the tariffs know the code and the arithmetic succeeds.** -/
theorem calculate_ok {r : ImportCalculationRequest} (h : r.IsCanonical) {rule : TariffRule}
    (hrule : tariffRules.find? (fun rule => r.hsCode == rule.hsPrefix) = some rule)
    {amounts : Amounts} (hamounts : computeAmounts r rule = .ok amounts) :
    ∃ response dataset, calculateImportLandedCost std r = .ok response ∧
      buildResult r rule amounts dataset = .ok response.result := by
  obtain ⟨requestHash, hrequest⟩ := canonicalHash_ok std (floatFree_payload r)
  obtain ⟨dataset, hdataset⟩ := datasetHash_ok std
  obtain ⟨result, hresult⟩ := buildResult_ok r (List.mem_of_find?_eq_some hrule) amounts dataset
  have hfree : floatFree result.payload = true := rfl
  obtain ⟨integrity, hintegrity⟩ : ∃ integrity, buildIntegrityArtifact std (.dict r.payload)
      result.payload (tracePayload (buildTrace r rule amounts requestHash dataset)) =
        .ok integrity :=
    buildIntegrityArtifact_ok (floatFree_payload r) hfree (floatFree_tracePayload _)
  exact ⟨_, dataset, (calculate_eq_ok_iff h).mpr
    (.intro hrule hamounts hrequest hdataset hresult hintegrity), hresult⟩

/-! ### The hashes of a calculation -/

variable (std) in
/-- The hashes of a response are those of the request, the result and the trace. -/
structure HashesOf (r : ImportCalculationRequest) (response : CalculationResponse) : Prop where
  input : canonicalHash std (.dict r.payload) = .ok response.integrity.inputHash
  output : canonicalHash std response.result.payload = .ok response.integrity.outputHash
  trace : canonicalHash std (tracePayload response.trace) = .ok response.integrity.traceHash
  integrity : response.integrity.integrityHash = sha256Hex std (response.integrity.inputHash ++
    response.integrity.outputHash ++ response.integrity.traceHash)

theorem hashesOf_calculation {r : ImportCalculationRequest} {response : CalculationResponse}
    (h : IsCalculation std r response) : HashesOf std r response := by
  obtain ⟨-, -, -, -, -, hintegrity⟩ := h
  obtain ⟨inputHash, hinput, hintegrity⟩ := Except.bind_eq_ok_iff.mp hintegrity
  obtain ⟨outputHash, houtput, hintegrity⟩ := Except.bind_eq_ok_iff.mp hintegrity
  obtain ⟨traceHash, htrace, hintegrity⟩ := Except.bind_eq_ok_iff.mp hintegrity
  cases hintegrity
  exact ⟨hinput, houtput, htrace, rfl⟩

/-! ### A calculation -/

/-- Two lithium-ion accumulators by sea. -/
def referenceRequest (countryOfOrigin : String) : ImportCalculationRequest where
  hsCode := "8507600000"
  countryOfOrigin := countryOfOrigin
  customsValue := ⟨.finite false 120000 (-2), ⟨false, 120000, rfl, by decide⟩, by decide⟩
  freight := ⟨.finite false 15000 (-2), ⟨false, 15000, rfl, by decide⟩, by decide⟩
  insurance := ⟨.finite false 2500 (-2), ⟨false, 2500, rfl, by decide⟩, by decide⟩
  quantity := ⟨2, by decide⟩
  shippingMode := .ocean

/-- From China they cost 3292.31, with the additional duty, and 2692.31 from Germany. -/
theorem calculate_reference {country : String} {cents : Nat}
    (h : (country, cents) ∈ [("CN", 329231), ("DE", 269231)]) :
    (referenceRequest country).IsCanonical ∧
      ∃ response, calculateImportLandedCost std (referenceRequest country) = .ok response ∧
        response.result.landedCost = .finite false cents (-2) := by
  obtain ⟨rule, hrule⟩ : ∃ rule, tariffRules.find? (fun rule => "8507600000" == rule.hsPrefix) =
      some rule := ⟨_, rfl⟩
  have hfacts : (referenceRequest country).IsCanonical ∧
      ∃ amounts, computeAmounts (referenceRequest country) rule = .ok amounts ∧
        amounts.landedCost = .finite false cents (-2) := by
    cases hrule
    simp only [List.mem_cons, Prod.mk.injEq, List.not_mem_nil, or_false] at h
    rcases h with ⟨rfl, rfl⟩ | ⟨rfl, rfl⟩
    · exact ⟨⟨by decide, by decide, by decide, by decide⟩,
        ⟨.finite false 240000 (-2), .finite false 8160 (-2), .finite false 60000 (-2),
          .finite false 3271 (-2), .finite false 300 (-2), .finite false 329231 (-2)⟩,
        by decide +kernel, rfl⟩
    · exact ⟨⟨by decide, by decide, by decide, by decide⟩,
        ⟨.finite false 240000 (-2), .finite false 8160 (-2), .finite false 0 (-2),
          .finite false 3271 (-2), .finite false 300 (-2), .finite false 269231 (-2)⟩,
        by decide +kernel, rfl⟩
  obtain ⟨hcanonical, amounts, hamounts, hlanded⟩ := hfacts
  obtain ⟨response, dataset, hresponse, hresult⟩ := @calculate_ok std _ hcanonical _ hrule _ hamounts
  simp only [buildResult, Except.bind_eq_ok_iff] at hresult
  obtain ⟨_, -, _, -, _, -, _, -, _, -, hresult⟩ := hresult
  have hsame : response.result.landedCost = amounts.landedCost := by
    rw [← Except.ok.inj hresult]
  exact ⟨hcanonical, response, hresponse, hsame.trans hlanded⟩

end Vrl
